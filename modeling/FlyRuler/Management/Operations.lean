import FlyRuler.Lib.Threads
import FlyRuler.Pb

/-!
# Persistence operations

The `OperationManager` of `core/src/management/server.rs` with the requests of
`core/src/management/routes.rs` that go through it.  A request is a thread.  A save or a load calls
`begin` and, in a task of its own, `update` with `Running`, does its work, and calls `update` with
the outcome; a clear calls `run_when_idle`.  The places are the points between two atomic steps:
taking or releasing the coordination mutex, a step on the busy flag, and what is done under the
mutex of the records.

* `update_owned`, `evictOldest_owned`: the newest record is found, and never evicted.
* `Serial`: what the flag, the mutex and the records say about the requests.
* `serial_run`: it holds of every interleaving.
* `operations_serialized`: what follows for the operations.
-/

namespace FlyRuler.Management

open FlyRuler.Pb FlyRuler.Lib.Threads

/-! ## Records -/

inductive OperationState where
  | queued
  | running
  | succeeded
  | failed
  deriving DecidableEq

/-- The states that `update` clears the busy flag for. -/
@[simp] def OperationState.isTerminal : OperationState → Bool
  | .succeeded | .failed => true
  | .queued | .running => false

structure OperationRecord where
  id : String
  kind : String
  session : String
  state : OperationState
  createdAtSecs : F64
  updatedAtSecs : F64
  error : Option String
  deriving DecidableEq

structure ApiError where
  status : ℕ
  code : String
  message : String
  deriving DecidableEq

def ApiError.conflict (code message : String) : ApiError := ⟨409, code, message⟩

def MAX_OPERATIONS : ℕ := 128

/-- The record of a new operation. -/
def OperationRecord.new (id kind session : String) (now : F64) : OperationRecord :=
  { id, kind, session, state := .queued, createdAtSecs := now, updatedAtSecs := now, error := none }

/-- `while records.len() > MAX_OPERATIONS { records.pop_front() }`. -/
def evictOldest : List OperationRecord → List OperationRecord
  | [] => []
  | record :: records =>
    if MAX_OPERATIONS < (record :: records).length then evictOldest records else record :: records

/-- What `update` does to the records; `none` if the record is not there. -/
def updateRecords (id : String) (state : OperationState) (error : Option String) (now : F64) :
    List OperationRecord → Option (List OperationRecord)
  | [] => none
  | record :: records =>
    if record.id = id then some ({ record with state, error, updatedAtSecs := now } :: records)
    else (updateRecords id state error now records).map (record :: ·)

/-! ## The manager and its requests -/

/-- The manager: the busy flag, whether the coordination mutex is held, and the records, oldest
first.  `drawn` numbers the identifiers drawn so far. -/
structure OperationManager where
  active : Bool := false
  coordination : Bool := false
  records : List OperationRecord := []
  drawn : ℕ := 0
  deriving DecidableEq

inductive OperationRequest where
  | sessionSave (name : String)
  | sessionLoad (name : String)
  | memoryClear
  deriving DecidableEq

/-- Where a request is. -/
inductive RequestTask where
  -- `begin`, before the mutex, the flag, the records, and the release of the mutex
  | beginning (kind session : String)
  | swapping (kind session : String)
  | queueing (kind session : String)
  | returning (id : String)
  -- the task of the operation: before its first update, at work, before its last one
  | begun (id : String)
  | running (id : String)
  | settling (id : String) (outcome : Except String Unit)
  -- the rest of that update, before the mutex, the flag, and the release of the mutex
  | clearing (id : String)
  | releasing (id : String)
  | unlocking (id : String)
  | finished (id : String)
  -- an update that did not find its record
  | lost (id : String)
  -- `run_when_idle`, before the mutex and the flag; the action runs; before the mutex is released
  | idling
  | checking
  | acting
  | leaving
  | acted
  -- the flag was set: before the release of the mutex, and after it
  | refusing (error : ApiError)
  | refused (error : ApiError)
  deriving DecidableEq

/-- What a step may take from outside: the clock, and how the work of an operation ends. -/
structure Outside where
  now : F64
  outcome : Except String Unit

def OperationRequest.start : OperationRequest → RequestTask
  | .sessionSave name => .beginning "save" name
  | .sessionLoad name => .beginning "load" name
  | .memoryClear => .idling

/-- What the last update of an operation sets. -/
def terminal : Except String Unit → OperationState × Option String
  | .ok () => (.succeeded, none)
  | .error error => (.failed, some error)

namespace OperationManager

/-- What `begin` does under the mutex of the records. -/
def queue (manager : OperationManager) (id kind session : String) (now : F64) : OperationManager :=
  { manager with
    records := evictOldest (manager.records ++ [.new id kind session now])
    drawn := manager.drawn + 1 }

/-- What `update` does under the mutex of the records; `none` if it returns early. -/
def update (manager : OperationManager) (id : String) (state : OperationState)
    (error : Option String) (now : F64) : Option OperationManager :=
  (updateRecords id state error now manager.records).map fun records => { manager with records }

/-- Take the coordination mutex. -/
def lock (manager : OperationManager) (task : RequestTask) :
    Option (OperationManager × RequestTask) :=
  if manager.coordination then none else some ({ manager with coordination := true }, task)

def unlock (manager : OperationManager) : OperationManager := { manager with coordination := false }

/-- One atomic step of a request; `none` while it waits for the mutex.  `uuid` are the identifiers
that `begin` draws. -/
def advance (uuid : ℕ → String) (outside : Outside) (manager : OperationManager) :
    RequestTask → Option (OperationManager × RequestTask)
  | .beginning kind session => manager.lock (.swapping kind session)
  | .swapping kind session =>
    if manager.active then
      some (manager, .refusing
        (.conflict "operation_busy" "another persistence operation is already running"))
    else some ({ manager with active := true }, .queueing kind session)
  | .queueing kind session =>
    some (manager.queue (uuid manager.drawn) kind session outside.now,
      .returning (uuid manager.drawn))
  | .returning id => some (manager.unlock, .begun id)
  -- the task goes on when its first update returns early
  | .begun id => some ((manager.update id .running none outside.now).getD manager, .running id)
  | .running id => some (manager, .settling id outside.outcome)
  | .settling id outcome =>
    match manager.update id (terminal outcome).1 (terminal outcome).2 outside.now with
    | none => some (manager, .lost id)
    | some manager => some (manager, .clearing id)
  | .clearing id => manager.lock (.releasing id)
  | .releasing id => some ({ manager with active := false }, .unlocking id)
  | .unlocking id => some (manager.unlock, .finished id)
  | .idling => manager.lock .checking
  | .checking =>
    if manager.active then
      some (manager, .refusing (.conflict "operation_busy" "a persistence operation is running"))
    else some (manager, .acting)
  | .acting => some (manager, .leaving)
  | .leaving => some (manager.unlock, .acted)
  | .refusing error => some (manager.unlock, .refused error)
  | .finished _ | .lost _ | .acted | .refused _ => none

end OperationManager

/-- The requests to one manager. -/
def operationMachine (uuid : ℕ → String) :
    Machine OperationManager RequestTask OperationRequest Outside where
  start := OperationRequest.start
  advance := OperationManager.advance uuid

/-! ## Places -/

namespace RequestTask

/-- The request holds the coordination mutex. -/
@[simp] def holdsCoordination : RequestTask → Bool
  | .swapping .. | .queueing .. | .returning _ | .releasing _ | .unlocking _ | .checking | .acting
  | .leaving | .refusing _ => true
  | _ => false

/-- The request has set the busy flag and not cleared it again. -/
@[simp] def inProgress : RequestTask → Bool
  | .queueing .. | .returning _ | .begun _ | .running _ | .settling .. | .clearing _
  | .releasing _ | .lost _ => true
  | _ => false

/-- The operation of the request, from its record on and before its terminal update. -/
@[simp] def operation : RequestTask → Option String
  | .returning id | .begun id | .running id | .settling id _ => some id
  | _ => none

def hasBegun (task : RequestTask) : Bool := task.operation.isSome

theorem inProgress_of_hasBegun (task : RequestTask) (h : task.hasBegun = true) :
    task.inProgress = true := by
  cases task <;> first | rfl | exact nomatch h

theorem hasBegun_of_operation {task : RequestTask} {id : String} (h : task.operation = some id) :
    task.hasBegun = true := by
  unfold hasBegun
  rw [h]
  rfl

end RequestTask

/-! ## The newest record -/

/-- The record of the operation in progress: the newest, not terminal, and the only one with its
identifier; the others are terminal. -/
def Owned (id : String) (records : List OperationRecord) : Prop :=
  ∃ older record, records = older ++ [record] ∧ record.id = id ∧ record.state.isTerminal = false ∧
    ∀ old ∈ older, old.id ≠ id ∧ old.state.isTerminal = true

/-- **The newest record is never evicted.** -/
theorem evictOldest_concat (older : List OperationRecord) (record : OperationRecord) :
    ∃ kept, kept <:+ older ∧ evictOldest (older ++ [record]) = kept ++ [record] := by
  induction older with
  | nil => exact ⟨[], List.suffix_refl [], rfl⟩
  | cons old older ih =>
    obtain ⟨kept, hsuffix, hkept⟩ := ih
    rw [List.cons_append]
    unfold evictOldest
    split_ifs
    · exact ⟨kept, hsuffix.trans (List.suffix_cons old older), hkept⟩
    · exact ⟨old :: older, List.suffix_refl _, rfl⟩

/-- **The newest record is found.** -/
theorem updateRecords_concat {id : String} (state : OperationState) (error : Option String)
    (now : F64) {older : List OperationRecord} {record : OperationRecord} (hid : record.id = id)
    (holder : ∀ old ∈ older, old.id ≠ id) :
    updateRecords id state error now (older ++ [record]) =
      some (older ++ [{ record with state, error, updatedAtSecs := now }]) := by
  induction older with
  | nil =>
    show (if record.id = id then _ else _) = _
    rw [if_pos hid]
    rfl
  | cons old older ih =>
    obtain ⟨hold, holder⟩ := List.forall_mem_cons.mp holder
    show (if old.id = id then _ else _) = _
    rw [List.append_eq, if_neg hold, ih holder]
    rfl

theorem Owned.unique {id id' : String} {records : List OperationRecord} (h : Owned id records)
    (h' : Owned id' records) : id = id' := by
  obtain ⟨older, record, hrecords, rfl, -⟩ := h
  obtain ⟨older', record', hrecords', rfl, -⟩ := h'
  rw [hrecords] at hrecords'
  obtain ⟨-, hrecord⟩ := List.append_inj' hrecords' rfl
  rw [List.cons.inj hrecord |>.1]

/-- Queueing a record with a new identifier, when all others are terminal. -/
theorem evictOldest_owned {id : String} {records : List OperationRecord}
    (hterminal : ∀ old ∈ records, old.id ≠ id ∧ old.state.isTerminal = true)
    (kind session : String) (now : F64) :
    Owned id (evictOldest (records ++ [.new id kind session now])) := by
  obtain ⟨kept, hsuffix, hkept⟩ := evictOldest_concat records (.new id kind session now)
  exact ⟨kept, _, hkept, rfl, rfl, fun old hold => hterminal old (hsuffix.subset hold)⟩

/-- **An update of the operation in progress finds its record.** -/
theorem update_owned {id : String} {manager : OperationManager} (h : Owned id manager.records)
    (state : OperationState) (error : Option String) (now : F64) :
    ∃ records, manager.update id state error now = some { manager with records } ∧
      (∀ record ∈ records, ∃ old ∈ manager.records, record.id = old.id) ∧
      (state.isTerminal = false → Owned id records) ∧
      (state.isTerminal = true → ∀ record ∈ records, record.state.isTerminal = true) := by
  obtain ⟨older, record, hrecords, hid, -, holder⟩ := h
  refine ⟨older ++ [{ record with state, error, updatedAtSecs := now }], ?_, ?_, ?_, ?_⟩
  · unfold OperationManager.update
    rw [hrecords, updateRecords_concat state error now hid fun old hold => (holder old hold).1]
    rfl
  · intro new hnew
    rw [hrecords]
    rcases List.mem_append.mp hnew with hold | hnew
    · exact ⟨new, List.mem_append_left _ hold, rfl⟩
    · rw [List.mem_singleton.mp hnew]
      exact ⟨record, List.mem_append_right older (List.mem_singleton.mpr rfl), rfl⟩
  · exact fun hstate => ⟨older, _, rfl, hid, hstate, holder⟩
  · intro hstate new hnew
    rcases List.mem_append.mp hnew with hold | hnew
    · exact (holder new hold).2
    · rw [List.mem_singleton.mp hnew]
      exact hstate

/-! ## One step -/

section Step

variable {uuid : ℕ → String} {outside : Outside} {manager manager' : OperationManager}
  {task task' : RequestTask}

theorem update_flags {id : String} {state : OperationState} {error : Option String} {now : F64}
    (h : manager.update id state error now = some manager') :
    manager'.active = manager.active ∧ manager'.coordination = manager.coordination := by
  unfold OperationManager.update at h
  obtain ⟨records, -, rfl⟩ := Option.map_eq_some_iff.mp h
  exact ⟨rfl, rfl⟩

theorem update_drawn {id : String} {state : OperationState} {error : Option String} {now : F64}
    (h : manager.update id state error now = some manager') : manager'.drawn = manager.drawn := by
  unfold OperationManager.update at h
  obtain ⟨records, -, rfl⟩ := Option.map_eq_some_iff.mp h
  rfl

/-- **The balance of a step** for the busy flag and the mutex. -/
theorem advance_balance_operation
    (hadvance : OperationManager.advance uuid outside manager task = some (manager', task'))
    (hactive : task.inProgress = true → manager.active = true)
    (hcoordination : task.holdsCoordination = true → manager.coordination = true) :
    manager'.active.toNat + task.inProgress.toNat =
        manager.active.toNat + task'.inProgress.toNat ∧
      manager'.coordination.toNat + task.holdsCoordination.toNat =
        manager.coordination.toNat + task'.holdsCoordination.toNat := by
  cases task <;> simp only [OperationManager.advance, OperationManager.lock] at hadvance
  case beginning | clearing | idling =>
    split_ifs at hadvance with hwait
    obtain ⟨rfl, rfl⟩ := hadvance
    simp [hwait]
  case swapping | checking =>
    split_ifs at hadvance with hbusy <;> obtain ⟨rfl, rfl⟩ := hadvance <;> simp [hbusy]
  case begun id =>
    obtain ⟨rfl, rfl⟩ := hadvance
    rcases hupdate : manager.update id .running none outside.now with _ | next
    · simp
    · obtain ⟨hflag, hmutex⟩ := update_flags hupdate
      simp [hflag, hmutex]
  case settling id outcome =>
    split at hadvance
    · obtain ⟨rfl, rfl⟩ := hadvance
      simp
    · next hupdate =>
        obtain ⟨rfl, rfl⟩ := hadvance
        obtain ⟨hflag, hmutex⟩ := update_flags hupdate
        simp [hflag, hmutex]
  case queueing | running | acting =>
    obtain ⟨rfl, rfl⟩ := hadvance
    simp [OperationManager.queue]
  case returning | releasing | unlocking | leaving | refusing =>
    obtain ⟨rfl, rfl⟩ := hadvance
    simp_all [OperationManager.unlock]
  all_goals exact nomatch hadvance

/-- A clear that reaches its action finds the flag cleared, and only `begin` sets the flag. -/
theorem advance_active
    (hadvance : OperationManager.advance uuid outside manager task = some (manager', task')) :
    (task' = .acting → manager'.active = false) ∧
      (manager'.active = true → manager.active = true ∨
        ∃ kind session, task = .swapping kind session) := by
  cases task <;> simp only [OperationManager.advance, OperationManager.lock] at hadvance
  case beginning | clearing | idling =>
    split_ifs at hadvance
    obtain ⟨rfl, rfl⟩ := hadvance
    exact ⟨fun h => (nomatch h), fun h => .inl h⟩
  case swapping kind session =>
    split_ifs at hadvance <;> obtain ⟨rfl, rfl⟩ := hadvance <;>
      exact ⟨fun h => (nomatch h), fun _ => .inr ⟨kind, session, rfl⟩⟩
  case checking =>
    split_ifs at hadvance with hbusy <;> obtain ⟨rfl, rfl⟩ := hadvance
    · exact ⟨fun h => (nomatch h), fun h => .inl h⟩
    · exact ⟨fun _ => by simpa using hbusy, fun h => .inl h⟩
  case begun id =>
    obtain ⟨rfl, rfl⟩ := hadvance
    refine ⟨fun h => (nomatch h), fun h => .inl ?_⟩
    rcases hupdate : manager.update id .running none outside.now with _ | next
    · rwa [hupdate] at h
    · rw [hupdate] at h
      exact (update_flags hupdate).1 ▸ h
  case settling id outcome =>
    split at hadvance
    · obtain ⟨rfl, rfl⟩ := hadvance
      exact ⟨fun h => (nomatch h), fun h => .inl h⟩
    · next hupdate =>
        obtain ⟨rfl, rfl⟩ := hadvance
        exact ⟨fun h => (nomatch h), fun h => .inl ((update_flags hupdate).1 ▸ h)⟩
  case releasing =>
    obtain ⟨rfl, rfl⟩ := hadvance
    exact ⟨fun h => (nomatch h), fun h => (nomatch h)⟩
  case queueing | running | acting | returning | unlocking | leaving | refusing =>
    obtain ⟨rfl, rfl⟩ := hadvance
    exact ⟨fun h => (nomatch h), fun h => .inl h⟩
  all_goals exact nomatch hadvance

/-- The three steps that touch the records; the others leave the operation of the request. -/
theorem advance_records
    (hadvance : OperationManager.advance uuid outside manager task = some (manager', task')) :
    (∃ kind session, task = .queueing kind session ∧ task' = .returning (uuid manager.drawn) ∧
      manager' = manager.queue (uuid manager.drawn) kind session outside.now) ∨
    (∃ id, task = .begun id ∧ task' = .running id ∧
      manager' = (manager.update id .running none outside.now).getD manager) ∨
    (∃ id outcome, task = .settling id outcome ∧
      (manager', task') =
        match manager.update id (terminal outcome).1 (terminal outcome).2 outside.now with
        | none => (manager, .lost id)
        | some manager => (manager, .clearing id)) ∨
    (manager'.records = manager.records ∧ manager'.drawn = manager.drawn ∧
      task'.operation = task.operation ∧ ∀ id, task' ≠ .lost id) := by
  cases task <;> simp only [OperationManager.advance, OperationManager.lock] at hadvance
  case queueing kind session =>
    obtain ⟨rfl, rfl⟩ := hadvance
    exact .inl ⟨kind, session, rfl, rfl, rfl⟩
  case begun id =>
    obtain ⟨rfl, rfl⟩ := hadvance
    exact .inr (.inl ⟨id, rfl, rfl, rfl⟩)
  case settling id outcome =>
    refine .inr (.inr (.inl ⟨id, outcome, rfl, ?_⟩))
    split at hadvance <;> exact (Option.some.inj hadvance).symm
  case beginning | clearing | idling | swapping | checking =>
    split_ifs at hadvance <;> obtain ⟨rfl, rfl⟩ := hadvance <;>
      exact .inr (.inr (.inr ⟨rfl, rfl, rfl, fun id h => (nomatch h)⟩))
  case running | acting | returning | releasing | unlocking | leaving | refusing =>
    obtain ⟨rfl, rfl⟩ := hadvance
    exact .inr (.inr (.inr ⟨rfl, rfl, rfl, fun id h => (nomatch h)⟩))
  all_goals exact nomatch hadvance

theorem advance_drawn
    (hadvance : OperationManager.advance uuid outside manager task = some (manager', task')) :
    manager.drawn ≤ manager'.drawn := by
  rcases advance_records hadvance with ⟨kind, session, -, -, rfl⟩ | ⟨id, -, -, rfl⟩ |
    ⟨id, outcome, -, hresult⟩ | ⟨-, hdrawn, -⟩
  · exact Nat.le_succ manager.drawn
  · rcases hupdate : manager.update id .running none outside.now with _ | next
    · exact le_refl _
    · exact (update_drawn hupdate).ge
  · split at hresult
    · rw [(Prod.mk.inj hresult).1]
    · next hupdate =>
        rw [(Prod.mk.inj hresult).1]
        exact (update_drawn hupdate).ge
  · exact hdrawn.ge

end Step

/-! ## What the flag and the mutex say about the requests -/

/-- **The busy flag and the coordination mutex** each stand for one request, and the action of a
clear runs while the flag is cleared. -/
structure Busy (p : Pool OperationManager RequestTask) : Prop where
  active : p.threads.countP RequestTask.inProgress = p.shared.active.toNat
  coordination : p.threads.countP RequestTask.holdsCoordination = p.shared.coordination.toNat
  acting : RequestTask.acting ∈ p.threads → p.shared.active = false

theorem busy_call (uuid : ℕ → String) {p : Pool OperationManager RequestTask} (h : Busy p)
    (request : OperationRequest) : Busy ((operationMachine uuid).next p (.call request)) := by
  have hplaces : request.start.inProgress = false ∧ request.start.holdsCoordination = false ∧
      RequestTask.acting ≠ request.start := by
    rcases request with _ | _ | _ <;> exact ⟨rfl, rfl, fun h => nomatch h⟩
  obtain ⟨hprogress, hholds, hacting⟩ := hplaces
  refine ⟨?_, ?_, ?_⟩ <;> unfold Machine.next <;> dsimp only [operationMachine]
  · rw [countP_concat, hprogress]
    exact h.active
  · rw [countP_concat, hholds]
    exact h.coordination
  · intro hmem
    rcases List.mem_append.mp hmem with hmem | hmem
    · exact h.acting hmem
    · exact absurd (List.mem_singleton.mp hmem) hacting

theorem busy_step {uuid : ℕ → String} {outside : Outside} {p : Pool OperationManager RequestTask}
    (h : Busy p) {i : ℕ} {task task' : RequestTask} {manager' : OperationManager}
    (htask : p.threads[i]? = some task)
    (hadvance : OperationManager.advance uuid outside p.shared task = some (manager', task')) :
    Busy ⟨manager', p.threads.set i task'⟩ := by
  obtain ⟨hflag, hmutex⟩ := advance_balance_operation hadvance
    (true_of_countP h.active htask) (true_of_countP h.coordination htask)
  obtain ⟨hreaches, hsets⟩ := advance_active hadvance
  have hprogressSet := countP_set_add RequestTask.inProgress htask task'
  have hholdsSet := countP_set_add RequestTask.holdsCoordination htask task'
  have hactive := h.active
  have hcoordination := h.coordination
  refine ⟨?_, ?_, ?_⟩ <;> dsimp only
  · omega
  · omega
  · intro hmem
    rcases List.mem_or_eq_of_mem_set hmem with hacting | hacting
    · rcases hflag' : manager'.active with _ | _
      · rfl
      · rcases hsets hflag' with hold | ⟨kind, session, rfl⟩
        · rw [h.acting hacting] at hold
          exact nomatch hold
        · -- the action and the exchange of the flag would both hold the mutex
          have hle : p.threads.countP RequestTask.holdsCoordination ≤ 1 := by
            rw [h.coordination]
            exact Bool.toNat_le _
          exact nomatch eq_of_countP_le_one hle hacting rfl (List.mem_of_getElem? htask) rfl
    · exact hreaches hacting.symm

/-! ## What the records say about the requests -/

/-- The identifiers drawn so far are different. -/
def Distinct (uuid : ℕ → String) (drawn : ℕ) : Prop :=
  ∀ j < drawn, ∀ k < drawn, uuid j = uuid k → j = k

/-- **The records**: they have identifiers that were drawn, the one of the operation in progress is
not terminal, all others are, and no update has missed its record. -/
structure Recorded (uuid : ℕ → String) (p : Pool OperationManager RequestTask) : Prop where
  drawn : ∀ record ∈ p.shared.records, ∃ k < p.shared.drawn, record.id = uuid k
  idle : p.threads.countP RequestTask.hasBegun = 0 →
    ∀ record ∈ p.shared.records, record.state.isTerminal = true
  owned : ∀ task ∈ p.threads, ∀ id, task.operation = some id → Owned id p.shared.records
  found : ∀ id, RequestTask.lost id ∉ p.threads

theorem recorded_call {uuid : ℕ → String} {p : Pool OperationManager RequestTask}
    (h : Recorded uuid p) (request : OperationRequest) :
    Recorded uuid ((operationMachine uuid).next p (.call request)) := by
  have hplaces : request.start.operation = none ∧ ∀ id, RequestTask.lost id ≠ request.start := by
    rcases request with _ | _ | _ <;> exact ⟨rfl, fun id h => nomatch h⟩
  obtain ⟨hoperation, hlost⟩ := hplaces
  refine ⟨h.drawn, ?_, ?_, ?_⟩ <;> unfold Machine.next <;> dsimp only [operationMachine]
  · have hbegun : request.start.hasBegun = false := congrArg Option.isSome hoperation
    rw [countP_concat, hbegun]
    exact h.idle
  · intro task hmem id hid
    rcases List.mem_append.mp hmem with hmem | hmem
    · exact h.owned task hmem id hid
    · rw [List.mem_singleton.mp hmem, hoperation] at hid
      exact nomatch hid
  · intro id hmem
    rcases List.mem_append.mp hmem with hmem | hmem
    · exact h.found id hmem
    · exact hlost id (List.mem_singleton.mp hmem)

section Recorded

variable {uuid : ℕ → String} {outside : Outside} {p : Pool OperationManager RequestTask}
  {i : ℕ} {task' : RequestTask}

/-- A record is queued. -/
theorem recorded_queue (hbusy : Busy p) (h : Recorded uuid p)
    (hdistinct : Distinct uuid (p.shared.drawn + 1)) {kind session : String}
    (htask : p.threads[i]? = some (.queueing kind session)) :
    Recorded uuid ⟨p.shared.queue (uuid p.shared.drawn) kind session outside.now,
      p.threads.set i (.returning (uuid p.shared.drawn))⟩ := by
  -- this is the request that has set the flag, so that no operation has begun
  have hnone : p.threads.countP RequestTask.hasBegun = 0 := by
    have hlt := countP_lt RequestTask.inProgress_of_hasBegun htask rfl rfl
    have hle := Bool.toNat_le p.shared.active
    rw [hbusy.active] at hlt
    omega
  have hterminal := h.idle hnone
  have hnew : ∀ old ∈ p.shared.records, old.id ≠ uuid p.shared.drawn := by
    intro old hold heq
    obtain ⟨k, hk, hid⟩ := h.drawn old hold
    have hsame := hdistinct k (by omega) p.shared.drawn (by omega) (hid ▸ heq)
    omega
  have howned := evictOldest_owned (fun old hold => ⟨hnew old hold, hterminal old hold⟩)
    kind session outside.now
  have hcount := countP_set_add RequestTask.hasBegun htask (.returning (uuid p.shared.drawn))
  change _ + 0 = _ + 1 at hcount
  refine ⟨?_, ?_, ?_, ?_⟩
  · intro record hrecord
    obtain ⟨kept, hsuffix, hkept⟩ := evictOldest_concat p.shared.records
      (.new (uuid p.shared.drawn) kind session outside.now)
    have hmem : record ∈ kept ++ [.new (uuid p.shared.drawn) kind session outside.now] :=
      hkept ▸ hrecord
    rcases List.mem_append.mp hmem with hold | hnew
    · obtain ⟨k, hk, hid⟩ := h.drawn record (hsuffix.subset hold)
      exact ⟨k, Nat.lt_succ_of_lt hk, hid⟩
    · rw [List.mem_singleton.mp hnew]
      exact ⟨p.shared.drawn, Nat.lt_succ_self _, rfl⟩
  · intro hzero
    dsimp only at hzero
    omega
  · intro task hmem id hid
    rcases List.mem_or_eq_of_mem_set hmem with hmem | rfl
    · exact absurd (RequestTask.hasBegun_of_operation hid)
        (List.countP_eq_zero.mp hnone task hmem)
    · rw [← Option.some.inj hid]
      exact howned
  · intro id hmem
    rcases List.mem_or_eq_of_mem_set hmem with hmem | hlost
    · exact h.found id hmem
    · exact nomatch hlost

/-- The operation in progress is updated and goes on. -/
theorem recorded_running (h : Recorded uuid p) {id : String}
    (htask : p.threads[i]? = some (.begun id)) :
    Recorded uuid ⟨(p.shared.update id .running none outside.now).getD p.shared,
      p.threads.set i (.running id)⟩ := by
  have howned := h.owned _ (List.mem_of_getElem? htask) id rfl
  obtain ⟨records, hupdate, hids, hkeeps, -⟩ := update_owned howned .running none outside.now
  have hcount := countP_set_add RequestTask.hasBegun htask (.running id)
  change _ + 1 = _ + 1 at hcount
  have hpos : 0 < p.threads.countP RequestTask.hasBegun := countP_pos_of_getElem? htask rfl
  rw [hupdate, Option.getD_some]
  refine ⟨?_, ?_, ?_, ?_⟩
  · intro record hrecord
    obtain ⟨old, hold, hid⟩ := hids record hrecord
    rw [hid]
    exact h.drawn old hold
  · intro hzero
    dsimp only at hzero
    omega
  · intro task hmem id' hid'
    have hsame : id' = id := by
      rcases List.mem_or_eq_of_mem_set hmem with hmem | rfl
      · exact (h.owned task hmem id' hid').unique howned
      · exact (Option.some.inj hid').symm
    rw [hsame]
    exact hkeeps rfl
  · intro id' hmem
    rcases List.mem_or_eq_of_mem_set hmem with hmem | hlost
    · exact h.found id' hmem
    · exact nomatch hlost

theorem terminal_isTerminal (outcome : Except String Unit) :
    (terminal outcome).1.isTerminal = true := by
  rcases outcome with _ | _ <;> rfl

/-- **The terminal update finds its record.** -/
theorem update_settling (h : Recorded uuid p) {id : String} {outcome : Except String Unit}
    (htask : p.threads[i]? = some (.settling id outcome)) (now : F64) :
    ∃ records, p.shared.update id (terminal outcome).1 (terminal outcome).2 now =
        some { p.shared with records } ∧
      (∀ record ∈ records, ∃ old ∈ p.shared.records, record.id = old.id) ∧
      ∀ record ∈ records, record.state.isTerminal = true := by
  have howned := h.owned _ (List.mem_of_getElem? htask) id rfl
  obtain ⟨records, hupdate, hids, -, hterminal⟩ :=
    update_owned howned (terminal outcome).1 (terminal outcome).2 now
  exact ⟨records, hupdate, hids, hterminal (terminal_isTerminal outcome)⟩

/-- The operation in progress is terminated. -/
theorem recorded_settle (hbusy : Busy p) (h : Recorded uuid p) {id : String}
    {outcome : Except String Unit} (htask : p.threads[i]? = some (.settling id outcome))
    {records : List OperationRecord}
    (hids : ∀ record ∈ records, ∃ old ∈ p.shared.records, record.id = old.id)
    (hterminal : ∀ record ∈ records, record.state.isTerminal = true) :
    Recorded uuid ⟨{ p.shared with records }, p.threads.set i (.clearing id)⟩ := by
  have hcount := countP_set_add RequestTask.hasBegun htask (.clearing id)
  change _ + 1 = _ + 0 at hcount
  have hle : p.threads.countP RequestTask.hasBegun ≤
      p.threads.countP RequestTask.inProgress :=
    List.countP_mono_left fun task _ => RequestTask.inProgress_of_hasBegun task
  have hactive := Bool.toNat_le p.shared.active
  rw [hbusy.active] at hle
  refine ⟨?_, fun _ => hterminal, ?_, ?_⟩
  · intro record hrecord
    obtain ⟨old, hold, hid⟩ := hids record hrecord
    rw [hid]
    exact h.drawn old hold
  · intro task hmem id' hid'
    have hzero : (p.threads.set i (.clearing id)).countP RequestTask.hasBegun = 0 := by omega
    exact absurd (RequestTask.hasBegun_of_operation hid') (List.countP_eq_zero.mp hzero task hmem)
  · intro id' hmem
    rcases List.mem_or_eq_of_mem_set hmem with hmem | hlost
    · exact h.found id' hmem
    · exact nomatch hlost

theorem recorded_step (hbusy : Busy p) (h : Recorded uuid p) {task : RequestTask}
    {manager' : OperationManager} (hdistinct : Distinct uuid manager'.drawn)
    (htask : p.threads[i]? = some task)
    (hadvance : OperationManager.advance uuid outside p.shared task = some (manager', task')) :
    Recorded uuid ⟨manager', p.threads.set i task'⟩ := by
  rcases advance_records hadvance with ⟨kind, session, rfl, rfl, rfl⟩ | ⟨id, rfl, rfl, rfl⟩ |
    ⟨id, outcome, rfl, hresult⟩ | ⟨hrecords, hdrawn, hoperation, hlost⟩
  · exact recorded_queue hbusy h hdistinct htask
  · exact recorded_running h htask
  · obtain ⟨records, hupdate, hids, hterminal⟩ := update_settling h htask outside.now
    rw [hupdate] at hresult
    obtain ⟨rfl, rfl⟩ := Prod.mk.inj hresult
    exact recorded_settle hbusy h htask hids hterminal
  · have hcount := countP_set_add RequestTask.hasBegun htask task'
    have hsame : task'.hasBegun = task.hasBegun := congrArg Option.isSome hoperation
    rw [hsame] at hcount
    refine ⟨?_, ?_, ?_, ?_⟩ <;> dsimp only
    · rw [hrecords, hdrawn]
      exact h.drawn
    · rw [Nat.add_right_cancel hcount, hrecords]
      exact h.idle
    · intro task'' hmem id hid
      rw [hrecords]
      rcases List.mem_or_eq_of_mem_set hmem with hmem | rfl
      · exact h.owned task'' hmem id hid
      · exact h.owned task (List.mem_of_getElem? htask) id (hoperation ▸ hid)
    · intro id hmem
      rcases List.mem_or_eq_of_mem_set hmem with hmem | heq
      · exact h.found id hmem
      · exact hlost id heq.symm

end Recorded

/-! ## Every interleaving -/

/-- What callers of the manager rely on, at one moment of a run. -/
structure Serial (uuid : ℕ → String) (p : Pool OperationManager RequestTask) : Prop where
  unsettled : (p.shared.records.filter fun record => !record.state.isTerminal).length ≤ 1
  idle : p.shared.active = false → ∀ record ∈ p.shared.records, record.state.isTerminal = true
  kept : ∀ task ∈ p.threads, ∀ id, task.operation = some id →
    ∃ record ∈ p.shared.records, record.id = id ∧ record.state.isTerminal = false
  -- the terminal update finds its record, and the flag that it then clears is set only while an
  -- operation is on its way
  found : ∀ (i : ℕ) id outcome outside, p.threads[i]? = some (.settling id outcome) →
    ((operationMachine uuid).next p (.step i outside)).threads[i]? = some (.clearing id)
  cleared : p.shared.active = true → ∃ task ∈ p.threads, task.inProgress = true ∧
    ∀ id, task ≠ .lost id
  apart : RequestTask.acting ∈ p.threads → ∀ task ∈ p.threads, task.inProgress = false

section Serial

variable {uuid : ℕ → String} {p : Pool OperationManager RequestTask}

theorem Recorded.unsettled (h : Recorded uuid p) :
    (p.shared.records.filter fun record => !record.state.isTerminal).length ≤ 1 := by
  by_cases hnone : p.threads.countP RequestTask.hasBegun = 0
  · have hempty : (p.shared.records.filter fun record => !record.state.isTerminal) = [] := by
      refine List.filter_eq_nil_iff.mpr fun record hrecord => ?_
      rw [h.idle hnone record hrecord]
      decide
    rw [hempty]
    exact Nat.zero_le 1
  · obtain ⟨task, htask, hbegun⟩ := List.countP_pos_iff.mp (Nat.pos_of_ne_zero hnone)
    obtain ⟨id, hid⟩ := Option.isSome_iff_exists.mp hbegun
    obtain ⟨older, record, hrecords, -, -, holder⟩ := h.owned task htask id hid
    have hempty : (older.filter fun record => !record.state.isTerminal) = [] := by
      refine List.filter_eq_nil_iff.mpr fun old hold => ?_
      rw [(holder old hold).2]
      decide
    rw [hrecords, List.filter_append, hempty, List.nil_append]
    exact List.length_filter_le _ [record]

theorem Recorded.found_settling (h : Recorded uuid p) {i : ℕ} {id : String}
    {outcome : Except String Unit} (outside : Outside)
    (htask : p.threads[i]? = some (.settling id outcome)) :
    ((operationMachine uuid).next p (.step i outside)).threads[i]? = some (.clearing id) := by
  obtain ⟨records, hupdate, -, -⟩ := update_settling h htask outside.now
  have hadvance : (operationMachine uuid).advance outside p.shared (.settling id outcome) =
      some ({ p.shared with records }, .clearing id) := by
    show (match p.shared.update _ _ _ _ with | none => _ | some manager => _) = _
    rw [hupdate]
  rw [Machine.next_step htask hadvance]
  exact List.getElem?_set_self (List.getElem?_eq_some_iff.mp htask).1

theorem Busy.serial (hbusy : Busy p) (h : Recorded uuid p) : Serial uuid p := by
  refine ⟨h.unsettled, ?_, ?_, fun i id outcome outside => h.found_settling outside, ?_, ?_⟩
  · intro hidle
    refine h.idle ?_
    have hle : p.threads.countP RequestTask.hasBegun ≤ p.threads.countP RequestTask.inProgress :=
      List.countP_mono_left fun task _ => RequestTask.inProgress_of_hasBegun task
    rw [hbusy.active, hidle] at hle
    exact Nat.le_zero.mp hle
  · intro task htask id hid
    obtain ⟨older, record, hrecords, hrecord, hstate, -⟩ := h.owned task htask id hid
    refine ⟨record, ?_, hrecord, hstate⟩
    rw [hrecords]
    exact List.mem_append_right older (List.mem_singleton.mpr rfl)
  · intro hactive
    have hcount := hbusy.active
    rw [hactive] at hcount
    have hpos : 0 < p.threads.countP RequestTask.inProgress := by
      rw [hcount]
      exact Nat.one_pos
    obtain ⟨task, htask, hprogress⟩ := List.countP_pos_iff.mp hpos
    refine ⟨task, htask, hprogress, ?_⟩
    rintro id rfl
    exact h.found id htask
  · intro hacting task htask
    have hcount := hbusy.active
    rw [hbusy.acting hacting] at hcount
    exact Bool.eq_false_iff.mpr (List.countP_eq_zero.mp hcount task htask)

end Serial

/-- **The flag, the mutex and the records**, after every interleaving in which `begin` draws
different identifiers. -/
theorem recorded_run (uuid : ℕ → String) (actions : List (Action OperationRequest Outside)) :
    Busy ((operationMachine uuid).run ⟨{}, []⟩ actions) ∧
      (Distinct uuid ((operationMachine uuid).run ⟨{}, []⟩ actions).shared.drawn →
        Recorded uuid ((operationMachine uuid).run ⟨{}, []⟩ actions)) := by
  refine Machine.run_inv (I := fun p => Busy p ∧ (Distinct uuid p.shared.drawn → Recorded uuid p))
    ?_ ?_ ?_ actions
  · rintro p request ⟨hbusy, hrecorded⟩
    exact ⟨busy_call uuid hbusy request,
      fun hdistinct => recorded_call (hrecorded hdistinct) request⟩
  · rintro p i outside task manager' task' ⟨hbusy, hrecorded⟩ htask hadvance
    refine ⟨busy_step hbusy htask hadvance, fun hdistinct => ?_⟩
    have hle := advance_drawn hadvance
    have hbefore : Distinct uuid p.shared.drawn := fun j hj k hk =>
      hdistinct j (Nat.lt_of_lt_of_le hj hle) k (Nat.lt_of_lt_of_le hk hle)
    exact recorded_step hbusy (hrecorded hbefore) hdistinct htask hadvance
  · refine ⟨⟨rfl, rfl, fun h => (nomatch h)⟩, fun _ => ⟨?_, ?_, ?_, ?_⟩⟩
    · exact fun record h => (nomatch h)
    · exact fun _ record h => (nomatch h)
    · exact fun task h => (nomatch h)
    · exact fun id h => (nomatch h)

/-- **Operations are serialized**, at every moment of every interleaving of any number of requests,
if the identifiers drawn are different: at most one record is not terminal, all are while the flag
is cleared, the record of the operation in progress is kept and found, and the action of a clear
does not overlap an operation. -/
theorem operations_serialized (uuid : ℕ → String)
    (actions : List (Action OperationRequest Outside))
    (hdistinct : Distinct uuid ((operationMachine uuid).run ⟨{}, []⟩ actions).shared.drawn) :
    Serial uuid ((operationMachine uuid).run ⟨{}, []⟩ actions) := by
  obtain ⟨hbusy, hrecorded⟩ := recorded_run uuid actions
  exact hbusy.serial (hrecorded hdistinct)

/-- Two identifiers, in the form in which they are drawn. -/
def sampleUuid : ℕ → String
  | 0 => "6fa459eaee8a4ca4894edb77e160355e"
  | _ => "16fd2706841a4c3bb2c5cc7a2f3d9b01"

/-- A save, a clear that finds it running, and a load after it. -/
def sampleActions : List (Action OperationRequest Outside) :=
  let step (thread : ℕ) : Action OperationRequest Outside := .step thread ⟨.finite 0, .ok ()⟩
  [.call (.sessionSave "first"), step 0, step 0, step 0, step 0,
    .call .memoryClear, step 1, step 1, step 1,
    step 0, step 0, step 0, step 0, step 0, step 0,
    .call (.sessionLoad "second"), step 2, step 2, step 2, step 2]

theorem operations_serialized_sample :
    ((operationMachine sampleUuid).run ⟨{}, []⟩ sampleActions).shared.records.map
        (fun record => (record.session, record.state)) =
      [("first", .succeeded), ("second", .queued)] ∧
    Serial sampleUuid ((operationMachine sampleUuid).run ⟨{}, []⟩ sampleActions) := by
  refine ⟨by decide +kernel, operations_serialized sampleUuid sampleActions ?_⟩
  have hdrawn : ((operationMachine sampleUuid).run ⟨{}, []⟩ sampleActions).shared.drawn = 2 := by
    decide +kernel
  rw [hdrawn]
  unfold Distinct
  decide +kernel

end FlyRuler.Management
