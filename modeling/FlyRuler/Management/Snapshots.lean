import FlyRuler.Management.Gate
import FlyRuler.Store.Basic

/-!
# Saving while messages arrive

The store is written by the receive loop, one message at a time (`with_ingestion`), by
`memory_clear` and by `session_load`, and copied by `session_save` (`with_paused`);
`core/src/store.rs` takes several steps for each, and `snapshot_clone` copies one aircraft after
the other.  The gate makes each of them one step.

* `Linear.step`: what every call and every step of one keeps.
* `snapshots_run`: a snapshot is the store between two messages.
-/

namespace FlyRuler.Management.Snapshots

open FlyRuler.Pb FlyRuler.Store FlyRuler.Store.TimeSeriesStore FlyRuler.Lib.Keyed
open FlyRuler.Lib.Threads

/-! ## The steps of the store -/

/-- One access to the tables of the store. -/
inductive StoreOp where
  | appendState (id : AircraftId) (timestamp : F64) (state : AircraftState)
  | receive (id : AircraftId) (now : Instant)
  | appendEvent (id : AircraftId) (timestamp : F64) (event : Event)
  | forget (id : AircraftId)
  | appendTelemetry (id : AircraftId) (timestamp : F64) (frame : TelemetryFrame)
  | replaceData (data : Table AircraftId AircraftTimeSeries)
  | forgetAll

def StoreOp.apply (store : TimeSeriesStore) : StoreOp → TimeSeriesStore
  | appendState id timestamp state => store.appendState id timestamp state
  | receive id now => store.receive id now
  | appendEvent id timestamp event => store.appendEvent id timestamp event
  | forget id => { store with liveStateReceipts := store.liveStateReceipts.erase id }
  | appendTelemetry id timestamp frame =>
    match store.appendTelemetry id timestamp frame with
    | .ok store => store
    | .error _ => store
  | replaceData data => { store with data := data }
  | forgetAll => { store with liveStateReceipts := ∅ }

/-- The accesses of `append_message` for a command. -/
def commandOps (now : Instant) (id : AircraftId) (timestamp : F64) :
    AircraftCommandInfo.Kind → List StoreOp
  | .stateUpdate state => [.appendState id timestamp state, .receive id now]
  | .spawn spawn =>
    match validateTelemetrySchemas spawn.telemetrySchemas with
    | .error _ => []
    | .ok () =>
      (match spawn.initialState with
        | some state => [.appendState id timestamp state, .receive id now]
        | none => []) ++ [.appendEvent id timestamp (.spawn spawn)]
  | .despawn despawn => [.appendEvent id timestamp (.despawn despawn), .forget id]
  | .customEvent custom => [.appendEvent id timestamp (.custom custom)]
  | .telemetryFrame frame => [.appendTelemetry id timestamp frame]

/-- The accesses of `append_message`. -/
def messageOps (now : Instant) (msg : Message) : List StoreOp :=
  match msg.envelope with
  | some (.request req) =>
    match req.timestamp.toFinite with
    | none => []
    | some _ =>
      match req.command.bind RequestCommand.kind with
      | some (.aircraftEvent event) =>
        match event.info.bind AircraftCommandInfo.kind with
        | some info => commandOps now (aircraftIdOf event) req.timestamp info
        | none => []
      | _ => []
  | _ => []

theorem foldl_commandOps (store : TimeSeriesStore) (now : Instant) (id : AircraftId)
    (timestamp : F64) (info : AircraftCommandInfo.Kind) :
    (commandOps now id timestamp info).foldl StoreOp.apply store =
      store.appendCommand now id timestamp info := by
  cases info with
  | spawn spawn =>
    rw [commandOps, appendCommand]
    rcases validateTelemetrySchemas spawn.telemetrySchemas with e | ⟨⟨⟩⟩
    · rfl
    · rcases spawn.initialState with _ | state
      · rfl
      · rfl
  | despawn despawn => rfl
  | stateUpdate state => rfl
  | customEvent custom => rfl
  | telemetryFrame frame => rfl

theorem foldl_messageOps (store : TimeSeriesStore) (now : Instant) (msg : Message) :
    (messageOps now msg).foldl StoreOp.apply store = store.appendMessage now msg := by
  unfold messageOps appendMessage
  rcases msg.envelope with _ | req | _ | _
  · rfl
  · dsimp only
    rcases req.timestamp.toFinite with _ | t
    · rfl
    rcases req.command.bind RequestCommand.kind with _ | _ | _ | event | _ | _
    all_goals
      try rfl
    dsimp only
    rcases event.info.bind AircraftCommandInfo.kind with _ | info
    · rfl
    · exact foldl_commandOps store now _ _ _
  · rfl
  · rfl

/-! ## The calls -/

/-- What a call on the gate is for; what is loaded has been read before. -/
inductive Task where
  | ingest (now : Instant) (msg : Message)
  | save
  | clear
  | load (loaded : TimeSeriesStore)

namespace Task

def kind : Task → GateCallKind
  | ingest _ _ => .withIngestion
  | _ => .withPaused

/-- The accesses by which the task writes. -/
def ops : Task → List StoreOp
  | ingest now msg => messageOps now msg
  | save => []
  | clear => [.replaceData ∅, .forgetAll]
  | load loaded => [.replaceData loaded.data, .forgetAll]

/-- What the task does to the store as a whole. -/
def apply (store : TimeSeriesStore) : Task → TimeSeriesStore
  | ingest now msg => store.appendMessage now msg
  | save => store
  | clear => store.clear
  | load loaded => store.replaceFrom loaded

theorem foldl_ops (store : TimeSeriesStore) (task : Task) :
    task.ops.foldl StoreOp.apply store = task.apply store := by
  cases task with
  | ingest now msg => exact foldl_messageOps store now msg
  | save => rfl
  | clear => rfl
  | load loaded => rfl

end Task

/-- A call: where it is at the gate, what its action has still to write, and what `snapshot_clone`
has copied. -/
structure Job where
  task : Task
  place : GateCall
  pending : List StoreOp
  snapshot : TimeSeriesStore := {}

/-- The gate, the store, and the actions that are over with what they have copied. -/
structure Shared where
  gate : IngestionGate := {}
  store : TimeSeriesStore := {}
  log : List (Task × TimeSeriesStore) := []

def Task.start (task : Task) : Job where
  task := task
  place := task.kind.start
  pending := task.ops

/-- The action runs. -/
def acts : GateCall → Bool
  | .ingesting | .maintaining => true
  | _ => false

namespace Shared

variable (s : Shared)

/-- A step outside the action. -/
def pass (job : Job) : Option (Shared × Job) :=
  (s.gate.advance job.place).map fun next =>
    ({ s with gate := next.1 }, { job with place := next.2 })

/-- The end of the action. -/
def finish (job : Job) : Option (Shared × Job) :=
  ({ s with log := s.log ++ [(job.task, job.snapshot)] } : Shared).pass job

/-- One step of `snapshot_clone`: the next aircraft of the iteration, which is not over as long as
one is missing. -/
def copy (job : Job) : Option AircraftId → Option (Shared × Job)
  | some id =>
    match s.store.data.lookup id, job.snapshot.data.lookup id with
    | some series, none => some (s, { job with
        snapshot := { job.snapshot with data := job.snapshot.data.insert id series } })
    | _, _ => none
  | none =>
    if s.store.data.keys.all fun id => (job.snapshot.data.lookup id).isSome then s.finish job
    else none

/-- One step of a call. -/
def advance (next : Option AircraftId) (job : Job) : Option (Shared × Job) :=
  if acts job.place then
    match job.pending with
    | op :: pending => some ({ s with store := op.apply s.store }, { job with pending := pending })
    | [] =>
      match job.task with
      | .save => s.copy job next
      | _ => s.finish job
  else s.pass job

end Shared

def machine : Machine Shared Job Task (Option AircraftId) where
  start := Task.start
  advance next s job := s.advance next job

/-- The job is one of the receive loop that has not returned. -/
def Job.receiving (job : Job) : Bool :=
  match job.task with
  | .ingest _ _ => !job.place.isReturned
  | _ => false

/-- One action: the receive loop takes the next message when it is done with the last one. -/
def next (p : Pool Shared Job) (action : Action Task (Option AircraftId)) : Pool Shared Job :=
  match action with
  | .call (.ingest now msg) =>
    if p.threads.any Job.receiving then p else machine.next p (.call (.ingest now msg))
  | action => machine.next p action

def run (actions : List (Action Task (Option AircraftId))) : Pool Shared Job :=
  actions.foldl next ⟨{}, []⟩

/-- The store after the actions of a log, one after the other. -/
def replay (log : List (Task × TimeSeriesStore)) : TimeSeriesStore :=
  log.foldl (fun store entry => entry.1.apply store) {}

/-! ## Places -/

/-- The place of a call of `with_ingestion`. -/
def isIngestion : GateCall → Bool
  | .arriving | .entering | .rechecking | .missing | .rejecting | .leaving | .ingesting
  | .finishing | .returnedNone | .returnedSome => true
  | _ => false

/-- The action is over. -/
def passed : GateCall → Bool
  | .finishing | .returnedSome | .resuming | .unlocking | .releasing | .returned => true
  | _ => false

theorem isIngestion_advance {gate gate' : IngestionGate} {call call' : GateCall}
    (h : gate.advance call = some (gate', call')) : isIngestion call' = isIngestion call := by
  cases call <;> simp only [IngestionGate.advance] at h
  case arriving | rechecking =>
    obtain ⟨-, rfl⟩ := h
    cases gate.enabled <;> rfl
  case entering | locking | pausing =>
    split_ifs at h
    obtain ⟨-, rfl⟩ := h
    rfl
  case returnedNone | returnedSome | returned => cases h
  all_goals
    obtain ⟨-, rfl⟩ := h
    rfl

/-- Outside the action a step passes nothing. -/
theorem passed_advance {gate gate' : IngestionGate} {call call' : GateCall}
    (h : gate.advance call = some (gate', call')) (hacts : acts call = false) :
    passed call' = passed call ∧ (acts call' = true → passed call = false) := by
  cases call <;> simp only [IngestionGate.advance] at h
  case arriving | rechecking =>
    obtain ⟨-, rfl⟩ := h
    cases gate.enabled <;> exact ⟨rfl, fun _ => rfl⟩
  case entering | locking | pausing =>
    split_ifs at h
    obtain ⟨-, rfl⟩ := h
    exact ⟨rfl, fun _ => rfl⟩
  case returnedNone | returnedSome | returned => cases h
  case ingesting | maintaining => cases hacts
  case missing | rejecting | leaving | closing =>
    obtain ⟨-, rfl⟩ := h
    exact ⟨rfl, fun _ => rfl⟩
  all_goals
    obtain ⟨-, rfl⟩ := h
    exact ⟨rfl, fun h => by cases h⟩

/-- Nothing holds up the end of an action. -/
theorem advance_acts {gate : IngestionGate} {call : GateCall} (hacts : acts call = true) :
    ∃ call', gate.advance call = some (gate, call') ∧ passed call' = true ∧
      acts call' = false := by
  cases call
  case ingesting => exact ⟨_, rfl, rfl, rfl⟩
  case maintaining => exact ⟨_, rfl, rfl, rfl⟩
  all_goals cases hacts

theorem isReturned_advance {gate gate' : IngestionGate} {call call' : GateCall}
    (h : gate.advance call = some (gate', call')) : call.isReturned = false := by
  cases call
  case returnedNone | returnedSome | returned => cases h
  all_goals rfl

/-! ## The invariant -/

/-- The entry of a job in the log, once its action is over. -/
def Job.entry (job : Job) : Option (Task × TimeSeriesStore) :=
  if passed job.place then some (job.task, job.snapshot) else none

/-- Within its action a job has done some of its accesses, and copied part of the store. -/
structure Halfway (s : Shared) (job : Job) : Prop where
  written : ∃ done, job.task.ops = done ++ job.pending ∧
    s.store = done.foldl StoreOp.apply (replay s.log)
  receipts : job.snapshot.liveStateReceipts = ∅
  copied : ∀ id series, job.snapshot.data.lookup id = some series →
    s.store.data.lookup id = some series
  -- who writes does not copy
  uncopied : job.task.ops ≠ [] → job.snapshot = {}

/-- The snapshot has the series of the store, and no receipts. -/
structure Copies (snapshot store : TimeSeriesStore) : Prop where
  data : ∀ id, snapshot.data.lookup id = store.data.lookup id
  receipts : snapshot.liveStateReceipts = ∅

/-- The gate as the jobs see it. -/
def places (p : Pool Shared Job) : Pool IngestionGate GateCall :=
  ⟨p.shared.gate, p.threads.map Job.place⟩

/-- What lets at most one action run. -/
structure Guarded (p : Pool Shared Job) : Prop where
  gate : Exclusive (places p)
  kinds : ∀ job ∈ p.threads, isIngestion job.place = (job.task.kind == .withIngestion)
  receiving : p.threads.countP Job.receiving ≤ 1

/-- **The actions are one step each**: the store is what the log says, but for the one action that
runs; every snapshot in the log is the store before it; the log holds the actions that are over. -/
structure Linear (p : Pool Shared Job) : Prop where
  guarded : Guarded p
  fresh : ∀ job ∈ p.threads, acts job.place = false → passed job.place = false →
    job.pending = job.task.ops ∧ job.snapshot = {}
  acting : ∀ job ∈ p.threads, acts job.place = true → Halfway p.shared job
  settled : (∀ job ∈ p.threads, acts job.place = false) →
    p.shared.store = replay p.shared.log
  saved : ∀ before snapshot after, p.shared.log = before ++ (.save, snapshot) :: after →
    Copies snapshot (replay before)
  logged : p.shared.log.Perm (p.threads.filterMap Job.entry)

theorem linear_start : Linear ⟨{}, []⟩ where
  guarded := ⟨exclusive_run [], List.forall_mem_nil _, Nat.zero_le _⟩
  fresh := List.forall_mem_nil _
  acting := List.forall_mem_nil _
  settled _ := rfl
  saved before snapshot after h := absurd h.symm (by simp)
  logged := .refl _

section Steps

variable {p : Pool Shared Job}

/-- **At most one action runs.** -/
theorem Guarded.countP_acts (h : Guarded p) : (p.threads.countP fun job => acts job.place) ≤ 1 := by
  have hexcluded := h.gate.excluded
  by_cases hmaintaining : GateCall.maintaining ∈ (places p).threads
  · have hcount : (p.threads.countP fun job => acts job.place) ≤
        (places p).threads.count .maintaining := by
      rw [places, List.count, List.countP_map]
      refine List.countP_mono_left fun job hjob hacts => ?_
      rcases hplace : job.place
      case ingesting =>
        exact absurd ⟨List.mem_map.mpr ⟨job, hjob, hplace⟩, hmaintaining⟩ hexcluded.ingestion
      case maintaining => simp [hplace]
      all_goals
        rw [hplace] at hacts
        cases hacts
    exact hcount.trans hexcluded.maintenance
  · refine le_trans (List.countP_mono_left fun job hjob hacts => ?_) h.receiving
    have hkind := h.kinds job hjob
    rcases hplace : job.place
    case ingesting =>
      rw [hplace] at hkind
      rcases htask : job.task with ⟨now, msg⟩ | _ | _ | _
      · rw [Job.receiving, htask, hplace]
        rfl
      all_goals
        rw [htask] at hkind
        cases hkind
    case maintaining => exact absurd (List.mem_map.mpr ⟨job, hjob, hplace⟩) hmaintaining
    all_goals
      rw [hplace] at hacts
      cases hacts

variable {i : ℕ} {job job' : Job} {s' : Shared}

/-- While one action runs, the others do not. -/
theorem Guarded.alone (h : Guarded p) (hjob : p.threads[i]? = some job)
    (hacts : acts job.place = true) {j : ℕ} {other : Job} (hne : j ≠ i)
    (hother : p.threads[j]? = some other) : acts other.place = false :=
  false_of_countP_le_one (f := fun job : Job => acts job.place) h.countP_acts hjob hacts hne hother

theorem Guarded.set (h : Guarded p) (hjob : p.threads[i]? = some job) (htask : job'.task = job.task)
    (hgate : Exclusive ⟨s'.gate, (p.threads.map Job.place).set i job'.place⟩)
    (hkind : isIngestion job'.place = isIngestion job.place)
    (hreturned : job.place.isReturned = false) : Guarded ⟨s', p.threads.set i job'⟩ := by
  refine ⟨?_, fun other hother => ?_, ?_⟩
  · rw [places, List.map_set]
    exact hgate
  · rcases mem_set_cases hother with rfl | ⟨j, -, hj⟩
    · rw [hkind, htask]
      exact h.kinds job (List.mem_of_getElem? hjob)
    · exact h.kinds other (List.mem_of_getElem? hj)
  · have hcount := countP_set_add Job.receiving hjob job'
    have hreceiving : job'.receiving.toNat ≤ job.receiving.toNat := by
      rw [Job.receiving, Job.receiving, htask, hreturned]
      rcases job.task with _ | _ | _ | _
      · exact Bool.toNat_le _
      all_goals rfl
    have hone := h.receiving
    dsimp only
    omega

/-- A step of the job at the gate. -/
theorem Guarded.pass (h : Guarded p) (hjob : p.threads[i]? = some job)
    (hadvance : p.shared.gate.advance job.place = some (s'.gate, job'.place))
    (htask : job'.task = job.task) : Guarded ⟨s', p.threads.set i job'⟩ := by
  have hplace : (places p).threads[i]? = some job.place := by
    rw [places, List.getElem?_map, hjob]
    rfl
  exact h.set hjob htask (exclusive_step h.gate hplace hadvance) (isIngestion_advance hadvance)
    (isReturned_advance hadvance)

/-- A step that leaves the job where it is at the gate. -/
theorem Guarded.stay (h : Guarded p) (hjob : p.threads[i]? = some job)
    (hgate : s'.gate = p.shared.gate) (hplace : job'.place = job.place)
    (htask : job'.task = job.task) (hacts : acts job.place = true) :
    Guarded ⟨s', p.threads.set i job'⟩ := by
  have hset : (p.threads.map Job.place).set i job.place = p.threads.map Job.place := by
    obtain ⟨hi, rfl⟩ := List.getElem?_eq_some_iff.mp hjob
    rw [← List.map_set, List.set_getElem_self]
  obtain ⟨call', hadvance, -⟩ := @advance_acts p.shared.gate _ hacts
  refine h.set hjob htask ?_ (by rw [hplace]) (isReturned_advance hadvance)
  rw [hgate, hplace, hset]
  exact h.gate

/-- What a step of one job leaves of the others. -/
theorem Linear.set (h : Linear p) (hjob : p.threads[i]? = some job)
    (hguarded : Guarded ⟨s', p.threads.set i job'⟩)
    (hfresh : acts job'.place = false → passed job'.place = false →
      job'.pending = job'.task.ops ∧ job'.snapshot = {})
    (hacting : acts job'.place = true → Halfway s' job')
    (hothers : ∀ j other, j ≠ i → p.threads[j]? = some other → acts other.place = true →
      s'.store = p.shared.store ∧ s'.log = p.shared.log)
    (hsettled : (∀ other ∈ p.threads.set i job', acts other.place = false) →
      s'.store = replay s'.log)
    (hsaved : ∀ before snapshot after, s'.log = before ++ (.save, snapshot) :: after →
      Copies snapshot (replay before))
    (hlogged : (s'.log ++ job.entry.toList).Perm (p.shared.log ++ job'.entry.toList)) :
    Linear ⟨s', p.threads.set i job'⟩ := by
  refine ⟨hguarded, fun other hother => ?_, fun other hother hacts => ?_, hsettled, hsaved, ?_⟩
  · rcases mem_set_cases hother with rfl | ⟨j, -, hj⟩
    · exact hfresh
    · exact h.fresh other (List.mem_of_getElem? hj)
  · rcases mem_set_cases hother with rfl | ⟨j, hne, hj⟩
    · exact hacting hacts
    · obtain ⟨⟨done, hops, hstore⟩, hreceipts, hcopied, huncopied⟩ :=
        h.acting other (List.mem_of_getElem? hj) hacts
      obtain ⟨hstore', hlog'⟩ := hothers j other hne hj hacts
      refine ⟨⟨done, hops, ?_⟩, hreceipts, ?_, huncopied⟩
      · rw [hstore', hlog']
        exact hstore
      · rw [hstore']
        exact hcopied
  · have hthreads := filterMap_set_perm Job.entry hjob job'
    have hlog := hlogged.trans (h.logged.append_right _)
    exact (List.perm_append_right_iff _).mp (hlog.trans hthreads.symm)

/-- If the others are not in their actions and the job is not, the store is what the log says. -/
theorem Linear.settled_of_others (h : Linear p) (hjob : p.threads[i]? = some job)
    (hacts : acts job.place = false)
    (hothers : ∀ j other, j ≠ i → p.threads[j]? = some other → acts other.place = false) :
    p.shared.store = replay p.shared.log := by
  refine h.settled fun other hother => ?_
  obtain ⟨j, hj⟩ := List.mem_iff_getElem?.mp hother
  by_cases hij : j = i
  · subst hij
    obtain rfl : job = other := Option.some.inj (hjob.symm.trans hj)
    exact hacts
  · exact hothers j other hij hj

theorem getElem?_set_other {j : ℕ} {other : Job} (hne : j ≠ i) (hj : p.threads[j]? = some other) :
    (p.threads.set i job')[j]? = some other := by
  rw [List.getElem?_set_ne hne.symm]
  exact hj

/-- **A step at the gate**: a job may begin its action, and nothing has been done of it. -/
theorem Linear.pass (h : Linear p) (hjob : p.threads[i]? = some job)
    (hacts : acts job.place = false) (hstep : p.shared.pass job = some (s', job')) :
    Linear ⟨s', p.threads.set i job'⟩ := by
  obtain ⟨⟨gate, place⟩, hadvance, heq⟩ := Option.map_eq_some_iff.mp hstep
  cases heq
  obtain ⟨hpassed, hbegin⟩ := passed_advance hadvance hacts
  have hguarded : Guarded ⟨{ p.shared with gate := gate },
      p.threads.set i { job with place := place }⟩ := h.guarded.pass hjob hadvance rfl
  have hentry : ({ job with place := place } : Job).entry = job.entry := by
    rw [Job.entry, Job.entry, hpassed]
  have hfresh := h.fresh job (List.mem_of_getElem? hjob) hacts
  have hself : (p.threads.set i { job with place := place })[i]? =
      some { job with place := place } := by
    obtain ⟨hi, -⟩ := List.getElem?_eq_some_iff.mp hjob
    exact List.getElem?_set_self hi
  refine h.set hjob hguarded (fun _ hnot => hfresh (hpassed ▸ hnot)) (fun hbegins => ?_)
    (fun _ _ _ _ _ => ⟨rfl, rfl⟩) (fun hnone => ?_) h.saved ?_
  · -- the job begins, so that no other action runs
    obtain ⟨hpending, hsnapshot⟩ := hfresh (hbegin hbegins)
    have hstore := h.settled_of_others hjob hacts fun j other hne hj =>
      hguarded.alone hself hbegins hne (getElem?_set_other hne hj)
    refine ⟨⟨[], hpending.symm, hstore⟩, ?_, ?_, fun _ => hsnapshot⟩
    · rw [hsnapshot]
    · rw [hsnapshot]
      intro id series hlookup
      cases hlookup
  · exact h.settled_of_others hjob hacts fun j other hne hj =>
      hnone other (List.mem_of_getElem? (getElem?_set_other hne hj))
  · rw [hentry]

theorem not_passed {call : GateCall} (hacts : acts call = true) : passed call = false := by
  cases call
  case ingesting | maintaining => rfl
  all_goals cases hacts

/-- **A step within the action**, which no other action sees. -/
theorem Linear.act (h : Linear p) (hjob : p.threads[i]? = some job)
    (hacts : acts job.place = true) (hgate : s'.gate = p.shared.gate)
    (hlog : s'.log = p.shared.log) (hplace : job'.place = job.place) (htask : job'.task = job.task)
    (hhalfway : Halfway s' job') : Linear ⟨s', p.threads.set i job'⟩ := by
  have hacts' : acts job'.place = true := hplace ▸ hacts
  have hself : job' ∈ p.threads.set i job' := by
    obtain ⟨hi, -⟩ := List.getElem?_eq_some_iff.mp hjob
    exact List.mem_of_getElem? (List.getElem?_set_self hi)
  refine h.set hjob (h.guarded.stay hjob hgate hplace htask hacts)
    (fun hnot => absurd (hacts'.symm.trans hnot) (by simp)) (fun _ => hhalfway)
    (fun j other hne hj hother => ?_) (fun hnone => ?_) (hlog ▸ h.saved) ?_
  · exact absurd (hother.symm.trans (h.guarded.alone hjob hacts hne hj)) (by simp)
  · exact absurd (hacts'.symm.trans (hnone job' hself)) (by simp)
  · rw [hlog, Job.entry, Job.entry, hplace, not_passed hacts]
    exact .refl _

theorem Linear.write (h : Linear p) (hjob : p.threads[i]? = some job)
    (hacts : acts job.place = true) {op : StoreOp} {pending : List StoreOp}
    (hpending : job.pending = op :: pending) :
    Linear ⟨{ p.shared with store := op.apply p.shared.store },
      p.threads.set i { job with pending := pending }⟩ := by
  obtain ⟨⟨done, hops, hstore⟩, hreceipts, -, huncopied⟩ :=
    h.acting job (List.mem_of_getElem? hjob) hacts
  rw [hpending] at hops
  have hempty : job.snapshot = {} := huncopied (by simp [hops])
  refine h.act hjob hacts rfl rfl rfl rfl ⟨⟨done ++ [op], ?_, ?_⟩, hreceipts, ?_, huncopied⟩
  · rw [hops, List.append_assoc]
    rfl
  · rw [List.foldl_append, ← hstore]
    rfl
  · rw [hempty]
    intro id series hlookup
    cases hlookup

theorem Linear.copy (h : Linear p) (hjob : p.threads[i]? = some job)
    (hacts : acts job.place = true) (htask : job.task = .save) {id : AircraftId}
    {series : AircraftTimeSeries} (hseries : p.shared.store.data.lookup id = some series) :
    Linear ⟨p.shared, p.threads.set i { job with
      snapshot := { job.snapshot with data := job.snapshot.data.insert id series } }⟩ := by
  obtain ⟨hwritten, hreceipts, hcopied, -⟩ := h.acting job (List.mem_of_getElem? hjob) hacts
  refine h.act hjob hacts rfl rfl rfl rfl ⟨hwritten, hreceipts, fun id' series' hlookup => ?_,
    fun hops => absurd (congrArg Task.ops htask) hops⟩
  dsimp only at hlookup
  rw [lookup_insert] at hlookup
  split_ifs at hlookup with hid
  · rw [hid, ← Option.some.inj hlookup]
    exact hseries
  · exact hcopied id' series' hlookup

/-- What a `snapshot_clone` has copied that has come to its end. -/
theorem Halfway.copies {s : Shared} (h : Halfway s job) (htask : job.task = .save)
    (hall : (s.store.data.keys.all fun id => (job.snapshot.data.lookup id).isSome) = true) :
    Copies job.snapshot (replay s.log) := by
  obtain ⟨done, hops, hstore⟩ := h.written
  rw [htask] at hops
  obtain ⟨rfl, -⟩ := List.append_eq_nil_iff.mp hops.symm
  refine ⟨fun id => ?_, h.receipts⟩
  rw [← show s.store = replay s.log from hstore]
  rcases hseries : s.store.data.lookup id with _ | series
  · refine Option.eq_none_iff_forall_ne_some.mpr fun series hlookup => ?_
    rw [h.copied id series hlookup] at hseries
    cases hseries
  · have hsome := List.all_eq_true.mp hall id (mem_keys_iff.mpr ⟨series, hseries⟩)
    obtain ⟨copied, hlookup⟩ := Option.isSome_iff_exists.mp hsome
    rw [hlookup, ← hseries, h.copied id copied hlookup]

/-- **The end of an action**: the log has it, and the store is what it says. -/
theorem Linear.finish (h : Linear p) (hjob : p.threads[i]? = some job)
    (hacts : acts job.place = true) (hpending : job.pending = [])
    (hcopies : job.task = .save → Copies job.snapshot (replay p.shared.log))
    (hstep : p.shared.finish job = some (s', job')) : Linear ⟨s', p.threads.set i job'⟩ := by
  obtain ⟨call', hadvance, hpassed, hnot⟩ := @advance_acts p.shared.gate _ hacts
  rw [Shared.finish, Shared.pass, hadvance] at hstep
  cases hstep
  obtain ⟨⟨done, hops, hstore⟩, -⟩ := h.acting job (List.mem_of_getElem? hjob) hacts
  rw [hpending, List.append_nil] at hops
  have hreplay : p.shared.store =
      replay (p.shared.log ++ [(job.task, job.snapshot)]) := by
    rw [replay, List.foldl_append]
    show _ = job.task.apply (replay p.shared.log)
    rw [hstore, ← hops, Task.foldl_ops]
  refine h.set hjob (h.guarded.pass hjob hadvance rfl) (fun _ hno => ?_) (fun hyes => ?_)
    (fun j other hne hj hother => ?_) (fun _ => hreplay) (fun before snapshot after heq => ?_) ?_
  · exact absurd (hpassed.symm.trans hno) (by simp)
  · exact absurd (hyes.symm.trans hnot) (by simp)
  · exact absurd (hother.symm.trans (h.guarded.alone hjob hacts hne hj)) (by simp)
  · dsimp only at heq
    rcases List.eq_nil_or_concat after with rfl | ⟨rest, last, rfl⟩
    · obtain ⟨rfl, hlast⟩ := List.append_inj' heq rfl
      obtain ⟨htask, rfl⟩ := Prod.mk.inj (List.singleton_injective hlast)
      exact hcopies htask
    · rw [List.concat_eq_append, ← List.cons_append, ← List.append_assoc] at heq
      obtain ⟨hlog, -⟩ := List.append_inj' heq rfl
      exact h.saved before snapshot rest hlog
  · rw [Job.entry, Job.entry, not_passed hacts, hpassed]
    simp

/-- **One step of a job.** -/
theorem Linear.step (h : Linear p) (hjob : p.threads[i]? = some job) {next : Option AircraftId}
    (hstep : p.shared.advance next job = some (s', job')) : Linear ⟨s', p.threads.set i job'⟩ := by
  rw [Shared.advance] at hstep
  split_ifs at hstep with hacts
  · rcases hpending : job.pending with _ | ⟨op, pending⟩
    · rw [hpending] at hstep
      have hhalfway := h.acting job (List.mem_of_getElem? hjob) hacts
      cases htask : job.task with
      | save =>
        rw [htask] at hstep
        rcases next with _ | id
        · simp only [Shared.copy] at hstep
          split_ifs at hstep with hall
          exact h.finish hjob hacts hpending (fun _ => hhalfway.copies htask hall) hstep
        · simp only [Shared.copy] at hstep
          split at hstep
          · next series hseries _ =>
            cases hstep
            exact h.copy hjob hacts htask hseries
          · cases hstep
      | ingest now msg =>
        rw [htask] at hstep
        exact h.finish hjob hacts hpending (fun hsave => by cases htask.symm.trans hsave) hstep
      | clear =>
        rw [htask] at hstep
        exact h.finish hjob hacts hpending (fun hsave => by cases htask.symm.trans hsave) hstep
      | load loaded =>
        rw [htask] at hstep
        exact h.finish hjob hacts hpending (fun hsave => by cases htask.symm.trans hsave) hstep
    · rw [hpending] at hstep
      cases hstep
      exact h.write hjob hacts hpending
  · exact h.pass hjob (eq_false_of_ne_true hacts) hstep

/-- **A new call.** -/
theorem Linear.call (h : Linear p) (task : Task)
    (hidle : (task.start).receiving = true → p.threads.countP Job.receiving = 0) :
    Linear (machine.next p (.call task)) := by
  have hstart : acts task.start.place = false ∧ passed task.start.place = false := by
    rcases task with _ | _ | _ | _ <;> exact ⟨rfl, rfl⟩
  have hentry : task.start.entry = none := by
    rw [Job.entry, hstart.2]
    rfl
  refine ⟨⟨?_, fun job hjob => ?_, ?_⟩, fun job hjob => ?_, fun job hjob hacts => ?_,
    fun hnone => ?_, h.saved, ?_⟩
  · have hplaces : places (machine.next p (.call task)) =
        gateMachine.next (places p) (.call task.kind) := by
      show (⟨_, (p.threads ++ [task.start]).map Job.place⟩ : Pool IngestionGate GateCall) = _
      rw [List.map_append]
      rfl
    rw [hplaces]
    exact exclusive_call h.guarded.gate task.kind
  · rcases List.mem_append.mp hjob with hold | hnew
    · exact h.guarded.kinds job hold
    · rw [List.mem_singleton.mp hnew]
      rcases task with _ | _ | _ | _ <;> rfl
  · show (p.threads ++ [task.start]).countP Job.receiving ≤ 1
    rw [countP_concat]
    rcases hreceiving : task.start.receiving with _ | _
    · exact h.guarded.receiving
    · rw [hidle hreceiving]
      exact le_rfl
  · rcases List.mem_append.mp hjob with hold | hnew
    · exact h.fresh job hold
    · rw [List.mem_singleton.mp hnew]
      exact fun _ _ => ⟨rfl, rfl⟩
  · rcases List.mem_append.mp hjob with hold | hnew
    · exact h.acting job hold hacts
    · rw [List.mem_singleton.mp hnew] at hacts
      exact absurd (hacts.symm.trans hstart.1) (by simp)
  · exact h.settled fun job hjob => hnone job (List.mem_append_left _ hjob)
  · show p.shared.log.Perm ((p.threads ++ [task.start]).filterMap Job.entry)
    rw [List.filterMap_append, List.filterMap_cons_none hentry, List.filterMap_nil,
      List.append_nil]
    exact h.logged

theorem Linear.next (h : Linear p) (action : Action Task (Option AircraftId)) :
    Linear (next p action) := by
  have hmachine : ∀ action : Action Task (Option AircraftId),
      (∀ task, action = .call task → task.start.receiving = true →
        p.threads.countP Job.receiving = 0) → Linear (machine.next p action) := by
    intro action hcall
    refine Machine.next_inv h action (fun task htask => h.call task (hcall task htask)) ?_
    intro i input job s job' _ hjob hadvance
    exact h.step hjob hadvance
  unfold Snapshots.next
  split
  · split_ifs with hbusy
    · exact h
    · refine hmachine _ fun _ _ _ => List.countP_eq_zero.mpr fun job hjob hreceiving => ?_
      exact hbusy (List.any_eq_true.mpr ⟨job, hjob, hreceiving⟩)
  · next hnot =>
    refine hmachine _ fun task htask hreceiving => ?_
    rcases task with ⟨now, msg⟩ | _ | _ | _
    · exact absurd htask (hnot now msg)
    all_goals cases hreceiving

end Steps

theorem linear_run (actions : List (Action Task (Option AircraftId))) : Linear (run actions) :=
  List.foldlRecOn actions _ linear_start fun _ h action _ => h.next action

/-- **A saved session is the store between two messages**: in every interleaving of the receive loop
with any number of saves, clears and loads, whatever steps their actions take, the store is that of
the actions one after the other, in the order in which they end, whenever none of them runs; each of
them that is over is there once; and each snapshot holds the series of the store at its place among
them, without a receipt. -/
theorem snapshots_run (actions : List (Action Task (Option AircraftId))) :
    let p := run actions
    ((∀ job ∈ p.threads, acts job.place = false) → p.shared.store = replay p.shared.log) ∧
      (∀ before snapshot after, p.shared.log = before ++ (.save, snapshot) :: after →
        Copies snapshot (replay before)) ∧
      p.shared.log.Perm (p.threads.filterMap Job.entry) :=
  ⟨(linear_run actions).settled, (linear_run actions).saved, (linear_run actions).logged⟩

end FlyRuler.Management.Snapshots
