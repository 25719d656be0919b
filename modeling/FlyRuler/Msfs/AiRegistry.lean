import FlyRuler.Lib.Run
import FlyRuler.Playback

/-!
# The registry of AI aircraft

`bindings/msfs/src/ai.rs` with what it uses of `simconnect.rs` and `aircraft.rs`: every update of
the bridge drops the aircraft that are no longer shown, looks at the exceptions and the time-outs,
takes the objects that the simulator has assigned, and asks for new ones.  The answers of the
simulator and the readings of the clock are inputs.

* `card_update`: the registry stays within its limit, whatever happens.
* `Inv.step`, `owned_of_careful`: no object is lost as long as no request is given up too early.
-/

namespace FlyRuler.Msfs

open FlyRuler.Pb FlyRuler.Store FlyRuler.Playback FlyRuler.Lib.Keyed FlyRuler.Lib.Run

def REQUEST_AI_BASE : ℕ := 10000

/-! ## The simulator -/

structure SimConnectException where
  exception : ℕ
  sendId : ℕ
  index : ℕ
  deriving DecidableEq

structure SimConnectClient where
  nextAiRequestId : ℕ := REQUEST_AI_BASE
  assignedObjects : List (ℕ × ℕ) := []
  exceptions : List SimConnectException := []
  deriving DecidableEq

/-- What `next_dispatch` finds. -/
inductive Dispatch where
  | assignedObject (requestId objectId : ℕ)
  | exception (exception : SimConnectException)
  | other
  deriving DecidableEq

/-- How `create_ai_aircraft` ends: the request is not taken, or it is taken but its packet has no
number to be had, or all is well. -/
inductive Creation where
  | refused
  | unnumbered
  | requested (sendId : ℕ)
  deriving DecidableEq

/-- The answers of the simulator to the calls of one update. -/
structure SimAnswers where
  removes : ℕ → Bool
  releases : ℕ → Bool
  -- `ObjectSession::apply` of the first frame
  applies : ℕ → Bool
  creates : AircraftId → Creation
  -- `process`
  processes : AircraftId → Bool

namespace SimConnectClient

variable (client : SimConnectClient)

def pump (dispatches : List Dispatch) : SimConnectClient :=
  dispatches.foldl (fun client dispatch =>
    match dispatch with
    | .assignedObject requestId objectId =>
      { client with assignedObjects := client.assignedObjects ++ [(requestId, objectId)] }
    | .exception exception => { client with exceptions := client.exceptions ++ [exception] }
    | .other => client) client

def takeAssignedObject (requestId : ℕ) : Option (ℕ × SimConnectClient) :=
  (client.assignedObjects.find? fun entry => entry.1 = requestId).map fun entry =>
    (entry.2, { client with assignedObjects := client.assignedObjects.eraseP fun entry =>
      entry.1 = requestId })

/-- The next request id, a `u32` above the base. -/
def advance : SimConnectClient :=
  { client with nextAiRequestId := max ((client.nextAiRequestId + 1) % 2 ^ 32) REQUEST_AI_BASE }

end SimConnectClient

/-! ## The registry -/

structure PendingAi (Frame : Type) where
  requestId : ℕ
  sendId : ℕ
  firstFrame : Frame
  requestedAt : Instant

/-- `AircraftRuntime` by the object it owns. -/
structure AircraftRuntime where
  objectId : ℕ
  deriving DecidableEq

structure AiRegistry (Frame : Type) where
  active : Table AircraftId AircraftRuntime := ∅
  pending : Table AircraftId (PendingAi Frame) := ∅
  retryAfter : Table AircraftId Instant := ∅

/-- An object that the simulator has assigned, and whether it has been removed since. -/
structure Assignment where
  requestId : ℕ
  objectId : ℕ
  removed : Bool
  deriving DecidableEq

/-- The bridge, and the objects assigned so far. -/
structure World (Frame : Type) where
  simulator : SimConnectClient := {}
  registry : AiRegistry Frame := {}
  assigned : List Assignment := []

/-- The readings of the clock in one update. -/
structure Clock where
  loopStart : Instant
  exceptions : Instant
  elapsed : AircraftId → Instant
  timeouts : Instant
  creation : Instant

/-- The arguments of `update` that the registry depends on, with the clock, the answers and the
order in which the table of the pending requests is walked. -/
structure UpdateArgs where
  store : TimeSeriesStore
  playbackState : PlaybackSnapshot
  userAircraftId : Option AircraftId
  maxAiAircraft : ℕ
  clock : Clock
  answers : SimAnswers
  order : List AircraftId

def candidates (store : TimeSeriesStore) (playbackState : PlaybackSnapshot)
    (userAircraftId : Option AircraftId) (maxAiAircraft : ℕ) : List AircraftId :=
  let cursor : F64 := match playbackState.mode with
    | .live => .posInf
    | _ => match playbackState.cursorSecs with
      | some cursor => .finite cursor
      | none => .negInf
  ((store.getAircraftIds.filter fun id => userAircraftId ≠ some id).filter fun id =>
    store.isSpawnedAt id cursor).insertionSort (· ≤ ·) |>.take maxAiAircraft

/-- The candidates of one update. -/
def UpdateArgs.keep (args : UpdateArgs) : List AircraftId :=
  candidates args.store args.playbackState args.userAircraftId args.maxAiAircraft

/-- `resolve_sample` of `bindings/msfs/src/aircraft.rs`. -/
def resolveSample (store : TimeSeriesStore) (playbackState : PlaybackSnapshot) (id : AircraftId) :
    Option TimestampedState :=
  match playbackState.mode with
  | .live => if store.isSpawnedAt id .posInf then store.getLatest id else none
  | _ => playbackState.cursorSecs.bind fun cursor =>
    if store.isSpawnedAt id (.finite cursor) then store.getStateAtOrBefore id (.finite cursor)
    else none

namespace World

variable {Frame : Type} (w : World Frame)

def withPending (pending : Table AircraftId (PendingAi Frame)) : World Frame :=
  { w with registry := { w.registry with pending := pending } }

def withActive (active : Table AircraftId AircraftRuntime) : World Frame :=
  { w with registry := { w.registry with active := active } }

def retryLater (id : AircraftId) (now : Instant) : World Frame :=
  { w with registry := { w.registry with retryAfter := w.registry.retryAfter.insert id (now + 5) } }

/-- `remove_ai_object`, if it succeeds. -/
def removeAiObjects (objectIds : List ℕ) : World Frame :=
  { w with assigned := w.assigned.map fun assignment =>
      if assignment.objectId ∈ objectIds then { assignment with removed := true }
      else assignment }

/-- `remove_missing`. -/
def removeMissing (answers : SimAnswers) (keep : List AircraftId) : World Frame :=
  let remove := (toPairs w.registry.active).filter fun entry => entry.1 ∉ keep
  ((w.withPending (retain (fun id _ => id ∈ keep) w.registry.pending)).withActive
    (retain (fun id _ => id ∈ keep) w.registry.active)).removeAiObjects
      ((remove.map fun entry => entry.2.objectId).filter answers.removes)

/-- One drained exception: the pending request it is about is given up. -/
def handleException (args : UpdateArgs) (exception : SimConnectException) : World Frame :=
  match args.order.find? fun id =>
    (w.registry.pending.lookup id).any fun pending => pending.sendId = exception.sendId with
  | some id =>
    (w.withPending (w.registry.pending.erase id)).retryLater id args.clock.exceptions
  | none => w

def drainExceptions (args : UpdateArgs) : World Frame :=
  w.simulator.exceptions.foldl (fun w exception => w.handleException args exception)
    { w with simulator := { w.simulator with exceptions := [] } }

def timedOut (args : UpdateArgs) : List AircraftId :=
  args.order.filter fun id => (w.registry.pending.lookup id).any fun pending =>
    10 ≤ args.clock.elapsed id - pending.requestedAt

def expire (args : UpdateArgs) : World Frame :=
  (w.timedOut args).foldl (fun w id => (w.withPending (w.registry.pending.erase id)).retryLater id
    args.clock.timeouts) w

/-- One pending request: if its object is there, it is taken; `false` is an error. -/
def assign (args : UpdateArgs) (keep : List AircraftId) (id : AircraftId) : World Frame × Bool :=
  match w.registry.pending.lookup id with
  | none => (w, true)
  | some pending =>
    match w.simulator.takeAssignedObject pending.requestId with
    | none => (w, true)
    | some (objectId, simulator) =>
      let w := { w with simulator := simulator }.withPending (w.registry.pending.erase id)
      if id ∉ keep then
        if args.answers.removes objectId then (w.removeAiObjects [objectId], true) else (w, false)
      else if !args.answers.releases objectId then (w, false)
      else if !args.answers.applies objectId then (w, false)
      else (w.withActive (w.registry.active.insert id ⟨objectId⟩), true)

/-- One candidate: if there is room, it is asked for; `false` leaves the loop. -/
def create (frameFromState : AircraftState → Option Frame) (args : UpdateArgs) (id : AircraftId) :
    World Frame × Bool :=
  if (w.registry.active.lookup id).isSome || (w.registry.pending.lookup id).isSome then (w, true)
  else if args.maxAiAircraft ≤ w.registry.active.entries.length + w.registry.pending.entries.length
    then (w, false)
  else if (w.registry.retryAfter.lookup id).any fun retryAfter =>
    args.clock.creation < retryAfter then (w, true)
  else
    match (resolveSample args.store args.playbackState id).bind fun sample =>
      frameFromState sample.item with
    | none => (w, true)
    | some frame =>
      let requestId := w.simulator.nextAiRequestId
      let w := { w with simulator := w.simulator.advance }
      match args.answers.creates id with
      | .requested sendId =>
        (w.withPending (w.registry.pending.insert id
          ⟨requestId, sendId, frame, args.clock.loopStart⟩), true)
      | _ => (w.retryLater id args.clock.creation, true)

/-- `update`; the flag says whether it answers `Ok(())`. -/
def update (frameFromState : AircraftState → Option Frame) (args : UpdateArgs) :
    World Frame × Bool :=
  let keep := args.keep
  let w := ((w.removeMissing args.answers keep).drainExceptions args).expire args
  match loopWhile (fun w id => w.assign args keep id) w args.order with
  | (w, false) => (w, false)
  | (w, true) =>
    let w := (loopWhile (fun w id => w.create frameFromState args id) w keep).1
    (w, keep.all fun id => (w.registry.active.lookup id).isNone || args.answers.processes id)

end World

/-! ## Runs -/

inductive AiInput where
  | pump (dispatches : List Dispatch)
  | update (args : UpdateArgs)

def Dispatch.assignment : Dispatch → Option Assignment
  | assignedObject requestId objectId => some ⟨requestId, objectId, false⟩
  | _ => none

variable {Frame : Type}

/-- What reaches the bridge between two updates, or one update. -/
def aiStep (frameFromState : AircraftState → Option Frame) (w : World Frame) :
    AiInput → World Frame
  | .pump dispatches =>
    { w with
      simulator := w.simulator.pump dispatches
      assigned := w.assigned ++ dispatches.filterMap Dispatch.assignment }
  | .update args => (w.update frameFromState args).1

/-- **No leak**: every object assigned is owned by exactly one aircraft, or waits for a request that
is still pending, or has been removed. -/
def Owned (w : World Frame) : Prop :=
  ∀ assignment ∈ w.assigned,
    (∃! id, w.registry.active.lookup id = some ⟨assignment.objectId⟩) ∨
      ((assignment.requestId, assignment.objectId) ∈ w.simulator.assignedObjects ∧
        ∃ id pending, w.registry.pending.lookup id = some pending ∧
          pending.requestId = assignment.requestId) ∨
      assignment.removed = true

/-- The objects that have not been removed. -/
def World.liveObjects (w : World Frame) : List ℕ :=
  (w.assigned.filter fun assignment => !assignment.removed).map Assignment.objectId

/-- `active.len() + pending.len()`. -/
def World.aircraftCount (w : World Frame) : ℕ :=
  w.registry.active.entries.length + w.registry.pending.entries.length

/-- The requests whose objects wait to be taken. -/
def World.answered (w : World Frame) : List ℕ := w.simulator.assignedObjects.map Prod.fst

/-- What a step may meet.  The simulator assigns a new object, and one to each request, and the
request is still pending.  An update gives up no request whose object waits: its aircraft is still
shown, no exception is about it and its time is not over.  The calls that remove an object, release
its control and set its first frame succeed. -/
def CarefulAi (w : World Frame) : AiInput → Prop
  | .pump dispatches =>
    let assignments := dispatches.filterMap Dispatch.assignment
    (∀ assignment ∈ assignments, ∃ id pending, w.registry.pending.lookup id = some pending ∧
        pending.requestId = assignment.requestId) ∧
      (w.answered ++ assignments.map Assignment.requestId).Nodup ∧
      (assignments.map Assignment.objectId).Nodup ∧
      ∀ assignment ∈ assignments, assignment.objectId ∉ w.liveObjects
  | .update args =>
    (∀ objectId, args.answers.removes objectId = true) ∧
      (∀ entry ∈ w.simulator.assignedObjects, args.answers.releases entry.2 = true ∧
        args.answers.applies entry.2 = true) ∧
      ∀ id pending, w.registry.pending.lookup id = some pending →
        pending.requestId ∈ w.answered →
        id ∈ args.keep ∧ (∀ exception ∈ w.simulator.exceptions,
            pending.sendId ≠ exception.sendId) ∧
          ¬10 ≤ args.clock.elapsed id - pending.requestedAt

/-! ## What the calls leave -/

section

variable {w w' w'' : World Frame} {args : UpdateArgs} {keep : List AircraftId}

@[simp] theorem World.active_withActive (active : Table AircraftId AircraftRuntime) :
    (w.withActive active).registry.active = active := rfl

/-- Some pending requests are given up, and nothing else of the ownership changes. -/
structure GivesUp (gone : AircraftId → PendingAi Frame → Prop) (w w' : World Frame) : Prop where
  waiting : w'.simulator.assignedObjects = w.simulator.assignedObjects
  active : w'.registry.active = w.registry.active
  assigned : w'.assigned = w.assigned
  pending : ∀ id pending, w'.registry.pending.lookup id = some pending →
    w.registry.pending.lookup id = some pending
  kept : ∀ id pending, w.registry.pending.lookup id = some pending → ¬gone id pending →
    w'.registry.pending.lookup id = some pending

theorem GivesUp.refl (gone : AircraftId → PendingAi Frame → Prop) (w : World Frame) :
    GivesUp gone w w := ⟨rfl, rfl, rfl, fun _ _ h => h, fun _ _ h _ => h⟩

theorem GivesUp.trans {gone gone' : AircraftId → PendingAi Frame → Prop} (h : GivesUp gone w w')
    (h' : GivesUp gone' w' w'') : GivesUp (fun id pending => gone id pending ∨ gone' id pending)
      w w'' where
  waiting := h'.waiting.trans h.waiting
  active := h'.active.trans h.active
  assigned := h'.assigned.trans h.assigned
  pending id pending hid := h.pending id pending (h'.pending id pending hid)
  kept id pending hid hgone :=
    h'.kept id pending (h.kept id pending hid fun hfirst => hgone (.inl hfirst))
      fun hsecond => hgone (.inr hsecond)

theorem GivesUp.mono {gone gone' : AircraftId → PendingAi Frame → Prop} (h : GivesUp gone w w')
    (hgone : ∀ id pending, gone id pending → gone' id pending) : GivesUp gone' w w' :=
  ⟨h.waiting, h.active, h.assigned, h.pending,
    fun id pending hid hnot => h.kept id pending hid fun hid' => hnot (hgone id pending hid')⟩

/-- One request is given up. -/
theorem givesUp_erase (w : World Frame) (id : AircraftId) (now : Instant) :
    GivesUp (fun id' _ => id' = id) w
      ((w.withPending (w.registry.pending.erase id)).retryLater id now) where
  waiting := rfl
  active := rfl
  assigned := rfl
  pending id' pending hid := by
    change (w.registry.pending.erase id).lookup id' = some pending at hid
    rw [lookup_erase] at hid
    split at hid
    · simp at hid
    · exact hid
  kept id' pending hid hne := by
    change (w.registry.pending.erase id).lookup id' = some pending
    rw [lookup_erase, if_neg hne, hid]

theorem givesUp_handleException (w : World Frame) (args : UpdateArgs)
    (exception : SimConnectException) :
    GivesUp (fun _ pending => pending.sendId = exception.sendId) w
      (w.handleException args exception) := by
  rw [World.handleException]
  split
  · next id hfind =>
    have hid := List.find?_some hfind
    have hgives := givesUp_erase w id args.clock.exceptions
    refine ⟨rfl, rfl, rfl, hgives.pending, fun id' pending hid' hne => ?_⟩
    refine hgives.kept id' pending hid' ?_
    rintro rfl
    rw [hid'] at hid
    exact hne (by simpa using hid)
  · exact .refl _ w

theorem givesUp_drainExceptions (w : World Frame) (args : UpdateArgs) :
    GivesUp (fun _ pending => ∃ exception ∈ w.simulator.exceptions,
      pending.sendId = exception.sendId) w (w.drainExceptions args) := by
  rw [World.drainExceptions]
  have hfold : ∀ (exceptions : List SimConnectException) (w' : World Frame),
      GivesUp (fun _ pending => ∃ exception ∈ exceptions, pending.sendId = exception.sendId) w'
        (exceptions.foldl (fun w exception => w.handleException args exception) w') := by
    intro exceptions
    induction exceptions with
    | nil => exact fun w' => .refl _ w'
    | cons exception exceptions ih =>
      intro w'
      refine ((givesUp_handleException w' args exception).trans (ih _)).mono ?_
      rintro id pending (hsend | ⟨exception', hmem, hsend⟩)
      · exact ⟨exception, List.mem_cons_self, hsend⟩
      · exact ⟨exception', List.mem_cons_of_mem _ hmem, hsend⟩
  obtain ⟨hwaiting, hactive, hassigned, hpending, hkept⟩ :=
    hfold w.simulator.exceptions { w with simulator := { w.simulator with exceptions := [] } }
  exact ⟨hwaiting, hactive, hassigned, hpending, hkept⟩

theorem givesUp_expire (w : World Frame) (args : UpdateArgs) :
    GivesUp (fun id pending => 10 ≤ args.clock.elapsed id - pending.requestedAt) w
      (w.expire args) := by
  rw [World.expire]
  have hfold : ∀ (ids : List AircraftId) (w' : World Frame),
      GivesUp (fun id _ => id ∈ ids) w' (ids.foldl (fun w id =>
        (w.withPending (w.registry.pending.erase id)).retryLater id args.clock.timeouts) w') := by
    intro ids
    induction ids with
    | nil => exact fun w' => .refl _ w'
    | cons id ids ih =>
      intro w'
      refine ((givesUp_erase w' id _).trans (ih _)).mono ?_
      rintro id' - (rfl | hmem)
      · exact List.mem_cons_self
      · exact List.mem_cons_of_mem _ hmem
  have hgives := hfold (w.timedOut args) w
  refine ⟨hgives.waiting, hgives.active, hgives.assigned, hgives.pending,
    fun id pending hid hnot => hgives.kept id pending hid fun hmem => hnot ?_⟩
  rw [World.timedOut, List.mem_filter, hid] at hmem
  simpa using hmem.2

/-- What `take_assigned_object` finds and leaves. -/
theorem takeAssignedObject_eq_some {client client' : SimConnectClient} {requestId objectId : ℕ}
    (h : client.takeAssignedObject requestId = some (objectId, client')) :
    ∃ front back, client.assignedObjects = front ++ (requestId, objectId) :: back ∧
      client' = { client with assignedObjects := front ++ back } := by
  obtain ⟨entry, hfind, hentry⟩ := Option.map_eq_some_iff.mp h
  obtain ⟨hid, front, back, hsplit, hfront⟩ := List.find?_eq_some_iff_append.mp hfind
  obtain ⟨rfl, rfl⟩ := Prod.mk.inj hentry
  obtain rfl : entry.1 = requestId := by simpa using hid
  refine ⟨front, back, hsplit, ?_⟩
  have hleft : ∀ e ∈ front, ¬decide (e.1 = entry.1) = true := by
    intro e he
    simpa using hfront e he
  rw [hsplit, List.eraseP_append_right _ hleft, List.eraseP_cons_of_pos (by simp)]

theorem assignedObjects_pump (client : SimConnectClient) (dispatches : List Dispatch) :
    (client.pump dispatches).assignedObjects = client.assignedObjects ++
      (dispatches.filterMap Dispatch.assignment).map fun assignment =>
        (assignment.requestId, assignment.objectId) := by
  rw [SimConnectClient.pump]
  induction dispatches generalizing client with
  | nil => simp
  | cons dispatch dispatches ih =>
    rw [List.foldl_cons, ih]
    rcases dispatch with ⟨requestId, objectId⟩ | exception | _
    · simp [Dispatch.assignment]
    · rfl
    · rfl

/-- The world when the object of a pending request has been taken. -/
def World.taken (w : World Frame) (id : AircraftId) (waiting : List (ℕ × ℕ)) : World Frame :=
  { w with simulator := { w.simulator with assignedObjects := waiting } }.withPending
    (w.registry.pending.erase id)

/-- One turn of the loop over the pending requests. -/
theorem assign_cases (w : World Frame) (args : UpdateArgs) (keep : List AircraftId)
    (id : AircraftId) :
    (w.assign args keep id).1 = w ∨ ∃ pending objectId front back,
      w.registry.pending.lookup id = some pending ∧
      w.simulator.assignedObjects = front ++ (pending.requestId, objectId) :: back ∧
      ((id ∉ keep ∧ ((w.assign args keep id).1 =
            (w.taken id (front ++ back)).removeAiObjects [objectId] ∨
          (w.assign args keep id).1 = w.taken id (front ++ back))) ∨
        ((args.answers.releases objectId = false ∨ args.answers.applies objectId = false) ∧
          (w.assign args keep id).1 = w.taken id (front ++ back)) ∨
        id ∈ keep ∧ (w.assign args keep id).1 = (w.taken id (front ++ back)).withActive
          (w.registry.active.insert id ⟨objectId⟩)) := by
  rw [World.assign]
  rcases hpending : w.registry.pending.lookup id with _ | pending
  · exact .inl rfl
  rcases htake : w.simulator.takeAssignedObject pending.requestId with _ | ⟨objectId, simulator⟩
  · simp only [htake]
    exact .inl trivial
  obtain ⟨front, back, hsplit, rfl⟩ := takeAssignedObject_eq_some htake
  refine .inr ⟨pending, objectId, front, back, rfl, hsplit, ?_⟩
  simp only [htake]
  split
  · next hkeep =>
    refine .inl ⟨hkeep, ?_⟩
    split
    · exact .inl rfl
    · exact .inr rfl
  · next hkeep =>
    split
    · next hrelease => exact .inr (.inl ⟨.inl (by simpa using hrelease), rfl⟩)
    · split
      · next happly => exact .inr (.inl ⟨.inr (by simpa using happly), rfl⟩)
      · exact .inr (.inr ⟨not_not.mp hkeep, rfl⟩)

/-- One turn of the loop over the candidates: the ownership stays, or there is one more request. -/
theorem create_cases (w : World Frame) (frameFromState : AircraftState → Option Frame)
    (args : UpdateArgs) (id : AircraftId) :
    let w' := (w.create frameFromState args id).1
    w'.assigned = w.assigned ∧ w'.registry.active = w.registry.active ∧
      w'.simulator.assignedObjects = w.simulator.assignedObjects ∧
      (w'.registry.pending = w.registry.pending ∨
        w.registry.active.lookup id = none ∧ w.registry.pending.lookup id = none ∧
          ∃ pending, w'.registry.pending = w.registry.pending.insert id pending) := by
  dsimp only
  rw [World.create]
  by_cases hnew : ((w.registry.active.lookup id).isSome ||
      (w.registry.pending.lookup id).isSome) = true
  · rw [if_pos hnew]
    exact ⟨rfl, rfl, rfl, .inl rfl⟩
  rw [if_neg hnew]
  split
  · exact ⟨rfl, rfl, rfl, .inl rfl⟩
  split
  · exact ⟨rfl, rfl, rfl, .inl rfl⟩
  split
  · exact ⟨rfl, rfl, rfl, .inl rfl⟩
  dsimp only
  split
  · rw [Bool.not_eq_true, Bool.or_eq_false_iff] at hnew
    refine ⟨rfl, rfl, rfl, .inr ⟨?_, ?_, _, rfl⟩⟩
    · simpa using hnew.1
    · simpa using hnew.2
  · exact ⟨rfl, rfl, rfl, .inl rfl⟩

/-! ## The limit -/

/-- No aircraft is active and pending at once. -/
def Apart (w : World Frame) : Prop :=
  ∀ id, (w.registry.active.lookup id).isSome → w.registry.pending.lookup id = none

/-- The registry is about these aircraft only. -/
structure Tidy (keep : List AircraftId) (w : World Frame) : Prop where
  apart : Apart w
  active : ∀ id, (w.registry.active.lookup id).isSome → id ∈ keep
  pending : ∀ id, (w.registry.pending.lookup id).isSome → id ∈ keep

theorem tidy_removeMissing (h : Apart w) (answers : SimAnswers) (keep : List AircraftId) :
    Tidy keep (w.removeMissing answers keep) := by
  have hactive : ∀ id, (w.removeMissing answers keep).registry.active.lookup id =
      (w.registry.active.lookup id).filter fun _ => id ∈ keep := lookup_retain _ _
  have hpending : ∀ id, (w.removeMissing answers keep).registry.pending.lookup id =
      (w.registry.pending.lookup id).filter fun _ => id ∈ keep := lookup_retain _ _
  refine ⟨fun id hid => ?_, fun id hid => ?_, fun id hid => ?_⟩
  · rw [hactive] at hid
    rw [hpending, h id (Option.isSome_of_isSome_filter _ _ hid)]
    rfl
  · rw [hactive] at hid
    obtain ⟨_, hmem⟩ := Option.isSome_iff_exists.mp hid
    simpa using (Option.filter_eq_some_iff.mp hmem).2
  · rw [hpending] at hid
    obtain ⟨_, hmem⟩ := Option.isSome_iff_exists.mp hid
    simpa using (Option.filter_eq_some_iff.mp hmem).2

theorem Tidy.givesUp {gone : AircraftId → PendingAi Frame → Prop} (h : Tidy keep w)
    (hgives : GivesUp gone w w') : Tidy keep w' := by
  have hpending : ∀ id, (w'.registry.pending.lookup id).isSome →
      (w.registry.pending.lookup id).isSome := by
    intro id hid
    obtain ⟨pending, hid⟩ := Option.isSome_iff_exists.mp hid
    exact Option.isSome_of_mem (hgives.pending id pending hid)
  refine ⟨fun id hid => ?_, fun id hid => ?_, fun id hid => h.pending id (hpending id hid)⟩
  · rw [hgives.active] at hid
    by_contra hsome
    have hold := hpending id (Option.isSome_iff_ne_none.mpr hsome)
    rw [h.apart id hid] at hold
    simp at hold
  · rw [hgives.active] at hid
    exact h.active id hid

/-- A request less, and perhaps its aircraft more. -/
theorem Tidy.taken (h : Tidy keep w) (id : AircraftId) (waiting : List (ℕ × ℕ)) :
    Tidy keep (w.taken id waiting) ∧ (id ∈ keep → ∀ runtime,
      Tidy keep ((w.taken id waiting).withActive (w.registry.active.insert id runtime))) := by
  have hpending : ∀ id', ((w.registry.pending.erase id).lookup id').isSome →
      id' ≠ id ∧ (w.registry.pending.lookup id').isSome := by
    intro id' hid'
    rw [lookup_erase] at hid'
    split at hid'
    · simp at hid'
    · next hne => exact ⟨hne, hid'⟩
  have herase : ∀ id', w.registry.pending.lookup id' = none →
      (w.registry.pending.erase id).lookup id' = none := by
    intro id' hid'
    rw [lookup_erase, hid', ite_self]
  refine ⟨⟨fun id' hid' => herase id' (h.apart id' hid'), h.active,
    fun id' hid' => h.pending id' (hpending id' hid').2⟩, fun hkeep runtime => ⟨?_, ?_, ?_⟩⟩
  · intro id' hid'
    rw [World.active_withActive, lookup_insert] at hid'
    change (w.registry.pending.erase id).lookup id' = none
    split at hid'
    · next heq => rw [heq, AList.lookup_erase]
    · exact herase id' (h.apart id' hid')
  · intro id' hid'
    rw [World.active_withActive, lookup_insert] at hid'
    split at hid'
    · next heq => exact heq ▸ hkeep
    · exact h.active id' hid'
  · exact fun id' hid' => h.pending id' (hpending id' hid').2

theorem Tidy.assign (h : Tidy keep w) (args : UpdateArgs) (id : AircraftId) :
    Tidy keep (w.assign args keep id).1 := by
  rcases assign_cases w args keep id with heq | ⟨_, _, front, back, -, -, hcases⟩
  · rwa [heq]
  obtain ⟨htaken, hactive⟩ := h.taken id (front ++ back)
  rcases hcases with ⟨-, heq | heq⟩ | ⟨-, heq⟩ | ⟨hkeep, heq⟩
  · rw [heq]
    exact ⟨htaken.apart, htaken.active, htaken.pending⟩
  · rwa [heq]
  · rwa [heq]
  · rw [heq]
    exact hactive hkeep _

theorem Tidy.create (h : Tidy keep w) (frameFromState : AircraftState → Option Frame)
    (args : UpdateArgs) {id : AircraftId} (hid : id ∈ keep) :
    Tidy keep (w.create frameFromState args id).1 := by
  obtain ⟨-, hactive, -, hpending | ⟨hnone, -, pending, hpending⟩⟩ :=
    create_cases w frameFromState args id
  · refine ⟨?_, ?_, ?_⟩
    · rw [Apart, hactive, hpending]
      exact h.apart
    · rw [hactive]
      exact h.active
    · rw [hpending]
      exact h.pending
  · refine ⟨?_, ?_, ?_⟩
    · intro id' hid'
      rw [hactive] at hid'
      rw [hpending, lookup_insert]
      split
      · next heq =>
        rw [heq, hnone] at hid'
        simp at hid'
      · exact h.apart id' hid'
    · rw [hactive]
      exact h.active
    · intro id' hid'
      rw [hpending, lookup_insert] at hid'
      split at hid'
      · next heq => exact heq ▸ hid
      · exact h.pending id' hid'

/-- **The limit.** -/
theorem Tidy.card_le (h : Tidy keep w) : w.aircraftCount ≤ keep.length := by
  have hmem : ∀ {α : Type} {m : Table AircraftId α} {id}, id ∈ m.keys → (m.lookup id).isSome := by
    intro α m id hid
    exact AList.lookup_isSome.mpr (AList.mem_keys.mpr hid)
  have hnodup : (w.registry.active.keys ++ w.registry.pending.keys).Nodup := by
    refine List.nodup_append.mpr ⟨w.registry.active.keys_nodup, w.registry.pending.keys_nodup, ?_⟩
    rintro id hactive _ hpending rfl
    exact notMem_keys_iff.mpr (h.apart id (hmem hactive)) hpending
  have hsubset : w.registry.active.keys ++ w.registry.pending.keys ⊆ keep := by
    intro id hid
    rcases List.mem_append.mp hid with hid | hid
    · exact h.active id (hmem hid)
    · exact h.pending id (hmem hid)
  have hle := (List.subperm_of_subset hnodup hsubset).length_le
  rw [List.length_append] at hle
  simpa [World.aircraftCount, AList.keys, List.keys] using hle

/-! ## The stages of an update -/

/-- The rule for updates: what holds when requests have been given up and every turn of the two
loops keeps. -/
theorem update_inv {I : World Frame → Prop} (frameFromState : AircraftState → Option Frame)
    (h : I (((w.removeMissing args.answers args.keep).drainExceptions args).expire args))
    (hassign : ∀ w id, I w → I (w.assign args args.keep id).1)
    (hcreate : ∀ w, ∀ id ∈ args.keep, I w → I (w.create frameFromState args id).1) :
    I (w.update frameFromState args).1 := by
  rw [World.update]
  have hassigned : I (loopWhile (fun w id => w.assign args args.keep id) _ args.order).1 :=
    loopWhile_inv (fun w id _ => hassign w id) h
  dsimp only
  split
  · next w' hw' => rwa [hw'] at hassigned
  · next w' hw' =>
    rw [hw'] at hassigned
    exact loopWhile_inv hcreate hassigned

theorem tidy_update (h : Apart w) (frameFromState : AircraftState → Option Frame)
    (args : UpdateArgs) : Tidy args.keep (w.update frameFromState args).1 := by
  refine update_inv frameFromState ?_ (fun w id hw => hw.assign args id) fun w id hid hw =>
    hw.create frameFromState args hid
  exact ((tidy_removeMissing h _ _).givesUp (givesUp_drainExceptions _ args)).givesUp
    (givesUp_expire _ args)

theorem apart_step (h : Apart w) (frameFromState : AircraftState → Option Frame)
    (input : AiInput) : Apart (aiStep frameFromState w input) := by
  cases input with
  | pump dispatches => exact h
  | update args => exact (tidy_update h frameFromState args).apart

/-- **The registry stays within its limit** after every update of every run. -/
theorem card_update (h : Apart w) (frameFromState : AircraftState → Option Frame)
    (args : UpdateArgs) :
    (w.update frameFromState args).1.aircraftCount ≤ args.maxAiAircraft := by
  refine (tidy_update h frameFromState args).card_le.trans ?_
  exact List.length_take_le _ _

/-! ## Ownership -/

/-- Every object that has not been removed is in one place: with an active aircraft, or waiting for
a request that is still pending. -/
structure Inv (w : World Frame) : Prop where
  apart : Apart w
  owned : ∀ assignment ∈ w.assigned, assignment.removed = false →
    (∃ id, w.registry.active.lookup id = some ⟨assignment.objectId⟩) ∨
      ((assignment.requestId, assignment.objectId) ∈ w.simulator.assignedObjects ∧
        ∃ id pending, w.registry.pending.lookup id = some pending ∧
          pending.requestId = assignment.requestId)
  active_live : ∀ id runtime, w.registry.active.lookup id = some runtime →
    runtime.objectId ∈ w.liveObjects
  active_inj : ∀ id id' runtime, w.registry.active.lookup id = some runtime →
    w.registry.active.lookup id' = some runtime → id = id'
  waiting_live : ∀ entry ∈ w.simulator.assignedObjects, entry.2 ∈ w.liveObjects
  waiting_free : ∀ entry ∈ w.simulator.assignedObjects, ∀ id,
    w.registry.active.lookup id ≠ some ⟨entry.2⟩
  objects_nodup : (w.simulator.assignedObjects.map Prod.snd).Nodup
  requests_nodup : w.answered.Nodup

theorem Inv.noLeak (h : Inv w) : Owned w := by
  intro assignment hmem
  rcases hremoved : assignment.removed with _ | _
  · rcases h.owned assignment hmem hremoved with ⟨id, hid⟩ | hwaiting
    · exact .inl ⟨id, hid, fun id' hid' => h.active_inj id' id _ hid' hid⟩
    · exact .inr (.inl hwaiting)
  · exact .inr (.inr rfl)

theorem inv_empty : Inv ({} : World Frame) := by
  refine ⟨fun id hid => ?_, ?_, ?_, ?_, ?_, ?_, ?_, ?_⟩
  all_goals simp_all [World.answered]

theorem mem_liveObjects {objectId : ℕ} : objectId ∈ w.liveObjects ↔
    ∃ assignment ∈ w.assigned, assignment.removed = false ∧ assignment.objectId = objectId := by
  simp [World.liveObjects, and_assoc]

/-- A change of the pending requests that keeps those whose objects wait. -/
theorem Inv.of_pending (h : Inv w)
    (hwaiting : w'.simulator.assignedObjects = w.simulator.assignedObjects)
    (hactive : w'.registry.active = w.registry.active) (hassigned : w'.assigned = w.assigned)
    (hapart : Apart w') (hkept : ∀ id pending, w.registry.pending.lookup id = some pending →
      pending.requestId ∈ w.answered → w'.registry.pending.lookup id = some pending) : Inv w' := by
  have hlive : w'.liveObjects = w.liveObjects := by
    rw [World.liveObjects, hassigned, World.liveObjects]
  refine ⟨hapart, ?_, ?_, ?_, ?_, ?_, ?_, ?_⟩
  · intro assignment hmem hremoved
    rw [hassigned] at hmem
    rw [hactive, hwaiting]
    refine (h.owned assignment hmem hremoved).imp_right ?_
    rintro ⟨hmem', id, pending, hid, hrequest⟩
    refine ⟨hmem', id, pending, hkept id pending hid ?_, hrequest⟩
    rw [hrequest]
    exact List.mem_map_of_mem hmem'
  · rw [hactive, hlive]
    exact h.active_live
  · rw [hactive]
    exact h.active_inj
  · rw [hwaiting, hlive]
    exact h.waiting_live
  · rw [hwaiting, hactive]
    exact h.waiting_free
  · rw [hwaiting]
    exact h.objects_nodup
  · rw [World.answered, hwaiting]
    exact h.requests_nodup

/-- Giving up requests whose objects do not wait. -/
theorem Inv.givesUp {gone : AircraftId → PendingAi Frame → Prop} (h : Inv w)
    (hgives : GivesUp gone w w') (hgone : ∀ id pending,
      w.registry.pending.lookup id = some pending → pending.requestId ∈ w.answered →
        ¬gone id pending) : Inv w' := by
  refine h.of_pending hgives.waiting hgives.active hgives.assigned ?_ fun id pending hid hmem =>
    hgives.kept id pending hid (hgone id pending hid hmem)
  intro id hid
  rw [hgives.active] at hid
  by_contra hsome
  obtain ⟨pending, hpending⟩ := Option.ne_none_iff_exists'.mp hsome
  have hold := hgives.pending id pending hpending
  rw [h.apart id hid] at hold
  simp at hold

theorem Inv.create (h : Inv w) (frameFromState : AircraftState → Option Frame)
    (args : UpdateArgs) (id : AircraftId) : Inv (w.create frameFromState args id).1 := by
  obtain ⟨hassigned, hactive, hwaiting, hsame | ⟨hnone, hnone', new, hnew⟩⟩ :=
    create_cases w frameFromState args id
  · refine h.of_pending hwaiting hactive hassigned ?_ fun id' pending hid' _ => by rw [hsame, hid']
    rw [Apart, hactive, hsame]
    exact h.apart
  · refine h.of_pending hwaiting hactive hassigned ?_ fun id' pending hid' _ => ?_
    · intro id' hid'
      rw [hactive] at hid'
      rw [hnew, lookup_insert, if_neg, h.apart id' hid']
      rintro rfl
      rw [hnone] at hid'
      simp at hid'
    · rw [hnew, lookup_insert, if_neg, hid']
      rintro rfl
      rw [hnone'] at hid'
      simp at hid'

theorem mem_removeAiObjects {objectIds : List ℕ} {assignment : Assignment} :
    assignment ∈ (w.removeAiObjects objectIds).assigned ∧ assignment.removed = false ↔
      assignment ∈ w.assigned ∧ assignment.removed = false ∧ assignment.objectId ∉ objectIds := by
  rw [World.removeAiObjects, List.mem_map]
  constructor
  · rintro ⟨⟨old, hold, hnew⟩, hremoved⟩
    split at hnew
    · rw [← hnew] at hremoved
      simp at hremoved
    · next hnot => exact hnew ▸ ⟨hold, hnew ▸ hremoved, hnot⟩
  · rintro ⟨hmem, hremoved, hnot⟩
    exact ⟨⟨assignment, hmem, if_neg hnot⟩, hremoved⟩

theorem mem_liveObjects_removeAiObjects {objectIds : List ℕ} {objectId : ℕ} :
    objectId ∈ (w.removeAiObjects objectIds).liveObjects ↔
      objectId ∈ w.liveObjects ∧ objectId ∉ objectIds := by
  rw [mem_liveObjects, mem_liveObjects]
  constructor
  · rintro ⟨assignment, hmem, hremoved, rfl⟩
    obtain ⟨hmem', -, hnot⟩ := mem_removeAiObjects.mp ⟨hmem, hremoved⟩
    exact ⟨⟨assignment, hmem', hremoved, rfl⟩, hnot⟩
  · rintro ⟨⟨assignment, hmem, hremoved, rfl⟩, hnot⟩
    exact ⟨assignment, (mem_removeAiObjects.mpr ⟨hmem, hremoved, hnot⟩).1, hremoved, rfl⟩

/-- The objects that `remove_missing` removes. -/
def World.missing (w : World Frame) (keep : List AircraftId) : List ℕ :=
  ((toPairs w.registry.active).filter fun entry => entry.1 ∉ keep).map fun entry => entry.2.objectId

theorem mem_missing {objectId : ℕ} : objectId ∈ w.missing keep ↔
    ∃ id, w.registry.active.lookup id = some ⟨objectId⟩ ∧ id ∉ keep := by
  simp only [World.missing, List.mem_map, List.mem_filter, Prod.exists, mem_toPairs,
    decide_eq_true_eq]
  constructor
  · rintro ⟨id, ⟨_⟩, ⟨hid, hkeep⟩, rfl⟩
    exact ⟨id, hid, hkeep⟩
  · rintro ⟨id, hid, hkeep⟩
    exact ⟨id, _, ⟨hid, hkeep⟩, rfl⟩

theorem active_removeMissing {answers : SimAnswers} {id : AircraftId} {runtime : AircraftRuntime} :
    (w.removeMissing answers keep).registry.active.lookup id = some runtime ↔
      w.registry.active.lookup id = some runtime ∧ id ∈ keep := by
  refine (iff_of_eq (congrArg (· = _) (lookup_retain _ _ id))).trans ?_
  rw [Option.filter_eq_some_iff, decide_eq_true_eq]

theorem pending_removeMissing {answers : SimAnswers} {id : AircraftId}
    {pending : PendingAi Frame} :
    (w.removeMissing answers keep).registry.pending.lookup id = some pending ↔
      w.registry.pending.lookup id = some pending ∧ id ∈ keep := by
  refine (iff_of_eq (congrArg (· = _) (lookup_retain _ _ id))).trans ?_
  rw [Option.filter_eq_some_iff, decide_eq_true_eq]

/-- The objects of the aircraft that are not shown any more are removed. -/
theorem Inv.removeMissing (h : Inv w) {answers : SimAnswers}
    (hremoves : ∀ objectId, answers.removes objectId = true)
    (hkeep : ∀ id pending, w.registry.pending.lookup id = some pending →
      pending.requestId ∈ w.answered → id ∈ keep) : Inv (w.removeMissing answers keep) := by
  have hfilter : (((toPairs w.registry.active).filter fun entry => entry.1 ∉ keep).map
      fun entry => entry.2.objectId).filter answers.removes = w.missing keep :=
    List.filter_eq_self.mpr fun objectId _ => hremoves objectId
  have hassigned : (w.removeMissing answers keep).assigned =
      (w.removeAiObjects (w.missing keep)).assigned := by
    rw [← hfilter]
    rfl
  have hlive : ∀ objectId, objectId ∈ (w.removeMissing answers keep).liveObjects ↔
      objectId ∈ w.liveObjects ∧ objectId ∉ w.missing keep := by
    intro objectId
    rw [World.liveObjects, hassigned]
    exact mem_liveObjects_removeAiObjects
  -- what is kept is not what is removed, since no two aircraft have one object
  have hsafe : ∀ id runtime, w.registry.active.lookup id = some runtime → id ∈ keep →
      runtime.objectId ∉ w.missing keep := by
    intro id runtime hid hmem hmissing
    obtain ⟨id', hid', hnot⟩ := mem_missing.mp hmissing
    exact hnot (h.active_inj id id' _ hid hid' ▸ hmem)
  refine ⟨(tidy_removeMissing h.apart answers keep).apart, ?_, ?_, ?_, ?_, ?_, h.objects_nodup,
    h.requests_nodup⟩
  · intro assignment hmem hremoved
    rw [hassigned] at hmem
    obtain ⟨hmem, -, hnot⟩ := mem_removeAiObjects.mp ⟨hmem, hremoved⟩
    rcases h.owned assignment hmem hremoved with ⟨id, hid⟩ | ⟨hwaiting, id, pending, hid, hrequest⟩
    · refine .inl ⟨id, active_removeMissing.mpr ⟨hid, ?_⟩⟩
      by_contra hgone
      exact hnot (mem_missing.mpr ⟨id, hid, hgone⟩)
    · refine .inr ⟨hwaiting, id, pending, pending_removeMissing.mpr ⟨hid, ?_⟩, hrequest⟩
      refine hkeep id pending hid ?_
      rw [hrequest]
      exact List.mem_map_of_mem hwaiting
  · intro id runtime hid
    obtain ⟨hid, hmem⟩ := active_removeMissing.mp hid
    exact (hlive _).mpr ⟨h.active_live id runtime hid, hsafe id runtime hid hmem⟩
  · intro id id' runtime hid hid'
    exact h.active_inj id id' runtime (active_removeMissing.mp hid).1
      (active_removeMissing.mp hid').1
  · intro entry hentry
    refine (hlive _).mpr ⟨h.waiting_live entry hentry, fun hmissing => ?_⟩
    obtain ⟨id, hid, -⟩ := mem_missing.mp hmissing
    exact h.waiting_free entry hentry id hid
  · intro entry hentry id hid
    exact h.waiting_free entry hentry id (active_removeMissing.mp hid).1

theorem mem_middle {front back : List (ℕ × ℕ)} {entry other : ℕ × ℕ} :
    other ∈ front ++ entry :: back ↔ other = entry ∨ other ∈ front ++ back := by
  simp only [List.mem_append, List.mem_cons]
  tauto

/-- The entries beside one of them have other components, if no two entries share one. -/
theorem nodup_middle {front back : List (ℕ × ℕ)} {entry : ℕ × ℕ} {f : ℕ × ℕ → ℕ}
    (h : ((front ++ entry :: back).map f).Nodup) :
    ((front ++ back).map f).Nodup ∧ ∀ other ∈ front ++ back, f other ≠ f entry := by
  rw [List.map_append, List.map_cons, List.nodup_middle, ← List.map_append, List.nodup_cons] at h
  refine ⟨h.2, fun other hother heq => h.1 ?_⟩
  rw [← heq]
  exact List.mem_map_of_mem hother

/-- The answers that the loop over the pending requests needs. -/
def Answered (args : UpdateArgs) (w : World Frame) : Prop :=
  ∀ entry ∈ w.simulator.assignedObjects, args.answers.releases entry.2 = true ∧
    args.answers.applies entry.2 = true

/-- A waiting object goes to its aircraft. -/
theorem Inv.assign (h : Inv w) (htidy : Tidy keep w) (hanswers : Answered args w)
    (id : AircraftId) : Inv (w.assign args keep id).1 := by
  rcases assign_cases w args keep id with
    heq | ⟨pending, objectId, front, back, hid, hsplit, hcases⟩
  · rwa [heq]
  have hentry : (pending.requestId, objectId) ∈ w.simulator.assignedObjects := by
    rw [hsplit]
    exact List.mem_append_right _ List.mem_cons_self
  have hkeep : id ∈ keep := htidy.pending id (Option.isSome_of_mem hid)
  obtain ⟨hrelease, happly⟩ := hanswers _ hentry
  rcases hcases with ⟨hgone, -⟩ | ⟨hfail | hfail, -⟩ | ⟨-, heq⟩
  · exact absurd hkeep hgone
  · exact absurd (hfail.symm.trans hrelease) (by simp)
  · exact absurd (hfail.symm.trans happly) (by simp)
  rw [heq]
  have hrequests := h.requests_nodup
  have hobjects := h.objects_nodup
  rw [World.answered, hsplit] at hrequests
  rw [hsplit] at hobjects
  obtain ⟨hrequests', hother⟩ := nodup_middle hrequests
  obtain ⟨hobjects', hother'⟩ := nodup_middle hobjects
  have hrest : ∀ entry ∈ front ++ back, entry ∈ w.simulator.assignedObjects := by
    intro entry hmem
    rw [hsplit]
    exact mem_middle.mpr (.inr hmem)
  have hactive : ∀ id' runtime, (w.registry.active.insert id ⟨objectId⟩).lookup id' = some runtime ↔
      id' = id ∧ runtime = ⟨objectId⟩ ∨ id' ≠ id ∧ w.registry.active.lookup id' = some runtime := by
    intro id' runtime
    rw [lookup_insert]
    by_cases heq : id' = id
    · simp [heq, eq_comm]
    · simp [heq]
  have hfree : ∀ id' runtime, w.registry.active.lookup id' = some runtime →
      runtime.objectId ≠ objectId := by
    rintro id' runtime hid' rfl
    exact h.waiting_free _ hentry id' hid'
  refine ⟨((htidy.taken id (front ++ back)).2 hkeep _).apart, ?_, ?_, ?_, ?_, ?_, hobjects',
    hrequests'⟩
  · intro assignment hmem hremoved
    rcases h.owned assignment hmem hremoved with ⟨id', hid'⟩ |
      ⟨hwaiting, id', pending', hid', hrequest⟩
    · refine .inl ⟨id', (hactive id' _).mpr (.inr ⟨?_, hid'⟩)⟩
      rintro rfl
      rw [h.apart id' (Option.isSome_of_mem hid')] at hid
      simp at hid
    · rw [hsplit] at hwaiting
      rcases mem_middle.mp hwaiting with htaken | hwaiting
      · obtain ⟨-, hobject⟩ := Prod.mk.inj htaken
        exact .inl ⟨id, (hactive id _).mpr (.inl ⟨rfl, congrArg _ hobject⟩)⟩
      · refine .inr ⟨hwaiting, id', pending', ?_, hrequest⟩
        change (w.registry.pending.erase id).lookup id' = some pending'
        rw [lookup_erase, if_neg, hid']
        rintro rfl
        rw [hid] at hid'
        rw [← Option.some_inj.mp hid'] at hrequest
        exact hother _ hwaiting hrequest.symm
  · intro id' runtime hid'
    rcases (hactive id' runtime).mp hid' with ⟨-, rfl⟩ | ⟨-, hid'⟩
    · exact h.waiting_live _ hentry
    · exact h.active_live id' runtime hid'
  · intro id' id'' runtime hid' hid''
    rcases (hactive id' runtime).mp hid' with ⟨heq', hruntime⟩ | ⟨-, hold'⟩
    · rcases (hactive id'' runtime).mp hid'' with ⟨heq'', -⟩ | ⟨-, hold''⟩
      · rw [heq', heq'']
      · exact absurd (congrArg AircraftRuntime.objectId hruntime) (hfree id'' runtime hold'')
    · rcases (hactive id'' runtime).mp hid'' with ⟨-, hruntime⟩ | ⟨-, hold''⟩
      · exact absurd (congrArg AircraftRuntime.objectId hruntime) (hfree id' runtime hold')
      · exact h.active_inj id' id'' runtime hold' hold''
  · intro entry hmem
    exact h.waiting_live entry (hrest entry hmem)
  · intro entry hmem id' hid'
    rcases (hactive id' _).mp hid' with ⟨-, hobject⟩ | ⟨-, hold⟩
    · exact hother' entry hmem (congrArg AircraftRuntime.objectId hobject)
    · exact h.waiting_free entry (hrest entry hmem) id' hold

/-- Objects arrive for requests that are still pending. -/
theorem Inv.pump (h : Inv w) (frameFromState : AircraftState → Option Frame)
    {dispatches : List Dispatch} (hcareful : CarefulAi w (.pump dispatches)) :
    Inv (aiStep frameFromState w (.pump dispatches)) := by
  obtain ⟨hpending, hrequests, hobjects, hfresh⟩ := hcareful
  have hwaiting := assignedObjects_pump w.simulator dispatches
  have hnew : ∀ assignment ∈ dispatches.filterMap Dispatch.assignment,
      assignment.removed = false := by
    intro assignment hmem
    obtain ⟨dispatch, -, hdispatch⟩ := List.mem_filterMap.mp hmem
    rcases dispatch with ⟨requestId, objectId⟩ | exception | _
    · rw [← Option.some_inj.mp hdispatch]
    · cases hdispatch
    · cases hdispatch
  have hlive : ∀ objectId, objectId ∈ (aiStep frameFromState w (.pump dispatches)).liveObjects ↔
      objectId ∈ w.liveObjects ∨ ∃ assignment ∈ dispatches.filterMap Dispatch.assignment,
        assignment.objectId = objectId := by
    intro objectId
    rw [mem_liveObjects, mem_liveObjects]
    constructor
    · rintro ⟨assignment, hmem, hremoved, rfl⟩
      rcases List.mem_append.mp hmem with hmem | hmem
      · exact .inl ⟨assignment, hmem, hremoved, rfl⟩
      · exact .inr ⟨assignment, hmem, rfl⟩
    · rintro (⟨assignment, hmem, hremoved, rfl⟩ | ⟨assignment, hmem, rfl⟩)
      · exact ⟨assignment, List.mem_append_left _ hmem, hremoved, rfl⟩
      · exact ⟨assignment, List.mem_append_right _ hmem, hnew assignment hmem, rfl⟩
  have hentries : ∀ entry ∈ (w.simulator.pump dispatches).assignedObjects,
      entry ∈ w.simulator.assignedObjects ∨
        ∃ assignment ∈ dispatches.filterMap Dispatch.assignment, assignment.objectId = entry.2 := by
    intro entry hentry
    rw [hwaiting] at hentry
    rcases List.mem_append.mp hentry with hentry | hentry
    · exact .inl hentry
    · obtain ⟨assignment, hmem, rfl⟩ := List.mem_map.mp hentry
      exact .inr ⟨assignment, hmem, rfl⟩
  refine ⟨h.apart, ?_, ?_, h.active_inj, ?_, ?_, ?_, ?_⟩
  · intro assignment hmem hremoved
    change _ ∨ (_ ∈ (w.simulator.pump dispatches).assignedObjects ∧ _)
    rw [hwaiting]
    rcases List.mem_append.mp hmem with hmem | hmem
    · refine (h.owned assignment hmem hremoved).imp_right ?_
      exact And.imp_left (List.mem_append_left _)
    · exact .inr ⟨List.mem_append_right _ (List.mem_map.mpr ⟨assignment, hmem, rfl⟩),
        hpending assignment hmem⟩
  · intro id runtime hid
    exact (hlive _).mpr (.inl (h.active_live id runtime hid))
  · intro entry hentry
    exact (hlive _).mpr ((hentries entry hentry).imp_left (h.waiting_live entry))
  · intro entry hentry id hid
    rcases hentries entry hentry with hentry | ⟨assignment, hmem, hobject⟩
    · exact h.waiting_free entry hentry id hid
    · exact hfresh assignment hmem (hobject ▸ h.active_live id _ hid)
  · change ((w.simulator.pump dispatches).assignedObjects.map Prod.snd).Nodup
    rw [hwaiting, List.map_append, List.map_map]
    refine List.nodup_append.mpr ⟨h.objects_nodup, hobjects, ?_⟩
    rintro objectId hold _ hmem rfl
    obtain ⟨entry, hentry, rfl⟩ := List.mem_map.mp hold
    obtain ⟨assignment, hmem, hobject⟩ := List.mem_map.mp hmem
    have hobject : assignment.objectId = entry.2 := hobject
    exact hfresh assignment hmem (hobject ▸ h.waiting_live entry hentry)
  · change ((w.simulator.pump dispatches).assignedObjects.map Prod.fst).Nodup
    rw [hwaiting, List.map_append, List.map_map]
    exact hrequests

theorem Answered.assign (h : Answered args w) (keep : List AircraftId) (id : AircraftId) :
    Answered args (w.assign args keep id).1 := by
  rcases assign_cases w args keep id with heq | ⟨pending, objectId, front, back, -, hsplit, hcases⟩
  · rwa [heq]
  have hrest : ∀ entry ∈ front ++ back, args.answers.releases entry.2 = true ∧
      args.answers.applies entry.2 = true := by
    intro entry hmem
    exact h entry (hsplit ▸ mem_middle.mpr (.inr hmem))
  rcases hcases with ⟨-, heq | heq⟩ | ⟨-, heq⟩ | ⟨-, heq⟩
  all_goals
    rw [heq]
    exact hrest

/-- **An update in which nothing is given up too early.** -/
theorem Inv.update (h : Inv w) (frameFromState : AircraftState → Option Frame)
    (hcareful : CarefulAi w (.update args)) : Inv (w.update frameFromState args).1 := by
  obtain ⟨hremoves, hanswers, hpatient⟩ := hcareful
  have hmissing : Inv (w.removeMissing args.answers args.keep) :=
    h.removeMissing hremoves fun id pending hid hmem => (hpatient id pending hid hmem).1
  have hgives := (givesUp_drainExceptions (w.removeMissing args.answers args.keep) args).trans
    (givesUp_expire _ args)
  have hexpired := hmissing.givesUp hgives fun id pending hid hmem => by
    obtain ⟨-, hexception, htime⟩ := hpatient id pending (pending_removeMissing.mp hid).1 hmem
    rintro (⟨exception, hmem', hsend⟩ | hlate)
    · exact hexception exception hmem' hsend
    · exact htime hlate
  have htidy := (tidy_removeMissing h.apart args.answers args.keep).givesUp hgives
  have hanswered : Answered args
      (((w.removeMissing args.answers args.keep).drainExceptions args).expire args) := by
    rw [Answered, hgives.waiting]
    exact hanswers
  have hall := update_inv (I := fun w => Inv w ∧ Tidy args.keep w ∧ Answered args w)
    frameFromState ⟨hexpired, htidy, hanswered⟩ ?_ ?_
  · exact hall.1
  · rintro w id ⟨hinv, htidy, hanswered⟩
    exact ⟨hinv.assign htidy hanswered id, htidy.assign args id, hanswered.assign _ id⟩
  · rintro w id hid ⟨hinv, htidy, hanswered⟩
    refine ⟨hinv.create frameFromState args id, htidy.create frameFromState args hid, ?_⟩
    rw [Answered, (create_cases w frameFromState args id).2.2.1]
    exact hanswered

/-- What a careful step keeps. -/
theorem Inv.step (h : Inv w) (frameFromState : AircraftState → Option Frame) {input : AiInput}
    (hcareful : CarefulAi w input) : Inv (aiStep frameFromState w input) := by
  cases input with
  | pump dispatches => exact h.pump frameFromState hcareful
  | update args => exact h.update frameFromState hcareful

end

def aiRun (frameFromState : AircraftState → Option Frame) (inputs : List AiInput) : World Frame :=
  inputs.foldl (aiStep frameFromState) {}

/-- **No object is lost** in a run of careful steps, and the registry stays within its limit. -/
theorem owned_of_careful (frameFromState : AircraftState → Option Frame) (inputs : List AiInput)
    (hcareful : Meets (aiStep frameFromState) CarefulAi {} inputs) :
    (∀ pre, pre <+: inputs → Owned (aiRun frameFromState pre)) ∧
      ∀ pre args, pre ++ [AiInput.update args] <+: inputs →
        (aiRun frameFromState (pre ++ [.update args])).aircraftCount ≤ args.maxAiAircraft := by
  constructor
  · intro pre hpre
    have hstep : ∀ (w : World Frame) input, Inv w → CarefulAi w input →
        Inv (aiStep frameFromState w input) := fun _ _ hw hok => hw.step frameFromState hok
    exact (hcareful.inv_prefix hstep inv_empty hpre).noLeak
  · intro pre args _
    have hapart : Apart (aiRun frameFromState pre) :=
      List.foldlRecOn pre _ inv_empty.apart fun w hw input _ => apart_step hw frameFromState input
    have hcard := card_update hapart frameFromState args
    rw [aiRun, List.foldl_append]
    exact hcard

/-! ### Runs with one aircraft -/

/-- A frame needs the derived state and the attitude. -/
def sampleFrame (state : AircraftState) : Option Unit :=
  if state.derived.isSome && state.attitude.isSome then some () else none

def sampleState : AircraftState :=
  { derived := some ⟨.finite 0, .finite 0, .finite 0, .finite 0, .finite 0, .finite 0, .finite 0,
      .finite 0, .finite 0, none, none, none, none, none, none, none⟩
    attitude := some ⟨.finite 1, .finite 0, .finite 0, .finite 0⟩ }

def sampleStore : TimeSeriesStore :=
  (TimeSeriesStore.appendEvent {} "glider" (.finite 0) (.spawn {})).appendState "glider" (.finite 0)
    sampleState

def sampleUpdate (store : TimeSeriesStore) (order : List AircraftId) : UpdateArgs :=
  { store := store, playbackState := ⟨.live, none, 1, none, 0⟩, userAircraftId := none
    maxAiAircraft := 4, clock := ⟨0, 0, fun _ => 0, 0, 0⟩
    answers := ⟨fun _ => true, fun _ => true, fun _ => true, fun _ => .requested 1, fun _ => true⟩
    order := order }

/-- After the request for the glider. -/
def requested : World Unit :=
  { simulator := { nextAiRequestId := 10001 }
    registry := { pending := ⟨[⟨"glider", ⟨10000, 1, (), 0⟩⟩], by simp⟩ } }

/-- The glider gets its object and is despawned later. -/
theorem owned_of_careful_glider :
    Owned (aiRun sampleFrame [.update (sampleUpdate sampleStore []),
      .pump [.assignedObject 10000 7], .update (sampleUpdate sampleStore ["glider"]),
      .update (sampleUpdate {} [])]) := by
  have hcareful : Meets (aiStep sampleFrame) CarefulAi {} [.update (sampleUpdate sampleStore []),
      .pump [.assignedObject 10000 7], .update (sampleUpdate sampleStore ["glider"]),
      .update (sampleUpdate {} [])] := by
    refine ⟨?_, ?_, ?_, ?_, trivial⟩
    · exact ⟨fun _ => rfl, nofun, fun _ _ => nofun⟩
    · change CarefulAi requested (.pump [.assignedObject 10000 7])
      refine ⟨?_, by decide, by decide, by decide⟩
      rintro _ (_ | ⟨_, ⟨⟩⟩)
      exact ⟨"glider", _, rfl, rfl⟩
    · refine ⟨fun _ => rfl, fun _ _ => ⟨rfl, rfl⟩, fun id pending hid _ => ?_⟩
      have hentry : (⟨id, pending⟩ : Sigma fun _ => PendingAi Unit) ∈
          [⟨"glider", ⟨10000, 1, (), 0⟩⟩] := AList.mem_lookup_iff.mp hid
      obtain ⟨rfl, hpending⟩ := Sigma.mk.inj (List.mem_singleton.mp hentry)
      rw [eq_of_heq hpending]
      exact ⟨by decide, nofun, by decide +kernel⟩
    · have hwaiting : (aiRun sampleFrame [.update (sampleUpdate sampleStore []),
          .pump [.assignedObject 10000 7], .update (sampleUpdate sampleStore ["glider"])]
            ).simulator.assignedObjects = [] := by decide +kernel
      refine ⟨fun _ => rfl, fun entry hentry => ?_, fun id pending _ hmem => ?_⟩
      · exact absurd (hwaiting ▸ hentry) List.not_mem_nil
      · obtain ⟨entry, hentry, -⟩ := List.mem_map.mp hmem
        exact absurd (hwaiting ▸ hentry) List.not_mem_nil
  exact (owned_of_careful sampleFrame _ hcareful).1 _ (List.prefix_refl _)

/-- **What goes wrong**: the glider is despawned before its object arrives, and the object stays. -/
theorem not_owned_despawned :
    ¬Owned (aiRun sampleFrame [.update (sampleUpdate sampleStore []),
      .update (sampleUpdate {} ["glider"]), .pump [.assignedObject 10000 7],
      .update (sampleUpdate {} [])]) := by
  intro h
  rcases h ⟨10000, 7, false⟩ (by decide) with ⟨id, hid, -⟩ | ⟨-, id, pending, hid, -⟩ | hremoved
  · exact absurd (AList.mem_lookup_iff.mp hid) nofun
  · exact absurd (AList.mem_lookup_iff.mp hid) nofun
  · simp at hremoved

end FlyRuler.Msfs
