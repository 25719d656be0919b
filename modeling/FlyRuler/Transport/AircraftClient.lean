import FlyRuler.Lib.Relay
import FlyRuler.Pb
import Mathlib.Data.List.Induction

/-!
# The aircraft client

`AircraftClient` of `core/src/transport/client.rs`: the caller queues operations, the operation task
turns them into messages for the sender task, the heartbeat task adds its own, and `close` queues a
last despawn and a marker that passes through both queues.  A run is any interleaving of the calls,
the steps of `close` and the steps of the three tasks; the socket does not fail.

* `Inv.step`: what every step keeps.
* `closed_trace`: what was sent when `close` has returned, and that nothing follows.
-/

namespace FlyRuler.Transport.AircraftClient

open FlyRuler.Pb FlyRuler.Lib.Relay

/-- The errors of the calls. -/
inductive ClientError where
  | invalidMessage (message : String)
  | clientChannelClosed (message : String)
  deriving DecidableEq

/-! ## Messages -/

/-- The arguments of `connect_with_telemetry_at`, and the two UUIDs it draws. -/
structure Config where
  aircraftName : String
  initialState : AircraftState
  tomlConfig : String
  heartbeatIntervalSecs : ℚ
  telemetrySchemas : List TelemetryStreamSchema := []
  spawnTimestamp : Option F64 := none
  clientUuid : Uuid
  aircraftUuid : Uuid

/-- `make_request` at a reading of the clock. -/
def makeRequest (now : F64) (command : RequestCommand.Kind) (timestamp : Option F64) : Message :=
  ⟨some (.request ⟨none, timestamp.getD now, some ⟨some command⟩⟩)⟩

def buildHandshakeMessage (now : F64) (clientUuid : Uuid) : Message :=
  makeRequest now (.handshake ⟨protocolVersion, some clientUuid, 1⟩) none

def buildHeartbeatMessage (now : F64) (seqNum : ℕ) (clientUuid : Uuid) : Message :=
  makeRequest now (.heartbeat ⟨seqNum, some clientUuid⟩) none

/-- The form of the messages about the aircraft. -/
def makeAircraftRequest (now : F64) (aircraftUuid : Uuid) (kind : AircraftCommandInfo.Kind)
    (timestamp : Option F64) : Message :=
  makeRequest now (.aircraftEvent ⟨some aircraftUuid, some ⟨some kind⟩⟩) timestamp

def buildSpawnMessage (now : F64) (aircraftUuid : Uuid) (aircraftName tomlConfig : String)
    (initialState : AircraftState) (telemetrySchemas : List TelemetryStreamSchema)
    (timestamp : Option F64) : Message :=
  makeAircraftRequest now aircraftUuid
    (.spawn ⟨aircraftName, tomlConfig, some initialState, telemetrySchemas⟩) timestamp

def buildStateUpdateMessage (now : F64) (aircraftUuid : Uuid) (state : AircraftState)
    (timestamp : Option F64) : Message :=
  makeAircraftRequest now aircraftUuid (.stateUpdate state) timestamp

def buildCustomEventMessage (now : F64) (aircraftUuid : Uuid) (eventName : String)
    (timestamp : Option F64) : Message :=
  makeAircraftRequest now aircraftUuid (.customEvent eventName) timestamp

def buildTelemetryFrameMessage (now : F64) (aircraftUuid : Uuid) (frame : TelemetryFrame)
    (timestamp : Option F64) : Message :=
  makeAircraftRequest now aircraftUuid (.telemetryFrame frame) timestamp

def buildDespawnMessage (now : F64) (aircraftUuid : Uuid) (reason : Option String)
    (timestamp : Option F64) : Message :=
  makeAircraftRequest now aircraftUuid (.despawn ⟨reason⟩) timestamp

/-- The first message about the aircraft. -/
def spawnMessage (config : Config) (now : F64) : Message :=
  buildSpawnMessage now config.aircraftUuid config.aircraftName config.tomlConfig
    config.initialState config.telemetrySchemas config.spawnTimestamp

inductive Outbound where
  | send (msg : Message)
  | shutdown
  deriving DecidableEq

inductive Operation where
  | updateState (state : AircraftState) (timestamp : Option F64)
  | createEvent (eventName : String) (timestamp : Option F64)
  | publishTelemetry (frame : TelemetryFrame) (timestamp : Option F64)
  | despawn (reason : Option String) (timestamp : Option F64)
  | stop
  deriving DecidableEq

/-- What the operation task makes of an operation. -/
def Operation.outbound (config : Config) (now : F64) : Operation → Outbound
  | updateState state timestamp =>
    .send (buildStateUpdateMessage now config.aircraftUuid state timestamp)
  | createEvent eventName timestamp =>
    .send (buildCustomEventMessage now config.aircraftUuid eventName timestamp)
  | publishTelemetry frame timestamp =>
    .send (buildTelemetryFrameMessage now config.aircraftUuid frame timestamp)
  | despawn reason timestamp =>
    .send (buildDespawnMessage now config.aircraftUuid reason timestamp)
  | stop => .shutdown

/-! ## The client and its tasks -/

/-- Where the caller is: between two calls, or at one of the steps of `close`. -/
inductive Caller where
  | idle
  | stoppingHeartbeat
  | stoppingOperations
  | awaitingHeartbeat
  | awaitingOperation
  | awaitingSender
  deriving DecidableEq

inductive OperationTask where
  | starting
  | receiving
  | forwarding (op : Operation)
  | done
  deriving DecidableEq

inductive HeartbeatTask where
  | starting
  | waiting (seqNum : ℕ)
  -- the tick came, and the flag was not set
  | ticked (seqNum : ℕ)
  | done
  deriving DecidableEq

inductive SenderTask where
  | receiving
  | sending (msg : Message)
  | done
  deriving DecidableEq

inductive Call where
  | updateState (state : AircraftState) (timestamp : Option F64)
  | createEvent (eventName : String) (timestamp : Option F64)
  | publishTelemetry (frame : TelemetryFrame) (timestamp : Option F64)
  | despawn (reason : Option String) (timestamp : Option F64)
  | close
  deriving DecidableEq

/-- The client, its channels and tasks, the calls made so far with their answers (`close` answers
`Ok(())` when it is over), and the datagrams sent. -/
structure State where
  -- whether `op_tx` and `heartbeat_stop_tx` are still there
  opTx : Bool := true
  heartbeatStopTx : Bool := true
  closed : Bool := false
  despawned : Bool := false
  caller : Caller := .idle
  operations : List Operation := []
  outbound : List Outbound := []
  heartbeatStop : Bool := false
  operation : OperationTask := .starting
  heartbeat : HeartbeatTask := .starting
  sender : SenderTask := .receiving
  calls : List (Call × Except ClientError Unit) := []
  sent : List Message
  deriving DecidableEq

/-- The state at the end of `connect_with_telemetry_at`, the handshake being sent. -/
def connected (config : Config) (now : F64) : State :=
  { sent := [buildHandshakeMessage now config.clientUuid] }

namespace State

variable (s : State)

/-! ## The calls -/

def validateSourceTimestamp (timestamp : Option F64) : Except ClientError Unit :=
  if timestamp.any (fun value => value.toFinite.isNone) then
    .error (.invalidMessage "source timestamp must be finite")
  else .ok ()

def ensureOpen : Except ClientError Unit :=
  if s.closed then .error (.clientChannelClosed "client is closed") else .ok ()

/-- The receiver of the queue is gone when the operation task is done. -/
def sendOperation (op : Operation) : Except ClientError State :=
  if s.opTx then
    if s.operation = .done then .error (.clientChannelClosed "failed to enqueue operation")
    else .ok { s with operations := s.operations ++ [op] }
  else .error (.clientChannelClosed "operation queue is closed")

/-- The form of `update_state`, `create_event` and `publish_telemetry`. -/
def enqueue (op : Operation) (timestamp : Option F64) : Except ClientError State := do
  s.ensureOpen
  validateSourceTimestamp timestamp
  s.sendOperation op

def updateState (state : AircraftState) (timestamp : Option F64) : Except ClientError State :=
  s.enqueue (.updateState state timestamp) timestamp

def createEvent (eventName : String) (timestamp : Option F64) : Except ClientError State :=
  s.enqueue (.createEvent eventName timestamp) timestamp

def publishTelemetry (frame : TelemetryFrame) (timestamp : Option F64) :
    Except ClientError State :=
  s.enqueue (.publishTelemetry frame timestamp) timestamp

def despawn (reason : Option String) (timestamp : Option F64) : Except ClientError State := do
  s.ensureOpen
  if s.despawned then return s
  validateSourceTimestamp timestamp
  let s ← s.sendOperation (.despawn reason timestamp)
  return { s with despawned := true }

/-- A queueing whose error is only logged. -/
def trySendOperation (op : Operation) : State :=
  match s.sendOperation op with
  | .ok s => s
  | .error _ => s

/-- `close` up to the despawn. -/
def close : State :=
  if s.closed then s
  else
    let s := if s.despawned then s
      else { s.trySendOperation (.despawn (some "client_close") none) with despawned := true }
    { s with caller := .stoppingHeartbeat }

def answer : Call → Except ClientError State
  | .updateState state timestamp => s.updateState state timestamp
  | .createEvent eventName timestamp => s.createEvent eventName timestamp
  | .publishTelemetry frame timestamp => s.publishTelemetry frame timestamp
  | .despawn reason timestamp => s.despawn reason timestamp
  | .close => .ok s.close

def call (c : Call) : State :=
  match s.answer c with
  | .ok s' => { s' with calls := s.calls ++ [(c, .ok ())] }
  | .error error => { s with calls := s.calls ++ [(c, .error error)] }

/-- The next step of `close`; the handles of the tasks are awaited once, by the only `close` that
gets there. -/
def closeStep : State :=
  match s.caller with
  | .idle => s
  | .stoppingHeartbeat =>
    { s with
      heartbeatStop := s.heartbeatStop || s.heartbeatStopTx && s.heartbeat ≠ .done
      heartbeatStopTx := false
      caller := .stoppingOperations }
  | .stoppingOperations =>
    { s.trySendOperation .stop with opTx := false, caller := .awaitingHeartbeat }
  | .awaitingHeartbeat => if s.heartbeat = .done then { s with caller := .awaitingOperation } else s
  | .awaitingOperation => if s.operation = .done then { s with caller := .awaitingSender } else s
  | .awaitingSender => if s.sender = .done then { s with closed := true, caller := .idle } else s

/-! ## The tasks -/

/-- `send_outbound`: the receiver of the queue is gone when the sender task is done. -/
def sendOutbound (outbound : Outbound) : State :=
  if s.sender = .done then s else { s with outbound := s.outbound ++ [outbound] }

def operationStep (config : Config) (now : F64) : State :=
  match s.operation with
  | .starting =>
    { s.sendOutbound (.send (spawnMessage config now)) with operation := .receiving }
  | .receiving =>
    match s.operations with
    | [] => if s.opTx then s else { s with operation := .done }
    | op :: operations => { s with operations := operations, operation := .forwarding op }
  | .forwarding op =>
    { s.sendOutbound (op.outbound config now) with
      operation := if op = .stop then .done else .receiving }
  | .done => s

/-- The heartbeat task up to its next tick, or from the tick on; it panics at once if the interval
is too long for a `Duration`. -/
def tick (config : Config) (now : F64) : State :=
  match s.heartbeat with
  | .starting =>
    { s with
      heartbeat := if (u64Size : ℚ) ≤ config.heartbeatIntervalSecs then .done else .waiting 0 }
  | .waiting seqNum =>
    { s with heartbeat := if s.heartbeatStop then .done else .ticked seqNum }
  | .ticked seqNum =>
    let seqNum := min (seqNum + 1) (u64Size - 1)
    { s.sendOutbound (.send (buildHeartbeatMessage now seqNum config.clientUuid)) with
      heartbeat := .waiting seqNum }
  | .done => s

/-- The heartbeat task when the flag has changed or its sender is gone. -/
def changed : State :=
  match s.heartbeat with
  | .waiting _ =>
    if s.heartbeatStopTx && !s.heartbeatStop then s else { s with heartbeat := .done }
  | _ => s

def senderStep : State :=
  match s.sender with
  | .receiving =>
    match s.outbound with
    | [] => if s.operation = .done ∧ s.heartbeat = .done then { s with sender := .done } else s
    | .send msg :: outbound => { s with outbound := outbound, sender := .sending msg }
    | .shutdown :: outbound => { s with outbound := outbound, sender := .done }
  | .sending msg => { s with sent := s.sent ++ [msg], sender := .receiving }
  | .done => s

end State

/-! ## Runs -/

inductive Action where
  | call (c : Call)
  | close
  | operation (now : F64)
  | tick (now : F64)
  | changed
  | sender

/-- One step of the caller or of a task. -/
def step (config : Config) (s : State) : Action → State
  | .call c => if s.caller = .idle then s.call c else s
  | .close => s.closeStep
  | .operation now => s.operationStep config now
  | .tick now => s.tick config now
  | .changed => s.changed
  | .sender => s.senderStep

def run (config : Config) (s : State) (actions : List Action) : State :=
  actions.foldl (step config) s

/-! ## What the calls ask for -/

/-- One more call: whether a despawn is asked for by now, and the operations asked for. -/
def accept (asked : Bool × List Operation) :
    Call × Except ClientError Unit → Bool × List Operation
  | (_, .error _) => asked
  | (.updateState state timestamp, .ok _) => (asked.1, asked.2 ++ [.updateState state timestamp])
  | (.createEvent eventName timestamp, .ok _) =>
    (asked.1, asked.2 ++ [.createEvent eventName timestamp])
  | (.publishTelemetry frame timestamp, .ok _) =>
    (asked.1, asked.2 ++ [.publishTelemetry frame timestamp])
  | (.despawn reason timestamp, .ok _) =>
    if asked.1 then asked else (true, asked.2 ++ [.despawn reason timestamp])
  | (.close, .ok _) =>
    if asked.1 then asked else (true, asked.2 ++ [.despawn (some "client_close") none])

def accepted (calls : List (Call × Except ClientError Unit)) : Bool × List Operation :=
  calls.foldl accept (false, [])

/-- What is to be sent: the spawn and the operations. -/
inductive Item where
  | spawn
  | operation (op : Operation)

def Item.outbound (config : Config) (now : F64) : Item → Outbound
  | spawn => .send (spawnMessage config now)
  | operation op => op.outbound config now

/-- The message is made of this item, at some reading of the clock. -/
def Item.Becomes (config : Config) (item : Item) (outbound : Outbound) : Prop :=
  ∃ now, outbound = item.outbound config now

def aircraftEvent (msg : Message) : Option AircraftEvent :=
  match msg.envelope with
  | some (.request ⟨_, _, some ⟨some (.aircraftEvent event)⟩⟩) => some event
  | _ => none

def isAircraftEvent (msg : Message) : Bool := (aircraftEvent msg).isSome

def isSpawn (msg : Message) : Bool :=
  match aircraftEvent msg with
  | some ⟨_, some ⟨some (.spawn _)⟩⟩ => true
  | _ => false

def isDespawn (msg : Message) : Bool :=
  match aircraftEvent msg with
  | some ⟨_, some ⟨some (.despawn _)⟩⟩ => true
  | _ => false

def Outbound.isEvent : Outbound → Bool
  | send msg => isAircraftEvent msg
  | shutdown => true

def Operation.isDespawn : Operation → Bool
  | despawn _ _ => true
  | _ => false

def Item.isSpawn : Item → Bool
  | spawn => true
  | operation _ => false

def Item.isDespawn : Item → Bool
  | spawn => false
  | operation op => op.isDespawn

/-! ## The invariant -/

def SenderTask.inHand : SenderTask → List Outbound
  | receiving => []
  | sending msg => [.send msg]
  | done => [.shutdown]

def OperationTask.inHand : OperationTask → List Item
  | starting => [.spawn]
  | forwarding op => [.operation op]
  | _ => []

namespace State

variable (s : State)

/-- All that the sender task was ever given, in order. -/
def traffic : List Outbound := s.sent.map .send ++ s.sender.inHand ++ s.outbound

/-- What the operation task has still to do. -/
def pending : List Item := s.operation.inHand ++ s.operations.map .operation

/-- All that was asked for, in order. -/
def due : List Item :=
  .spawn :: (accepted s.calls).2.map .operation ++ if s.opTx then [] else [.operation .stop]

end State

/-- The messages about the aircraft follow what was asked for; the rest ties the tasks, the fields
of the client and the place of the caller together. -/
structure Inv (config : Config) (s : State) : Prop where
  relayed : Relayed (Item.Becomes config) s.due s.pending (s.traffic.filter Outbound.isEvent)
  stopped : s.operation = .done ↔ Outbound.shutdown ∈ s.traffic
  despawned : (accepted s.calls).1 = s.despawned
  queueing : s.opTx = true ↔ s.closed = false ∧
    s.caller ∈ [Caller.idle, .stoppingHeartbeat, .stoppingOperations]
  leaving : s.caller ≠ .idle ∨ s.closed = true → s.despawned = true
  finished : s.closed = true → s.caller = .idle ∧ s.sender = .done

section

variable {config : Config} {s : State} {calls : List (Call × Except ClientError Unit)}

theorem accepted_concat (calls : List (Call × Except ClientError Unit))
    (c : Call × Except ClientError Unit) :
    accepted (calls ++ [c]) = accept (accepted calls) c := by
  rw [accepted, List.foldl_append]
  rfl

theorem accept_cases (asked : Bool × List Operation) (c : Call × Except ClientError Unit) :
    accept asked c = asked ∨ (∃ op, op.isDespawn = false ∧ op ≠ .stop ∧
        accept asked c = (asked.1, asked.2 ++ [op])) ∨
      asked.1 = false ∧ ∃ reason timestamp,
        accept asked c = (true, asked.2 ++ [.despawn reason timestamp]) := by
  obtain ⟨c, error | ⟨⟩⟩ := c
  · left
    cases c <;> rfl
  have hdespawn : ∀ reason timestamp,
      (if asked.1 then asked else (true, asked.2 ++ [.despawn reason timestamp])) = asked ∨
        asked.1 = false ∧
          (if asked.1 then asked else (true, asked.2 ++ [.despawn reason timestamp])) =
            (true, asked.2 ++ [.despawn reason timestamp]) := by
    intro reason timestamp
    rcases asked.1 with _ | _
    · exact .inr ⟨rfl, rfl⟩
    · exact .inl rfl
  cases c with
  | updateState state timestamp => exact .inr (.inl ⟨.updateState state timestamp, rfl, nofun, rfl⟩)
  | createEvent eventName timestamp =>
    exact .inr (.inl ⟨.createEvent eventName timestamp, rfl, nofun, rfl⟩)
  | publishTelemetry frame timestamp =>
    exact .inr (.inl ⟨.publishTelemetry frame timestamp, rfl, nofun, rfl⟩)
  | despawn reason timestamp =>
    rcases hdespawn reason timestamp with h | ⟨hfirst, h⟩
    · exact .inl h
    · exact .inr (.inr ⟨hfirst, _, _, h⟩)
  | close =>
    rcases hdespawn (some "client_close") none with h | ⟨hfirst, h⟩
    · exact .inl h
    · exact .inr (.inr ⟨hfirst, _, _, h⟩)

/-- The marker is never asked for. -/
theorem stop_notMem_accepted (calls : List (Call × Except ClientError Unit)) :
    Operation.stop ∉ (accepted calls).2 := by
  induction calls using List.reverseRecOn with
  | nil => exact List.not_mem_nil
  | append_singleton calls c ih =>
    rw [accepted_concat]
    rcases accept_cases (accepted calls) c with h | ⟨op, -, hop, h⟩ | ⟨-, reason, timestamp, h⟩
    · rwa [h]
    · rw [h]
      simpa using ⟨ih, hop.symm⟩
    · rw [h]
      simpa using ih

/-- A despawn is asked for once. -/
theorem countP_accepted (calls : List (Call × Except ClientError Unit)) :
    (accepted calls).2.countP Operation.isDespawn = (accepted calls).1.toNat := by
  induction calls using List.reverseRecOn with
  | nil => rfl
  | append_singleton calls c ih =>
    rw [accepted_concat]
    rcases accept_cases (accepted calls) c with h | ⟨op, hop, -, h⟩ | ⟨hfirst, reason, timestamp, h⟩
    · rwa [h]
    · rw [h]
      simpa [List.countP_append, hop] using ih
    · rw [h]
      simp [List.countP_append, ih, hfirst, Operation.isDespawn]

theorem becomes_shutdown {item : Item} (h : item.Becomes config .shutdown) :
    item = .operation .stop := by
  obtain ⟨now, h⟩ := h
  rcases item with _ | _ | _ | _ | _ | _
  · exact absurd h (by simp [Item.outbound])
  all_goals simp_all [Item.outbound, Operation.outbound]

theorem isEvent_outbound (item : Item) (now : F64) : (item.outbound config now).isEvent = true := by
  rcases item with _ | _ | _ | _ | _ | _ <;> rfl

theorem inv_connected (config : Config) (now : F64) : Inv config (connected config now) where
  relayed := Relayed.start _
  stopped := by simp [connected, State.traffic, SenderTask.inHand]
  despawned := rfl
  queueing := by simp [connected]
  leaving := by simp [connected]
  finished := by simp [connected]

/-! ## What the invariant says of the marker -/

theorem shutdown_mem_filter {l : List Outbound} :
    Outbound.shutdown ∈ l.filter Outbound.isEvent ↔ Outbound.shutdown ∈ l := by
  rw [List.mem_filter]
  exact and_iff_left rfl

theorem shutdown_mem_of_done (h : s.sender = .done) : Outbound.shutdown ∈ s.traffic := by
  simp [State.traffic, h, SenderTask.inHand]

theorem stop_notMem_items (calls : List (Call × Except ClientError Unit)) :
    Item.operation .stop ∉ Item.spawn :: (accepted calls).2.map .operation := by
  simpa using stop_notMem_accepted calls

/-- Once the marker is through, so is everything. -/
theorem Inv.drained (h : Inv config s) (hmem : Outbound.shutdown ∈ s.traffic) :
    s.opTx = false ∧ s.pending = [] ∧
      ∃ front, s.traffic.filter Outbound.isEvent = front ++ [.shutdown] ∧
        List.Forall₂ (Item.Becomes config) (.spawn :: (accepted s.calls).2.map .operation) front ∧
        Outbound.shutdown ∉ front := by
  have hrelayed := h.relayed
  rw [← shutdown_mem_filter] at hmem
  rw [State.due] at hrelayed
  rcases hopen : s.opTx with _ | _
  · rw [hopen] at hrelayed
    obtain ⟨hpending, hfront⟩ := hrelayed.of_marker (stop_notMem_items s.calls)
      (fun _ => becomes_shutdown) hmem
    exact ⟨rfl, hpending, hfront⟩
  · rw [hopen, if_pos rfl, List.append_nil] at hrelayed
    exact absurd hmem (hrelayed.not_mem (stop_notMem_items s.calls) fun _ => becomes_shutdown)

theorem Inv.running (h : Inv config s) (hopen : s.opTx = true) : s.operation ≠ .done := by
  intro hdone
  have hdrained := h.drained (h.stopped.mp hdone)
  exact absurd (hopen.symm.trans hdrained.1) (by simp)

/-- As long as there is something to forward, the sender task listens. -/
theorem Inv.listening (h : Inv config s) (hpending : s.pending ≠ []) : s.sender ≠ .done := by
  intro hdone
  exact hpending (h.drained (shutdown_mem_of_done hdone)).2.1

/-! ## The calls -/

theorem sendOperation_eq (hopen : s.opTx = true) (hrunning : s.operation ≠ .done)
    (op : Operation) :
    s.sendOperation op = .ok { s with operations := s.operations ++ [op] } := by
  rw [State.sendOperation, if_pos hopen, if_neg hrunning]

/-- One more operation is asked for and queued. -/
theorem Inv.queue (h : Inv config s) (hopen : s.opTx = true) {c : Call} (op : Operation)
    (despawned : Bool) (caller : Caller) (hop : accept (accepted s.calls) (c, .ok ()) =
      (despawned, (accepted s.calls).2 ++ [op]))
    (hcaller : caller ∈ [Caller.idle, .stoppingHeartbeat, .stoppingOperations])
    (hleaving : caller ≠ .idle → despawned = true) :
    Inv config { s with operations := s.operations ++ [op], despawned := despawned,
                        caller := caller, calls := s.calls ++ [(c, .ok ())] } := by
  have hclosed := (h.queueing.mp hopen).1
  have haccepted := (accepted_concat s.calls (c, .ok ())).trans hop
  refine ⟨?_, h.stopped, ?_, ?_, ?_, ?_⟩
  · have hrelayed := h.relayed.push (.operation op)
    simpa [State.due, State.pending, State.traffic, haccepted, hopen] using hrelayed
  · rw [haccepted]
  · exact ⟨fun _ => ⟨hclosed, hcaller⟩, fun _ => hopen⟩
  · rintro (hidle | hdone)
    · exact hleaving hidle
    · exact absurd (hclosed.symm.trans hdone) (by simp)
  · intro hdone
    exact absurd (hclosed.symm.trans hdone) (by simp)

/-- A call that asks for nothing new. -/
theorem Inv.answered (h : Inv config s) {c : Call × Except ClientError Unit}
    (hop : accept (accepted s.calls) c = accepted s.calls) :
    Inv config { s with calls := s.calls ++ [c] } := by
  have haccepted := (accepted_concat s.calls c).trans hop
  refine ⟨?_, h.stopped, ?_, h.queueing, h.leaving, h.finished⟩
  · simpa [State.due, State.pending, State.traffic, haccepted] using h.relayed
  · rw [haccepted]
    exact h.despawned

/-- A step of `close` that queues nothing. -/
theorem Inv.move (h : Inv config s) (caller : Caller) (heartbeatStop heartbeatStopTx : Bool)
    (hclosed : s.closed = false) (hdespawned : s.despawned = true)
    (hcaller : caller ∈ [Caller.idle, .stoppingHeartbeat, .stoppingOperations] ↔
      s.caller ∈ [Caller.idle, .stoppingHeartbeat, .stoppingOperations]) :
    Inv config { s with caller := caller, heartbeatStop := heartbeatStop,
                        heartbeatStopTx := heartbeatStopTx } := by
  refine ⟨h.relayed, h.stopped, h.despawned, ?_, fun _ => hdespawned, ?_⟩
  · rw [h.queueing]
    exact and_congr_right fun _ => hcaller.symm
  · intro hdone
    exact absurd (hclosed.symm.trans hdone) (by simp)

theorem of_sendOperation {op : Operation} {s' : State} (h : s.sendOperation op = .ok s') :
    s.opTx = true ∧ s' = { s with operations := s.operations ++ [op] } := by
  rw [State.sendOperation] at h
  split at h
  · next hopen =>
    split at h
    · simp at h
    · exact ⟨hopen, (Except.ok.inj h).symm⟩
  · simp at h

theorem bind_eq_ok {α β : Type} {x : Except ClientError α} {f : α → Except ClientError β} {b : β} :
    x >>= f = .ok b ↔ ∃ a, x = .ok a ∧ f a = .ok b := by
  rcases x with error | a
  · exact ⟨nofun, fun ⟨_, h, _⟩ => nomatch h⟩
  · exact ⟨fun h => ⟨a, rfl, h⟩, fun ⟨_, h, hb⟩ => by cases h; exact hb⟩

theorem of_enqueue {op : Operation} {timestamp : Option F64} {s' : State}
    (h : s.enqueue op timestamp = .ok s') :
    s.opTx = true ∧ s' = { s with operations := s.operations ++ [op] } := by
  obtain ⟨_, -, h⟩ := bind_eq_ok.mp h
  obtain ⟨_, -, h⟩ := bind_eq_ok.mp h
  exact of_sendOperation h

theorem of_despawn {reason : Option String} {timestamp : Option F64} {s' : State}
    (h : s.despawn reason timestamp = .ok s') :
    s.despawned = true ∧ s' = s ∨ s.despawned = false ∧ s.opTx = true ∧
      s' = { s with operations := s.operations ++ [.despawn reason timestamp],
                    despawned := true } := by
  obtain ⟨_, -, h⟩ := bind_eq_ok.mp h
  split at h
  · next hdespawned => exact .inl ⟨hdespawned, (Except.ok.inj h).symm⟩
  · next hdespawned =>
    obtain ⟨_, -, h⟩ := bind_eq_ok.mp h
    obtain ⟨s₁, hsend, h⟩ := bind_eq_ok.mp h
    obtain ⟨hopen, rfl⟩ := of_sendOperation hsend
    exact .inr ⟨eq_false_of_ne_true hdespawned, hopen, (Except.ok.inj h).symm⟩

theorem Inv.enqueue (h : Inv config s) (hidle : s.caller = .idle) {c : Call} {op : Operation}
    (hop : accept (accepted s.calls) (c, .ok ()) =
      ((accepted s.calls).1, (accepted s.calls).2 ++ [op])) {timestamp : Option F64} {s' : State}
    (hs' : s.enqueue op timestamp = .ok s') :
    Inv config { s' with calls := s.calls ++ [(c, .ok ())] } := by
  obtain ⟨hopen, rfl⟩ := of_enqueue hs'
  refine h.queue hopen op _ _ (hop.trans ?_) (by simp [hidle]) fun hne => absurd hidle hne
  rw [h.despawned]

theorem Inv.call (h : Inv config s) (hidle : s.caller = .idle) (c : Call) :
    Inv config (s.call c) := by
  rw [State.call]
  rcases hanswer : s.answer c with error | s'
  · refine h.answered ?_
    cases c <;> rfl
  cases c with
  | updateState state timestamp => exact h.enqueue hidle rfl hanswer
  | createEvent eventName timestamp => exact h.enqueue hidle rfl hanswer
  | publishTelemetry frame timestamp => exact h.enqueue hidle rfl hanswer
  | despawn reason timestamp =>
    rcases of_despawn hanswer with ⟨hdespawned, rfl⟩ | ⟨hdespawned, hopen, rfl⟩
    · refine h.answered ?_
      rw [accept, h.despawned, hdespawned, if_pos rfl]
    · refine h.queue hopen (.despawn reason timestamp) true _ ?_ (by simp [hidle]) fun _ => rfl
      rw [accept, h.despawned, hdespawned]
      rfl
  | close =>
    obtain rfl : s.close = s' := Except.ok.inj hanswer
    rcases hclosed : s.closed with _ | _
    · have hopen : s.opTx = true := h.queueing.mpr ⟨hclosed, by simp [hidle]⟩
      rcases hdespawned : s.despawned with _ | _
      · have hqueued := h.queue hopen (.despawn (some "client_close") none) true
          .stoppingHeartbeat (c := .close) (by rw [accept, h.despawned, hdespawned]; rfl)
          (by simp) fun _ => rfl
        simpa [State.close, State.trySendOperation, hclosed, hdespawned,
          sendOperation_eq hopen (h.running hopen)] using hqueued
      · have hanswered := h.answered (c := (.close, .ok ())) <| by
          rw [accept, h.despawned, hdespawned, if_pos rfl]
        have hmoved := hanswered.move .stoppingHeartbeat s.heartbeatStop s.heartbeatStopTx
          hclosed hdespawned (by simp [hidle])
        simpa [State.close, hclosed, hdespawned] using hmoved
    · rw [State.close, if_pos hclosed]
      refine h.answered ?_
      rw [accept, h.despawned, h.leaving (.inr hclosed), if_pos rfl]

/-- The steps of `close`. -/
theorem Inv.closeStep (h : Inv config s) : Inv config s.closeStep := by
  have hclosed : s.caller ≠ .idle → s.closed = false := by
    intro hbusy
    by_contra hdone
    exact hbusy (h.finished (eq_true_of_ne_false hdone)).1
  have hdespawned : s.caller ≠ .idle → s.despawned = true := fun hbusy => h.leaving (.inl hbusy)
  rw [State.closeStep]
  rcases hcaller : s.caller with _ | _ | _ | _ | _ | _ <;> rw [hcaller] at hclosed hdespawned
  · exact h
  · exact h.move _ _ _ (hclosed nofun) (hdespawned nofun) (by simp [hcaller])
  · have hopen : s.opTx = true := h.queueing.mpr ⟨hclosed nofun, by simp [hcaller]⟩
    simp only [State.trySendOperation, sendOperation_eq hopen (h.running hopen)]
    refine ⟨?_, h.stopped, h.despawned, ?_, fun _ => hdespawned nofun, ?_⟩
    · have hrelayed := h.relayed.push (.operation .stop)
      simpa [State.due, State.pending, State.traffic, hopen] using hrelayed
    · simp
    · intro hdone
      exact absurd ((hclosed nofun).symm.trans hdone) (by simp)
  · dsimp only
    split
    · exact h.move _ _ _ (hclosed nofun) (hdespawned nofun) (by simp [hcaller])
    · exact h
  · dsimp only
    split
    · exact h.move _ _ _ (hclosed nofun) (hdespawned nofun) (by simp [hcaller])
    · exact h
  · dsimp only
    split
    · next hdone =>
      have hopen : s.opTx = false := by
        rw [Bool.eq_false_iff, ne_eq, h.queueing, hcaller]
        simp
      refine ⟨h.relayed, h.stopped, h.despawned, ?_, fun _ => hdespawned nofun, ?_⟩
      · simp [hopen]
      · exact fun _ => ⟨rfl, hdone⟩
    · exact h

/-! ## The tasks -/

theorem traffic_sendOutbound (hlistening : s.sender ≠ .done) (outbound : Outbound) :
    (s.sendOutbound outbound).traffic = s.traffic ++ [outbound] := by
  rw [State.sendOutbound, if_neg hlistening]
  simp [State.traffic]

/-- The operation task passes on what it has in hand. -/
theorem Inv.forward (h : Inv config s) (item : Item) (hitem : s.operation.inHand = [item])
    (now : F64) {operation : OperationTask} (hoperation : operation.inHand = [])
    (hdone : operation = .done ↔ item = .operation .stop) :
    Inv config { s.sendOutbound (item.outbound config now) with operation := operation } := by
  have hlistening : s.sender ≠ .done := h.listening (by simp [State.pending, hitem])
  have hnew := traffic_sendOutbound hlistening (item.outbound config now)
  rw [State.sendOutbound, if_neg hlistening] at hnew ⊢
  have hrunning : s.operation ≠ .done := by
    intro hdone
    rw [hdone] at hitem
    cases hitem
  refine ⟨?_, ?_, h.despawned, h.queueing, h.leaving, h.finished⟩
  · have hpending : s.pending = item :: s.operations.map .operation := by
      rw [State.pending, hitem]
      rfl
    have hrelayed := (hpending ▸ h.relayed).forward ⟨now, rfl⟩
    have hfilter : [item.outbound config now].filter Outbound.isEvent =
        [item.outbound config now] :=
      List.filter_cons_of_pos (isEvent_outbound item now)
    rw [← hfilter, ← List.filter_append, ← hnew] at hrelayed
    change Relayed _ _ (operation.inHand ++ s.operations.map .operation) _
    rw [hoperation]
    exact hrelayed
  · have hbefore : Outbound.shutdown ∉ s.traffic := fun hmem => hrunning (h.stopped.mpr hmem)
    refine (hdone.trans ?_).trans (iff_of_eq (congrArg (Outbound.shutdown ∈ ·) hnew)).symm
    rw [List.mem_append, List.mem_singleton]
    constructor
    · rintro rfl
      exact .inr rfl
    · rintro (hmem | hitem)
      · exact absurd hmem hbefore
      · exact becomes_shutdown ⟨now, hitem⟩

theorem Inv.operationStep (h : Inv config s) (now : F64) :
    Inv config (s.operationStep config now) := by
  rw [State.operationStep]
  rcases hoperation : s.operation with _ | _ | op | _
  · exact h.forward .spawn (by rw [hoperation]; rfl) now rfl (by simp)
  · rcases hoperations : s.operations with _ | ⟨op, operations⟩
    · -- the queue is not closed before the marker has been taken from it
      have hopen : s.opTx = true := by
        by_contra hclosed
        have hrelayed := h.relayed
        rw [State.due, State.pending, hoperation, hoperations, if_neg hclosed] at hrelayed
        obtain ⟨marker, hmem, now', rfl⟩ := hrelayed.exists_passed
          (List.mem_append_right _ (List.mem_singleton_self _))
        have hdone := h.stopped.mpr (shutdown_mem_filter.mp hmem)
        exact absurd (hoperation.symm.trans hdone) (by simp)
      simp only [hopen, if_true]
      exact h
    · refine ⟨?_, ?_, h.despawned, h.queueing, h.leaving, h.finished⟩
      · have hpending : s.pending = .operation op :: operations.map .operation := by
          rw [State.pending, hoperation, hoperations]
          rfl
        have hrelayed := h.relayed
        rw [hpending] at hrelayed
        exact hrelayed
      · have hstopped := h.stopped
        rw [hoperation] at hstopped
        exact ⟨nofun, fun hmem => nomatch hstopped.mpr hmem⟩
  · refine h.forward (.operation op) (by rw [hoperation]; rfl) now ?_ ?_
    · split <;> rfl
    · split <;> simp_all
  · exact h

/-- A heartbeat passes by. -/
theorem Inv.pass (h : Inv config s) {outbound : Outbound} (hevent : outbound.isEvent = false)
    (heartbeat : HeartbeatTask) :
    Inv config { s.sendOutbound outbound with heartbeat := heartbeat } := by
  by_cases hdone : s.sender = .done
  · rw [State.sendOutbound, if_pos hdone]
    exact ⟨h.relayed, h.stopped, h.despawned, h.queueing, h.leaving, h.finished⟩
  · have hnew := traffic_sendOutbound hdone outbound
    rw [State.sendOutbound, if_neg hdone] at hnew ⊢
    refine ⟨?_, ?_, h.despawned, h.queueing, h.leaving, h.finished⟩
    · have hfilter : (s.traffic ++ [outbound]).filter Outbound.isEvent =
          s.traffic.filter Outbound.isEvent := by
        rw [List.filter_append, List.filter_cons_of_neg (by simp [hevent]), List.filter_nil,
          List.append_nil]
      have hrelayed := h.relayed
      rw [← hfilter, ← hnew] at hrelayed
      exact hrelayed
    · have hne : Outbound.shutdown ≠ outbound := by
        rintro rfl
        cases hevent
      refine h.stopped.trans ((?_ : _ ↔ _).trans (iff_of_eq (congrArg (_ ∈ ·) hnew)).symm)
      rw [List.mem_append, List.mem_singleton, or_iff_left hne]

theorem Inv.tick (h : Inv config s) (now : F64) : Inv config (s.tick config now) := by
  rw [State.tick]
  split
  · exact ⟨h.relayed, h.stopped, h.despawned, h.queueing, h.leaving, h.finished⟩
  · exact ⟨h.relayed, h.stopped, h.despawned, h.queueing, h.leaving, h.finished⟩
  · exact h.pass rfl _
  · exact h

theorem Inv.changed (h : Inv config s) : Inv config s.changed := by
  rw [State.changed]
  split
  · split
    · exact h
    · exact ⟨h.relayed, h.stopped, h.despawned, h.queueing, h.leaving, h.finished⟩
  · exact h

/-- The sender task moves what it was given. -/
theorem Inv.deliver (h : Inv config s) (outbound : List Outbound) (sender : SenderTask)
    (sent : List Message) (hworking : s.sender ≠ .done)
    (htraffic : State.traffic { s with outbound := outbound, sender := sender, sent := sent } =
      s.traffic) :
    Inv config { s with outbound := outbound, sender := sender, sent := sent } := by
  refine ⟨?_, ?_, h.despawned, h.queueing, h.leaving, ?_⟩
  · rw [htraffic]
    exact h.relayed
  · rw [htraffic]
    exact h.stopped
  · intro hclosed
    exact absurd (h.finished hclosed).2 hworking

theorem Inv.senderStep (h : Inv config s) : Inv config s.senderStep := by
  rw [State.senderStep]
  rcases hsender : s.sender with _ | msg | _
  · rcases houtbound : s.outbound with _ | ⟨msg | _, outbound⟩
    · -- the queue is not closed before the marker has been taken from it
      have hrunning : s.operation ≠ .done := by
        intro hdone
        have hmem := h.stopped.mp hdone
        simp [State.traffic, hsender, houtbound, SenderTask.inHand] at hmem
      simp only [hrunning, false_and, if_false]
      exact h
    · exact h.deliver _ _ s.sent (by simp [hsender])
        (by simp [State.traffic, hsender, houtbound, SenderTask.inHand])
    · exact h.deliver _ _ s.sent (by simp [hsender])
        (by simp [State.traffic, hsender, houtbound, SenderTask.inHand])
  · exact h.deliver s.outbound _ _ (by simp [hsender])
      (by simp [State.traffic, hsender, SenderTask.inHand])
  · exact h

theorem Inv.step (h : Inv config s) (action : Action) : Inv config (step config s action) := by
  cases action with
  | call c =>
    rw [AircraftClient.step]
    split
    · next hidle => exact h.call hidle c
    · exact h
  | close => exact h.closeStep
  | operation now => exact h.operationStep now
  | tick now => exact h.tick now
  | changed => exact h.changed
  | sender => exact h.senderStep

theorem inv_run (config : Config) (now : F64) (actions : List Action) :
    Inv config (run config (connected config now) actions) :=
  List.foldlRecOn actions _ (inv_connected config now) fun _ h action _ => h.step action

/-! ## After the close -/

theorem Inv.trace (h : Inv config s) (hclosed : s.closed = true) :
    List.Forall₂ (fun item msg => Item.Becomes config item (.send msg))
      (.spawn :: (accepted s.calls).2.map .operation) (s.sent.filter isAircraftEvent) := by
  have hdone := (h.finished hclosed).2
  obtain ⟨-, -, front, hfront, hbecomes, hmem⟩ := h.drained (shutdown_mem_of_done hdone)
  have hevents : (s.sent.map Outbound.send).filter Outbound.isEvent =
      (s.sent.filter isAircraftEvent).map .send := List.filter_map
  rw [State.traffic, hdone, SenderTask.inHand, List.append_assoc, List.singleton_append,
    List.filter_append, List.filter_cons_of_pos rfl, hevents] at hfront
  obtain ⟨rfl, -, -⟩ := (List.append_cons_inj_of_notMem hmem List.not_mem_nil).mp hfront.symm
  exact List.forall₂_map_right_iff.mp hbecomes

/-- What is queued is not sent at once. -/
theorem sent_trySendOperation (s : State) (op : Operation) :
    (s.trySendOperation op).sender = s.sender ∧ (s.trySendOperation op).sent = s.sent := by
  rw [State.trySendOperation]
  split
  · next hsend =>
    obtain ⟨-, rfl⟩ := of_sendOperation hsend
    exact ⟨rfl, rfl⟩
  · exact ⟨rfl, rfl⟩

theorem sent_close (s : State) : s.close.sender = s.sender ∧ s.close.sent = s.sent := by
  rw [State.close]
  split
  · exact ⟨rfl, rfl⟩
  · dsimp only
    split
    · exact ⟨rfl, rfl⟩
    · exact sent_trySendOperation s _

theorem sent_call (s : State) (c : Call) :
    (s.call c).sender = s.sender ∧ (s.call c).sent = s.sent := by
  rw [State.call]
  rcases hanswer : s.answer c with error | s'
  · exact ⟨rfl, rfl⟩
  have hqueued : ∀ {op timestamp}, s.enqueue op timestamp = .ok s' →
      s'.sender = s.sender ∧ s'.sent = s.sent := by
    intro op timestamp h
    obtain ⟨-, rfl⟩ := of_enqueue h
    exact ⟨rfl, rfl⟩
  cases c with
  | updateState state timestamp => exact hqueued hanswer
  | createEvent eventName timestamp => exact hqueued hanswer
  | publishTelemetry frame timestamp => exact hqueued hanswer
  | despawn reason timestamp =>
    rcases of_despawn hanswer with ⟨-, rfl⟩ | ⟨-, -, rfl⟩
    · exact ⟨rfl, rfl⟩
    · exact ⟨rfl, rfl⟩
  | close =>
    obtain rfl : s.close = s' := Except.ok.inj hanswer
    exact sent_close s

theorem sent_closeStep (s : State) :
    s.closeStep.sender = s.sender ∧ s.closeStep.sent = s.sent := by
  rw [State.closeStep]
  rcases s.caller with _ | _ | _ | _ | _ | _
  · exact ⟨rfl, rfl⟩
  · exact ⟨rfl, rfl⟩
  · exact sent_trySendOperation s _
  all_goals
    dsimp only
    split <;> exact ⟨rfl, rfl⟩

theorem sent_sendOutbound (s : State) (outbound : Outbound) :
    (s.sendOutbound outbound).sender = s.sender ∧ (s.sendOutbound outbound).sent = s.sent := by
  rw [State.sendOutbound]
  split <;> exact ⟨rfl, rfl⟩

/-- Nothing is sent once the sender task is done. -/
theorem sent_step (config : Config) (hdone : s.sender = .done) (action : Action) :
    (step config s action).sender = .done ∧ (step config s action).sent = s.sent := by
  have hkept : ∀ {s' : State}, s'.sender = s.sender ∧ s'.sent = s.sent →
      s'.sender = .done ∧ s'.sent = s.sent := fun h => ⟨h.1.trans hdone, h.2⟩
  cases action with
  | call c =>
    rw [step]
    split
    · exact hkept (sent_call s c)
    · exact hkept ⟨rfl, rfl⟩
  | close => exact hkept (sent_closeStep s)
  | operation now =>
    refine hkept ?_
    rw [step, State.operationStep]
    split
    · exact sent_sendOutbound s _
    · split
      · split <;> exact ⟨rfl, rfl⟩
      · exact ⟨rfl, rfl⟩
    · exact sent_sendOutbound s _
    · exact ⟨rfl, rfl⟩
  | tick now =>
    refine hkept ?_
    rw [step, State.tick]
    split
    · exact ⟨rfl, rfl⟩
    · exact ⟨rfl, rfl⟩
    · exact sent_sendOutbound s _
    · exact ⟨rfl, rfl⟩
  | changed =>
    refine hkept ?_
    rw [step, State.changed]
    split
    · split <;> exact ⟨rfl, rfl⟩
    · exact ⟨rfl, rfl⟩
  | sender =>
    rw [step, State.senderStep, hdone]
    exact ⟨hdone, rfl⟩

theorem sent_run (hdone : s.sender = .done) (actions : List Action) :
    (run config s actions).sent = s.sent := by
  induction actions generalizing s with
  | nil => rfl
  | cons action actions ih =>
    obtain ⟨hdone', hsent⟩ := sent_step config hdone action
    exact (ih hdone').trans hsent

/-- Messages about the aircraft are of the kind of their items. -/
theorem kind_becomes {item : Item} {msg : Message} (h : item.Becomes config (.send msg)) :
    item.isSpawn = isSpawn msg ∧ item.isDespawn = isDespawn msg := by
  obtain ⟨now, h⟩ := h
  rcases item with _ | _ | _ | _ | _ | _
  all_goals cases h
  all_goals exact ⟨rfl, rfl⟩

theorem isAircraftEvent_of_isSpawn {msg : Message} (h : isSpawn msg = true) :
    isAircraftEvent msg = true := by
  rw [isSpawn] at h
  split at h
  · next hevent => rw [isAircraftEvent, hevent, Option.isSome_some]
  · simp at h

theorem isAircraftEvent_of_isDespawn {msg : Message} (h : isDespawn msg = true) :
    isAircraftEvent msg = true := by
  rw [isDespawn] at h
  split at h
  · next hevent => rw [isAircraftEvent, hevent, Option.isSome_some]
  · simp at h

/-- A kind that only messages about the aircraft have. -/
theorem countP_events {p : Message → Bool} (hp : ∀ {msg}, p msg = true → isAircraftEvent msg = true)
    (sent : List Message) : (sent.filter isAircraftEvent).countP p = sent.countP p := by
  rw [List.countP_filter]
  refine List.countP_congr fun msg _ => ?_
  rw [Bool.and_eq_true]
  exact and_iff_left_of_imp hp

theorem Inv.countP_sent (h : Inv config s) (hclosed : s.closed = true) :
    s.sent.countP isSpawn = 1 ∧ s.sent.countP isDespawn = 1 := by
  have htrace := h.trace hclosed
  have hspawn := countP_of_forall₂
    (fun item msg (h : Item.Becomes config item (.send msg)) => (kind_becomes h).1) htrace
  have hdespawn := countP_of_forall₂
    (fun item msg (h : Item.Becomes config item (.send msg)) => (kind_becomes h).2) htrace
  rw [countP_events isAircraftEvent_of_isSpawn, List.countP_cons_of_pos rfl, List.countP_map]
    at hspawn
  rw [countP_events isAircraftEvent_of_isDespawn,
    List.countP_cons_of_neg (by simp [Item.isDespawn]), List.countP_map] at hdespawn
  constructor
  · rw [← hspawn]
    simp [Function.comp_def, Item.isSpawn]
  · rw [← hdespawn]
    exact (countP_accepted s.calls).trans (by rw [h.despawned, h.leaving (.inr hclosed)]; rfl)

/-- **The trace of a client.** -/
theorem closed_trace (config : Config) (now : F64) (actions : List Action)
    (hclosed : (run config (connected config now) actions).closed = true) :
    List.Forall₂ (fun item msg => Item.Becomes config item (.send msg))
        (.spawn :: (accepted (run config (connected config now) actions).calls).2.map .operation)
        ((run config (connected config now) actions).sent.filter isAircraftEvent) ∧
      (run config (connected config now) actions).sent.countP isSpawn = 1 ∧
      (run config (connected config now) actions).sent.countP isDespawn = 1 ∧
      ∀ later, (run config (run config (connected config now) actions) later).sent =
        (run config (connected config now) actions).sent := by
  have h := inv_run config now actions
  exact ⟨h.trace hclosed, (h.countP_sent hclosed).1, (h.countP_sent hclosed).2,
    sent_run (h.finished hclosed).2⟩

/-- A session with an event, a despawn, a heartbeat and two closes. -/
def session : List Action :=
  [.call (.createEvent "gear" none), .operation (.finite 1), .tick (.finite 1), .tick (.finite 1),
    .call (.despawn none (some (.finite 5))), .call .close, .tick (.finite 2), .close, .close,
    .changed] ++ List.replicate 6 (.operation (.finite 3)) ++ List.replicate 9 .sender ++
    [.close, .close, .close, .call .close]

def glider : Config :=
  { aircraftName := "glider", initialState := {}, tomlConfig := "", heartbeatIntervalSecs := 1
    clientUuid := ⟨[1]⟩, aircraftUuid := ⟨[2]⟩ }

theorem closed_trace_session :
    (run glider (connected glider (.finite 0)) session).sent =
        [buildHandshakeMessage (.finite 0) ⟨[1]⟩, spawnMessage glider (.finite 1),
          buildHeartbeatMessage (.finite 2) 1 ⟨[1]⟩,
          buildCustomEventMessage (.finite 3) ⟨[2]⟩ "gear" none,
          buildDespawnMessage (.finite 3) ⟨[2]⟩ none (some (.finite 5))] ∧
      (run glider (connected glider (.finite 0)) session).sent.countP isDespawn = 1 :=
  ⟨by decide, (closed_trace glider (.finite 0) session (by decide)).2.2.1⟩

end

end FlyRuler.Transport.AircraftClient
