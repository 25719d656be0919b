import FlyRuler.Python.Client

/-!
# The runs of a Python producer

The methods of `PyClient`, over the `AircraftClient` and its tasks.  A method has the client to
itself, and `close` blocks until the inner one is over; the tasks go on in between.

* `Inv.step`: what every call and every step of a task keeps.
* `producer_run`: what is answered, and what is asked of the inner client.
-/

namespace FlyRuler.Python

open FlyRuler.Pb FlyRuler.Store FlyRuler.Transport FlyRuler.Transport.AircraftClient
open FlyRuler.Lib.Keyed FlyRuler.Lib.Relay

/-! ## The client -/

/-- A method and its arguments. -/
inductive PyCall where
  | updateState (state : PyAircraftState) (timestamp : Option F64)
  | createEvent (eventName : String) (timestamp : Option F64)
  | publishTelemetry (streamId : String) (values : List PyAny) (timestamp : Option F64)
  | despawn (reason : Option String) (timestamp : Option F64)
  | close
  deriving DecidableEq

/-- `PyClient` with its `AircraftClient`, and the calls made so far with their answers. -/
structure PyClient where
  telemetryFields : Table String (List PyTelemetryValueType)
  telemetrySequences : Table String ℕ := ∅
  closed : Bool := false
  -- whether `inner` is still there, and whether `close` waits for it
  inner : Bool := true
  closing : Bool := false
  aircraft : State
  calls : List (PyCall × Except PyErr Unit) := []

def validateTimestamp (name : String) (timestamp : Option F64) : Except PyErr Unit :=
  if timestamp.any (fun value => value.toFinite.isNone) then
    .error (.valueError (name ++ " must be finite"))
  else .ok ()

/-- The text of a transport error. -/
def errorText : ClientError → String
  | .invalidMessage message => "invalid message: " ++ message
  | .clientChannelClosed message => "client channel closed: " ++ message

/-- A finite interval greater than zero. -/
def positiveInterval : F64 → Option ℚ
  | .finite interval => if 0 < interval then some interval else none
  | _ => none

/-- The arguments of `PyClient::new`. -/
structure PyClientArgs where
  aircraftName : String
  initialState : Option PyAircraftState := none
  tomlConfig : String := ""
  heartbeatIntervalSecs : F64 := .finite 1
  telemetrySchemas : Option (List PyTelemetryStreamSchema) := none
  spawnTimestamp : Option F64 := none

/-- `connect_with_telemetry_at`: the client and aircraft UUIDs that it draws, or the error of the
address, the socket or the handshake, come from outside. -/
def connectWithTelemetryAt (outside : Except String (Uuid × Uuid)) (args : PyClientArgs) :
    Except String Config :=
  match State.validateSourceTimestamp args.spawnTimestamp with
  | .error e => .error (errorText e)
  | .ok _ =>
    match positiveInterval args.heartbeatIntervalSecs with
    | none => .error "invalid message: heartbeat interval must be finite and greater than zero"
    | some interval => outside.map fun uuids =>
      { aircraftName := args.aircraftName
        initialState := (args.initialState.getD .defaultForRust).toPb
        tomlConfig := args.tomlConfig
        heartbeatIntervalSecs := interval
        telemetrySchemas := (args.telemetrySchemas.getD []).map PyTelemetryStreamSchema.toPb
        spawnTimestamp := args.spawnTimestamp
        clientUuid := uuids.1
        aircraftUuid := uuids.2 }

namespace PyClient

/-- `PyClient::new` at a reading of the clock. -/
def new (outside : Except String (Uuid × Uuid)) (now : F64) (args : PyClientArgs) :
    Except PyErr (Config × PyClient) :=
  match validateTimestamp "spawn_timestamp" args.spawnTimestamp with
  | .error e => .error e
  | .ok _ =>
    if (positiveInterval args.heartbeatIntervalSecs).isNone then
      .error (.valueError "heartbeat_interval_secs must be finite and greater than zero")
    else
      match registerSchemas ∅ (args.telemetrySchemas.getD []) with
      | .error e => .error e
      | .ok telemetryFields =>
        match connectWithTelemetryAt outside args with
        | .error message => .error (.connectionError message)
        | .ok config => .ok (config,
            { telemetryFields := telemetryFields, aircraft := connected config now })

variable (client : PyClient)

def ensureOpen : Except PyErr Unit :=
  if client.closed then .error (.connectionError "client is closed") else .ok ()

/-- A method of the inner client. -/
def innerCall (call : Call) : PyClient × Except PyErr Unit :=
  if client.inner then
    ({ client with aircraft := client.aircraft.call call },
      match client.aircraft.answer call with
      | .ok _ => .ok ()
      | .error e => .error (.connectionError (errorText e)))
  else (client, .error (.connectionError "client is closed"))

/-- The form of `update_state`, `create_event` and `despawn`. -/
def request (timestamp : Option F64) (call : Call) : PyClient × Except PyErr Unit :=
  match client.ensureOpen >>= fun _ => validateTimestamp "timestamp" timestamp with
  | .error e => (client, .error e)
  | .ok _ => client.innerCall call

def updateState (state : PyAircraftState) (timestamp : Option F64) :
    PyClient × Except PyErr Unit :=
  client.request timestamp (.updateState state.toPb timestamp)

def createEvent (eventName : String) (timestamp : Option F64) : PyClient × Except PyErr Unit :=
  client.request timestamp (.createEvent eventName timestamp)

/-- `publish_telemetry` up to the values of the frame. -/
def frameValues (streamId : String) (values : List PyAny) (timestamp : Option F64) :
    Except PyErr (List TelemetryValue) := do
  client.ensureOpen
  validateTimestamp "timestamp" timestamp
  telemetryValues client.telemetryFields streamId values

def publishTelemetry (streamId : String) (values : List PyAny) (timestamp : Option F64) :
    PyClient × Except PyErr Unit :=
  match client.frameValues streamId values timestamp with
  | .error e => (client, .error e)
  | .ok converted =>
    -- `saturating_add`
    let sequence := min ((client.telemetrySequences.lookup streamId).getD 0 + 1) (u64Size - 1)
    { client with
      telemetrySequences := client.telemetrySequences.insert streamId sequence }.innerCall
        (.publishTelemetry ⟨streamId, sequence, converted⟩ timestamp)

def despawn (reason : Option String) (timestamp : Option F64) : PyClient × Except PyErr Unit :=
  client.request timestamp (.despawn reason timestamp)

/-- `close` up to where it waits; its answer is that of its end. -/
def close : PyClient × Except PyErr Unit :=
  if client.closed then (client, .ok ())
  else if client.inner then
    ({ client with aircraft := client.aircraft.call .close, closing := true }, .ok ())
  else ({ client with closed := true }, .ok ())

def answer : PyCall → PyClient × Except PyErr Unit
  | .updateState state timestamp => client.updateState state timestamp
  | .createEvent eventName timestamp => client.createEvent eventName timestamp
  | .publishTelemetry streamId values timestamp =>
    client.publishTelemetry streamId values timestamp
  | .despawn reason timestamp => client.despawn reason timestamp
  | .close => client.close

def call (c : PyCall) : PyClient :=
  { (client.answer c).1 with calls := client.calls ++ [(c, (client.answer c).2)] }

/-- The end of `close`, once that of the inner client is over. -/
def closeReturns : PyClient :=
  if client.closing && client.aircraft.closed then
    { client with inner := false, closed := true, closing := false }
  else client

end PyClient

/-! ## Runs -/

inductive PyAction where
  | call (c : PyCall)
  | closeReturns
  -- the steps of the inner client
  | close
  | operation (now : F64)
  | tick (now : F64)
  | changed
  | sender

/-- The step of the inner client, if it is one. -/
def PyAction.inner : PyAction → Option Action
  | .close => some .close
  | .operation now => some (.operation now)
  | .tick now => some (.tick now)
  | .changed => some .changed
  | .sender => some .sender
  | _ => none

def step (config : Config) (client : PyClient) (action : PyAction) : PyClient :=
  match action with
  | .call c => if client.closing then client else client.call c
  | .closeReturns => client.closeReturns
  | _ =>
    match action.inner with
    | some inner => { client with aircraft := AircraftClient.step config client.aircraft inner }
    | none => client

def run (config : Config) (client : PyClient) (actions : List PyAction) : PyClient :=
  actions.foldl (step config) client

/-! ## What the calls come to -/

def PyCall.isClose : PyCall → Bool
  | .close => true
  | _ => false

/-- What a client that is not closed answers: it depends on the arguments only. -/
def argumentCheck (fields : Table String (List PyTelemetryValueType)) :
    PyCall → Except PyErr Unit
  | .updateState _ timestamp => validateTimestamp "timestamp" timestamp
  | .createEvent _ timestamp => validateTimestamp "timestamp" timestamp
  | .publishTelemetry streamId values timestamp => do
    validateTimestamp "timestamp" timestamp
    let _ ← telemetryValues fields streamId values
    return ()
  | .despawn _ timestamp => validateTimestamp "timestamp" timestamp
  | .close => .ok ()

def answerOf (fields : Table String (List PyTelemetryValueType)) (closed : Bool) (c : PyCall) :
    Except PyErr Unit :=
  if closed && !c.isClose then .error (.connectionError "client is closed")
  else argumentCheck fields c

/-- The answers to the calls, in their order: a client is closed by the first `close`. -/
def answers (fields : Table String (List PyTelemetryValueType)) :
    Bool → List PyCall → List (PyCall × Except PyErr Unit)
  | _, [] => []
  | closed, c :: rest => (c, answerOf fields closed c) :: answers fields (closed || c.isClose) rest

/-- The frame that an operation publishes, with the time given for it. -/
def telemetryOf : Operation → Option (TelemetryFrame × Option F64)
  | .publishTelemetry frame timestamp => some (frame, timestamp)
  | _ => none

def framesOn (streamId : String) (operations : List Operation) :
    List (TelemetryFrame × Option F64) :=
  (operations.filterMap telemetryOf).filter fun f => f.1.streamId == streamId

/-- The values and the time of a call that has published on the stream. -/
def publishedBy (streamId : String) : PyCall × Except PyErr Unit →
    Option (List PyAny × Option F64)
  | (.publishTelemetry id values timestamp, .ok _) =>
    if id = streamId then some (values, timestamp) else none
  | _ => none

def publishedOn (streamId : String) (calls : List (PyCall × Except PyErr Unit)) :
    List (List PyAny × Option F64) :=
  calls.filterMap (publishedBy streamId)

/-- The frame of the call with this index among those on its stream. -/
structure Carries (fields : Table String (List PyTelemetryValueType)) (streamId : String)
    (call : (List PyAny × Option F64) × ℕ) (frame : TelemetryFrame × Option F64) : Prop where
  values : telemetryValues fields streamId call.1.1 = .ok frame.1.values
  timestamp : frame.2 = call.1.2
  sequence : frame.1.sequence = min (call.2 + 1) (u64Size - 1)

section Calls

variable {fields : Table String (List PyTelemetryValueType)} {streamId : String}

theorem answers_concat (closed : Bool) (calls : List PyCall) (c : PyCall) :
    answers fields closed (calls ++ [c]) = answers fields closed calls ++
      [(c, answerOf fields (closed || calls.any PyCall.isClose) c)] := by
  induction calls generalizing closed with
  | nil =>
    rw [List.any_nil, Bool.or_false]
    rfl
  | cons first calls ih =>
    rw [List.cons_append, answers, ih, answers, List.any_cons, Bool.or_assoc]
    rfl

theorem publishedOn_concat (calls : List (PyCall × Except PyErr Unit))
    (c : PyCall × Except PyErr Unit) : publishedOn streamId (calls ++ [c]) =
      publishedOn streamId calls ++ (publishedBy streamId c).toList := by
  rw [publishedOn, List.filterMap_append]
  rcases hc : publishedBy streamId c with _ | published <;> simp [publishedOn, hc]

theorem framesOn_concat (operations : List Operation) (op : Operation) :
    framesOn streamId (operations ++ [op]) = framesOn streamId operations ++
      ((telemetryOf op).filter fun f => f.1.streamId == streamId).toList := by
  rw [framesOn, List.filterMap_append, List.filter_append]
  rcases hop : telemetryOf op with _ | frame
  · simp [framesOn, hop]
  · by_cases hid : frame.1.streamId = streamId <;> simp [framesOn, hop, hid, Option.filter]

end Calls

/-! ## The invariant -/

/-- What is answered and asked of the inner client, between two calls or within `close`. -/
structure Inv (fields : Table String (List PyTelemetryValueType)) (config : Config)
    (client : PyClient) : Prop where
  registered : client.telemetryFields = fields
  aircraft : AircraftClient.Inv config client.aircraft
  idle : client.closing = false →
    client.aircraft.caller = .idle ∧ client.aircraft.closed = client.closed
  inner : client.inner = !client.closed
  waiting : client.closing = true → client.closed = false
  answered : client.calls = answers fields false (client.calls.map Prod.fst)
  closing : (client.closing || client.closed) = (client.calls.map Prod.fst).any PyCall.isClose
  sequence : ∀ streamId, (client.telemetrySequences.lookup streamId).getD 0 =
    min (publishedOn streamId client.calls).length (u64Size - 1)
  frames : ∀ streamId, List.Forall₂ (Carries fields streamId)
    (publishedOn streamId client.calls).zipIdx
    (framesOn streamId (accepted client.aircraft.calls).2)

variable {fields : Table String (List PyTelemetryValueType)} {config : Config} {client : PyClient}

/-- The state at the end of `PyClient::new`. -/
theorem inv_start (fields : Table String (List PyTelemetryValueType)) (config : Config)
    (now : F64) :
    Inv fields config { telemetryFields := fields, aircraft := connected config now } where
  registered := rfl
  aircraft := inv_connected config now
  idle _ := ⟨rfl, rfl⟩
  inner := rfl
  waiting := nofun
  answered := rfl
  closing := rfl
  sequence _ := by
    rw [lookup_empty]
    rfl
  frames _ := .nil

/-! ## The steps of the inner client -/

theorem calls_sendOutbound (s : State) (outbound : Outbound) :
    (s.sendOutbound outbound).calls = s.calls ∧ (s.sendOutbound outbound).caller = s.caller ∧
      (s.sendOutbound outbound).closed = s.closed := by
  rw [State.sendOutbound]
  split <;> exact ⟨rfl, rfl, rfl⟩

theorem calls_trySendOperation (s : State) (op : Operation) :
    (s.trySendOperation op).calls = s.calls := by
  rw [State.trySendOperation]
  split
  · next hsend =>
    obtain ⟨-, rfl⟩ := of_sendOperation hsend
    rfl
  · rfl

/-- The tasks make no calls, and leave a client alone that is not being closed. -/
theorem step_inner {action : PyAction} {inner : Action} (hinner : action.inner = some inner)
    (s : State) : (AircraftClient.step config s inner).calls = s.calls ∧
      (s.caller = .idle → (AircraftClient.step config s inner).caller = .idle ∧
        (AircraftClient.step config s inner).closed = s.closed) := by
  cases action with
  | call c => cases hinner
  | closeReturns => cases hinner
  | close =>
    cases hinner
    constructor
    · show s.closeStep.calls = s.calls
      unfold State.closeStep
      split
      · rfl
      · rfl
      · exact calls_trySendOperation s .stop
      all_goals
        split <;> rfl
    · intro hidle
      have hsame : s.closeStep = s := by
        rw [State.closeStep, hidle]
      rw [AircraftClient.step, hsame]
      exact ⟨hidle, rfl⟩
  | operation now =>
    cases hinner
    have hkept : ∀ (outbound : Outbound) (operation : OperationTask),
        ({ s.sendOutbound outbound with operation := operation } : State).calls = s.calls ∧
          (s.caller = .idle →
            ({ s.sendOutbound outbound with operation := operation } : State).caller = .idle ∧
              ({ s.sendOutbound outbound with operation := operation } : State).closed =
                s.closed) := by
      intro outbound operation
      obtain ⟨hcalls, hcaller, hclosed⟩ := calls_sendOutbound s outbound
      exact ⟨hcalls, fun hidle => ⟨hcaller.trans hidle, hclosed⟩⟩
    rw [AircraftClient.step, State.operationStep]
    split
    · exact hkept _ _
    · split
      · split <;> exact ⟨rfl, fun hidle => ⟨hidle, rfl⟩⟩
      · exact ⟨rfl, fun hidle => ⟨hidle, rfl⟩⟩
    · exact hkept _ _
    · exact ⟨rfl, fun hidle => ⟨hidle, rfl⟩⟩
  | tick now =>
    cases hinner
    rw [AircraftClient.step, State.tick]
    split
    · exact ⟨rfl, fun hidle => ⟨hidle, rfl⟩⟩
    · exact ⟨rfl, fun hidle => ⟨hidle, rfl⟩⟩
    · next seqNum _ =>
      obtain ⟨hcalls, hcaller, hclosed⟩ := calls_sendOutbound s
        (.send (buildHeartbeatMessage now (min (seqNum + 1) (u64Size - 1)) config.clientUuid))
      exact ⟨hcalls, fun hidle => ⟨hcaller.trans hidle, hclosed⟩⟩
    · exact ⟨rfl, fun hidle => ⟨hidle, rfl⟩⟩
  | changed =>
    cases hinner
    rw [AircraftClient.step, State.changed]
    split
    · split <;> exact ⟨rfl, fun hidle => ⟨hidle, rfl⟩⟩
    · exact ⟨rfl, fun hidle => ⟨hidle, rfl⟩⟩
  | sender =>
    cases hinner
    rw [AircraftClient.step, State.senderStep]
    split
    · split
      · split <;> exact ⟨rfl, fun hidle => ⟨hidle, rfl⟩⟩
      · exact ⟨rfl, fun hidle => ⟨hidle, rfl⟩⟩
      · exact ⟨rfl, fun hidle => ⟨hidle, rfl⟩⟩
    · exact ⟨rfl, fun hidle => ⟨hidle, rfl⟩⟩
    · exact ⟨rfl, fun hidle => ⟨hidle, rfl⟩⟩

theorem Inv.task (h : Inv fields config client) (action : PyAction) {inner : Action}
    (hinner : action.inner = some inner) :
    Inv fields config
      { client with aircraft := AircraftClient.step config client.aircraft inner } := by
  obtain ⟨hcalls, hidle⟩ := @step_inner config _ _ hinner client.aircraft
  refine ⟨h.registered, h.aircraft.step inner, fun hclosing => ?_, h.inner, h.waiting, h.answered,
    h.closing, h.sequence, ?_⟩
  · obtain ⟨hcaller, hclosed⟩ := h.idle hclosing
    exact ⟨(hidle hcaller).1, (hidle hcaller).2.trans hclosed⟩
  · dsimp only
    rw [hcalls]
    exact h.frames

theorem Inv.closeReturns (h : Inv fields config client) :
    Inv fields config client.closeReturns := by
  rw [PyClient.closeReturns]
  split
  · next hend =>
    obtain ⟨hclosing, hclosed⟩ := Bool.and_eq_true_iff.mp hend
    refine ⟨h.registered, h.aircraft, fun _ => ⟨(h.aircraft.finished hclosed).1, hclosed⟩, rfl,
      nofun, h.answered, ?_, h.sequence, h.frames⟩
    rw [← h.closing, hclosing]
    rfl
  · exact h

/-! ## The calls -/

theorem validateTimestamp_ok {name : String} {timestamp : Option F64}
    (h : validateTimestamp name timestamp = .ok ()) :
    State.validateSourceTimestamp timestamp = .ok () := by
  rw [validateTimestamp] at h
  split_ifs at h with hbad
  rw [State.validateSourceTimestamp, if_neg hbad]

section Inner
variable {s : State} (hinv : AircraftClient.Inv config s) (hidle : s.caller = .idle)
  (hopen : s.closed = false) {timestamp : Option F64}
  (hvalid : State.validateSourceTimestamp timestamp = .ok ())
include hinv hidle hopen hvalid

/-- The inner client takes every operation at a finite time. -/
theorem enqueue_ok (op : Operation) :
    s.enqueue op timestamp = .ok { s with operations := s.operations ++ [op] } := by
  have hopTx : s.opTx = true := hinv.queueing.mpr ⟨hopen, by simp [hidle]⟩
  have hensure : s.ensureOpen = .ok () := by rw [State.ensureOpen, hopen]; rfl
  rw [State.enqueue, hensure, hvalid]
  exact sendOperation_eq hopTx (hinv.running hopTx) op

theorem despawn_ok (reason : Option String) : ∃ s', s.despawn reason timestamp = .ok s' := by
  have hopTx : s.opTx = true := hinv.queueing.mpr ⟨hopen, by simp [hidle]⟩
  have hensure : s.ensureOpen = .ok () := by rw [State.ensureOpen, hopen]; rfl
  rw [State.despawn, hensure, hvalid, sendOperation_eq hopTx (hinv.running hopTx)]
  rcases s.despawned with _ | _
  · exact ⟨_, rfl⟩
  · exact ⟨_, rfl⟩

end Inner

theorem calls_of_answer {s s' : State} {call : Call} (h : s.answer call = .ok s') :
    (s.call call).calls = s.calls ++ [(call, .ok ())] := by
  rw [State.call, h]

/-- A method of the inner client that it answers. -/
theorem innerCall_eq (hinner : client.inner = true) {call : Call} {s' : State}
    (hanswer : client.aircraft.answer call = .ok s') :
    client.innerCall call = ({ client with aircraft := client.aircraft.call call }, .ok ()) := by
  rw [PyClient.innerCall, hinner, hanswer]
  rfl

theorem Inv.inner_of_open (h : Inv fields config client) (hopen : client.closed = false) :
    client.inner = true := by
  rw [h.inner, hopen]
  rfl

/-- **One more call**: what it is to leave behind. -/
theorem Inv.concat (h : Inv fields config client) (hclosing : client.closing = false) {c : PyCall}
    {a : Except PyErr Unit} (ha : answerOf fields client.closed c = a) {aircraft : State}
    (haircraft : AircraftClient.Inv config aircraft) {closing : Bool}
    (hclose : closing = (c.isClose && !client.closed))
    (hidle : closing = false → aircraft.caller = .idle ∧ aircraft.closed = client.closed)
    (sequences : Table String ℕ)
    (hsequence : ∀ streamId, (sequences.lookup streamId).getD 0 =
      min (publishedOn streamId (client.calls ++ [(c, a)])).length (u64Size - 1))
    (hframes : ∀ streamId, ∃ frames, framesOn streamId (accepted aircraft.calls).2 =
        framesOn streamId (accepted client.aircraft.calls).2 ++ frames ∧
      List.Forall₂ (Carries fields streamId)
        ((publishedBy streamId (c, a)).toList.zipIdx (publishedOn streamId client.calls).length)
        frames) :
    Inv fields config { client with
      telemetrySequences := sequences
      closing := closing
      aircraft := aircraft
      calls := client.calls ++ [(c, a)] } := by
  have hcalled := h.closing
  rw [hclosing, Bool.false_or] at hcalled
  refine ⟨h.registered, haircraft, hidle, h.inner, fun hwaiting => ?_, ?_, ?_, hsequence, ?_⟩
  · rw [hclose, Bool.and_eq_true, Bool.not_eq_true'] at hwaiting
    exact hwaiting.2
  · rw [List.map_append, List.map_singleton, answers_concat, ← h.answered, ← hcalled,
      Bool.false_or, ha]
  · rw [List.map_append, List.any_append, ← hcalled, hclose]
    rcases client.closed <;> simp
  · intro streamId
    obtain ⟨frames, heq, hnew⟩ := hframes streamId
    dsimp only
    rw [heq, publishedOn_concat, List.zipIdx_append]
    exact List.rel_append (h.frames streamId) (by rwa [Nat.zero_add])

/-- A call that leaves the client as it is. -/
theorem Inv.unchanged (h : Inv fields config client) (hclosing : client.closing = false)
    {c : PyCall} {a : Except PyErr Unit} (ha : answerOf fields client.closed c = a)
    (hclose : (c.isClose && !client.closed) = false)
    (hnone : ∀ streamId, publishedBy streamId (c, a) = none) :
    Inv fields config { client with calls := client.calls ++ [(c, a)] } := by
  have hconcat := h.concat hclosing ha h.aircraft hclose.symm (fun _ => h.idle hclosing)
    client.telemetrySequences (fun streamId => ?_) fun streamId => ?_
  · rw [← hclosing] at hconcat
    exact hconcat
  · rw [publishedOn_concat, hnone, Option.toList_none, List.append_nil]
    exact h.sequence streamId
  · refine ⟨[], (List.append_nil _).symm, ?_⟩
    rw [hnone]
    exact .nil

/-- Only `close` moves the caller of the inner client. -/
theorem kept_of_answer {s s' : State} {call : Call} (h : s.answer call = .ok s')
    (hcall : call ≠ .close) :
    (s.call call).caller = s.caller ∧ (s.call call).closed = s.closed := by
  rw [State.call, h]
  cases call with
  | updateState state timestamp =>
    obtain ⟨-, rfl⟩ := of_enqueue h
    exact ⟨rfl, rfl⟩
  | createEvent eventName timestamp =>
    obtain ⟨-, rfl⟩ := of_enqueue h
    exact ⟨rfl, rfl⟩
  | publishTelemetry frame timestamp =>
    obtain ⟨-, rfl⟩ := of_enqueue h
    exact ⟨rfl, rfl⟩
  | despawn reason timestamp =>
    rcases of_despawn h with ⟨-, rfl⟩ | ⟨-, -, rfl⟩
    · exact ⟨rfl, rfl⟩
    · exact ⟨rfl, rfl⟩
  | close => exact absurd rfl hcall

/-- Only `publish_telemetry` adds to the frames. -/
theorem framesOn_accept {streamId : String} {asked : Bool × List Operation} {call : Call}
    (hcall : ∀ frame timestamp, call ≠ .publishTelemetry frame timestamp) :
    framesOn streamId (accept asked (call, .ok ())).2 = framesOn streamId asked.2 := by
  cases call with
  | updateState state timestamp =>
    rw [accept, framesOn_concat]
    exact List.append_nil _
  | createEvent eventName timestamp =>
    rw [accept, framesOn_concat]
    exact List.append_nil _
  | publishTelemetry frame timestamp => exact absurd rfl (hcall frame timestamp)
  | despawn reason timestamp =>
    rw [accept]
    split
    · rfl
    · rw [framesOn_concat]
      exact List.append_nil _
  | close =>
    rw [accept]
    split
    · rfl
    · rw [framesOn_concat]
      exact List.append_nil _

theorem call_eq {c : PyCall} {client' : PyClient} {a : Except PyErr Unit}
    (h : client.answer c = (client', a)) :
    client.call c = { client' with calls := client.calls ++ [(c, a)] } := by
  rw [PyClient.call, h]

/-- The calls that only pass on what they are given. -/
theorem Inv.request (h : Inv fields config client) (hclosing : client.closing = false)
    {c : PyCall} {timestamp : Option F64} {call : Call}
    (hanswer : client.answer c = client.request timestamp call)
    (hcheck : argumentCheck fields c = validateTimestamp "timestamp" timestamp)
    (hclose : c.isClose = false) (hcall : call ≠ .close)
    (hnone : ∀ streamId a, publishedBy streamId (c, a) = none)
    (hinner : client.closed = false → State.validateSourceTimestamp timestamp = .ok () →
      ∃ s', client.aircraft.answer call = .ok s')
    (hframes : ∀ frame timestamp, call ≠ .publishTelemetry frame timestamp) :
    Inv fields config (client.call c) := by
  have hkept : (c.isClose && !client.closed) = false := by rw [hclose, Bool.false_and]
  rw [PyClient.request, PyClient.ensureOpen] at hanswer
  rcases hclosed : client.closed with _ | _
  · rw [hclosed] at hanswer
    rcases hvalid : validateTimestamp "timestamp" timestamp with e | ⟨⟨⟩⟩
    · rw [hvalid] at hanswer
      rw [call_eq hanswer]
      refine h.unchanged hclosing ?_ hkept fun streamId => hnone streamId _
      rw [answerOf, hclosed, Bool.false_and, hcheck, hvalid]
      rfl
    · obtain ⟨s', hs'⟩ := hinner hclosed (validateTimestamp_ok hvalid)
      obtain ⟨hcaller, hstill⟩ := kept_of_answer hs' hcall
      obtain ⟨hidle, hopen⟩ := h.idle hclosing
      rw [hvalid] at hanswer
      rw [call_eq (hanswer.trans (innerCall_eq (h.inner_of_open hclosed) hs'))]
      have hconcat := h.concat hclosing (a := .ok ()) ?_ (h.aircraft.call hidle call) hkept.symm
        (fun _ => ⟨hcaller.trans hidle, hstill.trans hopen⟩) client.telemetrySequences
        (fun streamId => ?_) fun streamId => ?_
      · rw [← hclosing] at hconcat
        exact hconcat
      · rw [answerOf, hclosed, Bool.false_and, hcheck, hvalid]
        rfl
      · rw [publishedOn_concat, hnone, Option.toList_none, List.append_nil]
        exact h.sequence streamId
      · refine ⟨[], ?_, ?_⟩
        · rw [calls_of_answer hs', accepted_concat, framesOn_accept hframes, List.append_nil]
        · rw [hnone]
          exact .nil
  · rw [hclosed] at hanswer
    rw [call_eq hanswer]
    refine h.unchanged hclosing ?_ hkept fun streamId => hnone streamId _
    rw [answerOf, hclosed, hclose]
    rfl

theorem Inv.publishTelemetry (h : Inv fields config client) (hclosing : client.closing = false)
    (streamId : String) (values : List PyAny) (timestamp : Option F64) :
    Inv fields config (client.call (.publishTelemetry streamId values timestamp)) := by
  have hrefused : ∀ e, client.frameValues streamId values timestamp = .error e →
      answerOf fields client.closed (.publishTelemetry streamId values timestamp) = .error e →
      Inv fields config (client.call (.publishTelemetry streamId values timestamp)) := by
    intro e hframe ha
    have hanswer : client.answer (.publishTelemetry streamId values timestamp) =
        (client, .error e) := by
      rw [PyClient.answer, PyClient.publishTelemetry, hframe]
    rw [call_eq hanswer]
    exact h.unchanged hclosing ha rfl fun _ => rfl
  have hframe : client.frameValues streamId values timestamp = (do
      client.ensureOpen
      validateTimestamp "timestamp" timestamp
      telemetryValues fields streamId values) := by
    rw [PyClient.frameValues, h.registered]
  rw [PyClient.ensureOpen] at hframe
  rcases hclosed : client.closed with _ | _
  · rw [hclosed] at hframe hrefused
    rcases hvalid : validateTimestamp "timestamp" timestamp with e | ⟨⟨⟩⟩
    · rw [hvalid] at hframe
      refine hrefused e hframe ?_
      rw [answerOf, argumentCheck, hvalid]
      rfl
    rcases hvalues : telemetryValues fields streamId values with e | converted
    · rw [hvalid, hvalues] at hframe
      refine hrefused e hframe ?_
      rw [answerOf, argumentCheck, hvalid, hvalues]
      rfl
    · obtain ⟨hidle, hopen⟩ := h.idle hclosing
      let sequence := min ((client.telemetrySequences.lookup streamId).getD 0 + 1) (u64Size - 1)
      let frame : TelemetryFrame := ⟨streamId, sequence, converted⟩
      have hs' : client.aircraft.answer (.publishTelemetry frame timestamp) = _ :=
        enqueue_ok h.aircraft hidle (hopen.trans hclosed) (validateTimestamp_ok hvalid)
          (.publishTelemetry frame timestamp)
      obtain ⟨hcaller, hstill⟩ := kept_of_answer hs' nofun
      rw [hvalid, hvalues] at hframe
      let numbered := { client with
        telemetrySequences := client.telemetrySequences.insert streamId sequence }
      have hanswer : client.answer (.publishTelemetry streamId values timestamp) =
          numbered.innerCall (.publishTelemetry frame timestamp) := by
        rw [PyClient.answer, PyClient.publishTelemetry, hframe]
        rfl
      have hinner := @innerCall_eq numbered (h.inner_of_open hclosed) _ _ hs'
      rw [call_eq (hanswer.trans hinner)]
      have hkept : false = ((PyCall.publishTelemetry streamId values timestamp).isClose &&
        !client.closed) := rfl
      have hconcat := h.concat hclosing (a := .ok ()) ?_
        (h.aircraft.call hidle (.publishTelemetry frame timestamp)) hkept
        (fun _ => ⟨hcaller.trans hidle, hstill.trans hopen⟩)
        (client.telemetrySequences.insert streamId sequence) (fun id => ?_) fun id => ?_
      · rw [← hclosing] at hconcat
        exact hconcat
      · rw [answerOf, hclosed, argumentCheck, hvalid, hvalues]
        rfl
      · rw [lookup_insert, publishedOn_concat, publishedBy, List.length_append]
        by_cases hid : id = streamId
        · subst hid
          rw [if_pos rfl, if_pos rfl, Option.getD_some, Option.toList_some, List.length_singleton]
          have hsequence := h.sequence id
          omega
        · rw [if_neg hid, if_neg (Ne.symm hid), Option.toList_none, List.length_nil, add_zero]
          exact h.sequence id
      · rw [calls_of_answer hs', accepted_concat, accept, framesOn_concat, publishedBy]
        refine ⟨_, rfl, ?_⟩
        by_cases hid : streamId = id
        · subst hid
          have hfilter : (telemetryOf (.publishTelemetry frame timestamp)).filter
              (fun f => f.1.streamId == streamId) = some (frame, timestamp) := by
            simp [telemetryOf, frame, Option.filter]
          rw [if_pos rfl, hfilter]
          refine .cons ⟨hvalues, rfl, ?_⟩ .nil
          have hsequence := h.sequence streamId
          show sequence = _
          omega
        · have hfilter : (telemetryOf (.publishTelemetry frame timestamp)).filter
              (fun f => f.1.streamId == id) = none := by
            simp [telemetryOf, frame, Option.filter, hid]
          rw [if_neg hid, hfilter]
          exact .nil
  · rw [hclosed] at hframe hrefused
    exact hrefused _ hframe rfl

theorem Inv.close (h : Inv fields config client) (hclosing : client.closing = false) :
    Inv fields config (client.call .close) := by
  have hanswer : client.answer .close = client.close := rfl
  rw [PyClient.close] at hanswer
  rcases hclosed : client.closed with _ | _
  · rw [if_neg (ne_true_of_eq_false hclosed), if_pos (h.inner_of_open hclosed)] at hanswer
    rw [call_eq hanswer]
    obtain ⟨hidle, -⟩ := h.idle hclosing
    have hclose : true = (PyCall.close.isClose && !client.closed) := by
      rw [hclosed]
      rfl
    refine h.concat hclosing ?_ (h.aircraft.call hidle .close) hclose nofun
      client.telemetrySequences (fun streamId => ?_) fun streamId => ?_
    · rw [answerOf, hclosed]
      rfl
    · have hnone : publishedBy streamId (.close, .ok ()) = none := rfl
      rw [publishedOn_concat, hnone, Option.toList_none, List.append_nil]
      exact h.sequence streamId
    · refine ⟨[], ?_, .nil⟩
      have hs' : client.aircraft.answer .close = .ok client.aircraft.close := rfl
      rw [calls_of_answer hs', accepted_concat, List.append_nil]
      exact framesOn_accept nofun
  · rw [if_pos hclosed] at hanswer
    rw [call_eq hanswer]
    refine h.unchanged hclosing ?_ ?_ fun _ => rfl
    · rw [answerOf, hclosed]
      rfl
    · rw [hclosed]
      rfl

theorem Inv.call (h : Inv fields config client) (hclosing : client.closing = false) (c : PyCall) :
    Inv fields config (client.call c) := by
  obtain ⟨hidle, hsame⟩ := h.idle hclosing
  cases c with
  | updateState state timestamp =>
    exact h.request hclosing rfl rfl rfl nofun (fun _ _ => rfl)
      (fun hopen hvalid => ⟨_, enqueue_ok h.aircraft hidle (hsame.trans hopen) hvalid _⟩) nofun
  | createEvent eventName timestamp =>
    exact h.request hclosing rfl rfl rfl nofun (fun _ _ => rfl)
      (fun hopen hvalid => ⟨_, enqueue_ok h.aircraft hidle (hsame.trans hopen) hvalid _⟩) nofun
  | publishTelemetry streamId values timestamp =>
    exact h.publishTelemetry hclosing streamId values timestamp
  | despawn reason timestamp =>
    exact h.request hclosing rfl rfl rfl nofun (fun _ _ => rfl)
      (fun hopen hvalid => despawn_ok h.aircraft hidle (hsame.trans hopen) hvalid reason) nofun
  | close => exact h.close hclosing

theorem Inv.step (h : Inv fields config client) (action : PyAction) :
    Inv fields config (step config client action) := by
  cases action with
  | call c =>
    rw [Python.step]
    split
    · exact h
    · next hclosing => exact h.call (eq_false_of_ne_true hclosing) c
  | closeReturns => exact h.closeReturns
  | close => exact h.task .close rfl
  | operation now => exact h.task (.operation now) rfl
  | tick now => exact h.task (.tick now) rfl
  | changed => exact h.task .changed rfl
  | sender => exact h.task .sender rfl

theorem Inv.run (h : Inv fields config client) (actions : List PyAction) :
    Inv fields config (run config client actions) :=
  List.foldlRecOn actions _ h fun _ h action _ => h.step action

/-! ## From the construction on -/

/-- What the construction has checked, and what it leaves. -/
theorem of_new {outside : Except String (Uuid × Uuid)} {now : F64} {args : PyClientArgs}
    (h : PyClient.new outside now args = .ok (config, client)) :
    ∃ fields, registerSchemas ∅ (args.telemetrySchemas.getD []) = .ok fields ∧
      client = { telemetryFields := fields, aircraft := connected config now } ∧
      config.telemetrySchemas =
        (args.telemetrySchemas.getD []).map PyTelemetryStreamSchema.toPb ∧
      State.validateSourceTimestamp config.spawnTimestamp = .ok () := by
  rw [PyClient.new] at h
  rcases hvalid : validateTimestamp "spawn_timestamp" args.spawnTimestamp with e | ⟨⟨⟩⟩
  · rw [hvalid] at h
    cases h
  rw [hvalid] at h
  dsimp only at h
  split_ifs at h with hinterval
  rcases hfields : registerSchemas ∅ (args.telemetrySchemas.getD []) with e | fields
  · rw [hfields] at h
    cases h
  rw [hfields] at h
  rcases hconnect : connectWithTelemetryAt outside args with message | config'
  · rw [hconnect] at h
    cases h
  rw [hconnect] at h
  cases h
  refine ⟨fields, rfl, rfl, ?_⟩
  rw [connectWithTelemetryAt, validateTimestamp_ok hvalid] at hconnect
  rcases hpositive : positiveInterval args.heartbeatIntervalSecs with _ | interval
  · rw [hpositive] at hconnect
    cases hconnect
  rw [hpositive] at hconnect
  rcases outside with message | uuids
  · cases hconnect
  · cases hconnect
    exact ⟨rfl, validateTimestamp_ok hvalid⟩

/-- **A Python producer**: a call fails for its arguments, or because the client is closed, and for
nothing else; the frames of a stream have the values of the calls that published on it, in their
order, and the numbers one, two, three, ..., which stop at the last `u64`; the server takes every
frame. -/
theorem producer_run (outside : Except String (Uuid × Uuid)) (now : F64) (args : PyClientArgs)
    (hnew : PyClient.new outside now args = .ok (config, client)) (actions : List PyAction) :
    let c := run config client actions
    let operations := (accepted c.aircraft.calls).2
    c.calls = answers client.telemetryFields false (c.calls.map Prod.fst) ∧
      (∀ streamId, List.Forall₂ (Carries client.telemetryFields streamId)
        (publishedOn streamId c.calls).zipIdx (framesOn streamId operations)) ∧
      ∀ frame timestamp, .publishTelemetry frame timestamp ∈ operations →
        validateTelemetryFrame config.telemetrySchemas frame = .ok () := by
  obtain ⟨fields, hfields, rfl, hschemas, -⟩ := of_new hnew
  have hinv := (inv_start fields config now).run actions
  refine ⟨hinv.answered, hinv.frames, fun frame timestamp hmem => ?_⟩
  have hframe : (frame, timestamp) ∈ framesOn frame.streamId
      (accepted (run config _ actions).aircraft.calls).2 :=
    List.mem_filter.mpr ⟨List.mem_filterMap.mpr ⟨_, hmem, rfl⟩, beq_self_eq_true _⟩
  obtain ⟨call, -, hcarries⟩ := exists_of_mem_right (hinv.frames frame.streamId) hframe
  rw [hschemas]
  exact validateTelemetryFrame_eq_ok hfields hcarries.values frame.sequence

/-- One stream of an engine, with a speed and a flag. -/
def engineSchema : PyTelemetryStreamSchema where
  streamId := "engine"
  fields := [{ fieldId := "rpm" }, { fieldId := "running", valueType := .bool }]

def engineArgs : PyClientArgs where
  aircraftName := "trainer"
  telemetrySchemas := some [engineSchema]

def engineUuids : Uuid × Uuid := (⟨[1]⟩, ⟨[2]⟩)

def engineConfig : Config where
  aircraftName := "trainer"
  initialState := PyAircraftState.defaultForRust.toPb
  tomlConfig := ""
  heartbeatIntervalSecs := 1
  telemetrySchemas := [engineSchema.toPb]
  clientUuid := engineUuids.1
  aircraftUuid := engineUuids.2

def engineClient : PyClient where
  telemetryFields := AList.insert "engine" [.f64, .bool] ∅
  aircraft := connected engineConfig (.finite 0)

def pyFloat (v : ℚ) : PyAny := ⟨false, some (.finite v), none, none⟩
def pyBool (v : Bool) : PyAny :=
  ⟨true, some (.finite v.toNat), some v.toNat, some v⟩

/-- The second call has the values in the wrong order. -/
def engineCalls : List PyAction :=
  [.call (.publishTelemetry "engine" [pyFloat 1500, pyBool true] (some (.finite 1))),
    .call (.publishTelemetry "engine" [pyBool true, pyFloat 1500] (some (.finite 2))),
    .call (.publishTelemetry "engine" [pyFloat 1600, pyBool true] (some (.finite 3)))]

theorem producer_run_engine :
    let c := run engineConfig engineClient engineCalls
    let operations := (accepted c.aircraft.calls).2
    (c.calls = answers engineClient.telemetryFields false (c.calls.map Prod.fst) ∧
      (∀ streamId, List.Forall₂ (Carries engineClient.telemetryFields streamId)
        (publishedOn streamId c.calls).zipIdx (framesOn streamId operations)) ∧
      ∀ frame timestamp, .publishTelemetry frame timestamp ∈ operations →
        validateTelemetryFrame engineConfig.telemetrySchemas frame = .ok ()) ∧
      (framesOn "engine" operations).map (fun f => f.1.sequence) = [1, 2] :=
  ⟨producer_run (.ok engineUuids) (.finite 0) engineArgs rfl engineCalls, by decide +kernel⟩

end FlyRuler.Python
