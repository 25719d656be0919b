import FlyRuler.Transport.Session

/-!
# The receive loop of the server

`Server::recv_from` and the loop of `ServerRuntime::start` in `core/src/transport/server.rs`.  The
input is a list of `Poll`s, one for each time `recv_from` is entered or still waiting; what the loop
does is visible in the session tables, the messages handed to the ingestion handler and the answers
sent.  Decoding is a parameter; the socket itself does not fail.
-/

namespace FlyRuler.Transport

open FlyRuler.Pb FlyRuler.Store

/-! ## Answers -/

/-- The timestamp of a request, or the wall clock if it is not finite. -/
def reqTimestamp (wallClock : Secs) (req : Request) : F64 :=
  match req.timestamp.toFinite with
  | some _ => req.timestamp
  | none => .finite wallClock

def makeAckForRequest (wallClock : Secs) (req : Request) : Message :=
  ⟨some (.response ⟨req.id, reqTimestamp wallClock req, some (.ok ⟨some (.ack true)⟩)⟩)⟩

def makeErrForRequest (wallClock : Secs) (req : Request) (code : ErrorCode) (message : String) :
    Message :=
  ⟨some (.response ⟨req.id, reqTimestamp wallClock req, some (.err ⟨code, message, none⟩)⟩)⟩

/-! ## One message -/

/-- A datagram, with the readings of the monotonic clock and the wall clock at its arrival. -/
structure Datagram where
  addr : SocketAddr
  bytes : List UInt8
  receivedAt : Instant
  wallClock : Secs
  deriving DecidableEq

/-- `recv_from` cleans up at `now` and waits; `none`: nothing has arrived. -/
structure Poll where
  now : Instant
  arrival : Option Datagram
  deriving DecidableEq

/-- What `recv_from` comes back with. -/
inductive Received where
  | waiting
  | nothing
  | message (msg : Message) (datagram : Datagram) (clientUuid : Option String)
  | decodeError

/-- The UUID that a handshake or a heartbeat names. -/
def clientUuidOf (msg : Message) : Option String :=
  match msg.envelope with
  | some (.request req) =>
    match req.command.bind RequestCommand.kind with
    | some (.handshake hs) => hs.clientUuid.map uuidToHex
    | some (.heartbeat hb) => hb.clientUuid.map uuidToHex
    | _ => none
  | _ => none

/-- What the loop does with a command: the tables, and the answer if there is one. -/
def SessionState.handleCommand (sessions : SessionState) (d : Datagram) (req : Request)
    (clientUuid : Option String) : RequestCommand.Kind → SessionState × Option Message
  | .handshake hs =>
    if hs.version = protocolVersion then
      match (ClientRole.tryFrom hs.role).getD .unspecified, clientUuid with
      | .unspecified, _ => (sessions, some (makeErrForRequest d.wallClock req .invalidState
          "handshake role must be producer or cursor_subscriber"))
      | role, some uuid => (sessions.setSession d.receivedAt d.addr uuid role,
          some (makeAckForRequest d.wallClock req))
      | _, none => (sessions, none)
    else (sessions, some (makeErrForRequest d.wallClock req .protocolVersionMismatch
      "protocol version mismatch"))
  | .heartbeat _ => (sessions, some (makeAckForRequest d.wallClock req))
  | .cursorSubscribe value =>
    match value.requestedHz with
    | .finite hz =>
      if hz ≤ 0 then (sessions, some (makeErrForRequest d.wallClock req .invalidState
        "requested cursor rate must be finite and greater than zero"))
      else
        match sessions.subscribeCursor d.addr hz with
        | (sessions, true) => (sessions, some (makeAckForRequest d.wallClock req))
        | (sessions, false) => (sessions, some (makeErrForRequest d.wallClock req .invalidState
            "cursor subscription requires a subscriber handshake"))
    | _ => (sessions, some (makeErrForRequest d.wallClock req .invalidState
        "requested cursor rate must be finite and greater than zero"))
  | .cursorEventAck value =>
    ((sessions.acknowledgeCursorEvent d.addr value.serverEpoch value.eventSequence).1, none)
  | .aircraftEvent _ =>
    if sessions.role d.addr = some .producer then (sessions, none)
    else (sessions, some (makeErrForRequest d.wallClock req .invalidState
      "only producer sessions may upload aircraft events"))

/-- The command of a request. -/
def commandOf (msg : Message) : Option (Request × RequestCommand.Kind) :=
  match msg.envelope with
  | some (.request req) => (req.command.bind RequestCommand.kind).map fun kind => (req, kind)
  | _ => none

def SessionState.handleMessage (sessions : SessionState) (d : Datagram) (msg : Message)
    (clientUuid : Option String) : SessionState × Option Message :=
  match commandOf msg with
  | some (req, kind) => sessions.handleCommand d req clientUuid kind
  | none => (sessions, none)

/-- The message is an aircraft event from a producer session. -/
def SessionState.isProducerEvent (sessions : SessionState) (d : Datagram) (msg : Message) : Bool :=
  match commandOf msg with
  | some (_, .aircraftEvent _) => sessions.role d.addr == some .producer
  | _ => false

/-! ## The loop -/

/-- What the receive loop has done so far. -/
structure ServerRuntime where
  sessions : SessionState := {}
  running : Bool := true
  handled : List (Message × SocketAddr) := []
  sent : List (Message × SocketAddr) := []
  deriving DecidableEq

section Loop
variable (decode : List UInt8 → Option Message) (timeout : Duration)

def recvFrom (sessions : SessionState) (poll : Poll) : SessionState × Received :=
  let sessions := sessions.cleanupExpired poll.now timeout
  match poll.arrival with
  | none => (sessions, .waiting)
  | some d =>
    if d.bytes = [] then (sessions, .nothing)
    else
      match decode d.bytes with
      | none => (sessions, .decodeError)
      | some msg =>
        (sessions.touchAddr d.receivedAt d.addr, .message msg d (clientUuidOf msg))

/-- One turn of the loop.  The queue of producer events is emptied in every turn, so that an event
is handed over at once. -/
def ServerRuntime.step (runtime : ServerRuntime) (poll : Poll) : ServerRuntime :=
  if runtime.running then
    match recvFrom decode timeout runtime.sessions poll with
    | (sessions, .waiting) => { runtime with sessions := sessions }
    | (sessions, .nothing) => { runtime with sessions := sessions }
    | (sessions, .decodeError) => { runtime with sessions := sessions, running := false }
    | (sessions, .message msg d clientUuid) =>
      let handled := sessions.handleMessage d msg clientUuid
      { sessions := handled.1
        running := true
        handled := runtime.handled ++
          if handled.1.isProducerEvent d msg then [(msg, d.addr)] else []
        sent := runtime.sent ++ (handled.2.map fun ack => (ack, d.addr)).toList }
  else runtime

/-- The loop from the start. -/
def ServerRuntime.run (polls : List Poll) : ServerRuntime :=
  polls.foldl (ServerRuntime.step decode timeout) {}

end Loop

/-! ## What a turn does -/

theorem clientUuidOf_handshake {msg : Message} {req : Request} {hs : Handshake}
    (h : commandOf msg = some (req, .handshake hs)) :
    clientUuidOf msg = hs.clientUuid.map uuidToHex := by
  unfold commandOf at h
  unfold clientUuidOf
  split at h
  · rename_i req' henv
    cases hk : req'.command.bind RequestCommand.kind with
    | none => rw [hk] at h; cases h
    | some kind => rw [hk] at h; cases h; rfl
  · cases h

variable {decode : List UInt8 → Option Message} {timeout : Duration}

/-- A turn without a datagram to handle only cleans up. -/
theorem step_idle {r : ServerRuntime} (hrun : r.running = true) {poll : Poll}
    (h : ∀ d, poll.arrival = some d → d.bytes = []) :
    r.step decode timeout poll =
      { r with sessions := r.sessions.cleanupExpired poll.now timeout } := by
  unfold ServerRuntime.step recvFrom
  rw [if_pos hrun]
  cases ha : poll.arrival with
  | none => rfl
  | some d => simp [h d ha]

/-- A turn in which nothing has arrived. -/
theorem step_waiting {r : ServerRuntime} (hrun : r.running = true) (now : Instant) :
    r.step decode timeout ⟨now, none⟩ =
      { r with sessions := r.sessions.cleanupExpired now timeout } :=
  step_idle hrun fun _ h => absurd h (Option.some_ne_none _).symm

/-- A turn with a message. -/
theorem step_message {r : ServerRuntime} (hrun : r.running = true) {poll : Poll} {d : Datagram}
    {msg : Message} (hd : poll.arrival = some d) (hne : d.bytes ≠ [])
    (hdec : decode d.bytes = some msg) {touched : SessionState}
    (htouched : touched =
      (r.sessions.cleanupExpired poll.now timeout).touchAddr d.receivedAt d.addr) :
    r.step decode timeout poll =
      { sessions := (touched.handleMessage d msg (clientUuidOf msg)).1
        running := true
        handled := r.handled ++
          if (touched.handleMessage d msg (clientUuidOf msg)).1.isProducerEvent d msg then
            [(msg, d.addr)] else []
        sent := r.sent ++ ((touched.handleMessage d msg (clientUuidOf msg)).2.map
          fun ack => (ack, d.addr)).toList } := by
  subst htouched
  unfold ServerRuntime.step recvFrom
  simp [hrun, hd, hne, hdec]

/-- A loop that has ended does nothing. -/
theorem step_of_not_running {r : ServerRuntime} (hrun : r.running = false) (poll : Poll) :
    r.step decode timeout poll = r := by
  unfold ServerRuntime.step
  simp [hrun]

theorem run_concat (polls : List Poll) (poll : Poll) :
    ServerRuntime.run decode timeout (polls ++ [poll]) =
      (ServerRuntime.run decode timeout polls).step decode timeout poll :=
  List.foldl_concat _ _ _ _

end FlyRuler.Transport
