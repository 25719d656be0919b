import FlyRuler.Cursor.Client
import FlyRuler.Godot.Gear
import FlyRuler.Playback.Reachable

/-!
# The runtime node of Godot

`FlyRulerRuntime` of `bindings/godot/src/lib.rs`: a node of the game thread and a worker thread,
which runs the kernel (`server_worker_main`) or a cursor client (`client_worker_main`).  The node
sends commands through a channel; the worker sends events through a second one and snapshots
through a third, which holds one of them.  `start` makes the channels and the worker, `process`
drains the two channels, and `shutdown` waits for the worker to end.

A step is one operation of a thread on a channel, or one wait.  What the network, the disk and the
clock say is the input of a step.

The worker does not panic here.  In the code `Duration::from_secs_f64` does on settings that
`validate` lets pass: a `snapshot_hz` of `2 ^ (-64)` or less, after `Started`, and a time of
`2 ^ 64` seconds or more.
-/

namespace FlyRuler.Godot.Runtime

open FlyRuler.Pb FlyRuler.Store FlyRuler.Playback FlyRuler.Cursor

/-! ## What is sent -/

inductive RuntimeStatus where
  | stopped
  | starting
  | running
  | reconnecting
  | stopping
  | failed
  deriving DecidableEq

inductive Role where
  | server
  | client
  deriving DecidableEq

/-- The settings that the two workers depend on, as `resolve` answers them: `validate` has passed
them. -/
structure RuntimeSettings where
  role : Role
  serverAddress : String
  staleTimeoutSecs : Duration
  replay : ReplayConfig
  reconnectInitialSecs : ℚ
  reconnectMaxSecs : ℚ
  reconnect_pos : 0 < reconnectInitialSecs
  reconnect_le : reconnectInitialSecs ≤ reconnectMaxSecs

inductive Command where
  | live
  | pause
  | seek (timestampSecs : F64)
  | play (speed : F64)
  | setSpeed (speed : F64)
  | step (unit : PlaybackStepUnit) (direction : PlaybackStepDirection) (count : ℕ)
  | save (id : ℕ) (name : String)
  | load (id : ℕ) (name : String)
  | clear (id : ℕ)
  | shutdown
  deriving DecidableEq

/-- An error that is shown: a text of this file or of the system, or one of the playback. -/
inductive Failure where
  | text (message : String)
  | playback (error : PlaybackError)
  deriving DecidableEq

/-- An active session as the node lists it. -/
structure SessionRow where
  addr : String
  clientUuidHex : String
  lastSeenSecs : Secs
  role : String
  deriving DecidableEq

inductive WorkerEvent where
  | started (udp management remote : String) (role : Role)
  | reconnecting (error : String)
  | streamReset (reason epoch : String)
  | cursorEvents (batch : CursorEventBatch)
  | streamStats (stats : CursorClientStats)
  | sessions (sessions : List SessionRow)
  | operationCompleted (id : ℕ) (success : Bool) (error : String)
  | commandError (error : Failure)
  | error (error : String)
  | stopped
  deriving DecidableEq

/-- The three channels.  `resets` counts the `StreamReset` events so far, and a snapshot stands with
the number of those that were sent before it. -/
structure Channels where
  commands : List Command := []
  events : List WorkerEvent := []
  snapshot : Option (ℕ × FrameSnapshotData) := none
  resets : ℕ := 0

namespace Channels

variable (channels : Channels)

def send (event : WorkerEvent) : Channels := { channels with events := channels.events ++ [event] }

def sendReset (reason epoch : String) : Channels :=
  { channels with
    events := channels.events ++ [.streamReset reason epoch]
    resets := channels.resets + 1 }

/-- `try_send`: a snapshot that nobody has taken stays. -/
def trySend (frame : FrameSnapshotData) : Channels :=
  match channels.snapshot with
  | some _ => channels
  | none => { channels with snapshot := some (channels.resets, frame) }

end Channels

/-! ## The worker -/

/-- Where the worker is: the server's loop, the client's, and the ends. -/
inductive Phase where
  | starting
  | receiving
  | handling (command : Command)
  | publishing
  | reporting
  | polling
  | connecting
  | backingOff
  | streamPolling
  | beating
  | streaming
  | applying (batch : CursorEventBatch)
  | showing (frame : CursorFrame)
  | counting
  | losing (reason : String)
  | reconnecting (reason : String)
  | stopping
  | done
  -- `Error` was sent
  | failed
  deriving DecidableEq

structure Worker where
  settings : RuntimeSettings
  phase : Phase := .starting
  -- of the server
  kernel : PlaybackController
  -- of the client
  reconnectDelay : ℚ
  udp : String := ""
  gearStates : GearStates := ∅
  announcedRunning : Bool := false

/-- What the client receives. -/
inductive Received where
  | reset (reset : CursorReset)
  | eventBatch (batch : CursorEventBatch)
  | frame (frame : CursorFrame)
  | error (error : String)
  | nothing

/-- What the clock, the disk and the network say in one step of the worker. -/
structure WorkerInput where
  now : Instant
  generatedAt : Secs
  -- the server's addresses
  started : Except String (String × String)
  -- `recv_timeout` of an empty channel ends
  timedOut : Bool
  snapshotDue : Bool
  saved : Except String Unit
  loaded : Except String TimeSeriesStore
  sessions : List SessionRow
  connected : Except String String
  heartbeatError : Option String
  received : Received
  stats : CursorClientStats
  streamTimedOut : Bool

/-- `complete`. -/
def complete (id : ℕ) : Except String Unit → WorkerEvent
  | .ok () => .operationCompleted id true ""
  | .error error => .operationCompleted id false error

/-- A request to the playback, and the event that its error sends. -/
def timelineCommand (kernel : PlaybackController) (now : Instant) (op : ControlOp) :
    PlaybackController × Option WorkerEvent :=
  let performed := kernel.perform (.control op, now)
  match performed.2 with
  | some (.error error) => (performed.1, some (.commandError (.playback error)))
  | _ => (performed.1, none)

def handleCommand (kernel : PlaybackController) (input : WorkerInput) :
    Command → PlaybackController × Option WorkerEvent
  | .live => timelineCommand kernel input.now .live
  | .pause => timelineCommand kernel input.now .pause
  | .seek timestampSecs => timelineCommand kernel input.now (.seek timestampSecs)
  | .play speed => timelineCommand kernel input.now (.play (some speed))
  | .setSpeed speed => timelineCommand kernel input.now (.setSpeed speed)
  | .step unit direction count => timelineCommand kernel input.now (.step unit direction count)
  | .save id _ => (kernel, some (complete id input.saved))
  | .load id _ =>
    match input.loaded with
    | .ok loaded =>
      ((kernel.next (.replaceFrom loaded, input.now)).next (.resetAfterLoad, input.now),
        some (complete id (.ok ())))
    | .error error => (kernel, some (complete id (.error error)))
  | .clear id =>
    ((kernel.next (.clear, input.now)).next (.resetEmpty, input.now), some (complete id (.ok ())))
  | .shutdown => (kernel, none)

def receiveOnly : Failure := .text "client runtime is receive-only"

namespace Worker

def new (settings : RuntimeSettings) : Worker where
  settings := settings
  kernel := .new {} settings.replay
  reconnectDelay := settings.reconnectInitialSecs

variable (w : Worker) (input : WorkerInput) (channels : Channels)

def goTo (phase : Phase) : Worker := { w with phase := phase }

/-- The client takes a command, if there is one; only `Shutdown` means anything to it. -/
def pollCommand (next : Worker) : Worker × Channels :=
  match channels.commands with
  | .shutdown :: rest => (w.goTo .stopping, { channels with commands := rest })
  | _ :: rest => (next, { channels with commands := rest }.send (.commandError receiveOnly))
  | [] => (next, channels)

/-- After a failed connection. -/
def backedOff : Worker :=
  { w with
    phase := .polling
    reconnectDelay := min (w.reconnectDelay * 2) w.settings.reconnectMaxSecs }

/-- What the stream hands to the client. -/
def receive : Worker × Channels :=
  match input.received with
  | .reset reset =>
    ({ w with gearStates := ∅, phase := .counting },
      channels.sendReset reset.reason (wireHex reset.serverEpoch))
  | .eventBatch batch =>
    (w.goTo (.applying batch),
      if batch.baseline then channels.sendReset "cursor_baseline" (wireHex batch.serverEpoch)
      else channels)
  | .frame frame =>
    ({ w with announcedRunning := true, phase := .showing frame },
      if w.announcedRunning then channels
      else channels.send (.started w.udp "" w.settings.serverAddress .client))
  | .error error => (w.goTo (.losing error), channels)
  | .nothing => (w.goTo .counting, channels)

/-- One step of the worker. -/
def step : Worker × Channels :=
  match w.phase with
  | .starting =>
    match input.started, w.settings.role with
    | .error error, _ => (w.goTo .failed, channels.send (.error error))
    | .ok (udp, management), .server =>
      (w.goTo .receiving, channels.send (.started udp management "" .server))
    | .ok _, .client => (w.goTo .polling, channels)
  | .receiving =>
    match channels.commands with
    | .shutdown :: rest => (w.goTo .stopping, { channels with commands := rest })
    | command :: rest => (w.goTo (.handling command), { channels with commands := rest })
    | [] => if input.timedOut then (w.goTo .publishing, channels) else (w, channels)
  | .handling command =>
    let handled := handleCommand w.kernel input command
    ({ w with kernel := handled.1, phase := .publishing },
      match handled.2 with
      | some event => channels.send event
      | none => channels)
  | .publishing =>
    if input.snapshotDue then
      let state := w.kernel.inner.snapshot w.kernel.store input.now
      ({ w with kernel := { w.kernel with inner := state.1 }, phase := .reporting },
        channels.trySend (buildFrame w.kernel.store state.2 input.now w.settings.staleTimeoutSecs
          input.generatedAt))
    else (w.goTo .receiving, channels)
  | .reporting => (w.goTo .receiving, channels.send (.sessions input.sessions))
  | .polling => w.pollCommand channels (w.goTo .connecting)
  | .connecting =>
    match input.connected with
    | .error error => (w.goTo .backingOff, channels.send (.reconnecting error))
    | .ok udp =>
      ({ w with
        phase := .streamPolling
        reconnectDelay := w.settings.reconnectInitialSecs
        udp := udp
        gearStates := ∅
        announcedRunning := false }, channels)
  | .backingOff =>
    match channels.commands with
    | .shutdown :: rest => (w.goTo .stopping, { channels with commands := rest })
    | _ :: rest => (w.backedOff, { channels with commands := rest })
    | [] => if input.timedOut then (w.backedOff, channels) else (w, channels)
  | .streamPolling => w.pollCommand channels (w.goTo .beating)
  | .beating =>
    match input.heartbeatError with
    | some error => (w.goTo (.losing error), channels)
    | none => (w.goTo .streaming, channels)
  | .streaming => w.receive input channels
  | .applying batch =>
    ({ w with gearStates := applyCursorEventBatch w.gearStates batch, phase := .counting },
      channels.send (.cursorEvents batch))
  | .showing frame =>
    (w.goTo .counting, channels.trySend (frameFromCursor frame w.gearStates))
  | .counting =>
    (w.goTo (if input.streamTimedOut then .losing "cursor stream timed out" else .streamPolling),
      channels.send (.streamStats input.stats))
  | .losing reason => (w.goTo (.reconnecting reason), channels.sendReset "connection_lost" "")
  | .reconnecting reason => (w.goTo .polling, channels.send (.reconnecting reason))
  | .stopping => (w.goTo .done, channels.send .stopped)
  | .done => (w, channels)
  | .failed => (w, channels)

end Worker

/-! ## The node -/

/-- An event of a batch as the node publishes it. -/
structure PublishedEvent where
  sequence : ℕ
  sourceTimestampSecs : Secs
  aircraftId : String
  kind : Option String
  name : Option String
  deriving DecidableEq

/-- States and telemetry are not published. -/
def publishedEvent (event : CursorEvent) : Option PublishedEvent :=
  let published := fun kind name =>
    some ⟨event.sequence, event.sourceTimestamp, wireHex event.aircraftId, kind, name⟩
  match event.info.bind AircraftCommandInfo.kind with
  | none => published none none
  | some (.spawn _) => published (some "spawn") none
  | some (.despawn _) => published (some "despawn") none
  | some (.customEvent name) => published (some "custom") (some name)
  | some _ => none

/-- The cast of a `u64` to an `i64`. -/
def toI64 (id : ℕ) : ℤ := if id < 2 ^ 63 then id else id - 2 ^ 64

inductive Signal where
  | statusChanged (status : RuntimeStatus)
  | snapshotPublished (snapshot : FrameSnapshotData)
  | operationCompleted (operationId : ℤ) (success : Bool) (error : String)
  | runtimeError (error : Failure)
  | cursorEventsPublished (events : List PublishedEvent) (baseline : Bool)
  | streamReset (reason : String)

structure FlyRulerRuntime where
  status : RuntimeStatus := .stopped
  udpLocalAddress : String := ""
  managementLocalAddress : String := ""
  remoteServerAddress : String := ""
  connectionEpoch : String := ""
  role : Role := .server
  lastError : Option Failure := none
  latestSnapshot : Option FrameSnapshotData := none
  activeSessions : List SessionRow := []
  streamStats : Option CursorClientStats := none
  -- `command_tx` is there
  connected : Bool := false
  nextOperationId : ℕ := 1

namespace FlyRulerRuntime

variable (node : FlyRulerRuntime)

def setStatus (status : RuntimeStatus) : FlyRulerRuntime × List Signal :=
  ({ node with status := status }, [.statusChanged status])

def reportError (error : Failure) : FlyRulerRuntime × List Signal :=
  ({ node with lastError := some error }, [.runtimeError error])

/-- One event of `drain_events`. -/
def handleEvent : WorkerEvent → FlyRulerRuntime × List Signal
  | .started udp management remote role =>
    { node with
      udpLocalAddress := udp
      managementLocalAddress := management
      remoteServerAddress := remote
      role := role }.setStatus .running
  | .reconnecting error =>
    let reported := { node with latestSnapshot := none }.reportError (.text error)
    let changed := reported.1.setStatus .reconnecting
    (changed.1, reported.2 ++ changed.2)
  | .streamReset reason epoch =>
    ({ node with latestSnapshot := none, connectionEpoch := epoch }, [.streamReset reason])
  | .cursorEvents batch =>
    (node, [.cursorEventsPublished (batch.events.filterMap publishedEvent) batch.baseline])
  | .streamStats stats => ({ node with streamStats := some stats }, [])
  | .sessions sessions => ({ node with activeSessions := sessions }, [])
  | .operationCompleted id success error =>
    (node, [.operationCompleted (toI64 id) success error])
  | .commandError error => node.reportError error
  | .error error =>
    let reported := node.reportError (.text error)
    let changed := reported.1.setStatus .failed
    (changed.1, reported.2 ++ changed.2)
  | .stopped => node.setStatus .stopped

def handleEvents (events : List WorkerEvent) : FlyRulerRuntime × List Signal :=
  events.foldl (fun (node, signals) event =>
    let handled := node.handleEvent event
    (handled.1, signals ++ handled.2)) (node, [])

/-- `allocate_operation`. -/
def allocateOperation : ℕ × FlyRulerRuntime :=
  (node.nextOperationId,
    { node with nextOperationId := max ((node.nextOperationId + 1) % u64Size) 1 })

/-- The end of `shutdown_internal`. -/
def forget : FlyRulerRuntime :=
  { node with
    udpLocalAddress := ""
    managementLocalAddress := ""
    remoteServerAddress := ""
    connectionEpoch := ""
    streamStats := none }

end FlyRulerRuntime

/-! ## The two threads -/

/-- What the game thread is doing: nothing, or a call of `process` (the events taken so far, then
the newest snapshot and the number of resets that were handled before it), or it waits for the
worker. -/
inductive GamePhase where
  | idle
  | draining (events : List WorkerEvent)
  | snapshots (resets : ℕ) (newest : Option (ℕ × FrameSnapshotData))
  | joining

/-- What has happened since the last start: the operations that were accepted and those whose
completion was signalled, and the resets handled by calls of `process` that are over. -/
structure Launch where
  accepted : List ℕ := []
  completed : List ℕ := []
  settled : ℕ := 0

structure System where
  node : FlyRulerRuntime := {}
  game : GamePhase := .idle
  channels : Channels := {}
  worker : Option Worker := none
  -- the signals so far, and what the session calls have returned
  signals : List Signal := []
  returned : List ℤ := []
  launch : Launch := {}
  -- threads nobody waits for
  orphaned : ℕ := 0

inductive Call where
  | start (resolved : Except String RuntimeSettings)
  | setLive
  | pause
  | seek (timestampSecs : F64)
  | play (speed : F64)
  | setSpeed (speed : F64)
  | step (unit direction : String) (count : ℤ)
  | saveSession (path : String)
  | loadSession (path : String)
  | clearSession
  | process
  | shutdown

/-- The operation that a command names. -/
def Command.operation : Command → Option ℕ
  | save id _ => some id
  | load id _ => some id
  | clear id => some id
  | _ => none

def stepUnit : String → Option PlaybackStepUnit
  | "sample" => some .sample
  | "event" => some .event
  | _ => none

def stepDirection : String → Option PlaybackStepDirection
  | "previous" => some .previous
  | "next" => some .next
  | _ => none

/-- The names that `session_command` takes. -/
def isSessionName (name : String) : Bool :=
  !name.isEmpty && name.toList.all fun c => c.isAlphanum || c == '-' || c == '_'

/-- The operations whose completion is among the events. -/
def completions (events : List WorkerEvent) : List ℕ :=
  events.filterMap fun event =>
    match event with
    | .operationCompleted id _ _ => some id
    | _ => none

/-- The resets among the events. -/
def resetsIn (events : List WorkerEvent) : ℕ :=
  events.countP fun event =>
    match event with
    | .streamReset _ _ => true
    | _ => false

namespace System

variable (s : System)

/-- A change of the node with its signals. -/
def update (change : FlyRulerRuntime × List Signal) : System :=
  { s with node := change.1, signals := s.signals ++ change.2 }

def fail (message : String) : System := s.update (s.node.reportError (.text message))

/-- The worker still receives. -/
def reachable : Bool :=
  s.node.connected && s.worker.any fun w => w.phase ≠ .done && w.phase ≠ .failed

/-- `send`; the flag is its answer. -/
def send (command : Command) : System × Bool :=
  if s.node.role = .client then (s.fail "client runtime is receive-only", false)
  else if s.node.status ≠ .running then (s.fail "runtime command requires running state", false)
  else if s.reachable then
    ({ s with
      channels := { s.channels with commands := s.channels.commands ++ [command] }
      launch :=
        { s.launch with accepted := s.launch.accepted ++ command.operation.toList } }, true)
  else (s.fail "runtime worker is unavailable", false)

/-- An operation with a new id; `0` is a refusal. -/
def operate (make : ℕ → Command) : System :=
  let allocated := s.node.allocateOperation
  let sent := { s with node := allocated.2 }.send (make allocated.1)
  { sent.1 with
    returned := sent.1.returned ++ [if sent.2 then toI64 allocated.1 else 0] }

def sessionCommand (path : String) (make : ℕ → String → Command) : System :=
  if isSessionName path then s.operate fun id => make id path
  else
    let s :=
      s.fail "session name must contain only ASCII letters, digits, '-' or '_'"
    { s with returned := s.returned ++ [0] }

/-- `start`, once the settings are resolved. -/
def launchWith (settings : RuntimeSettings) : System :=
  let remote := if settings.role = .client then settings.serverAddress else ""
  let node := { s.node with role := settings.role, remoteServerAddress := remote }
  let s := s.update (node.setStatus .starting)
  { s with
    node := { s.node with connected := true }
    channels := {}
    worker := some (.new settings)
    launch := {}
    orphaned := s.orphaned + s.worker.toList.length }

def start (resolved : Except String RuntimeSettings) : System :=
  if s.node.status ≠ .stopped then s.fail "runtime can only start from stopped state"
  else
    match resolved with
    | .error error => s.fail error
    | .ok settings => s.launchWith settings

def step (unit direction : String) (count : ℤ) : System :=
  match stepUnit unit, stepDirection direction with
  | none, _ => s.fail "step unit must be sample or event"
  | _, none => s.fail "step direction must be previous or next"
  | some unit, some direction =>
    if count < 0 then s.fail "step count must be positive"
    else (s.send (.step unit direction count.toNat)).1

/-- The worker is told to end. -/
def tellWorker : System :=
  let s := s.update (s.node.setStatus .stopping)
  let commands :=
    if s.node.connected then s.channels.commands ++ [.shutdown] else s.channels.commands
  { s with
    node := { s.node with connected := false }
    channels := { s.channels with commands := commands }
    game := .joining }

/-- `shutdown_internal` up to the join. -/
def beginShutdown : System :=
  if s.node.status = .stopped ∨ s.node.status = .stopping then s else s.tellWorker

/-- A call of the game. -/
def call : Call → System
  | .start resolved => s.start resolved
  | .setLive => (s.send .live).1
  | .pause => (s.send .pause).1
  | .seek timestampSecs => (s.send (.seek timestampSecs)).1
  | .play speed => (s.send (.play speed)).1
  | .setSpeed speed => (s.send (.setSpeed speed)).1
  | .step unit direction count => s.step unit direction count
  | .saveSession path => s.sessionCommand path .save
  | .loadSession path => s.sessionCommand path .load
  | .clearSession => s.operate .clear
  | .process => { s with game := .draining [] }
  | .shutdown => s.beginShutdown

/-- The worker has ended. -/
def ended : Bool :=
  s.worker.all fun w => w.phase = .done || w.phase = .failed

/-- All events of `drain_events`. -/
def handle (events : List WorkerEvent) : System :=
  let handled := s.update (s.node.handleEvents events)
  { handled with
    game := .snapshots (resetsIn events) none
    launch := { s.launch with completed := s.launch.completed ++ completions events } }

/-- The end of `process`. -/
def publish (resets : ℕ) (newest : Option (ℕ × FrameSnapshotData)) : System :=
  let settled := { s with
    game := .idle
    launch := { s.launch with settled := s.launch.settled + resets } }
  match newest with
  | some (_, frame) =>
    settled.update ({ s.node with latestSnapshot := some frame }, [.snapshotPublished frame])
  | none => settled

/-- The worker is joined. -/
def join : System :=
  { s.update (s.node.forget.setStatus .stopped) with
    game := .idle
    channels := {}
    worker := none }

/-- The game thread goes on with its call. -/
def play : System :=
  match s.game with
  | .idle => s
  | .draining events =>
    match s.channels.events with
    | event :: rest =>
      { s with
        channels := { s.channels with events := rest }
        game := .draining (events ++ [event]) }
    | [] => s.handle events
  | .snapshots resets newest =>
    match s.channels.snapshot with
    | some snapshot =>
      { s with
        channels := { s.channels with snapshot := none }
        game := .snapshots resets (some snapshot) }
    | none => s.publish resets newest
  | .joining => if s.ended then s.join else s

end System

/-- A step: a call of the game, or the game thread going on with one; a step of the worker; or the
network and the management server change the kernel. -/
inductive Action where
  | call (call : Call)
  | play
  | worker (input : WorkerInput)
  | kernel (op : TimelineOp) (now : Instant)

def Action.isWorker : Action → Bool
  | worker _ => true
  | _ => false

def next (s : System) : Action → System
  | .call call =>
    match s.game with
    | .idle => s.call call
    | _ => s
  | .play => s.play
  | .worker input =>
    match s.worker with
    | none => s
    | some w =>
      let stepped := w.step input s.channels
      { s with worker := some stepped.1, channels := stepped.2 }
  | .kernel op now =>
    { s with worker := s.worker.map fun w => { w with kernel := w.kernel.next (op, now) } }

end FlyRuler.Godot.Runtime
