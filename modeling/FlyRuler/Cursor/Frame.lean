import FlyRuler.Playback
import FlyRuler.Cursor.Codec
import FlyRuler.Cursor.WireId

/-!
# What the publisher reads from the store

The pure parts of the publisher in `core/src/cursor.rs`: the events of a baseline, the events
between two cursors, and the frame for a snapshot.  A delta over `a ≤ b` is the window `(a, b]` of
all stored events (`deltaEvents_eq`).

The protobuf encodings belong to libraries and are parameters (`Env`), as is the conversion of ids:
here it is what `hex_to_pb_uuid` returns, and the tick in which it panics is another one.
-/

namespace FlyRuler.Cursor

open FlyRuler.Pb FlyRuler.Store FlyRuler.Playback FlyRuler.Lib.TimeOrder

structure CursorStreamConfig where
  publishHz : ℚ := 30
  maxSubscribers : ℕ := 16
  staleTimeout : Duration := 1 / 2
  eventRetryInterval : Duration := 1 / 4
  eventRetryLimit : ℕ := 8
  deriving DecidableEq

/-- What one run of the publisher takes as given: its epoch and options, and the library functions
it uses. -/
structure Env where
  epoch : List UInt8
  config : CursorStreamConfig := {}
  staleTimeout : Duration := 1 / 2
  hexToPbUuid : AircraftId → Option Uuid
  encodeBatch : CursorEventBatch → List UInt8
  encodeReset : CursorReset → List UInt8
  encodeFrame : CursorFrame → List UInt8

/-- An environment for examples, in which every value is encoded in one byte. -/
def Env.small : Env where
  epoch := [1]
  hexToPbUuid := fun id => (Cursor.hexToPbUuid id).getD none
  encodeBatch := fun _ => [10]
  encodeReset := fun _ => [10]
  encodeFrame := fun _ => [10]

/-- The epoch on the wire. -/
def Env.serverEpoch (env : Env) : Option Uuid := some ⟨env.epoch⟩

/-! ## Events -/

/-- The wire form of a stored event. -/
def eventKind : Event → AircraftCommandInfo.Kind
  | .spawn value => .spawn value
  | .despawn value => .despawn value
  | .custom value => .customEvent value

def cursorEvent (env : Env) (sequence : ℕ) (event : GlobalTimestampedEvent) : CursorEvent where
  sequence := sequence
  aircraftId := env.hexToPbUuid event.aircraftId
  sourceTimestamp := event.timestampSecs
  info := some ⟨some (eventKind event.event)⟩

/-- The event is a `Spawn`. -/
def isSpawn : Event → Bool
  | .spawn _ => true
  | _ => false

/-- The number of elements before the last one that satisfies `p`; `0` if there is none. -/
def lastIndex {α : Type} (p : α → Bool) (l : List α) : ℕ :=
  l.length - 1 - ((l.reverse.findIdx? p).getD (l.length - 1))

/-- What a baseline at `cursor` contains of one aircraft: its events up to the cursor, from its last
`Spawn` on. -/
def baselineOf (store : TimeSeriesStore) (signs : ZeroSigns) (snapshot : PlaybackSnapshot)
    (cursor : Secs) (id : AircraftId) : List GlobalTimestampedEvent :=
  match resolveAircraftWith store snapshot id with
  | none => []
  | some resolved =>
    if resolved.spawned then
      match store.getSignedEventsRange signs id .negInf (.finite cursor) with
      | none => []
      | some events =>
        (events.drop (lastIndex (fun e => isSpawn e.item.event) events)).map (globalEvent id)
    else []

def baselineEvents (store : TimeSeriesStore) (signs : ZeroSigns) (snapshot : PlaybackSnapshot) :
    List GlobalTimestampedEvent :=
  match snapshot.cursorSecs with
  | none => []
  | some cursor =>
    (store.getAircraftIds.flatMap (baselineOf store signs snapshot cursor)).insertionSort EventOrder

def deltaEvents (store : TimeSeriesStore) (signs : ZeroSigns)
    (previousCursor cursor : Option Secs) : List GlobalTimestampedEvent :=
  match previousCursor, cursor with
  | some previous, some current =>
    if current < previous then []
    else (store.getGlobalEventsPage signs previous current 0 none).items.filter fun e =>
      decide (previous < e.timestampSecs)
  | _, _ => []

/-- **A delta is the window behind the previous cursor.** -/
theorem deltaEvents_eq (store : TimeSeriesStore) (signs : ZeroSigns) {a b : Secs} (hab : a ≤ b) :
    deltaEvents store signs (some a) (some b) = store.eventsBetween signs a b := by
  unfold deltaEvents TimeSeriesStore.eventsBetween
  simp only
  rw [if_neg (not_lt.mpr hab), TimeSeriesStore.globalEventsPage_items store signs hab,
    List.filter_filter]
  refine List.filter_congr fun e _ => ?_
  by_cases he : a < e.timestampSecs
  · simp [he, he.le]
  · simp [he]

/-! ## Frames -/

/-- The order of the aircraft in a frame: by the bytes of the UUID, a missing one first. -/
def UuidOrder (a b : Option Uuid) : Prop :=
  match a, b with
  | none, _ => True
  | some _, none => False
  | some a, some b => a.value.map UInt8.toNat ≤ b.value.map UInt8.toNat

instance : DecidableRel UuidOrder := fun a b => by
  unfold UuidOrder
  cases a <;> cases b <;> infer_instance

/-- The wire mode of a playback mode. -/
def cursorPlaybackMode : PlaybackMode → CursorPlaybackMode
  | .live => .live
  | .replayPaused => .replayPaused
  | .replayPlaying => .replayPlaying

/-- One aircraft of a frame, with its configuration. -/
def aircraftSnapshot (env : Env) (snapshot : PlaybackSnapshot) (id : AircraftId)
    (config : Option AircraftConfig) (stale : Bool) (resolved : ResolvedState) :
    CursorAircraftSnapshot where
  aircraftId := env.hexToPbUuid id
  name := (config.map AircraftConfig.name).getD ""
  tomlConfig := (config.map AircraftConfig.tomlConfig).getD ""
  sourceTimestamp := resolved.sample.stamp
  stale := decide (snapshot.mode = .live) && stale
  state := some resolved.sample.item

/-- The configuration of an aircraft in a list of summaries. -/
def configIn (summaries : List AircraftSummary) (id : AircraftId) : Option AircraftConfig :=
  (summaries.find? fun summary => summary.id == id).bind AircraftSummary.config

/-- A frame without its aircraft: everything that comes from the snapshot. -/
def emptyFrame (env : Env) (snapshot : PlaybackSnapshot) (frameSequence eventWatermark : ℕ)
    (generatedAt : Secs) : CursorFrame where
  serverEpoch := env.serverEpoch
  frameSequence := frameSequence
  mode := cursorPlaybackMode snapshot.mode
  cursor := snapshot.cursorSecs
  lowerBound := snapshot.bounds.map Prod.fst
  upperBound := snapshot.bounds.map Prod.snd
  speed := snapshot.speed
  revision := snapshot.revision
  eventWatermark := eventWatermark
  generatedAt := generatedAt
  aircraft := []

/-- The aircraft in the order of the frame. -/
def sortAircraft (aircraft : List CursorAircraftSnapshot) : List CursorAircraftSnapshot :=
  aircraft.insertionSort fun a b => UuidOrder a.aircraftId b.aircraftId

def assembleCursorFrame (env : Env) (store : TimeSeriesStore) (now : Instant)
    (snapshot : PlaybackSnapshot) (frameSequence eventWatermark : ℕ) (generatedAt : Secs) :
    CursorFrame :=
  let configs := store.aircraftSummaries
  let aircraft := store.getAircraftIds.filterMap fun id =>
    match resolveAircraftWith store snapshot id with
    | none => none
    | some resolved =>
      if resolved.spawned then
        some (aircraftSnapshot env snapshot id (configIn configs id)
          (store.liveStateIsStale now id env.staleTimeout) resolved)
      else none
  { emptyFrame env snapshot frameSequence eventWatermark generatedAt with
    aircraft := sortAircraft aircraft }

end FlyRuler.Cursor
