import FlyRuler.Store.Query

/-!
# Saving and loading a session

`save_to_disk` and `load_from_disk` of `core/src/store.rs`.  A session directory has one summary
file and three tables of rows; saving writes the rows of one aircraft after the other, in whatever
order the map yields the aircraft, and loading appends the rows one by one to an empty store:
states, then events, then telemetry, which is validated once more.  The name and the TOML text of a
configuration come from the summary at the end.

Encoded payloads are kept symbolic (`Blob`): they decode to what was encoded.
-/

namespace FlyRuler.Store

open FlyRuler.Pb FlyRuler.Lib.Keyed FlyRuler.Lib.TimeOrder

/-! ## The files -/

/-- The bytes of an encoded payload. -/
inductive Blob where
  | state (value : AircraftState)
  | spawn (value : AircraftSpawnInfo)
  | despawn (value : DespawnInfo)
  | text (value : String)
  | frame (value : TelemetryFrame)
  deriving DecidableEq

/-- A row of `states.parquet` or `telemetry.parquet`. -/
structure Row where
  aircraftId : AircraftId
  timestamp : F64
  payload : Blob
  deriving DecidableEq

/-- A row of `events.parquet`. -/
structure EventRow where
  aircraftId : AircraftId
  timestamp : F64
  eventType : String
  eventPayload : Blob
  deriving DecidableEq

structure MetaAircraft where
  id : AircraftId
  name : Option String
  tomlConfig : Option String
  timeRange : Option (Secs × Secs)
  stateCount : ℕ
  eventCount : ℕ
  deriving DecidableEq

structure MetaFile where
  version : String
  aircrafts : List MetaAircraft
  deriving DecidableEq

/-- A session directory; a file that is not there is `none`. -/
structure SessionDir where
  metaFile : Option MetaFile := none
  states : Option (List Row) := none
  events : Option (List EventRow) := none
  telemetry : Option (List Row) := none
  deriving DecidableEq

/-! ## Saving -/

def encodeEvent : Event → String × Blob
  | .spawn info => ("spawn", .spawn info)
  | .despawn info => ("despawn", .despawn info)
  | .custom text => ("custom", .text text)

def decodeEvent (kind : String) (payload : Blob) : Except StoreError Event :=
  if kind = "spawn" then
    match payload with
    | .spawn info => .ok (.spawn info)
    | _ => .error .decode
  else if kind = "despawn" then
    match payload with
    | .despawn info => .ok (.despawn info)
    | _ => .error .decode
  else if kind = "custom" then
    match payload with
    | .text text => .ok (.custom text)
    | _ => .error (.invalidData "invalid utf8 custom event")
  else .error (.invalidData ("unknown event type: " ++ kind))

/-- The order in which the map yields the aircraft while each table is written. -/
structure SaveOrder (store : TimeSeriesStore) where
  states : List AircraftId
  events : List AircraftId
  telemetry : List AircraftId
  states_perm : states.Perm store.data.keys
  events_perm : events.Perm store.data.keys
  telemetry_perm : telemetry.Perm store.data.keys

/-- Every table in the order of the keys. -/
def SaveOrder.ofKeys (store : TimeSeriesStore) : SaveOrder store :=
  ⟨_, _, _, .refl _, .refl _, .refl _⟩

namespace TimeSeriesStore

variable (store : TimeSeriesStore)

def metaAircraft (id : AircraftId) (s : AircraftTimeSeries) : MetaAircraft where
  id := id
  name := s.config.map AircraftConfig.name
  tomlConfig := s.config.map AircraftConfig.tomlConfig
  timeRange := aircraftTimeRange s
  stateCount := s.states.entries.length
  eventCount := s.events.entries.length

def writeMeta : MetaFile where
  version := protocolVersion
  aircrafts := ((toPairs store.data).map fun entry =>
    metaAircraft entry.1 entry.2).insertionSort fun a b => a.id ≤ b.id

def stateRows (id : AircraftId) : List Row :=
  (store.series id).states.entries.map fun e => ⟨id, .finite e.stamp, .state e.item⟩

def eventRows (id : AircraftId) : List EventRow :=
  (store.series id).events.entries.map fun e =>
    ⟨id, .finite e.stamp, (encodeEvent e.item).1, (encodeEvent e.item).2⟩

def telemetryRows (id : AircraftId) : List Row :=
  (store.series id).telemetry.entries.map fun e => ⟨id, .finite e.stamp, .frame e.item⟩

/-- `save_to_disk` into an empty directory. -/
def saveToDisk (order : SaveOrder store) : SessionDir where
  metaFile := some store.writeMeta
  states := some (order.states.flatMap store.stateRows)
  events := some (order.events.flatMap store.eventRows)
  telemetry := some (order.telemetry.flatMap store.telemetryRows)

/-! ## Loading -/

def readStateRow (row : Row) : Except StoreError TimeSeriesStore :=
  match row.payload with
  | .state state => .ok (store.appendState row.aircraftId row.timestamp state)
  | _ => .error .decode

def readEventRow (row : EventRow) : Except StoreError TimeSeriesStore :=
  match decodeEvent row.eventType row.eventPayload with
  | .ok event => .ok (store.appendEvent row.aircraftId row.timestamp event)
  | .error e => .error e

def readTelemetryRow (row : Row) : Except StoreError TimeSeriesStore :=
  match row.payload with
  | .frame frame => store.appendTelemetry row.aircraftId row.timestamp frame
  | _ => .error .decode

def readStatesParquet (dir : SessionDir) : Except StoreError TimeSeriesStore :=
  (dir.states.getD []).foldlM readStateRow store

def readEventsParquet (dir : SessionDir) : Except StoreError TimeSeriesStore :=
  (dir.events.getD []).foldlM readEventRow store

def readTelemetryParquet (dir : SessionDir) : Except StoreError TimeSeriesStore :=
  (dir.telemetry.getD []).foldlM readTelemetryRow store

/-- What one entry of the summary sets. -/
def readMetaAircraft (entry : MetaAircraft) : TimeSeriesStore :=
  match store.data.lookup entry.id, entry.name, entry.tomlConfig with
  | some _, some name, some tomlConfig => store.modifySeries entry.id fun s =>
      { s with config := some ⟨name, tomlConfig, schemas s⟩ }
  | _, _, _ => store

def readMeta (dir : SessionDir) : TimeSeriesStore :=
  match dir.metaFile with
  | none => store
  | some file => file.aircrafts.foldl readMetaAircraft store

/-- `load_from_disk`. -/
def loadFromDisk (dir : SessionDir) : Except StoreError TimeSeriesStore := do
  let loaded ← ({} : TimeSeriesStore).readStatesParquet dir
  let loaded ← loaded.readEventsParquet dir
  let loaded ← loaded.readTelemetryParquet dir
  .ok (store.replaceFrom (loaded.readMeta dir))

end TimeSeriesStore

@[simp] theorem decodeEvent_encodeEvent (event : Event) :
    decodeEvent (encodeEvent event).1 (encodeEvent event).2 = .ok event := by
  cases event <;> rfl

end FlyRuler.Store
