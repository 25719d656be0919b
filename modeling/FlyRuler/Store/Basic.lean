import FlyRuler.Pb
import FlyRuler.Lib.Keyed
import FlyRuler.Lib.TimeOrder
import Mathlib.Algebra.Order.Ring.Rat
import Mathlib.Data.String.Basic

/-!
# The time-series store

`core/src/store.rs`: one series of states, events and telemetry frames for each aircraft, every one
of them a `Timeline`, and the configuration that the last `Spawn` to arrive has set.  The append
functions ignore or reject entries with a non-finite timestamp and telemetry that does not fit the
registered schema; `appendMessage` dispatches a protocol message to them.
-/

namespace FlyRuler.Store

open FlyRuler.Pb FlyRuler.Lib.Keyed FlyRuler.Lib.TimeOrder

/-- Lowercase hex of the aircraft UUID. -/
abbrev AircraftId := String

/-- A reading of the monotonic clock, in seconds. -/
abbrev Instant := ℚ

/-- A length of time, in seconds. -/
abbrev Duration := ℚ

structure AircraftConfig where
  name : String
  tomlConfig : String
  telemetrySchemas : List TelemetryStreamSchema
  deriving DecidableEq

inductive Event where
  | spawn (info : AircraftSpawnInfo)
  | despawn (info : DespawnInfo)
  | custom (text : String)
  deriving DecidableEq

abbrev TimestampedState := Stamped Secs AircraftState
abbrev TimestampedEvent := Stamped Secs Event
abbrev TimestampedTelemetryFrame := Stamped Secs TelemetryFrame

structure AircraftTimeSeries where
  states : Timeline Secs AircraftState := .empty
  events : Timeline Secs Event := .empty
  telemetry : Timeline Secs TelemetryFrame := .empty
  config : Option AircraftConfig := none
  deriving DecidableEq

instance : Inhabited AircraftTimeSeries := ⟨{}⟩

structure TimeSeriesStore where
  data : Table AircraftId AircraftTimeSeries := ∅
  liveStateReceipts : Table AircraftId Instant := ∅
  deriving DecidableEq

/-- The errors of the store that this development can produce. -/
inductive StoreError where
  | invalidData (message : String)
  | decode
  deriving DecidableEq

/-! ## Telemetry validation -/

/-- The characters `str::trim` removes. -/
def isWhiteSpace (c : Char) : Bool :=
  let n := c.toNat
  (0x9 ≤ n && n ≤ 0xd) || n == 0x20 || n == 0x85 || n == 0xa0 || n == 0x1680 ||
    (0x2000 ≤ n && n ≤ 0x200a) || n == 0x2028 || n == 0x2029 || n == 0x202f || n == 0x205f ||
    n == 0x3000

/-- `s.trim().is_empty()`. -/
def trimIsEmpty (s : String) : Bool := s.toList.all isWhiteSpace

/-- The characters up to U+00FF that `char::escape_debug` prints as they are; all later ones are
taken to be printable. -/
def isPrintable (c : Char) : Bool :=
  let n := c.toNat
  (0x20 ≤ n && n ≤ 0x7e) || (0xa0 ≤ n && n != 0xad)

def escapeDebug (c : Char) : String :=
  match c.toNat with
  | 0 => "\\0"
  | 9 => "\\t"
  | 10 => "\\n"
  | 13 => "\\r"
  | 34 => "\\\""
  | 92 => "\\\\"
  | n =>
    if isPrintable c then c.toString
    else "\\u\x7b" ++ String.ofList (Nat.toDigits 16 n) ++ "\x7d"

/-- A text as `{:?}` prints it. -/
def debugText (s : String) : String := "\"" ++ String.join (s.toList.map escapeDebug) ++ "\""

example : debugText "a\t\x01" = "\"a\\t\\u\x7b1\x7d\"" := by decide +kernel

/-- The fields of one stream: ids non-empty and unique (`seen` are the ids so far), types known. -/
def validateFields (streamId : String) : List String → List TelemetryField → Except StoreError Unit
  | _, [] => .ok ()
  | seen, field :: rest =>
    if trimIsEmpty field.fieldId || seen.contains field.fieldId then
      .error (.invalidData ("telemetry field id must be non-empty and unique in stream " ++
        streamId ++ ": " ++ debugText field.fieldId))
    else
      match TelemetryValueType.tryFrom field.valueType with
      | none | some .unspecified =>
        .error (.invalidData ("telemetry field " ++ field.fieldId ++ " has invalid value type"))
      | some _ => validateFields streamId (field.fieldId :: seen) rest

/-- A nominal rate, if given, is finite and positive. -/
def validRate : Option F64 → Bool
  | none => true
  | some (.finite rate) => decide (0 < rate)
  | some _ => false

/-- The loop of `validate_telemetry_schemas`; `seen` are the stream ids so far. -/
def validateSchemas : List String → List TelemetryStreamSchema → Except StoreError Unit
  | _, [] => .ok ()
  | seen, schema :: rest =>
    if trimIsEmpty schema.streamId || seen.contains schema.streamId then
      .error (.invalidData ("telemetry stream id must be non-empty and unique: " ++
        debugText schema.streamId))
    else if !validRate schema.nominalRateHz then
      .error (.invalidData ("telemetry stream " ++ schema.streamId ++ " has invalid nominal rate"))
    else
      match validateFields schema.streamId [] schema.fields with
      | .error e => .error e
      | .ok () => validateSchemas (schema.streamId :: seen) rest

def validateTelemetrySchemas (schemas : List TelemetryStreamSchema) : Except StoreError Unit :=
  validateSchemas [] schemas

/-- A value has the type its field declares. -/
def validValue (field : TelemetryField) (value : TelemetryValue) : Bool :=
  match TelemetryValueType.tryFrom field.valueType, value.kind with
  | some .f64, some (.f64Value _) => true
  | some .i64, some (.i64Value _) => true
  | some .bool, some (.boolValue _) => true
  | _, _ => false

def validateTelemetryFrame (schemas : List TelemetryStreamSchema) (frame : TelemetryFrame) :
    Except StoreError Unit :=
  match schemas.find? fun schema => schema.streamId == frame.streamId with
  | none => .error (.invalidData ("unknown telemetry stream: " ++ frame.streamId))
  | some schema =>
    if frame.values.length ≠ schema.fields.length then
      .error (.invalidData ("telemetry stream " ++ frame.streamId ++ " expects " ++
        toString schema.fields.length ++ " values, got " ++ toString frame.values.length))
    else
      match (schema.fields.zip frame.values).find? fun fv => !validValue fv.1 fv.2 with
      | some fv => .error (.invalidData
          ("telemetry field " ++ fv.1.fieldId ++ " has a mismatched value type"))
      | none => .ok ()

theorem ok_or_error (result : Except StoreError Unit) :
    result = .ok () ∨ ∃ e, result = .error e := by
  rcases result with e | ⟨⟨⟩⟩
  · exact .inr ⟨e, rfl⟩
  · exact .inl rfl

/-! ## Appending -/

namespace TimeSeriesStore

/-- The series of an aircraft, empty if there is none: `entry(id).or_default()`. -/
def series (store : TimeSeriesStore) (id : AircraftId) : AircraftTimeSeries :=
  (store.data.lookup id).getD {}

/-- Change the series of an aircraft, which is created if there is none. -/
def modifySeries (store : TimeSeriesStore) (id : AircraftId)
    (f : AircraftTimeSeries → AircraftTimeSeries) : TimeSeriesStore :=
  { store with data := store.data.insert id (f (store.series id)) }

def appendState (store : TimeSeriesStore) (id : AircraftId) (timestamp : F64)
    (state : AircraftState) : TimeSeriesStore :=
  match timestamp.toFinite with
  | none => store
  | some t => store.modifySeries id fun s => { s with states := s.states.append ⟨t, state⟩ }

/-- The configuration a `Spawn` sets; other events leave it as it is. -/
def configAfter (config : Option AircraftConfig) : Event → Option AircraftConfig
  | .spawn info => some ⟨info.name, info.tomlConfig, info.telemetrySchemas⟩
  | _ => config

def appendEvent (store : TimeSeriesStore) (id : AircraftId) (timestamp : F64) (event : Event) :
    TimeSeriesStore :=
  match timestamp.toFinite with
  | none => store
  | some t => store.modifySeries id fun s =>
      { s with config := configAfter s.config event, events := s.events.append ⟨t, event⟩ }

/-- The schemas registered for a series. -/
def schemas (s : AircraftTimeSeries) : List TelemetryStreamSchema :=
  match s.config with
  | some config => config.telemetrySchemas
  | none => []

def appendTelemetry (store : TimeSeriesStore) (id : AircraftId) (timestamp : F64)
    (frame : TelemetryFrame) : Except StoreError TimeSeriesStore :=
  match timestamp.toFinite with
  | none => .error (.invalidData "telemetry timestamp must be finite")
  | some t =>
    match store.data.lookup id with
    | none => .error (.invalidData ("aircraft not found: " ++ id))
    | some s =>
      match validateTelemetryFrame (schemas s) frame with
      | .error e => .error e
      | .ok () => .ok (store.modifySeries id fun s =>
          { s with telemetry := s.telemetry.append ⟨t, frame⟩ })

/-- Record that a live state of the aircraft has arrived. -/
def receive (store : TimeSeriesStore) (id : AircraftId) (now : Instant) : TimeSeriesStore :=
  { store with liveStateReceipts := store.liveStateReceipts.insert id now }

/-- What `append_message` does with a command for an aircraft, by its kind. -/
def appendCommand (store : TimeSeriesStore) (now : Instant) (id : AircraftId) (timestamp : F64) :
    AircraftCommandInfo.Kind → TimeSeriesStore
  | .stateUpdate state => (store.appendState id timestamp state).receive id now
  | .spawn spawn =>
    match validateTelemetrySchemas spawn.telemetrySchemas with
    | .error _ => store
    | .ok () =>
      let store := match spawn.initialState with
        | some state => (store.appendState id timestamp state).receive id now
        | none => store
      store.appendEvent id timestamp (.spawn spawn)
  | .despawn despawn =>
    let store := store.appendEvent id timestamp (.despawn despawn)
    { store with liveStateReceipts := store.liveStateReceipts.erase id }
  | .customEvent custom => store.appendEvent id timestamp (.custom custom)
  | .telemetryFrame frame =>
    match store.appendTelemetry id timestamp frame with
    | .ok store => store
    | .error _ => store

/-- The aircraft id of an event; a missing UUID is the placeholder. -/
def aircraftIdOf (event : AircraftEvent) : AircraftId :=
  match event.aircraftId with
  | some uuid => uuidToHex uuid
  | none => "unknown"

/-- `append_message`, at the time `now`. -/
def appendMessage (store : TimeSeriesStore) (now : Instant) (msg : Message) : TimeSeriesStore :=
  match msg.envelope with
  | some (.request req) =>
    match req.timestamp.toFinite with
    | none => store
    | some _ =>
      match req.command.bind RequestCommand.kind with
      | some (.aircraftEvent event) =>
        match event.info.bind AircraftCommandInfo.kind with
        | some info => store.appendCommand now (aircraftIdOf event) req.timestamp info
        | none => store
      | _ => store
  | _ => store

/-- `replace_from`: all series are those of `other`; no live state has been received. -/
def replaceFrom (_store other : TimeSeriesStore) : TimeSeriesStore := { data := other.data }

/-- `clear`. -/
def clear (_store : TimeSeriesStore) : TimeSeriesStore := {}

/-! ## What one append changes -/

theorem lookup_modifySeries (store : TimeSeriesStore) (id j : AircraftId)
    (f : AircraftTimeSeries → AircraftTimeSeries) :
    (store.modifySeries id f).data.lookup j =
      if j = id then some (f (store.series id)) else store.data.lookup j :=
  lookup_insert store.data id j _

theorem series_modifySeries (store : TimeSeriesStore) (id j : AircraftId)
    (f : AircraftTimeSeries → AircraftTimeSeries) :
    (store.modifySeries id f).series j =
      if j = id then f (store.series id) else store.series j := by
  unfold series
  rw [lookup_modifySeries]
  split_ifs <;> rfl

theorem appendTelemetry_finite {store : TimeSeriesStore} {id : AircraftId} {s : AircraftTimeSeries}
    (hs : store.data.lookup id = some s) (t : ℚ) (frame : TelemetryFrame) :
    store.appendTelemetry id (.finite t) frame =
      match validateTelemetryFrame (schemas s) frame with
      | .error e => .error e
      | .ok () => .ok (store.modifySeries id fun s =>
          { s with telemetry := s.telemetry.append ⟨t, frame⟩ }) := by
  unfold appendTelemetry
  simp only [F64.toFinite, hs]

end TimeSeriesStore

end FlyRuler.Store
