import Mathlib.Data.Rat.Init
import Mathlib.Data.Rat.Defs

/-!
# The wire schema

The messages of `core/proto/fly_ruler.proto` as the generated Rust structs have them: a message
field is an `Option`, an enum field is its number, a `oneof` is an inductive type.  A `double` is an
`F64`: a finite number (exactly, as a rational; `-0.0` is `0`), an infinity or NaN.  Times that have
passed an `is_finite` check are `Secs`.
-/

namespace FlyRuler.Pb

/-! ## Numbers -/

/-- A finite number of seconds on the source timeline. -/
abbrev Secs := ℚ

/-- A `double`. -/
inductive F64 where
  | finite (value : ℚ)
  | posInf
  | negInf
  | nan
  deriving DecidableEq

/-- The value, if it is finite. -/
def F64.toFinite : F64 → Option ℚ
  | .finite q => some q
  | _ => none

/-- `a <= b`, false as soon as one of them is NaN. -/
def F64.le : F64 → F64 → Bool
  | .finite a, .finite b => decide (a ≤ b)
  | .negInf, .nan => false
  | .negInf, _ => true
  | .finite _, .posInf => true
  | .posInf, .posInf => true
  | _, _ => false

/-- `a < b`, false as soon as one of them is NaN. -/
def F64.lt : F64 → F64 → Bool
  | .finite a, .finite b => decide (a < b)
  | .finite _, .posInf => true
  | .negInf, .finite _ => true
  | .negInf, .posInf => true
  | _, _ => false

/-- The number of values of a `u64`. -/
def u64Size : ℕ := 0x10000000000000000

/-! ## Aircraft data -/

structure Uuid where
  value : List UInt8
  deriving DecidableEq

structure Vector3 where
  x : F64
  y : F64
  z : F64
  deriving DecidableEq

structure Quaternion where
  w : F64
  x : F64
  y : F64
  z : F64
  deriving DecidableEq

structure DerivedState where
  lat : F64
  lon : F64
  altitude : F64
  alpha : F64
  beta : F64
  tas : F64
  eas : F64
  gamma : F64
  chi : F64
  ias : Option F64
  cas : Option F64
  mach : Option F64
  groundSpeed : Option F64
  verticalSpeed : Option F64
  dynamicPressure : Option F64
  normalLoadFactor : Option F64
  deriving DecidableEq

structure ControlSurfaceState where
  aileronLeftRad : Option F64
  aileronRightRad : Option F64
  elevatorRad : Option F64
  rudderRad : Option F64
  flapsLeftRatio : Option F64
  flapsRightRatio : Option F64
  spoilersRatio : Option F64
  deriving DecidableEq

structure PropulsorState where
  propulsorId : String
  kind : ℤ
  throttleRatio : Option F64
  rpm : Option F64
  bladePitchRad : Option F64
  thrustNewton : Option F64
  torqueNewtonMeter : Option F64
  index : Option ℕ
  deriving DecidableEq

structure AircraftState where
  position : Option Vector3 := none
  velocity : Option Vector3 := none
  attitude : Option Quaternion := none
  angularVelocity : Option Vector3 := none
  derived : Option DerivedState := none
  controlSurfaces : Option ControlSurfaceState := none
  linearAccelerationBody : Option Vector3 := none
  propulsors : List PropulsorState := []
  deriving DecidableEq

/-! ## Telemetry -/

/-- The known numbers of `TelemetryValueType`. -/
inductive TelemetryValueType where
  | unspecified
  | f64
  | i64
  | bool
  deriving DecidableEq

/-- `TelemetryValueType::try_from`. -/
def TelemetryValueType.tryFrom : ℤ → Option TelemetryValueType
  | 0 => some .unspecified
  | 1 => some .f64
  | 2 => some .i64
  | 3 => some .bool
  | _ => none

structure TelemetryField where
  fieldId : String
  label : String := ""
  group : String := ""
  unit : String := ""
  description : String := ""
  valueType : ℤ
  deriving DecidableEq

structure TelemetryStreamSchema where
  streamId : String
  name : String := ""
  nominalRateHz : Option F64 := none
  fields : List TelemetryField
  deriving DecidableEq

inductive TelemetryValue.Kind where
  | f64Value (v : F64)
  | i64Value (v : ℤ)
  | boolValue (v : Bool)
  deriving DecidableEq

structure TelemetryValue where
  kind : Option TelemetryValue.Kind
  deriving DecidableEq

structure TelemetryFrame where
  streamId : String
  sequence : ℕ
  values : List TelemetryValue
  deriving DecidableEq

/-! ## Commands and requests -/

structure AircraftSpawnInfo where
  name : String := ""
  tomlConfig : String := ""
  initialState : Option AircraftState := none
  telemetrySchemas : List TelemetryStreamSchema := []
  deriving DecidableEq

structure DespawnInfo where
  reason : Option String := none
  deriving DecidableEq

inductive AircraftCommandInfo.Kind where
  | spawn (value : AircraftSpawnInfo)
  | despawn (value : DespawnInfo)
  | stateUpdate (value : AircraftState)
  | customEvent (value : String)
  | telemetryFrame (value : TelemetryFrame)
  deriving DecidableEq

structure AircraftCommandInfo where
  kind : Option AircraftCommandInfo.Kind
  deriving DecidableEq

structure AircraftEvent where
  aircraftId : Option Uuid
  info : Option AircraftCommandInfo
  deriving DecidableEq

inductive ClientRole where
  | unspecified
  | producer
  | cursorSubscriber
  deriving DecidableEq

/-- `ClientRole::try_from`. -/
def ClientRole.tryFrom : ℤ → Option ClientRole
  | 0 => some .unspecified
  | 1 => some .producer
  | 2 => some .cursorSubscriber
  | _ => none

structure Handshake where
  version : String
  clientUuid : Option Uuid
  role : ℤ
  deriving DecidableEq

structure Heartbeat where
  seqNum : ℕ
  clientUuid : Option Uuid
  deriving DecidableEq

structure CursorSubscribe where
  requestedHz : F64
  deriving DecidableEq

structure CursorEventAck where
  serverEpoch : Option Uuid
  eventSequence : ℕ
  deriving DecidableEq

inductive RequestCommand.Kind where
  | handshake (value : Handshake)
  | heartbeat (value : Heartbeat)
  | aircraftEvent (value : AircraftEvent)
  | cursorSubscribe (value : CursorSubscribe)
  | cursorEventAck (value : CursorEventAck)
  deriving DecidableEq

structure RequestCommand where
  kind : Option RequestCommand.Kind
  deriving DecidableEq

structure Request where
  id : Option Uuid
  timestamp : F64
  command : Option RequestCommand
  deriving DecidableEq

inductive ErrorCode where
  | unspecified
  | invalidAircraftId
  | tomlParseError
  | unknownField
  | protocolVersionMismatch
  | invalidState
  | invalidTelemetrySchema
  | invalidTelemetryFrame
  deriving DecidableEq

structure ResponseError where
  code : ErrorCode
  message : String
  aircraftId : Option Uuid
  deriving DecidableEq

inductive ResponseData.Kind where
  | ack (value : Bool)
  | aircraftSpawned (id : Uuid)
  deriving DecidableEq

structure ResponseData where
  kind : Option ResponseData.Kind
  deriving DecidableEq

inductive Response.Result where
  | ok (value : ResponseData)
  | err (value : ResponseError)
  deriving DecidableEq

structure Response where
  id : Option Uuid
  timestamp : F64
  result : Option Response.Result
  deriving DecidableEq

/-! ## The cursor stream -/

inductive CursorPlaybackMode where
  | unspecified
  | live
  | replayPaused
  | replayPlaying
  deriving DecidableEq

structure CursorAircraftSnapshot where
  aircraftId : Option Uuid
  name : String
  tomlConfig : String
  sourceTimestamp : Secs
  stale : Bool
  state : Option AircraftState
  deriving DecidableEq

structure CursorFrame where
  serverEpoch : Option Uuid
  frameSequence : ℕ
  mode : CursorPlaybackMode
  cursor : Option Secs
  lowerBound : Option Secs
  upperBound : Option Secs
  speed : ℚ
  revision : ℕ
  eventWatermark : ℕ
  generatedAt : Secs
  aircraft : List CursorAircraftSnapshot
  deriving DecidableEq

structure CursorEvent where
  sequence : ℕ
  aircraftId : Option Uuid
  sourceTimestamp : Secs
  info : Option AircraftCommandInfo
  deriving DecidableEq

structure CursorEventBatch where
  serverEpoch : Option Uuid
  eventSequence : ℕ
  revision : ℕ
  baseline : Bool
  baselineComplete : Bool
  events : List CursorEvent
  deriving DecidableEq

structure CursorReset where
  serverEpoch : Option Uuid
  revision : ℕ
  cursor : Option Secs
  reason : String
  deriving DecidableEq

inductive CursorPayloadKind where
  | unspecified
  | frame
  | eventBatch
  | reset
  deriving DecidableEq

/-- The number of a payload kind on the wire. -/
def CursorPayloadKind.toInt : CursorPayloadKind → ℤ
  | .unspecified => 0
  | .frame => 1
  | .eventBatch => 2
  | .reset => 3

/-- `CursorPayloadKind::try_from`. -/
def CursorPayloadKind.tryFrom : ℤ → Option CursorPayloadKind
  | 0 => some .unspecified
  | 1 => some .frame
  | 2 => some .eventBatch
  | 3 => some .reset
  | _ => none

structure CursorChunk where
  serverEpoch : Option Uuid
  kind : ℤ
  sequence : ℕ
  chunkIndex : ℕ
  chunkCount : ℕ
  totalSize : ℕ
  checksum : UInt32
  payload : List UInt8
  deriving DecidableEq

inductive ServerPush.Kind where
  | cursorChunk (value : CursorChunk)
  deriving DecidableEq

structure ServerPush where
  kind : Option ServerPush.Kind
  deriving DecidableEq

inductive Envelope where
  | request (value : Request)
  | response (value : Response)
  | serverPush (value : ServerPush)
  deriving DecidableEq

structure Message where
  envelope : Option Envelope
  deriving DecidableEq

/-- The protocol version both sides must name in a handshake. -/
def protocolVersion : String := "0.4.0"

/-- A lowercase hex digit. -/
def hexDigit (n : UInt8) : Char := "0123456789abcdef".toList.getD n.toNat '0'

/-- `uuid_to_hex`: two lowercase hex digits for each byte. -/
def uuidToHex (uuid : Uuid) : String :=
  String.ofList (uuid.value.flatMap fun b : UInt8 => [hexDigit (b >>> 4), hexDigit (b &&& 0x0f)])

end FlyRuler.Pb
