import FlyRuler.Lib.Keyed
import FlyRuler.Store.Basic
import FlyRuler.Transport.AircraftClient

/-!
# The Python producer

`PyClient` of `bindings/python/src/client.rs`, with the data classes of `protocol.rs`: it checks the
telemetry schemas, numbers and checks the telemetry frames, and passes everything on to an
`AircraftClient`.  A Python object is what the bindings extract from it.

* `registerSchemas_ok_iff`: the schemas that the client takes are those that the server takes.
* `validateTelemetryFrame_eq_ok`: so are its frames.
-/

namespace FlyRuler.Python

open FlyRuler.Pb FlyRuler.Store FlyRuler.Transport.AircraftClient FlyRuler.Lib.Keyed

/-- The exceptions of the bindings. -/
inductive PyErr where
  | valueError (message : String)
  | keyError (message : String)
  | typeError (message : String)
  | connectionError (message : String)
  -- an extraction raises its own
  | extraction
  deriving DecidableEq

/-! ## The data classes -/

/-- `AircraftState`; its parts have the fields of their messages, its attitude is a quaternion. -/
structure PyAircraftState where
  position : Vector3
  velocity : Vector3
  attitude : Quaternion
  angularVelocity : Vector3
  derived : Option DerivedState := none
  controlSurfaces : Option ControlSurfaceState := none
  linearAccelerationBody : Option Vector3 := none
  propulsors : List PropulsorState := []
  deriving DecidableEq

def PyAircraftState.toPb (state : PyAircraftState) : AircraftState where
  position := some state.position
  velocity := some state.velocity
  attitude := some state.attitude
  angularVelocity := some state.angularVelocity
  derived := state.derived
  controlSurfaces := state.controlSurfaces
  linearAccelerationBody := state.linearAccelerationBody
  propulsors := state.propulsors

def zeroVector : Vector3 := ⟨.finite 0, .finite 0, .finite 0⟩

def PyAircraftState.defaultForRust : PyAircraftState where
  position := zeroVector
  velocity := zeroVector
  attitude := ⟨.finite 1, .finite 0, .finite 0, .finite 0⟩
  angularVelocity := zeroVector

inductive PyTelemetryValueType where
  | f64
  | i64
  | bool
  deriving DecidableEq

/-- The number of the type on the wire. -/
def PyTelemetryValueType.toPb : PyTelemetryValueType → ℤ
  | f64 => 1
  | i64 => 2
  | bool => 3

structure PyTelemetryField where
  fieldId : String
  label : String := ""
  group : String := ""
  unit : String := ""
  description : String := ""
  valueType : PyTelemetryValueType := .f64
  deriving DecidableEq

def PyTelemetryField.toPb (field : PyTelemetryField) : TelemetryField where
  fieldId := field.fieldId
  label := field.label
  group := field.group
  unit := field.unit
  description := field.description
  valueType := field.valueType.toPb

structure PyTelemetryStreamSchema where
  streamId : String
  name : String := ""
  nominalRateHz : Option F64 := none
  fields : List PyTelemetryField
  deriving DecidableEq

def PyTelemetryStreamSchema.toPb (schema : PyTelemetryStreamSchema) : TelemetryStreamSchema where
  streamId := schema.streamId
  name := schema.name
  nominalRateHz := schema.nominalRateHz
  fields := schema.fields.map PyTelemetryField.toPb

/-- The types of the fields of a stream. -/
def PyTelemetryStreamSchema.valueTypes (schema : PyTelemetryStreamSchema) :
    List PyTelemetryValueType :=
  schema.fields.map PyTelemetryField.valueType

/-- A Python object: whether it is a `bool`, and what is extracted from it. -/
structure PyAny where
  isBool : Bool
  extractF64 : Option F64
  extractI64 : Option ℤ
  extractBool : Option Bool
  deriving DecidableEq

def telemetryValueFromPython (value : PyAny) (valueType : PyTelemetryValueType) (index : ℕ) :
    Except PyErr TelemetryValue :=
  match valueType with
  | .f64 =>
    match value.extractF64 with
    | some v => .ok ⟨some (.f64Value v)⟩
    | none => .error (.typeError ("telemetry value " ++ toString index ++
        " must be float-compatible"))
  | .i64 =>
    if value.isBool then
      .error (.typeError ("telemetry value " ++ toString index ++ " must be int, not bool"))
    else
      match value.extractI64 with
      | some v => .ok ⟨some (.i64Value v)⟩
      | none => .error (.typeError ("telemetry value " ++ toString index ++ " must be int"))
  | .bool =>
    if !value.isBool then
      .error (.typeError ("telemetry value " ++ toString index ++ " must be bool"))
    else
      match value.extractBool with
      | some v => .ok ⟨some (.boolValue v)⟩
      | none => .error .extraction

/-! ## The schemas -/

/-- The ids of the fields of a stream; `fieldIds` are those so far. -/
def checkFields (streamId : String) : List String → List PyTelemetryField → Except PyErr Unit
  | _, [] => .ok ()
  | fieldIds, field :: rest =>
    if trimIsEmpty field.fieldId || fieldIds.contains field.fieldId then
      .error (.valueError ("telemetry field id must be non-empty and unique in stream " ++
        streamId ++ ": " ++ debugText field.fieldId))
    else checkFields streamId (field.fieldId :: fieldIds) rest

/-- The loop of `PyClient::new` over the schemas. -/
def registerSchemas : Table String (List PyTelemetryValueType) → List PyTelemetryStreamSchema →
    Except PyErr (Table String (List PyTelemetryValueType))
  | telemetryFields, [] => .ok telemetryFields
  | telemetryFields, schema :: rest =>
    if trimIsEmpty schema.streamId || (telemetryFields.lookup schema.streamId).isSome then
      .error (.valueError ("telemetry stream id must be non-empty and unique: " ++
        debugText schema.streamId))
    else if !validRate schema.nominalRateHz then
      .error (.valueError ("telemetry stream " ++ schema.streamId ++
        " has an invalid nominal rate"))
    else
      match checkFields schema.streamId [] schema.fields with
      | .error e => .error e
      | .ok () => registerSchemas (telemetryFields.insert schema.streamId schema.valueTypes) rest

theorem checkFields_ok_iff (streamId : String) (fields : List PyTelemetryField)
    (fieldIds : List String) : checkFields streamId fieldIds fields = .ok () ↔
      validateFields streamId fieldIds (fields.map PyTelemetryField.toPb) = .ok () := by
  induction fields generalizing fieldIds with
  | nil => exact ⟨fun _ => rfl, fun _ => rfl⟩
  | cons field rest ih =>
    rw [List.map_cons, checkFields, validateFields]
    have hid : field.toPb.fieldId = field.fieldId := rfl
    rw [hid]
    split_ifs with hbad
    · exact ⟨nofun, nofun⟩
    · rw [ih]
      -- every type of the bindings is known to the server
      rcases htype : field.valueType with _ | _ | _ <;>
        simp only [PyTelemetryField.toPb, htype, PyTelemetryValueType.toPb,
          TelemetryValueType.tryFrom]

theorem registerSchemas_ok_iff_from (schemas : List PyTelemetryStreamSchema)
    {telemetryFields : Table String (List PyTelemetryValueType)} {seen : List String}
    (hseen : ∀ id, (telemetryFields.lookup id).isSome = seen.contains id) :
    (∃ fields, registerSchemas telemetryFields schemas = .ok fields) ↔
      validateSchemas seen (schemas.map PyTelemetryStreamSchema.toPb) = .ok () := by
  induction schemas generalizing telemetryFields seen with
  | nil => exact ⟨fun _ => rfl, fun _ => ⟨_, rfl⟩⟩
  | cons schema rest ih =>
    rw [List.map_cons, registerSchemas, validateSchemas]
    have hid : schema.toPb.streamId = schema.streamId := rfl
    have hrate : schema.toPb.nominalRateHz = schema.nominalRateHz := rfl
    have hfields := checkFields_ok_iff schema.streamId schema.fields []
    rw [hid, hrate, hseen]
    split_ifs with hbad hinvalid
    · exact ⟨fun ⟨_, h⟩ => (nomatch h), nofun⟩
    · exact ⟨fun ⟨_, h⟩ => (nomatch h), nofun⟩
    · rw [show schema.toPb.fields = schema.fields.map PyTelemetryField.toPb from rfl]
      rcases hcheck : checkFields schema.streamId [] schema.fields with e | ⟨⟨⟩⟩
      · rw [hcheck] at hfields
        rcases hvalid : validateFields schema.streamId [] (schema.fields.map
          PyTelemetryField.toPb) with e' | ⟨⟨⟩⟩
        · exact ⟨fun ⟨_, h⟩ => (nomatch h), nofun⟩
        · exact nomatch hfields.mpr hvalid
      · rw [hfields.mp hcheck]
        refine ih fun id => ?_
        rw [lookup_insert, List.contains_cons, ← hseen]
        by_cases heq : id = schema.streamId
        · simp [heq]
        · rw [if_neg heq, beq_eq_false_iff_ne.mpr heq, Bool.false_or]

/-- **The client takes the schemas that the server takes.** -/
theorem registerSchemas_ok_iff (schemas : List PyTelemetryStreamSchema) :
    (∃ fields, registerSchemas ∅ schemas = .ok fields) ↔
      validateTelemetrySchemas (schemas.map PyTelemetryStreamSchema.toPb) = .ok () :=
  registerSchemas_ok_iff_from schemas fun id => by rw [lookup_empty]; rfl

/-- What is registered: the types of the fields of the schemas. -/
theorem lookup_registerSchemas {schemas : List PyTelemetryStreamSchema}
    {telemetryFields fields : Table String (List PyTelemetryValueType)}
    (h : registerSchemas telemetryFields schemas = .ok fields) (id : String) :
    fields.lookup id = (telemetryFields.lookup id).or
      ((schemas.find? fun schema => schema.streamId == id).map
        PyTelemetryStreamSchema.valueTypes) := by
  induction schemas generalizing telemetryFields with
  | nil =>
    cases h
    exact Option.or_none.symm
  | cons schema rest ih =>
    rw [registerSchemas] at h
    split_ifs at h with hbad hinvalid
    split at h
    · cases h
    · rw [ih h, lookup_insert, List.find?_cons]
      rw [Bool.or_eq_true, not_or, Option.not_isSome_iff_eq_none] at hbad
      by_cases heq : id = schema.streamId
      · subst heq
        rw [if_pos rfl, hbad.2, beq_self_eq_true]
        rfl
      · rw [if_neg heq, beq_eq_false_iff_ne.mpr (Ne.symm heq)]

/-! ## The frames -/

/-- The loop of `publish_telemetry` over the fields, from the field of an index on. -/
def convertValues : ℕ → List (PyTelemetryValueType × PyAny) → Except PyErr (List TelemetryValue)
  | _, [] => .ok []
  | index, (valueType, value) :: rest => do
    let converted ← telemetryValueFromPython value valueType index
    let values ← convertValues (index + 1) rest
    return converted :: values

/-- The values of a frame, by the order of the fields of its stream. -/
def telemetryValues (telemetryFields : Table String (List PyTelemetryValueType))
    (streamId : String) (values : List PyAny) : Except PyErr (List TelemetryValue) :=
  match telemetryFields.lookup streamId with
  | none => .error (.keyError ("unknown telemetry stream: " ++ streamId))
  | some fieldTypes =>
    if values.length ≠ fieldTypes.length then
      .error (.valueError ("telemetry stream " ++ streamId ++ " expects " ++
        toString fieldTypes.length ++ " values, got " ++ toString values.length))
    else convertValues 0 (fieldTypes.zip values)

theorem bind_ok {α β : Type} {x : Except PyErr α} {f : α → Except PyErr β} {b : β}
    (h : x >>= f = .ok b) : ∃ a, x = .ok a ∧ f a = .ok b := by
  rcases x with e | a
  · exact nomatch h
  · exact ⟨a, rfl, h⟩

/-- A converted value has the type of its field. -/
theorem validValue_of_python {field : PyTelemetryField} {value : PyAny} {index : ℕ}
    {converted : TelemetryValue}
    (h : telemetryValueFromPython value field.valueType index = .ok converted) :
    validValue field.toPb converted = true := by
  have hnumber : field.toPb.valueType = field.valueType.toPb := rfl
  rw [validValue, hnumber]
  unfold telemetryValueFromPython at h
  cases htype : field.valueType with
  | f64 =>
    rw [htype] at h
    rcases hv : value.extractF64 with _ | v <;> simp only [hv] at h
    · cases h
    · cases h
      rfl
  | i64 =>
    rw [htype] at h
    dsimp only at h
    split_ifs at h
    rcases hv : value.extractI64 with _ | v <;> simp only [hv] at h
    · cases h
    · cases h
      rfl
  | bool =>
    rw [htype] at h
    dsimp only at h
    split_ifs at h
    rcases hv : value.extractBool with _ | v <;> simp only [hv] at h
    · cases h
    · cases h
      rfl

theorem convertValues_valid {fields : List PyTelemetryField} {values : List PyAny} {index : ℕ}
    {converted : List TelemetryValue} (hlength : values.length = fields.length)
    (h : convertValues index ((fields.map PyTelemetryField.valueType).zip values) =
      .ok converted) :
    converted.length = fields.length ∧
      ∀ fv ∈ (fields.map PyTelemetryField.toPb).zip converted, validValue fv.1 fv.2 = true := by
  induction fields generalizing values index converted with
  | nil =>
    cases h
    exact ⟨rfl, nofun⟩
  | cons field fields ih =>
    rcases values with _ | ⟨value, values⟩
    · cases hlength
    obtain ⟨first, hfirst, h⟩ := bind_ok h
    obtain ⟨others, hothers, h⟩ := bind_ok h
    cases h
    obtain ⟨hcount, hvalid⟩ := ih (Nat.succ.inj hlength) hothers
    refine ⟨congrArg Nat.succ hcount, fun fv hfv => ?_⟩
    rcases List.mem_cons.mp hfv with rfl | hfv
    · exact validValue_of_python hfirst
    · exact hvalid fv hfv

/-- **The server takes the frames of the client**, whatever their numbers are. -/
theorem validateTelemetryFrame_eq_ok {schemas : List PyTelemetryStreamSchema}
    {fields : Table String (List PyTelemetryValueType)}
    (hfields : registerSchemas ∅ schemas = .ok fields) {streamId : String} {values : List PyAny}
    {converted : List TelemetryValue} (h : telemetryValues fields streamId values = .ok converted)
    (sequence : ℕ) :
    validateTelemetryFrame (schemas.map PyTelemetryStreamSchema.toPb)
      ⟨streamId, sequence, converted⟩ = .ok () := by
  have hlookup := lookup_registerSchemas hfields streamId
  rw [lookup_empty, Option.none_or] at hlookup
  have hfind : ((schemas.map PyTelemetryStreamSchema.toPb).find? fun schema =>
      schema.streamId == streamId) =
        (schemas.find? fun schema => schema.streamId == streamId).map
          PyTelemetryStreamSchema.toPb := by
    rw [List.find?_map]
    rfl
  rw [telemetryValues] at h
  rw [validateTelemetryFrame]
  rcases hfound : schemas.find? (fun schema => schema.streamId == streamId) with _ | schema
  · rw [hlookup, hfound] at h
    cases h
  · rw [hlookup, hfound] at h
    rw [hfind, hfound]
    dsimp only [Option.map_some] at h ⊢
    split_ifs at h with hcount
    have hlength : values.length = schema.fields.length := by
      rw [not_not] at hcount
      rw [hcount, PyTelemetryStreamSchema.valueTypes, List.length_map]
    obtain ⟨hconverted, hvalid⟩ := convertValues_valid hlength h
    have hcount' : converted.length = schema.toPb.fields.length := by
      rw [hconverted, PyTelemetryStreamSchema.toPb, List.length_map]
    rw [if_neg (not_not.mpr hcount')]
    have hnone : ((schema.toPb.fields.zip converted).find? fun fv => !validValue fv.1 fv.2) =
        none :=
      List.find?_eq_none.mpr fun fv hfv => by simpa using hvalid fv hfv
    rw [hnone]

end FlyRuler.Python
