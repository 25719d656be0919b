import FlyRuler.Lib.Fallible
import FlyRuler.Management.Batch
import FlyRuler.Management.Telemetry

/-!
# The catalog of series

`catalog` of `core/src/management/series.rs`: the selectors that a client can choose from, with
their texts.  The fields of propulsors are collected from every entry of a state but are read from
the last entry with an id; the telemetry fields are collected from every schema but are looked up in
the first schema of a stream, where a field that is missing is a panic, `none`.

* `catalogAgrees_iff`: when the catalog of an aircraft and the queries agree.
* `catalog_runs`: in a run of appends and loads whose states and schemas hide nothing they agree
  always.
-/

namespace FlyRuler.Management

open FlyRuler.Pb FlyRuler.Store FlyRuler.Lib.TimeOrder FlyRuler.Lib.Fallible
open FlyRuler.Store.TimeSeriesStore (schemas)

/-! ## Texts -/

def PropulsorField.label : PropulsorField → String
  | .throttleRatio => "Throttle"
  | .rpm => "RPM"
  | .bladePitchRad => "Blade pitch"
  | .thrustNewton => "Thrust"
  | .torqueNewtonMeter => "Torque"

def PropulsorField.unit : PropulsorField → String
  | .throttleRatio => "ratio"
  | .rpm => "rpm"
  | .bladePitchRad => "rad"
  | .thrustNewton => "N"
  | .torqueNewtonMeter => "N·m"

/-- The fields in their order. -/
def propulsorFields : List PropulsorField :=
  [.throttleRatio, .rpm, .bladePitchRad, .thrustNewton, .torqueNewtonMeter]

structure SeriesCatalogItem where
  selector : SeriesSelector
  group : String
  label : String
  unit : Option String
  deriving DecidableEq

/-- The rows of `standard_fields`: path, group, label and unit. -/
def standardFieldRows : List (String × String × String × Option String) :=
  [("position.x", "position", "Position X", some "m"),
    ("position.y", "position", "Position Y", some "m"),
    ("position.z", "position", "Position Z", some "m"),
    ("velocity.x", "velocity", "Velocity X", some "m/s"),
    ("velocity.y", "velocity", "Velocity Y", some "m/s"),
    ("velocity.z", "velocity", "Velocity Z", some "m/s"),
    ("attitude.w", "attitude", "Quaternion W", none),
    ("attitude.x", "attitude", "Quaternion X", none),
    ("attitude.y", "attitude", "Quaternion Y", none),
    ("attitude.z", "attitude", "Quaternion Z", none),
    ("attitude.roll", "attitude", "Roll", some "rad"),
    ("attitude.pitch", "attitude", "Pitch", some "rad"),
    ("attitude.yaw", "attitude", "Yaw", some "rad"),
    ("angular_velocity.x", "angular_velocity", "Roll rate", some "rad/s"),
    ("angular_velocity.y", "angular_velocity", "Pitch rate", some "rad/s"),
    ("angular_velocity.z", "angular_velocity", "Yaw rate", some "rad/s"),
    ("derived.lat", "derived", "Latitude", some "deg"),
    ("derived.lon", "derived", "Longitude", some "deg"),
    ("derived.altitude", "derived", "Altitude", some "m"),
    ("derived.alpha", "derived", "Angle of attack", some "rad"),
    ("derived.beta", "derived", "Sideslip angle", some "rad"),
    ("derived.tas", "derived", "True airspeed", some "m/s"),
    ("derived.eas", "derived", "Equivalent airspeed", some "m/s"),
    ("derived.gamma", "derived", "Flight path angle", some "rad"),
    ("derived.chi", "derived", "Track angle", some "rad"),
    ("derived.ias", "derived", "Indicated airspeed", some "m/s"),
    ("derived.cas", "derived", "Calibrated airspeed", some "m/s"),
    ("derived.mach", "derived", "Mach", none),
    ("derived.ground_speed", "derived", "Ground speed", some "m/s"),
    ("derived.vertical_speed", "derived", "Vertical speed", some "m/s"),
    ("derived.dynamic_pressure", "derived", "Dynamic pressure", some "Pa"),
    ("derived.normal_load_factor", "derived", "Normal load factor", some "g"),
    ("linear_acceleration_body.x", "acceleration", "Body acceleration X", some "m/s²"),
    ("linear_acceleration_body.y", "acceleration", "Body acceleration Y", some "m/s²"),
    ("linear_acceleration_body.z", "acceleration", "Body acceleration Z", some "m/s²"),
    ("control_surfaces.aileron_left_rad", "control_surfaces", "Left aileron", some "rad"),
    ("control_surfaces.aileron_right_rad", "control_surfaces", "Right aileron", some "rad"),
    ("control_surfaces.elevator_rad", "control_surfaces", "Elevator", some "rad"),
    ("control_surfaces.rudder_rad", "control_surfaces", "Rudder", some "rad"),
    ("control_surfaces.flaps_left_ratio", "control_surfaces", "Left flaps", some "ratio"),
    ("control_surfaces.flaps_right_ratio", "control_surfaces", "Right flaps", some "ratio"),
    ("control_surfaces.spoilers_ratio", "control_surfaces", "Spoilers", some "ratio")]

theorem standardFieldRows_map_fst : standardFieldRows.map Prod.fst = standardFields := rfl

/-! ## The catalog -/

/-- The place of a field in the order of the fields. -/
def PropulsorField.rank (field : PropulsorField) : ℕ := propulsorFields.idxOf field

/-- The order of the selectors: by kind, then by their parts. -/
def SelectorOrder : SeriesSelector → SeriesSelector → Prop
  | .standard path, .standard path' => path ≤ path'
  | .standard _, _ => True
  | .propulsor _ _, .standard _ => False
  | .propulsor id field, .propulsor id' field' =>
    id < id' ∨ id = id' ∧ field.rank ≤ field'.rank
  | .propulsor _ _, .telemetry _ _ => True
  | .telemetry streamId fieldId, .telemetry streamId' fieldId' =>
    streamId < streamId' ∨ streamId = streamId' ∧ fieldId ≤ fieldId'
  | .telemetry _ _, _ => False

instance : DecidableRel SelectorOrder := fun a b => by
  unfold SelectorOrder
  split <;> infer_instance

section Catalog

variable (euler : Quaternion → Option Vector3) (store : TimeSeriesStore)

/-- The selectors of the fields that have values in a state. -/
def collectStateSelectors (state : AircraftState) : List SeriesSelector :=
  ((standardFieldRows.map fun row => SeriesSelector.standard row.1).filter fun selector =>
    (extractValue euler state selector).isSome) ++
  state.propulsors.flatMap fun propulsor =>
    (propulsorFields.filter fun field => (propulsorValue propulsor field).isSome).map fun field =>
      .propulsor propulsor.propulsorId field

/-- The selectors of the fields of a schema. -/
def schemaSelectors (schema : TelemetryStreamSchema) : List SeriesSelector :=
  schema.fields.map fun field => .telemetry schema.streamId field.fieldId

/-- A standard path that is not in the table is a panic. -/
def catalogItem : SeriesSelector → Option SeriesCatalogItem
  | .standard path => (standardFieldRows.find? fun row => row.1 == path).map fun row =>
      ⟨.standard path, row.2.1, row.2.2.1, row.2.2.2⟩
  | .propulsor propulsorId field =>
    some ⟨.propulsor propulsorId field, "propulsors", propulsorId ++ " " ++ field.label,
      some field.unit⟩
  | .telemetry streamId fieldId => some ⟨.telemetry streamId fieldId, streamId, fieldId, none⟩

/-- The item of a telemetry field, with defaults for texts that are empty. -/
def telemetryItem (schema : TelemetryStreamSchema) (streamId fieldId : String)
    (field : TelemetryField) : SeriesCatalogItem where
  selector := .telemetry streamId fieldId
  group := if field.group = "" then schema.name else field.group
  label := if field.label = "" then field.fieldId else field.label
  unit := if field.unit = "" then none else some field.unit

/-- The item of a selector; a telemetry field that is not found is a panic. -/
def itemOf (registered : List TelemetryStreamSchema) :
    SeriesSelector → Option SeriesCatalogItem
  | .telemetry streamId fieldId =>
    (telemetryField registered streamId fieldId).bind fun found =>
      (found.1.fields[found.2]?).map (telemetryItem found.1 streamId fieldId)
  | selector => catalogItem selector

/-- The selectors collected from the states and the schemas, in order and without repetitions. -/
def catalogSelectors (collected : List SeriesSelector)
    (registered : List TelemetryStreamSchema) : List SeriesSelector :=
  (collected ++ registered.flatMap schemaSelectors).dedup.insertionSort SelectorOrder

/-- `catalog`; the outer `none` is a panic. -/
def catalog (id : AircraftId) : Option (Except SeriesError (List SeriesCatalogItem)) :=
  match store.visitStatesRange id .negInf .posInf fun states =>
      states.flatMap fun sample => collectStateSelectors euler sample.item with
  | none => none
  | some none => some (.error (.aircraftNotFound id))
  | some (some collected) =>
    let registered := (store.getTelemetrySchemas id).getD []
    ((catalogSelectors collected registered).mapM (itemOf registered)).map .ok

end Catalog

/-! ## What is listed -/

section Listed

variable {euler : Quaternion → Option Vector3}

/-- Only the standard fields have values. -/
theorem mem_standardFields_of_isSome {state : AircraftState} {path : String}
    (h : (standardValue euler state path).isSome) : path ∈ standardFields := by
  unfold standardValue at h
  split at h
  all_goals first | exact absurd h (by decide) | simp [standardFields]

/-- **A standard selector is collected** from a state if it has a value in it. -/
theorem standard_mem_collect {state : AircraftState} {path : String} :
    .standard path ∈ collectStateSelectors euler state ↔
      (extractValue euler state (.standard path)).isSome := by
  unfold collectStateSelectors
  rw [List.mem_append, List.mem_filter]
  constructor
  · rintro (⟨-, h⟩ | h)
    · exact h
    · obtain ⟨propulsor, -, h⟩ := List.mem_flatMap.mp h
      obtain ⟨field, -, h⟩ := List.mem_map.mp h
      exact nomatch h
  · intro h
    refine .inl ⟨?_, h⟩
    have hpath : path ∈ standardFieldRows.map Prod.fst :=
      standardFieldRows_map_fst ▸ mem_standardFields_of_isSome h
    obtain ⟨row, hrow, rfl⟩ := List.mem_map.mp hpath
    exact List.mem_map.mpr ⟨row, hrow, rfl⟩

/-- **A propulsor selector is collected** from every entry with its id. -/
theorem propulsor_mem_collect {state : AircraftState} {propulsorId : String}
    {field : PropulsorField} :
    .propulsor propulsorId field ∈ collectStateSelectors euler state ↔
      ∃ propulsor ∈ state.propulsors, propulsor.propulsorId = propulsorId ∧
        (propulsorValue propulsor field).isSome := by
  unfold collectStateSelectors
  rw [List.mem_append]
  constructor
  · rintro (h | h)
    · obtain ⟨row, -, h⟩ := List.mem_map.mp (List.mem_of_mem_filter h)
      exact nomatch h
    · obtain ⟨propulsor, hpropulsor, h⟩ := List.mem_flatMap.mp h
      obtain ⟨field', hfield, h⟩ := List.mem_map.mp h
      cases h
      exact ⟨propulsor, hpropulsor, rfl, (List.mem_filter.mp hfield).2⟩
  · rintro ⟨propulsor, hpropulsor, rfl, h⟩
    refine .inr (List.mem_flatMap.mpr ⟨propulsor, hpropulsor, List.mem_map.mpr ⟨field, ?_, rfl⟩⟩)
    refine List.mem_filter.mpr ⟨?_, h⟩
    rcases field with _ | _ | _ | _ | _ <;> decide

theorem telemetry_notMem_collect {state : AircraftState} {streamId fieldId : String} :
    .telemetry streamId fieldId ∉ collectStateSelectors euler state := by
  unfold collectStateSelectors
  rw [List.mem_append]
  rintro (h | h)
  · obtain ⟨row, -, h⟩ := List.mem_map.mp (List.mem_of_mem_filter h)
    exact nomatch h
  · obtain ⟨propulsor, -, h⟩ := List.mem_flatMap.mp h
    obtain ⟨field, -, h⟩ := List.mem_map.mp h
    exact nomatch h

theorem mem_catalogSelectors {collected : List SeriesSelector}
    {registered : List TelemetryStreamSchema} {selector : SeriesSelector} :
    selector ∈ catalogSelectors collected registered ↔
      selector ∈ collected ∨ ∃ schema ∈ registered, selector ∈ schemaSelectors schema := by
  unfold catalogSelectors
  rw [List.mem_insertionSort, List.mem_dedup, List.mem_append, List.mem_flatMap]

/-- The item of a selector is for the selector. -/
theorem selector_of_itemOf {registered : List TelemetryStreamSchema} {selector : SeriesSelector}
    {item : SeriesCatalogItem} (h : itemOf registered selector = some item) :
    item.selector = selector := by
  rcases selector with path | ⟨propulsorId, field⟩ | ⟨streamId, fieldId⟩
  · obtain ⟨row, -, rfl⟩ := Option.map_eq_some_iff.mp h
    rfl
  · cases h
    rfl
  · obtain ⟨found, -, h⟩ := Option.bind_eq_some_iff.mp h
    obtain ⟨field, -, rfl⟩ := Option.map_eq_some_iff.mp h
    rfl

/-- A telemetry selector has an item if its field is found. -/
theorem itemOf_telemetry_isSome {registered : List TelemetryStreamSchema}
    {streamId fieldId : String} :
    (itemOf registered (.telemetry streamId fieldId)).isSome ↔
      (telemetryField registered streamId fieldId).isSome := by
  show ((telemetryField registered streamId fieldId).bind fun found =>
    (found.1.fields[found.2]?).map (telemetryItem found.1 streamId fieldId)).isSome ↔ _
  rcases hfound : telemetryField registered streamId fieldId with _ | ⟨schema, index⟩
  · simp
  · obtain ⟨-, hget⟩ := telemetryField_spec hfound
    obtain ⟨field, hfield, -⟩ := Option.map_eq_some_iff.mp hget
    simp [hfield]

/-- The selectors listed for a series. -/
def seriesSelectors (euler : Quaternion → Option Vector3) (s : AircraftTimeSeries) :
    List SeriesSelector :=
  catalogSelectors (s.states.entries.flatMap fun sample => collectStateSelectors euler sample.item)
    (schemas s)

theorem catalog_eq {store : TimeSeriesStore} {id : AircraftId} {s : AircraftTimeSeries}
    (hs : store.data.lookup id = some s) :
    catalog euler store id =
      ((seriesSelectors euler s).mapM (itemOf (schemas s))).map .ok := by
  have hall : s.states.entries.filter (inSpan .negInf .posInf) = s.states.entries :=
    List.filter_eq_self.mpr fun _ _ => rfl
  unfold catalog TimeSeriesStore.getTelemetrySchemas
  rw [TimeSeriesStore.visitStatesRange_eq rfl, hs]
  simp only [Option.map_some, Option.getD_some]
  rw [hall]
  rfl

/-- The catalog of an aircraft, if it does not panic, has the items of the selectors. -/
theorem catalog_eq_ok_iff {store : TimeSeriesStore} {id : AircraftId} {s : AircraftTimeSeries}
    (hs : store.data.lookup id = some s) {items : List SeriesCatalogItem} :
    catalog euler store id = some (.ok items) ↔
      (seriesSelectors euler s).map (itemOf (schemas s)) = items.map some := by
  rw [catalog_eq hs, ← mapM_eq_some_iff]
  simp

/-- The items stand in the order of the selectors. -/
theorem map_selector_eq {registered : List TelemetryStreamSchema}
    {selectors : List SeriesSelector} {items : List SeriesCatalogItem}
    (h : selectors.map (itemOf registered) = items.map some) :
    items.map SeriesCatalogItem.selector = selectors := by
  induction selectors generalizing items with
  | nil => simpa using h.symm
  | cons selector selectors ih =>
    rcases items with _ | ⟨item, items⟩
    · exact absurd h (by simp)
    · rw [List.map_cons, List.map_cons, List.cons.injEq] at h
      rw [List.map_cons, ih h.2, selector_of_itemOf h.1]

theorem propulsor_mem_seriesSelectors {s : AircraftTimeSeries} {propulsorId : String}
    {field : PropulsorField} :
    .propulsor propulsorId field ∈ seriesSelectors euler s ↔
      ∃ sample ∈ s.states.entries, ∃ propulsor ∈ sample.item.propulsors,
        propulsor.propulsorId = propulsorId ∧ (propulsorValue propulsor field).isSome := by
  unfold seriesSelectors
  rw [mem_catalogSelectors]
  simp only [List.mem_flatMap, propulsor_mem_collect]
  refine or_iff_left ?_
  rintro ⟨schema, -, h⟩
  obtain ⟨telemetryField, -, h⟩ := List.mem_map.mp h
  exact nomatch h

theorem standard_mem_seriesSelectors {s : AircraftTimeSeries} {path : String} :
    .standard path ∈ seriesSelectors euler s ↔
      ∃ sample ∈ s.states.entries, (extractValue euler sample.item (.standard path)).isSome := by
  unfold seriesSelectors
  rw [mem_catalogSelectors]
  simp only [List.mem_flatMap, standard_mem_collect]
  refine or_iff_left ?_
  rintro ⟨schema, -, h⟩
  obtain ⟨telemetryField, -, h⟩ := List.mem_map.mp h
  exact nomatch h

theorem telemetry_mem_seriesSelectors {s : AircraftTimeSeries} {streamId fieldId : String} :
    .telemetry streamId fieldId ∈ seriesSelectors euler s ↔
      ∃ schema ∈ schemas s, ∃ field ∈ schema.fields,
        schema.streamId = streamId ∧ field.fieldId = fieldId := by
  unfold seriesSelectors
  rw [mem_catalogSelectors]
  simp only [List.mem_flatMap, telemetry_notMem_collect, and_false, exists_false, false_or,
    schemaSelectors, List.mem_map, SeriesSelector.telemetry.injEq]

end Listed

/-! ## Agreement with the queries -/

/-- A stored state yields a value for the selector. -/
def Yields (euler : Quaternion → Option Vector3) (s : AircraftTimeSeries)
    (selector : SeriesSelector) : Prop :=
  ∃ sample ∈ s.states.entries, (extractValue euler sample.item selector).isSome

/-- The items agree with the queries: what they list is accepted, and what is listed of the states
is what the states yield. -/
structure ItemsAgree (euler : Quaternion → Option Vector3) (store : TimeSeriesStore)
    (id : AircraftId) (items : List SeriesCatalogItem) : Prop where
  accepted : ∀ item ∈ items, ∃ response,
    queryGrouped euler store { selections := [⟨id, item.selector⟩] } = some (.ok response)
  standard : ∀ path, .standard path ∈ items.map SeriesCatalogItem.selector ↔
    Yields euler (store.series id) (.standard path)
  propulsor : ∀ propulsorId field,
    .propulsor propulsorId field ∈ items.map SeriesCatalogItem.selector ↔
      Yields euler (store.series id) (.propulsor propulsorId field)

/-- **The catalog of an aircraft agrees with the queries**; in particular it does not panic. -/
def CatalogAgrees (euler : Quaternion → Option Vector3) (store : TimeSeriesStore)
    (id : AircraftId) : Prop :=
  ∃ items, catalog euler store id = some (.ok items) ∧ ItemsAgree euler store id items

/-- Every field of every schema is a field of the first schema of its stream. -/
def FieldsFound (registered : List TelemetryStreamSchema) : Prop :=
  ∀ schema ∈ registered, ∀ field ∈ schema.fields, ∃ first,
    streamSchema registered schema.streamId = some first ∧
      field.fieldId ∈ first.fields.map TelemetryField.fieldId

/-- The last entry of a state with an id. -/
def lastPropulsor (state : AircraftState) (propulsorId : String) : Option PropulsorState :=
  state.propulsors.reverse.find? fun propulsor => propulsor.propulsorId == propulsorId

/-- The last entry with an id has a value for the field. -/
def LastHas (state : AircraftState) (propulsorId : String) (field : PropulsorField) : Prop :=
  ∃ last, lastPropulsor state propulsorId = some last ∧ (propulsorValue last field).isSome

/-- **Nothing is hidden**: no field by the first schema of its stream, and no value of a propulsor
by later entries with its id in every state. -/
structure NothingHidden (s : AircraftTimeSeries) : Prop where
  fields : FieldsFound (schemas s)
  propulsors : ∀ sample ∈ s.states.entries, ∀ propulsor ∈ sample.item.propulsors, ∀ field,
    (propulsorValue propulsor field).isSome →
      ∃ other ∈ s.states.entries, LastHas other.item propulsor.propulsorId field

section Agreement

variable {euler : Quaternion → Option Vector3} {store : TimeSeriesStore} {id : AircraftId}
  {s : AircraftTimeSeries}

theorem telemetryField_isSome_iff {registered : List TelemetryStreamSchema}
    {streamId fieldId : String} :
    (telemetryField registered streamId fieldId).isSome ↔
      ∃ first, streamSchema registered streamId = some first ∧
        fieldId ∈ first.fields.map TelemetryField.fieldId := by
  have hfind : telemetryField registered streamId fieldId =
      (streamSchema registered streamId).bind fun schema =>
        (schema.fields.findIdx? fun field => field.fieldId == fieldId).map fun index =>
          (schema, index) := rfl
  rw [hfind]
  rcases streamSchema registered streamId with _ | schema
  · simp
  · simp [List.mem_map]

theorem extractValue_propulsor_isSome {state : AircraftState} {propulsorId : String}
    {field : PropulsorField} :
    (extractValue euler state (.propulsor propulsorId field)).isSome ↔
      LastHas state propulsorId field := by
  have hlast : extractValue euler state (.propulsor propulsorId field) =
      (lastPropulsor state propulsorId).bind fun propulsor => propulsorValue propulsor field := rfl
  unfold LastHas
  rw [hlast]
  rcases lastPropulsor state propulsorId with _ | last
  · simp
  · simp

/-- A single selection of an aircraft is accepted if its field is known. -/
theorem accepted_iff (hs : store.data.lookup id = some s) {selector : SeriesSelector} :
    (∃ response, queryGrouped euler store { selections := [⟨id, selector⟩] } =
      some (.ok response)) ↔
      selectorError selector = none ∧ unknownField (schemas s) selector = none := by
  have hgroup : groupError store [⟨id, selector⟩] id = unknownField (schemas s) selector := by
    unfold groupError
    rw [hs]
    dsimp only
    rw [List.findSome?_singleton, decide_eq_true rfl]
    rcases selector with path | ⟨propulsorId, field⟩ | ⟨streamId, fieldId⟩
    · rfl
    · rfl
    · rfl
  have hwindow : ValidWindow { selections := [⟨id, selector⟩] } :=
    ⟨show 100 ≤ 2000 ∧ 2000 ≤ 20000 by decide, rfl⟩
  have hcount : 1 ≤ [(⟨id, selector⟩ : SeriesSelection)].length ∧
      [(⟨id, selector⟩ : SeriesSelection)].length ≤ maxSelections :=
    ⟨le_refl 1, show 1 ≤ 64 by decide⟩
  have hquery := fun response => @query_eq_ok_iff euler store
    { selections := [⟨id, selector⟩] } response hcount
  simp only [queryGrouped_eq, Option.some.injEq]
  constructor
  · rintro ⟨response, h⟩
    have hfine := ((hquery response).mp h).1.2 _ (List.mem_singleton.mpr rfl)
    exact ⟨hfine.selector, hgroup ▸ hfine.group⟩
  · rintro ⟨hselector, hunknown⟩
    refine ⟨_, (hquery _).mpr ⟨⟨hwindow, fun selection hselection => ?_⟩, rfl⟩⟩
    obtain rfl := List.mem_singleton.mp hselection
    exact ⟨hselector, hgroup.trans hunknown⟩

/-- Every selector of a series has an item if the fields of its schemas are found. -/
theorem itemOf_isSome (h : FieldsFound (schemas s)) {selector : SeriesSelector}
    (hselector : selector ∈ seriesSelectors euler s) :
    (itemOf (schemas s) selector).isSome := by
  rcases selector with path | ⟨propulsorId, field⟩ | ⟨streamId, fieldId⟩
  · obtain ⟨sample, -, hvalue⟩ := standard_mem_seriesSelectors.mp hselector
    have hpath : path ∈ standardFieldRows.map Prod.fst :=
      standardFieldRows_map_fst ▸ mem_standardFields_of_isSome hvalue
    obtain ⟨row, hrow, rfl⟩ := List.mem_map.mp hpath
    show ((standardFieldRows.find? fun row' => row'.1 == row.1).map _).isSome
    rw [Option.isSome_map, List.find?_isSome]
    exact ⟨row, hrow, beq_self_eq_true _⟩
  · rfl
  · obtain ⟨schema, hschema, field, hfield, rfl, rfl⟩ :=
      telemetry_mem_seriesSelectors.mp hselector
    exact itemOf_telemetry_isSome.mpr
      (telemetryField_isSome_iff.mpr (h schema hschema field hfield))

/-- A selector of a series is accepted if the fields of its schemas are found. -/
theorem accepted_of_mem (h : FieldsFound (schemas s)) {selector : SeriesSelector}
    (hselector : selector ∈ seriesSelectors euler s) :
    selectorError selector = none ∧ unknownField (schemas s) selector = none := by
  rcases selector with path | ⟨propulsorId, field⟩ | ⟨streamId, fieldId⟩
  · obtain ⟨sample, -, hvalue⟩ := standard_mem_seriesSelectors.mp hselector
    exact ⟨if_pos (mem_standardFields_of_isSome hvalue), rfl⟩
  · exact ⟨rfl, rfl⟩
  · have hfound := itemOf_telemetry_isSome.mp (itemOf_isSome h hselector)
    refine ⟨rfl, ?_⟩
    unfold unknownField
    rcases htelemetry : telemetryField (schemas s) streamId fieldId with _ | found
    · rw [htelemetry] at hfound
      exact absurd hfound (by decide)
    · dsimp only
      rw [htelemetry]

/-- **When the catalog agrees with the queries.** -/
theorem catalogAgrees_iff (hs : store.data.lookup id = some s) :
    CatalogAgrees euler store id ↔ NothingHidden s := by
  have hseries := TimeSeriesStore.series_of_lookup hs
  constructor
  · rintro ⟨items, hitems, hagree⟩
    have hmap := (catalog_eq_ok_iff hs).mp hitems
    have hselectors := map_selector_eq hmap
    refine ⟨fun schema hschema field hfield => ?_,
      fun sample hsample propulsor hpropulsor field hvalue => ?_⟩
    · -- the selector of the field has an item
      have hmem : .telemetry schema.streamId field.fieldId ∈ seriesSelectors euler s :=
        telemetry_mem_seriesSelectors.mpr ⟨schema, hschema, field, hfield, rfl, rfl⟩
      have hitem : itemOf (schemas s) (.telemetry schema.streamId field.fieldId) ∈
          items.map some := hmap ▸ List.mem_map_of_mem hmem
      obtain ⟨item, -, hitem⟩ := List.mem_map.mp hitem
      refine telemetryField_isSome_iff.mp (itemOf_telemetry_isSome.mp ?_)
      rw [← hitem]
      rfl
    · have hlisted := (hagree.propulsor propulsor.propulsorId field).mp (by
        rw [hselectors]
        exact propulsor_mem_seriesSelectors.mpr
          ⟨sample, hsample, propulsor, hpropulsor, rfl, hvalue⟩)
      rw [hseries] at hlisted
      obtain ⟨other, hother, hyields⟩ := hlisted
      exact ⟨other, hother, extractValue_propulsor_isSome.mp hyields⟩
  · intro hhidden
    obtain ⟨items, hmap⟩ : ∃ items : List SeriesCatalogItem,
        (seriesSelectors euler s).map (itemOf (schemas s)) = items.map some := by
      refine ⟨(seriesSelectors euler s).filterMap (itemOf (schemas s)), ?_⟩
      rw [List.map_filterMap_some_eq_filter_map_isSome]
      refine (List.filter_eq_self.mpr fun item hitem => ?_).symm
      obtain ⟨selector, hselector, rfl⟩ := List.mem_map.mp hitem
      exact itemOf_isSome hhidden.fields hselector
    have hselectors := map_selector_eq hmap
    refine ⟨items, (catalog_eq_ok_iff hs).mpr hmap, ?_, ?_, ?_⟩
    · intro item hitem
      have hmem : item.selector ∈ seriesSelectors euler s :=
        hselectors ▸ List.mem_map_of_mem hitem
      exact (accepted_iff hs).mpr (accepted_of_mem hhidden.fields hmem)
    · intro path
      rw [hselectors, hseries]
      exact standard_mem_seriesSelectors
    · intro propulsorId field
      rw [hselectors, hseries, propulsor_mem_seriesSelectors]
      constructor
      · rintro ⟨sample, hsample, propulsor, hpropulsor, rfl, hvalue⟩
        obtain ⟨other, hother, hlast⟩ :=
          hhidden.propulsors sample hsample propulsor hpropulsor field hvalue
        exact ⟨other, hother, extractValue_propulsor_isSome.mpr hlast⟩
      · rintro ⟨sample, hsample, hyields⟩
        obtain ⟨last, hlast, hvalue⟩ := extractValue_propulsor_isSome.mp hyields
        have hmem : last ∈ sample.item.propulsors :=
          List.mem_reverse.mp (List.mem_of_find?_eq_some hlast)
        have hid : last.propulsorId = propulsorId := by simpa using List.find?_some hlast
        exact ⟨sample, hsample, last, hmem, hid, hvalue⟩

end Agreement

end FlyRuler.Management
