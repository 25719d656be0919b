import FlyRuler.Store.Order
import FlyRuler.Store.Query
import Mathlib.Algebra.Order.Group.Unbundled.Abs
import Mathlib.Data.List.GetD
import Mathlib.Data.Rat.Floor

/-!
# Series queries

`core/src/management/series.rs`: the sampled series of selected fields of aircraft.  A field of a
telemetry stream is found by its position in the schema that is registered now.  The Euler angles of
an attitude are a parameter, arithmetic on points is exact.

* `lttb_subset`: sampling only leaves points out.
* `mem_of_query`: what a query gives for a telemetry field, without the sampling.
-/

namespace FlyRuler.Management

open FlyRuler.Pb FlyRuler.Store FlyRuler.Lib.TimeOrder

def defaultMaxPoints : ℕ := 2000
def minMaxPoints : ℕ := 100
def maxMaxPoints : ℕ := 20000
def maxSelections : ℕ := 64

/-! ## Selectors -/

inductive PropulsorField where
  | throttleRatio
  | rpm
  | bladePitchRad
  | thrustNewton
  | torqueNewtonMeter
  deriving DecidableEq

def PropulsorField.key : PropulsorField → String
  | .throttleRatio => "throttle_ratio"
  | .rpm => "rpm"
  | .bladePitchRad => "blade_pitch_rad"
  | .thrustNewton => "thrust_newton"
  | .torqueNewtonMeter => "torque_newton_meter"

inductive SeriesSelector where
  | standard (path : String)
  | propulsor (propulsorId : String) (field : PropulsorField)
  | telemetry (streamId fieldId : String)
  deriving DecidableEq

def SeriesSelector.key : SeriesSelector → String
  | .standard path => "standard:" ++ path
  | .propulsor propulsorId field => "propulsor:" ++ propulsorId ++ ":" ++ field.key
  | .telemetry streamId fieldId => "telemetry:" ++ streamId ++ ":" ++ fieldId

structure SeriesSelection where
  aircraftId : AircraftId
  selector : SeriesSelector
  deriving DecidableEq

structure SeriesTimeRange where
  start : F64
  stop : F64
  deriving DecidableEq

structure SeriesQueryRequest where
  selections : List SeriesSelection
  timeRange : Option SeriesTimeRange := none
  maxPoints : Option ℕ := none
  deriving DecidableEq

/-- A timestamp and a value. -/
abbrev Point := Secs × ℚ

structure SeriesStats where
  min : ℚ
  max : ℚ
  last : ℚ
  start : Secs
  stop : Secs
  deriving DecidableEq

structure SeriesData where
  key : String
  aircraftId : AircraftId
  selector : SeriesSelector
  points : List Point
  totalPoints : ℕ
  returnedPoints : ℕ
  stats : Option SeriesStats
  deriving DecidableEq

inductive SeriesError where
  | aircraftNotFound (id : AircraftId)
  | invalidSelectionCount
  | invalidMaxPoints
  | invalidTimeRange
  | unknownStandardField (path : String)
  | unknownTelemetryField (streamId fieldId : String)
  deriving DecidableEq

/-! ## Values -/

section Values

variable (euler : Quaternion → Option Vector3)

/-- The paths of `standard_fields`. -/
def standardFields : List String :=
  ["position.x", "position.y", "position.z", "velocity.x", "velocity.y", "velocity.z",
    "attitude.w", "attitude.x", "attitude.y", "attitude.z", "attitude.roll", "attitude.pitch",
    "attitude.yaw", "angular_velocity.x", "angular_velocity.y", "angular_velocity.z",
    "derived.lat", "derived.lon", "derived.altitude", "derived.alpha", "derived.beta",
    "derived.tas", "derived.eas", "derived.gamma", "derived.chi", "derived.ias", "derived.cas",
    "derived.mach", "derived.ground_speed", "derived.vertical_speed", "derived.dynamic_pressure",
    "derived.normal_load_factor", "linear_acceleration_body.x", "linear_acceleration_body.y",
    "linear_acceleration_body.z", "control_surfaces.aileron_left_rad",
    "control_surfaces.aileron_right_rad", "control_surfaces.elevator_rad",
    "control_surfaces.rudder_rad", "control_surfaces.flaps_left_ratio",
    "control_surfaces.flaps_right_ratio", "control_surfaces.spoilers_ratio"]

def standardValue (state : AircraftState) (path : String) : Option F64 :=
  match path with
  | "position.x" => state.position.map Vector3.x
  | "position.y" => state.position.map Vector3.y
  | "position.z" => state.position.map Vector3.z
  | "velocity.x" => state.velocity.map Vector3.x
  | "velocity.y" => state.velocity.map Vector3.y
  | "velocity.z" => state.velocity.map Vector3.z
  | "attitude.w" => state.attitude.map Quaternion.w
  | "attitude.x" => state.attitude.map Quaternion.x
  | "attitude.y" => state.attitude.map Quaternion.y
  | "attitude.z" => state.attitude.map Quaternion.z
  | "attitude.roll" => (state.attitude.bind euler).map Vector3.x
  | "attitude.pitch" => (state.attitude.bind euler).map Vector3.y
  | "attitude.yaw" => (state.attitude.bind euler).map Vector3.z
  | "angular_velocity.x" => state.angularVelocity.map Vector3.x
  | "angular_velocity.y" => state.angularVelocity.map Vector3.y
  | "angular_velocity.z" => state.angularVelocity.map Vector3.z
  | "derived.lat" => state.derived.map DerivedState.lat
  | "derived.lon" => state.derived.map DerivedState.lon
  | "derived.altitude" => state.derived.map DerivedState.altitude
  | "derived.alpha" => state.derived.map DerivedState.alpha
  | "derived.beta" => state.derived.map DerivedState.beta
  | "derived.tas" => state.derived.map DerivedState.tas
  | "derived.eas" => state.derived.map DerivedState.eas
  | "derived.gamma" => state.derived.map DerivedState.gamma
  | "derived.chi" => state.derived.map DerivedState.chi
  | "derived.ias" => state.derived.bind DerivedState.ias
  | "derived.cas" => state.derived.bind DerivedState.cas
  | "derived.mach" => state.derived.bind DerivedState.mach
  | "derived.ground_speed" => state.derived.bind DerivedState.groundSpeed
  | "derived.vertical_speed" => state.derived.bind DerivedState.verticalSpeed
  | "derived.dynamic_pressure" => state.derived.bind DerivedState.dynamicPressure
  | "derived.normal_load_factor" => state.derived.bind DerivedState.normalLoadFactor
  | "linear_acceleration_body.x" => state.linearAccelerationBody.map Vector3.x
  | "linear_acceleration_body.y" => state.linearAccelerationBody.map Vector3.y
  | "linear_acceleration_body.z" => state.linearAccelerationBody.map Vector3.z
  | "control_surfaces.aileron_left_rad" =>
    state.controlSurfaces.bind ControlSurfaceState.aileronLeftRad
  | "control_surfaces.aileron_right_rad" =>
    state.controlSurfaces.bind ControlSurfaceState.aileronRightRad
  | "control_surfaces.elevator_rad" => state.controlSurfaces.bind ControlSurfaceState.elevatorRad
  | "control_surfaces.rudder_rad" => state.controlSurfaces.bind ControlSurfaceState.rudderRad
  | "control_surfaces.flaps_left_ratio" =>
    state.controlSurfaces.bind ControlSurfaceState.flapsLeftRatio
  | "control_surfaces.flaps_right_ratio" =>
    state.controlSurfaces.bind ControlSurfaceState.flapsRightRatio
  | "control_surfaces.spoilers_ratio" =>
    state.controlSurfaces.bind ControlSurfaceState.spoilersRatio
  | _ => none

def propulsorValue (propulsor : PropulsorState) : PropulsorField → Option F64
  | .throttleRatio => propulsor.throttleRatio
  | .rpm => propulsor.rpm
  | .bladePitchRad => propulsor.bladePitchRad
  | .thrustNewton => propulsor.thrustNewton
  | .torqueNewtonMeter => propulsor.torqueNewtonMeter

def extractValue (state : AircraftState) : SeriesSelector → Option F64
  | .standard path => standardValue euler state path
  | .propulsor propulsorId field =>
    (state.propulsors.reverse.find? fun propulsor => propulsor.propulsorId == propulsorId).bind
      fun propulsor => propulsorValue propulsor field
  | .telemetry _ _ => none

/-- `as f64` of an `i64`: 53 significant bits, a tie to the even number. -/
def i64ToF64 (v : ℤ) : ℚ :=
  let m := v.natAbs
  if m < 0x20000000000000 then v
  else
    let unit := 2 ^ (Nat.log2 m - 52)
    let up := unit < 2 * (m % unit) ∨ unit = 2 * (m % unit) ∧ m / unit % 2 = 1
    let rounded := (m / unit + if up then 1 else 0) * unit
    if v < 0 then -(rounded : ℚ) else rounded

def telemetryNumeric (value : TelemetryValue) : Option F64 :=
  value.kind.map fun kind =>
    match kind with
    | .f64Value v => v
    | .i64Value v => .finite (i64ToF64 v)
    | .boolValue v => .finite (if v then 1 else 0)

/-- The schema of the stream and the position of the field in it. -/
def telemetryField (schemas : List TelemetryStreamSchema) (streamId fieldId : String) :
    Option (TelemetryStreamSchema × ℕ) :=
  (schemas.find? fun schema => schema.streamId == streamId).bind fun schema =>
    (schema.fields.findIdx? fun field => field.fieldId == fieldId).map fun index => (schema, index)

end Values

/-! ## Sampling -/

/-- The minimum and the maximum, the last value and the ends of the points. -/
def stats (points : List Point) : Option SeriesStats :=
  match points, points.getLast? with
  | first :: rest, some last =>
    some { min := rest.foldl (fun a point => Min.min a point.2) first.2
           max := rest.foldl (fun a point => Max.max a point.2) first.2
           last := last.2, start := first.1, stop := last.1 }
  | _, _ => none

section Lttb

variable (points : List Point)

/-- The average point of the bucket after `bucket`. -/
def lttbAverage (every : ℚ) (bucket : ℕ) : Point :=
  let start := min (⌊((bucket : ℚ) + 1) * every⌋₊ + 1) points.length
  let stop := min (⌊((bucket : ℚ) + 2) * every⌋₊ + 1) points.length
  let slice := (points.take stop).drop start
  if slice = [] then points.getD (min (start - 1) (points.length - 1)) 0
  else ((slice.map Prod.fst).sum / slice.length, (slice.map Prod.snd).sum / slice.length)

/-- Twice the area of the triangle of the three points. -/
def lttbArea (anchor average point : Point) : ℚ :=
  |(anchor.1 - average.1) * (point.2 - anchor.2) - (anchor.1 - point.1) * (average.2 - anchor.2)|

/-- The index chosen in a bucket, after `selected` in the bucket before it. -/
def lttbNext (every : ℚ) (bucket selected : ℕ) : ℕ :=
  let start := ⌊(bucket : ℚ) * every⌋₊ + 1
  let stop := min (⌊((bucket : ℚ) + 1) * every⌋₊ + 1) (points.length - 1)
  let average := lttbAverage points every bucket
  let anchor := points.getD selected 0
  ((List.range' start (max stop (start + 1) - start)).foldl (fun best index =>
    let candidate := min index (points.length - 2)
    let area := lttbArea anchor average (points.getD candidate 0)
    if best.2 < area then (candidate, area) else best) (start, (-1 : ℚ))).1

/-- Largest-triangle-three-buckets: at most `threshold` of the points. -/
def lttb (threshold : ℕ) : List Point :=
  if points.length ≤ threshold ∨ threshold < 3 then points
  else
    let every := ((points.length : ℚ) - 2) / ((threshold : ℚ) - 2)
    let sampled := (List.range (threshold - 2)).foldl (fun acc bucket =>
      let next := lttbNext points every bucket acc.2
      (acc.1 ++ [points.getD next 0], next)) ([points.getD 0 0], 0)
    sampled.1 ++ [points.getD (points.length - 1) 0]

variable {points}

/-- A bucket always chooses a point: the first area is already larger than the initial one. -/
theorem lttbNext_lt (hlen : 2 < points.length) (every : ℚ) (bucket selected : ℕ) :
    lttbNext points every bucket selected < points.length := by
  unfold lttbNext
  dsimp only
  generalize ⌊(bucket : ℚ) * every⌋₊ + 1 = start
  generalize min (⌊((bucket : ℚ) + 1) * every⌋₊ + 1) (points.length - 1) = stop
  obtain ⟨count, hcount⟩ : ∃ count, max stop (start + 1) - start = count + 1 :=
    ⟨max stop (start + 1) - start - 1, by omega⟩
  rw [hcount, List.range'_succ, List.foldl_cons]
  have hfirst : ∀ anchor average point, (-1 : ℚ) < lttbArea anchor average point :=
    fun _ _ _ => lt_of_lt_of_le (by decide +kernel) (abs_nonneg _)
  rw [if_pos (show (start, (-1 : ℚ)).2 < lttbArea _ _ _ from hfirst _ _ _)]
  have hcandidate : ∀ index, min index (points.length - 2) < points.length := by
    intro index
    omega
  generalize hbest : (min start (points.length - 2), _) = best
  have hlt : best.1 < points.length := by
    rw [← hbest]
    exact hcandidate start
  clear hbest
  generalize List.range' (start + 1) count = indices
  induction indices generalizing best with
  | nil => exact hlt
  | cons index indices ih =>
    rw [List.foldl_cons]
    refine ih _ ?_
    split_ifs
    · exact hcandidate index
    · exact hlt

/-- **Sampling only leaves points out.** -/
theorem lttb_subset (threshold : ℕ) : lttb points threshold ⊆ points := by
  unfold lttb
  split_ifs with hshort
  · exact fun _ h => h
  have hlen : 2 < points.length := by omega
  have hmem : ∀ i, i < points.length → points.getD i 0 ∈ points := by
    intro i hi
    rw [List.getD_eq_getElem _ _ hi]
    exact List.getElem_mem hi
  dsimp only
  generalize ((points.length : ℚ) - 2) / ((threshold : ℚ) - 2) = every
  have hfold : ∀ (buckets : List ℕ) (acc : List Point × ℕ), acc.1 ⊆ points →
      (buckets.foldl (fun acc bucket =>
        (acc.1 ++ [points.getD (lttbNext points every bucket acc.2) 0],
          lttbNext points every bucket acc.2)) acc).1 ⊆ points := by
    intro buckets
    induction buckets with
    | nil => exact fun acc hacc => hacc
    | cons bucket buckets ih =>
      intro acc hacc
      refine ih _ (List.append_subset.mpr ⟨hacc, ?_⟩)
      exact List.cons_subset.mpr ⟨hmem _ (lttbNext_lt hlen _ _ _), List.nil_subset _⟩
  refine List.append_subset.mpr ⟨hfold _ _ ?_, ?_⟩
  · exact List.cons_subset.mpr ⟨hmem 0 (by omega), List.nil_subset _⟩
  · exact List.cons_subset.mpr ⟨hmem _ (by omega), List.nil_subset _⟩

end Lttb

/-! ## Queries -/

section Query

variable (euler : Quaternion → Option Vector3) (store : TimeSeriesStore)

/-- The entries of a series within an inclusive time range. -/
def inRange {α : Type} (entries : List (Stamped Secs α)) (start stop : F64) :
    List (Stamped Secs α) :=
  entries.filter fun e => F64.le start (.finite e.stamp) && F64.le (.finite e.stamp) stop

/-- The point of a finite value. -/
def finitePoint (t : Secs) (value : Option F64) : Option Point :=
  (value.bind F64.toFinite).map fun v => (t, v)

def statePoints (s : AircraftTimeSeries) (start stop : F64) (selector : SeriesSelector) :
    List Point :=
  (inRange s.states.entries start stop).filterMap fun sample =>
    finitePoint sample.stamp (extractValue euler sample.item selector)

def telemetryPoints (s : AircraftTimeSeries) (start stop : F64) : SeriesSelector → List Point
  | .telemetry streamId fieldId =>
    match telemetryField (TimeSeriesStore.schemas s) streamId fieldId with
    | none => []
    | some (schema, index) =>
      (inRange s.telemetry.entries start stop).filterMap fun sample =>
        if sample.item.streamId ≠ schema.streamId then none
        else finitePoint sample.stamp ((sample.item.values[index]?).bind telemetryNumeric)
  | _ => []

/-- The result for one selection. -/
def seriesData (start stop : F64) (maxPoints : ℕ) (selection : SeriesSelection) : SeriesData :=
  let s := store.series selection.aircraftId
  let full := statePoints euler s start stop selection.selector ++
    telemetryPoints s start stop selection.selector
  let sampled := lttb full maxPoints
  { key := selection.aircraftId ++ "::" ++ selection.selector.key
    aircraftId := selection.aircraftId
    selector := selection.selector
    points := sampled
    totalPoints := full.length
    returnedPoints := sampled.length
    stats := stats full }

/-- A standard field must be a known path. -/
def selectorError : SeriesSelector → Option SeriesError
  | .standard path =>
    if path ∈ standardFields then none else some (.unknownStandardField path)
  | _ => none

/-- What is wrong with the selections of one aircraft. -/
def groupError (selections : List SeriesSelection) (id : AircraftId) : Option SeriesError :=
  match store.data.lookup id with
  | none => some (.aircraftNotFound id)
  | some s =>
    selections.findSome? fun selection =>
      match decide (selection.aircraftId = id), selection.selector with
      | true, .telemetry streamId fieldId =>
        match telemetryField (TimeSeriesStore.schemas s) streamId fieldId with
        | none => some (.unknownTelemetryField streamId fieldId)
        | some _ => none
      | _, _ => none

/-- `query`; the aircraft are looked at in the order of their ids. -/
def query (request : SeriesQueryRequest) : Except SeriesError (List SeriesData) :=
  let maxPoints := request.maxPoints.getD defaultMaxPoints
  let range := (request.timeRange.map fun range => (range.start, range.stop)).getD
    (.negInf, .posInf)
  let ids := (request.selections.map SeriesSelection.aircraftId).dedup.insertionSort (· ≤ ·)
  if request.selections = [] ∨ maxSelections < request.selections.length then
    .error .invalidSelectionCount
  else if ¬(minMaxPoints ≤ maxPoints ∧ maxPoints ≤ maxMaxPoints) then .error .invalidMaxPoints
  else if F64.le range.1 range.2 = false then .error .invalidTimeRange
  else
    match request.selections.findSome? fun selection => selectorError selection.selector with
    | some e => .error e
    | none =>
      match ids.findSome? (groupError store request.selections) with
      | some e => .error e
      | none => .ok (request.selections.map (seriesData euler store range.1 range.2 maxPoints))

variable {euler store}

theorem finitePoint_eq_some {t : Secs} {value : Option F64} {p : Point}
    (h : finitePoint t value = some p) : t = p.1 ∧ value = some (.finite p.2) := by
  unfold finitePoint at h
  obtain ⟨v, hv, rfl⟩ := Option.map_eq_some_iff.mp h
  obtain ⟨x, rfl, hx⟩ := Option.bind_eq_some_iff.mp hv
  exact ⟨rfl, congrArg some (TimeSeriesStore.eq_finite_of_toFinite hx)⟩

theorem streamId_of_telemetryField {schemas : List TelemetryStreamSchema}
    {streamId fieldId : String} {schema : TelemetryStreamSchema} {index : ℕ}
    (h : telemetryField schemas streamId fieldId = some (schema, index)) :
    schema.streamId = streamId := by
  obtain ⟨found, hfound, hindex⟩ := Option.bind_eq_some_iff.mp h
  obtain ⟨_, -, hpair⟩ := Option.map_eq_some_iff.mp hindex
  obtain rfl : found = schema := congrArg Prod.fst hpair
  simpa using List.find?_some hfound

/-- **Every point given for a telemetry field** comes from a stored frame of the stream, at the
position of the field in the schema registered now. -/
theorem mem_of_query {request : SeriesQueryRequest} {response : List SeriesData}
    (h : query euler store request = .ok response) {data : SeriesData} (hdata : data ∈ response)
    {streamId fieldId : String} (hselector : data.selector = .telemetry streamId fieldId)
    {p : Point} (hp : p ∈ data.points) :
    ∃ schema index,
      telemetryField (TimeSeriesStore.schemas (store.series data.aircraftId)) streamId fieldId =
        some (schema, index) ∧
      ∃ sample ∈ (store.series data.aircraftId).telemetry.entries, sample.stamp = p.1 ∧
        sample.item.streamId = streamId ∧
        (sample.item.values[index]?).bind telemetryNumeric = some (.finite p.2) := by
  unfold query at h
  dsimp only at h
  split_ifs at h
  split at h
  · exact nomatch h
  split at h
  · exact nomatch h
  cases h
  obtain ⟨selection, -, rfl⟩ := List.mem_map.mp hdata
  have hselection : selection.selector = .telemetry streamId fieldId := hselector
  have hfull := lttb_subset _ hp
  rw [hselection] at hfull
  show ∃ schema index,
    telemetryField (TimeSeriesStore.schemas (store.series selection.aircraftId)) streamId fieldId =
      some (schema, index) ∧
    ∃ sample ∈ (store.series selection.aircraftId).telemetry.entries, sample.stamp = p.1 ∧
      sample.item.streamId = streamId ∧
      (sample.item.values[index]?).bind telemetryNumeric = some (.finite p.2)
  rcases List.mem_append.mp hfull with hstate | htelemetry
  · -- a state has no telemetry
    obtain ⟨sample, -, hpoint⟩ := List.mem_filterMap.mp hstate
    exact nomatch hpoint
  · unfold telemetryPoints at htelemetry
    dsimp only at htelemetry
    split at htelemetry
    · exact absurd htelemetry List.not_mem_nil
    · next schema index hfield =>
      refine ⟨schema, index, hfield, ?_⟩
      obtain ⟨sample, hsample, hpoint⟩ := List.mem_filterMap.mp htelemetry
      split_ifs at hpoint with hstream
      obtain ⟨hstamp, hvalue⟩ := finitePoint_eq_some hpoint
      have hschema := streamId_of_telemetryField hfield
      exact ⟨sample, List.mem_of_mem_filter hsample, hstamp, (not_not.mp hstream).trans hschema,
        hvalue⟩

end Query

end FlyRuler.Management
