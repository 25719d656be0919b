import FlyRuler.Msfs.Smoothing
import Mathlib.Data.Rat.Floor

/-!
# The frames of the MSFS bridge

`frame_from_state` of `bindings/msfs/src/lib.rs` checks a state and turns it into what is written to
the simulator: the pose, and of the control surfaces, the body velocity and the propulsors what is
valid.  An optional value that is not valid is left out, and `optional_field_warnings` says so.
Arithmetic is exact; the Euler angles of an attitude and the number `TAU` are parameters.

* `ratios_eq_getLast`: a throttle slot holds the last valid value that is given for it.
* `valid_of_frameFromState`: what is written is in range.
* `carries_of_no_warnings`: without a warning everything given is written, but for the rates, which
  are zero without a warning if one of them is not finite.
* `frame_law`: the three together.
-/

namespace FlyRuler.Msfs

open FlyRuler.Pb FlyRuler.Godot

structure MsfsPose where
  latitudeDeg : ℚ
  longitudeDeg : ℚ
  altitudeM : ℚ
  pitchRad : ℚ
  bankRad : ℚ
  headingTrueRad : ℚ
  deriving DecidableEq

structure ControlSurfaces where
  aileronLeftRad : Option ℚ := none
  aileronRightRad : Option ℚ := none
  elevatorRad : Option ℚ := none
  rudderRad : Option ℚ := none
  flapsLeftRatio : Option ℚ := none
  flapsRightRatio : Option ℚ := none
  spoilersRatio : Option ℚ := none
  deriving DecidableEq

structure MsfsAirData where
  velocityBodyXMps : ℚ
  velocityBodyYMps : ℚ
  velocityBodyZMps : ℚ
  rotationBodyXRadps : ℚ
  rotationBodyYRadps : ℚ
  rotationBodyZRadps : ℚ
  deriving DecidableEq

/-- The throttles of the engines 1 to 4, in the slots 0 to 3. -/
structure PropulsorThrottles where
  ratios : Fin 4 → Option ℚ := fun _ => none

structure MsfsFrame where
  pose : MsfsPose
  controls : ControlSurfaces := {}
  airdata : Option MsfsAirData := none
  propulsors : PropulsorThrottles := {}

inductive Surface where
  | aileronLeft
  | aileronRight
  | elevator
  | rudder
  | flapsLeft
  | flapsRight
  | spoilers
  deriving DecidableEq

/-! ## From a state to a frame -/

def validFinite (value : Option F64) : Option ℚ := value.bind F64.toFinite

def validRatio (value : Option F64) : Option ℚ :=
  (validFinite value).filter fun ratio => decide (0 ≤ ratio ∧ ratio ≤ 1)

def controlsFromState (state : AircraftState) : ControlSurfaces :=
  match state.controlSurfaces with
  | none => {}
  | some standard =>
    { aileronLeftRad := validFinite standard.aileronLeftRad
      aileronRightRad := validFinite standard.aileronRightRad
      elevatorRad := validFinite standard.elevatorRad
      rudderRad := validFinite standard.rudderRad
      flapsLeftRatio := validRatio standard.flapsLeftRatio
      flapsRightRatio := validRatio standard.flapsRightRatio
      spoilersRatio := validRatio standard.spoilersRatio }

/-- The rates `p`, `q` and `r`: zero unless all of them are given and finite. -/
def ratesFromState (state : AircraftState) : ℚ × ℚ × ℚ :=
  (state.angularVelocity.bind finiteVector).getD (0, 0, 0)

/-- Body-FRD to the body axes of the simulator: right, up and forward. -/
def airdataFromState (state : AircraftState) : Option MsfsAirData :=
  (state.velocity.bind finiteVector).map fun (x, y, z) =>
    let (p, q, r) := ratesFromState state
    { velocityBodyXMps := y
      velocityBodyYMps := -z
      velocityBodyZMps := x
      rotationBodyXRadps := q
      rotationBodyYRadps := -r
      rotationBodyZRadps := p }

/-- The slot of an engine index from 1 to 4. -/
def slotOf (index : ℕ) : Option (Fin 4) :=
  if h : 1 ≤ index ∧ index ≤ 4 then some ⟨index - 1, by omega⟩ else none

/-- One propulsor in the loop of `propulsors_from_state`. -/
def writeThrottle (out : PropulsorThrottles) (propulsor : PropulsorState) : PropulsorThrottles :=
  match propulsor.index.bind slotOf, validRatio propulsor.throttleRatio with
  | some slot, some value =>
    { ratios := fun other => if other = slot then some value else out.ratios other }
  | _, _ => out

def propulsorsFromState (state : AircraftState) : PropulsorThrottles :=
  state.propulsors.foldl writeThrottle {}

/-- `rem_euclid`. -/
def remEuclid (value modulus : ℚ) : ℚ := value - modulus * ⌊value / modulus⌋

section
variable (euler : Quaternion → ℚ × ℚ × ℚ) (tau : ℚ)

def frameFromState (state : AircraftState) : Except FrameError MsfsFrame :=
  match state.derived, state.attitude with
  | none, _ => .error .missingDerived
  | some _, none => .error .missingAttitude
  | some derived, some attitude =>
    match derived.lat.toFinite, derived.lon.toFinite, derived.altitude.toFinite with
    | none, _, _ => .error (.nonFinite "latitude")
    | some _, none, _ => .error (.nonFinite "longitude")
    | some _, some _, none => .error (.nonFinite "altitude")
    | some lat, some lon, some altitude =>
      if ¬(-90 ≤ lat ∧ lat ≤ 90) then .error .latitudeRange
      else if ¬(-180 ≤ lon ∧ lon ≤ 180) then .error .longitudeRange
      else if !isAttitude attitude then .error .invalidAttitude
      else
        let (roll, pitch, yaw) := euler attitude
        .ok
          { pose :=
              { latitudeDeg := lat
                longitudeDeg := lon
                altitudeM := altitude
                pitchRad := -pitch
                bankRad := -roll
                headingTrueRad := remEuclid yaw tau }
            controls := controlsFromState state
            airdata := airdataFromState state
            propulsors := propulsorsFromState state }

end

/-- The control surfaces of a frame that have a value, in the order they are written. -/
def controlValues (controls : ControlSurfaces) : List (Surface × ℚ) :=
  [(Surface.aileronLeft, controls.aileronLeftRad),
    (.aileronRight, controls.aileronRightRad),
    (.elevator, controls.elevatorRad),
    (.rudder, controls.rudderRad),
    (.flapsLeft, controls.flapsLeftRatio),
    (.flapsRight, controls.flapsRightRatio),
    (.spoilers, controls.spoilersRatio)].filterMap fun (surface, value) =>
      value.map fun value => (surface, value)

/-! ## Warnings -/

def invalidAngle (value : Option F64) : Bool := value.any fun value => value.toFinite.isNone

def invalidRatio (value : Option F64) : Bool :=
  value.any fun value => !value.toFinite.any fun ratio => decide (0 ≤ ratio ∧ ratio ≤ 1)

def velocityWarnings (state : AircraftState) : List String :=
  if state.velocity.isSome && (airdataFromState state).isNone then
    ["invalid body velocity or angular velocity; airdata was not written"]
  else []

def controlWarnings (controls : ControlSurfaceState) : List String :=
  ([(controls.aileronLeftRad, "invalid left aileron angle"),
    (controls.aileronRightRad, "invalid right aileron angle"),
    (controls.elevatorRad, "invalid elevator angle"),
    (controls.rudderRad, "invalid rudder angle")].filter fun entry => invalidAngle entry.1).map
      Prod.snd ++
  ([(controls.flapsLeftRatio, "invalid left flap ratio"),
    (controls.flapsRightRatio, "invalid right flap ratio"),
    (controls.spoilersRatio, "invalid spoiler ratio")].filter fun entry => invalidRatio entry.1).map
      Prod.snd

/-- The loop over the propulsors, with the slots seen so far. -/
def propulsorWarnings : (Fin 4 → Bool) → List PropulsorState → List String
  | _, [] => []
  | seen, propulsor :: rest =>
    match propulsor.index with
    | none =>
      (if propulsor.throttleRatio.isSome then ["propulsor throttle has no simulator index"]
        else []) ++ propulsorWarnings seen rest
    | some index =>
      match slotOf index with
      | none => "invalid propulsor index; expected 1 through 4" :: propulsorWarnings seen rest
      | some slot =>
        (if seen slot then ["duplicate propulsor index; last value wins"] else []) ++
          (if invalidRatio propulsor.throttleRatio then ["invalid propulsor throttle ratio"]
            else []) ++ propulsorWarnings (fun other => other = slot || seen other) rest

def optionalFieldWarnings (state : AircraftState) : List String :=
  velocityWarnings state ++ (state.controlSurfaces.map controlWarnings).getD [] ++
    propulsorWarnings (fun _ => false) state.propulsors

/-! ## The throttles -/

/-- The value a propulsor gives for a slot, if it is valid. -/
def throttleFor (slot : Fin 4) (propulsor : PropulsorState) : Option ℚ :=
  if propulsor.index.bind slotOf = some slot then validRatio propulsor.throttleRatio else none

theorem writeThrottle_ratios (out : PropulsorThrottles) (propulsor : PropulsorState)
    (slot : Fin 4) :
    (writeThrottle out propulsor).ratios slot =
      (throttleFor slot propulsor).orElse fun _ => out.ratios slot := by
  unfold writeThrottle throttleFor
  rcases hslot : propulsor.index.bind slotOf with _ | written
  · simp
  · rcases hratio : validRatio propulsor.throttleRatio with _ | value
    · simp
    · by_cases hsame : written = slot
      · subst hsame
        simp
      · simp [Ne.symm hsame, hsame]

theorem foldl_writeThrottle_ratios (propulsors : List PropulsorState) (out : PropulsorThrottles)
    (slot : Fin 4) :
    (propulsors.foldl writeThrottle out).ratios slot =
      ((propulsors.filterMap (throttleFor slot)).getLast?).orElse fun _ => out.ratios slot := by
  induction propulsors generalizing out with
  | nil => rfl
  | cons propulsor rest ih =>
    rw [List.foldl_cons, ih, writeThrottle_ratios, List.filterMap_cons]
    rcases throttleFor slot propulsor with _ | value
    · rfl
    · rw [List.getLast?_cons]
      rcases (rest.filterMap (throttleFor slot)).getLast? with _ | last <;> rfl

/-- **A slot holds the last valid throttle** that is given for it. -/
theorem ratios_eq_getLast (state : AircraftState) (slot : Fin 4) :
    (propulsorsFromState state).ratios slot =
      (state.propulsors.filterMap (throttleFor slot)).getLast? := by
  rw [propulsorsFromState, foldl_writeThrottle_ratios]
  rcases (state.propulsors.filterMap (throttleFor slot)).getLast? with _ | last <;> rfl

/-! ## What is written is in range -/

def Surface.isRatio : Surface → Bool
  | .flapsLeft | .flapsRight | .spoilers => true
  | _ => false

structure MsfsFrame.Valid (tau : ℚ) (frame : MsfsFrame) : Prop where
  latitude : -90 ≤ frame.pose.latitudeDeg ∧ frame.pose.latitudeDeg ≤ 90
  longitude : -180 ≤ frame.pose.longitudeDeg ∧ frame.pose.longitudeDeg ≤ 180
  heading : 0 ≤ frame.pose.headingTrueRad ∧ frame.pose.headingTrueRad < tau
  controls : ∀ entry ∈ controlValues frame.controls, entry.1.isRatio = true →
    0 ≤ entry.2 ∧ entry.2 ≤ 1
  throttles : ∀ slot value, frame.propulsors.ratios slot = some value → 0 ≤ value ∧ value ≤ 1

theorem toFinite_eq_some {value : F64} {q : ℚ} (h : value.toFinite = some q) :
    value = .finite q := by
  rcases value with q' | _ | _ | _
  · exact congrArg F64.finite (Option.some.inj h)
  all_goals exact nomatch h

theorem validFinite_eq_some {value : Option F64} {q : ℚ} (h : validFinite value = some q) :
    value = some (.finite q) := by
  obtain ⟨f, rfl, hf⟩ := Option.bind_eq_some_iff.mp h
  rw [toFinite_eq_some hf]

theorem validRatio_eq_some {value : Option F64} {ratio : ℚ} (h : validRatio value = some ratio) :
    value = some (.finite ratio) ∧ 0 ≤ ratio ∧ ratio ≤ 1 := by
  obtain ⟨hfinite, hrange⟩ := Option.filter_eq_some_iff.mp h
  exact ⟨validFinite_eq_some hfinite, of_decide_eq_true hrange⟩

theorem remEuclid_range {modulus : ℚ} (hmodulus : 0 < modulus) (value : ℚ) :
    0 ≤ remEuclid value modulus ∧ remEuclid value modulus < modulus := by
  have hlow := Int.floor_le (value / modulus)
  have hhigh := Int.lt_floor_add_one (value / modulus)
  rw [le_div_iff₀ hmodulus] at hlow
  rw [div_lt_iff₀ hmodulus] at hhigh
  unfold remEuclid
  constructor <;> linarith

theorem mem_controlValues {controls : ControlSurfaces} {surface : Surface} {value : ℚ}
    (h : (surface, value) ∈ controlValues controls) (hratio : surface.isRatio = true) :
    controls.flapsLeftRatio = some value ∨ controls.flapsRightRatio = some value ∨
      controls.spoilersRatio = some value := by
  obtain ⟨⟨surface', value'⟩, hmem, hmap⟩ := List.mem_filterMap.mp h
  obtain ⟨value'', hvalue, heq⟩ := Option.map_eq_some_iff.mp hmap
  obtain ⟨rfl, rfl⟩ := Prod.mk.inj heq
  simp only [List.mem_cons, List.not_mem_nil, or_false, Prod.mk.injEq] at hmem
  rcases hmem with ⟨rfl, rfl⟩ | ⟨rfl, rfl⟩ | ⟨rfl, rfl⟩ | ⟨rfl, rfl⟩ | ⟨rfl, rfl⟩ | ⟨rfl, rfl⟩ |
    ⟨rfl, rfl⟩
  · exact nomatch hratio
  · exact nomatch hratio
  · exact nomatch hratio
  · exact nomatch hratio
  · exact .inl hvalue
  · exact .inr (.inl hvalue)
  · exact .inr (.inr hvalue)

section
variable {euler : Quaternion → ℚ × ℚ × ℚ} {tau : ℚ} {state : AircraftState} {frame : MsfsFrame}

/-- What a frame is made of, once the state has passed the checks. -/
theorem frameFromState_ok (h : frameFromState euler tau state = .ok frame) :
    ∃ derived attitude lat lon altitude, state.derived = some derived ∧
      state.attitude = some attitude ∧ derived.lat = .finite lat ∧ derived.lon = .finite lon ∧
      derived.altitude = .finite altitude ∧ (-90 ≤ lat ∧ lat ≤ 90) ∧ (-180 ≤ lon ∧ lon ≤ 180) ∧
      isAttitude attitude = true ∧ frame =
        { pose :=
            { latitudeDeg := lat
              longitudeDeg := lon
              altitudeM := altitude
              pitchRad := -(euler attitude).2.1
              bankRad := -(euler attitude).1
              headingTrueRad := remEuclid (euler attitude).2.2 tau }
          controls := controlsFromState state
          airdata := airdataFromState state
          propulsors := propulsorsFromState state } := by
  unfold frameFromState at h
  split at h
  · exact nomatch h
  · exact nomatch h
  · next derived attitude hderived hattitude =>
    split at h
    · exact nomatch h
    · exact nomatch h
    · exact nomatch h
    · next lat lon altitude hlat hlon haltitude =>
      split_ifs at h with hlatRange hlonRange hvalid
      refine ⟨derived, attitude, lat, lon, altitude, hderived, hattitude, toFinite_eq_some hlat,
        toFinite_eq_some hlon, toFinite_eq_some haltitude, hlatRange, hlonRange,
        by simpa using hvalid, ?_⟩
      exact (Except.ok.inj h).symm

theorem controlsFromState_ratio {value : ℚ}
    (h : (controlsFromState state).flapsLeftRatio = some value ∨
      (controlsFromState state).flapsRightRatio = some value ∨
        (controlsFromState state).spoilersRatio = some value) : 0 ≤ value ∧ value ≤ 1 := by
  unfold controlsFromState at h
  split at h
  · rcases h with h | h | h <;> exact nomatch h
  · rcases h with h | h | h <;> exact (validRatio_eq_some h).2

/-- **What is written to the simulator is in range.** -/
theorem valid_of_frameFromState (htau : 0 < tau) (h : frameFromState euler tau state = .ok frame) :
    frame.Valid tau := by
  obtain ⟨derived, attitude, lat, lon, altitude, -, -, -, -, -, hlat, hlon, -, rfl⟩ :=
    frameFromState_ok h
  refine ⟨hlat, hlon, remEuclid_range htau _, ?_, ?_⟩
  · rintro ⟨surface, value⟩ hmem hratio
    exact controlsFromState_ratio (mem_controlValues hmem hratio)
  · intro slot value hvalue
    dsimp only at hvalue
    rw [ratios_eq_getLast] at hvalue
    obtain ⟨propulsor, -, hthrottle⟩ := List.mem_filterMap.mp (List.mem_of_getLast? hvalue)
    unfold throttleFor at hthrottle
    split_ifs at hthrottle
    exact (validRatio_eq_some hthrottle).2

end

/-! ## Nothing is lost without a warning -/

/-- The control surfaces a frame was made from, if all of them were valid. -/
def ControlSurfaces.given (controls : ControlSurfaces) : ControlSurfaceState where
  aileronLeftRad := controls.aileronLeftRad.map .finite
  aileronRightRad := controls.aileronRightRad.map .finite
  elevatorRad := controls.elevatorRad.map .finite
  rudderRad := controls.rudderRad.map .finite
  flapsLeftRatio := controls.flapsLeftRatio.map .finite
  flapsRightRatio := controls.flapsRightRatio.map .finite
  spoilersRatio := controls.spoilersRatio.map .finite

def MsfsAirData.velocity (airdata : MsfsAirData) : Vector3 :=
  ⟨.finite airdata.velocityBodyZMps, .finite airdata.velocityBodyXMps,
    .finite (-airdata.velocityBodyYMps)⟩

def MsfsAirData.angularVelocity (airdata : MsfsAirData) : Vector3 :=
  ⟨.finite airdata.rotationBodyZRadps, .finite airdata.rotationBodyXRadps,
    .finite (-airdata.rotationBodyYRadps)⟩

/-- A frame carries a state: every optional value that is given is written, but for the rates, which
are zero if one of them is not finite. -/
structure Carries (state : AircraftState) (frame : MsfsFrame) : Prop where
  controls : ∀ controls, state.controlSurfaces = some controls → frame.controls.given = controls
  velocity : frame.airdata.map MsfsAirData.velocity = state.velocity
  rates : ∀ airdata, frame.airdata = some airdata →
    if state.angularVelocity.any fun omega => (finiteVector omega).isSome then
      state.angularVelocity = some airdata.angularVelocity
    else airdata.angularVelocity = ⟨.finite 0, .finite 0, .finite 0⟩
  throttles : ∀ propulsor ∈ state.propulsors, ∀ given, propulsor.throttleRatio = some given →
    ∃ slot : Fin 4, ∃ ratio, propulsor.index = some (slot.val + 1) ∧ given = .finite ratio ∧
      frame.propulsors.ratios slot = some ratio

theorem map_validFinite {value : Option F64} (h : invalidAngle value = false) :
    (validFinite value).map .finite = value := by
  rcases value with _ | value
  · rfl
  · rcases value with q | _ | _ | _
    · rfl
    all_goals cases h

theorem map_validRatio {value : Option F64} (h : invalidRatio value = false) :
    (validRatio value).map .finite = value := by
  rcases value with _ | value
  · rfl
  · rcases value with q | _ | _ | _
    · have hrange : 0 ≤ q ∧ q ≤ 1 := by
        simpa [invalidRatio, F64.toFinite, Option.any] using h
      simp [validRatio, validFinite, F64.toFinite, hrange]
    all_goals cases h

theorem given_of_no_warnings {state : AircraftState} {controls : ControlSurfaceState}
    (hcontrols : state.controlSurfaces = some controls) (h : controlWarnings controls = []) :
    (controlsFromState state).given = controls := by
  unfold controlWarnings at h
  obtain ⟨hangles, hratios⟩ := List.append_eq_nil_iff.mp h
  rw [List.map_eq_nil_iff, List.filter_eq_nil_iff] at hangles hratios
  simp only [List.forall_mem_cons, Bool.not_eq_true] at hangles hratios
  obtain ⟨haileronLeft, haileronRight, helevator, hrudder, -⟩ := hangles
  obtain ⟨hflapsLeft, hflapsRight, hspoilers, -⟩ := hratios
  rw [controlsFromState, hcontrols, ControlSurfaces.given]
  dsimp only
  rw [map_validFinite haileronLeft, map_validFinite haileronRight, map_validFinite helevator,
    map_validFinite hrudder, map_validRatio hflapsLeft, map_validRatio hflapsRight,
    map_validRatio hspoilers]

theorem finiteVector_eq_some {value : Vector3} {x y z : ℚ}
    (h : finiteVector value = some (x, y, z)) :
    value = ⟨.finite x, .finite y, .finite z⟩ := by
  unfold finiteVector at h
  split at h
  · next x' y' z' hx hy hz =>
    obtain ⟨rfl, rfl, rfl⟩ : x' = x ∧ y' = y ∧ z' = z := by simpa using h
    rw [← toFinite_eq_some hx, ← toFinite_eq_some hy, ← toFinite_eq_some hz]
  · exact nomatch h

theorem velocity_of_no_warnings {state : AircraftState} (h : velocityWarnings state = []) :
    (airdataFromState state).map MsfsAirData.velocity = state.velocity := by
  unfold velocityWarnings at h
  split_ifs at h with hwarn
  rcases hvelocity : state.velocity with _ | velocity
  · simp [airdataFromState, hvelocity]
  · rcases hfinite : finiteVector velocity with _ | ⟨x, y, z⟩
    · simp [airdataFromState, hvelocity, hfinite] at hwarn
    · simp only [airdataFromState, hvelocity, Option.bind_some, hfinite, Option.map_some,
        MsfsAirData.velocity, neg_neg]
      rw [finiteVector_eq_some hfinite]

/-- The rates that are written. -/
theorem rates_of_airdata {state : AircraftState} {airdata : MsfsAirData}
    (h : airdataFromState state = some airdata) :
    if state.angularVelocity.any fun omega => (finiteVector omega).isSome then
      state.angularVelocity = some airdata.angularVelocity
    else airdata.angularVelocity = ⟨.finite 0, .finite 0, .finite 0⟩ := by
  obtain ⟨⟨x, y, z⟩, -, rfl⟩ := Option.map_eq_some_iff.mp h
  rcases homega : state.angularVelocity with _ | omega
  · simp [ratesFromState, homega, MsfsAirData.angularVelocity]
  · rcases hfinite : finiteVector omega with _ | ⟨p, q, r⟩
    · simp [ratesFromState, homega, hfinite, MsfsAirData.angularVelocity]
    · simp only [Option.any_some, hfinite, Option.isSome_some, if_true, ratesFromState, homega,
        Option.bind_some, Option.getD_some, MsfsAirData.angularVelocity, neg_neg]
      rw [finiteVector_eq_some hfinite]

theorem slotOf_eq_some {index : ℕ} {slot : Fin 4} (h : slotOf index = some slot) :
    index = slot.val + 1 := by
  unfold slotOf at h
  split_ifs at h with hrange
  have hval := congrArg Fin.val (Option.some.inj h)
  dsimp only at hval
  omega

/-- Without a warning no propulsor is for a slot that has been seen. -/
theorem filterMap_throttleFor_seen {slot : Fin 4} {propulsors : List PropulsorState}
    {seen : Fin 4 → Bool} (hseen : seen slot = true) (h : propulsorWarnings seen propulsors = []) :
    propulsors.filterMap (throttleFor slot) = [] := by
  induction propulsors generalizing seen with
  | nil => rfl
  | cons propulsor rest ih =>
    unfold propulsorWarnings at h
    rcases hindex : propulsor.index with _ | index
    · simp only [hindex, List.append_eq_nil_iff] at h
      rw [List.filterMap_cons_none (by simp [throttleFor, hindex])]
      exact ih hseen h.2
    · rcases hslot : slotOf index with _ | slot'
      · simp [hindex, hslot] at h
      · simp only [hindex, hslot, List.append_eq_nil_iff] at h
        obtain ⟨⟨hnew, -⟩, hrest⟩ := h
        have hne : slot' ≠ slot := by
          rintro rfl
          rw [hseen, if_pos rfl] at hnew
          exact nomatch hnew
        rw [List.filterMap_cons_none (by simp [throttleFor, hindex, hslot, hne])]
        exact ih (by simp [hseen]) hrest

/-- Without a warning every throttle has a slot of its own. -/
theorem throttle_of_no_warnings {propulsors : List PropulsorState} {seen : Fin 4 → Bool}
    (h : propulsorWarnings seen propulsors = []) {propulsor : PropulsorState}
    (hmem : propulsor ∈ propulsors) {given : F64} (hgiven : propulsor.throttleRatio = some given) :
    ∃ slot : Fin 4, ∃ ratio, propulsor.index = some (slot.val + 1) ∧ given = .finite ratio ∧
      propulsors.filterMap (throttleFor slot) = [ratio] := by
  induction propulsors generalizing seen with
  | nil => exact absurd hmem List.not_mem_nil
  | cons first rest ih =>
    unfold propulsorWarnings at h
    rcases hindex : first.index with _ | index
    · simp only [hindex, List.append_eq_nil_iff] at h
      rcases List.mem_cons.mp hmem with rfl | hmem
      · simp [hgiven] at h
      · obtain ⟨slot, ratio, hslot, hratio, hrest⟩ := ih h.2 hmem
        exact ⟨slot, ratio, hslot, hratio,
          by rw [List.filterMap_cons_none (by simp [throttleFor, hindex]), hrest]⟩
    · rcases hslot : slotOf index with _ | slot'
      · simp [hindex, hslot] at h
      · simp only [hindex, hslot, List.append_eq_nil_iff] at h
        obtain ⟨⟨-, hvalid⟩, hrest⟩ := h
        have hlater : rest.filterMap (throttleFor slot') = [] :=
          filterMap_throttleFor_seen (by simp) hrest
        rcases List.mem_cons.mp hmem with rfl | hmem
        · have hratio : invalidRatio propulsor.throttleRatio = false := by
            rcases hinvalid : invalidRatio propulsor.throttleRatio with _ | _
            · rfl
            · simp [hinvalid] at hvalid
          have hmap := map_validRatio hratio
          rw [hgiven] at hmap
          obtain ⟨ratio, hvalue, rfl⟩ := Option.map_eq_some_iff.mp hmap
          refine ⟨slot', ratio, by rw [hindex, slotOf_eq_some hslot], rfl, ?_⟩
          rw [List.filterMap_cons_some (b := ratio)
            (by simp [throttleFor, hindex, hslot, hgiven, hvalue]), hlater]
        · obtain ⟨slot, ratio, hindex', hratio, hone⟩ := ih hrest hmem
          have hne : slot' ≠ slot := by
            rintro rfl
            rw [hlater] at hone
            exact nomatch hone
          exact ⟨slot, ratio, hindex', hratio, by
            rw [List.filterMap_cons_none (by simp [throttleFor, hindex, hslot, hne]), hone]⟩

/-- **Nothing is lost without a warning**: if `optional_field_warnings` finds nothing, the frame
carries every optional value of the state. -/
theorem carries_of_no_warnings {euler : Quaternion → ℚ × ℚ × ℚ} {tau : ℚ} {state : AircraftState}
    {frame : MsfsFrame} (h : frameFromState euler tau state = .ok frame)
    (hwarnings : optionalFieldWarnings state = []) : Carries state frame := by
  obtain ⟨-, -, -, -, -, -, -, -, -, -, -, -, -, rfl⟩ := frameFromState_ok h
  unfold optionalFieldWarnings at hwarnings
  obtain ⟨hrest, hpropulsors⟩ := List.append_eq_nil_iff.mp hwarnings
  obtain ⟨hvelocity, hcontrols⟩ := List.append_eq_nil_iff.mp hrest
  refine ⟨?_, velocity_of_no_warnings hvelocity, fun airdata => rates_of_airdata, ?_⟩
  · intro controls hsome
    rw [hsome] at hcontrols
    exact given_of_no_warnings hsome hcontrols
  · intro propulsor hmem given hgiven
    obtain ⟨slot, ratio, hindex, hratio, hone⟩ := throttle_of_no_warnings hpropulsors hmem hgiven
    exact ⟨slot, ratio, hindex, hratio, by rw [ratios_eq_getLast, hone]; rfl⟩

/-- **The law of `frame_from_state`.** -/
theorem frame_law {euler : Quaternion → ℚ × ℚ × ℚ} {tau : ℚ} (htau : 0 < tau)
    {state : AircraftState} {frame : MsfsFrame} (h : frameFromState euler tau state = .ok frame) :
    frame.Valid tau ∧
      (∀ slot, frame.propulsors.ratios slot =
        (state.propulsors.filterMap (throttleFor slot)).getLast?) ∧
      (optionalFieldWarnings state = [] → Carries state frame) := by
  refine ⟨valid_of_frameFromState htau h, fun slot => ?_, carries_of_no_warnings h⟩
  obtain ⟨-, -, -, -, -, -, -, -, -, -, -, -, -, rfl⟩ := frameFromState_ok h
  exact ratios_eq_getLast state slot

/-- A state with two values for the first engine. -/
def twiceThrottled : AircraftState where
  position := none
  velocity := some ⟨.finite 100, .finite 2, .finite (-3)⟩
  attitude := some ⟨.finite 1, .finite 0, .finite 0, .finite 0⟩
  angularVelocity := some ⟨.nan, .finite 0, .finite 0⟩
  derived := some ⟨.finite 31, .finite 121, .finite 1200, .finite 0, .finite 0, .finite 0,
    .finite 0, .finite 0, .finite 0, none, none, none, none, none, none, none⟩
  controlSurfaces := some ⟨none, none, some (.finite (1 / 10)), none, none, none,
    some (.finite (3 / 2))⟩
  linearAccelerationBody := none
  propulsors :=
    [⟨"a", 0, some (.finite (1 / 4)), none, none, none, none, some 1⟩,
      ⟨"b", 0, some (.finite (3 / 4)), none, none, none, none, some 1⟩]

theorem frame_law_twiceThrottled :
    ∃ frame, frameFromState (fun _ => (0, 0, 0)) 6 twiceThrottled = .ok frame ∧
      frame.Valid 6 ∧ frame.propulsors.ratios 0 = some (3 / 4) := by
  have hok : (frameFromState (fun _ => (0, 0, 0)) 6 twiceThrottled).isOk = true := by
    decide +kernel
  rcases hframe : frameFromState (fun _ => (0, 0, 0)) 6 twiceThrottled with error | frame
  · rw [hframe] at hok
    exact nomatch hok
  · obtain ⟨hvalid, hratios, -⟩ := frame_law (by norm_num) hframe
    refine ⟨frame, rfl, hvalid, ?_⟩
    rw [hratios]
    decide +kernel

end FlyRuler.Msfs
