import FlyRuler.Msfs.Smoothing
import FlyRuler.Lib.Arc
import Mathlib.Analysis.Real.Pi.Irrational

/-!
# Smoothed poses

Every field of the derived state goes its straight way.  For a longitude this is the way around the
globe when the antimeridian lies between the samples, for the track angle a turn the long way round,
and extrapolated the latitude and the longitude may leave their ranges.

* `exists_betweenFrame`, `exists_beyondFrame`: which positions between and beyond two neighbours are
  rendered.
* `keepsPose_iff`: when every frame rendered of two neighbours is a pose on the short way.
-/

namespace FlyRuler.Msfs

open FlyRuler.Pb FlyRuler.Store FlyRuler.Playback FlyRuler.Godot FlyRuler.Lib.Arc LiveFrameBuffer

/-- A finite number of the derived state. -/
def derivedValue (field : DerivedState → F64) (state : AircraftState) : Option ℚ :=
  state.derived.bind fun derived => (field derived).toFinite

/-! ## The claim and its condition -/

/-- The frame is rendered from the two neighbours; `after` are the samples behind them. -/
def RenderedFrom (left right : BufferedSample) (after : List BufferedSample)
    (frame : SmoothedFrame) : Prop :=
  (frame.source = .interpolated ∧ left.timestampSecs < frame.timestampSecs ∧
      frame.timestampSecs ≤ right.timestampSecs) ∨
    frame.source = .extrapolated ∧ after = []

/-- The frame is a pose the simulator accepts and, when interpolated, on the shorter arcs between
those of the neighbours. -/
structure KeepsPose (left right : BufferedSample) (frame : SmoothedFrame) : Prop where
  accepted : checkFrame frame.state = .ok ()
  lon : frame.source = .interpolated → ∀ a b, derivedValue DerivedState.lon left.state = some a →
    derivedValue DerivedState.lon right.state = some b →
      ∃ x, derivedValue DerivedState.lon frame.state = some x ∧ OnShorterArc 360 a b x
  chi : frame.source = .interpolated → ∀ a b, derivedValue DerivedState.chi left.state = some a →
    derivedValue DerivedState.chi right.state = some b →
      ∃ x, derivedValue DerivedState.chi frame.state = some x ∧
        OnShorterArc (2 * Real.pi) (a : ℝ) (b : ℝ) (x : ℝ)

/-- The share of the way back from the right sample to the left one that can be rendered, when
`latest` is the newest sample. -/
def backShare (config : LiveSmoothingConfig) (latest left right : BufferedSample) : ℚ :=
  let span := right.timestampSecs - left.timestampSecs
  if span ≤ epsilon then 0
  else min 1 (max 0
    ((right.timestampSecs - (latest.timestampSecs - config.interpolationDelay)) / span))

/-- The share of the way from the left sample to the right one that can be rendered beyond it. -/
def beyondShare (config : LiveSmoothingConfig) (left right : BufferedSample) : ℚ :=
  let span := right.timestampSecs - left.timestampSecs
  if span ≤ epsilon then 0 else min 1 (config.maxExtrapolation / span)

/-- What is rendered between the neighbours covers no more than the shorter way: the antimeridian
does not lie between them, and the turn is at most half a turn, or a full number of turns more and
only the rest of it is rendered. -/
structure ShortWay (share : ℚ) (left right : BufferedSample) : Prop where
  lon : ∀ a b, derivedValue DerivedState.lon left.state = some a →
    derivedValue DerivedState.lon right.state = some b → share = 0 ∨ |b - a| ≤ 180
  chi : ∀ a b, derivedValue DerivedState.chi left.state = some a →
    derivedValue DerivedState.chi right.state = some b → share * |b - a| = 0 ∨
      ∃ k : ℤ, (share : ℝ) * |(b : ℝ) - a| ≤ |(b : ℝ) - a| - k * (2 * Real.pi) ∧
        |(b : ℝ) - a| - k * (2 * Real.pi) ≤ Real.pi

/-- The fields of a pose that have a range, with their limits. -/
inductive PoseLimit : (DerivedState → F64) → ℚ → Prop
  | lat : PoseLimit DerivedState.lat 90
  | lon : PoseLimit DerivedState.lon 180

/-- The room left to the limit is enough for the motion to go on for its share. -/
def HasRoom (limit share : ℚ) (field : DerivedState → F64) (left right : BufferedSample) : Prop :=
  ∀ a b, derivedValue field left.state = some a → derivedValue field right.state = some b →
    share * (b - a) ≤ limit - b ∧ share * (a - b) ≤ limit + b

/-! ## Interpolated values -/

/-- What acceptance says about the numbers of the pose. -/
theorem checkFrame_ok_iff {state : AircraftState} :
    checkFrame state = .ok () ↔
      (∃ lat, derivedValue DerivedState.lat state = some lat ∧ -90 ≤ lat ∧ lat ≤ 90) ∧
        (∃ lon, derivedValue DerivedState.lon state = some lon ∧ -180 ≤ lon ∧ lon ≤ 180) ∧
        (∃ altitude, derivedValue DerivedState.altitude state = some altitude) ∧
        ∃ attitude, state.attitude = some attitude ∧ isAttitude attitude = true := by
  unfold checkFrame derivedValue
  rcases state.derived with _ | derived
  · simp
  rcases state.attitude with _ | attitude
  · simp
  simp only [Option.bind_some]
  rcases derived.lat.toFinite with _ | lat
  · simp
  rcases derived.lon.toFinite with _ | lon
  · simp
  rcases derived.altitude.toFinite with _ | altitude
  · simp
  dsimp only
  by_cases hlat : -90 ≤ lat ∧ lat ≤ 90
  · by_cases hlon : -180 ≤ lon ∧ lon ≤ 180
    · by_cases hattitude : isAttitude attitude = true
      · simp [hlat, hlon, hattitude]
      · simp [hlat, hlon, hattitude]
    · rw [if_neg (not_not_intro hlat), if_pos hlon]
      simp [hlon]
  · rw [if_pos hlat]
    simp [hlat]

/-- A field that goes its straight way: `lat`, `lon`, `altitude`, `chi`. -/
def Straight (field : DerivedState → F64) : Prop :=
  ∀ l r t derived, interpolateDerived (some l) (some r) t = some derived →
    field derived = finiteLerpOrNearest (field l) (field r) t

theorem straight_fields : Straight DerivedState.lat ∧ Straight DerivedState.lon ∧
    Straight DerivedState.altitude ∧ Straight DerivedState.chi := by
  refine ⟨?_, ?_, ?_, ?_⟩
  · rintro l r t derived ⟨⟩
    rfl
  · rintro l r t derived ⟨⟩
    rfl
  · rintro l r t derived ⟨⟩
    rfl
  · rintro l r t derived ⟨⟩
    rfl

variable {slerp : Quaternion → Quaternion → ℚ → Quaternion} {left right : BufferedSample}

/-- The value of such a field at a factor. -/
theorem derivedValue_interpolateState {field : DerivedState → F64} (hfield : Straight field)
    {a b : ℚ} (ha : derivedValue field left.state = some a)
    (hb : derivedValue field right.state = some b) (target : Secs) :
    derivedValue field (interpolateState slerp left right target) =
      some (lerp a b (interpolationFactor left right target)) := by
  unfold derivedValue at ha hb
  obtain ⟨l, hl, ha⟩ := Option.bind_eq_some_iff.mp ha
  obtain ⟨r, hr, hb⟩ := Option.bind_eq_some_iff.mp hb
  have hderived : ∃ derived,
      interpolateDerived (some l) (some r) (interpolationFactor left right target) =
        some derived := ⟨_, rfl⟩
  obtain ⟨derived, hderived⟩ := hderived
  unfold derivedValue interpolateState
  dsimp only
  rw [hl, hr, hderived, Option.bind_some, hfield l r _ derived hderived]
  unfold finiteLerpOrNearest
  rw [ha, hb]
  rfl

/-- **An interpolated state is accepted** if its latitude and longitude are in range. -/
theorem checkFrame_interpolateState
    (hslerp : ∀ l r t, isAttitude l = true → isAttitude r = true → isAttitude (slerp l r t) = true)
    (hleft : checkFrame left.state = .ok ()) (hright : checkFrame right.state = .ok ())
    (target : Secs) :
    checkFrame (interpolateState slerp left right target) = .ok () ↔
      ∀ field limit, PoseLimit field limit →
        ∀ a b, derivedValue field left.state = some a → derivedValue field right.state = some b →
          -limit ≤ lerp a b (interpolationFactor left right target) ∧
            lerp a b (interpolationFactor left right target) ≤ limit := by
  obtain ⟨⟨lat, hlat, -⟩, ⟨lon, hlon, -⟩, ⟨altitude, haltitude⟩, attitude, hattitude, hvalid⟩ :=
    checkFrame_ok_iff.mp hleft
  obtain ⟨⟨lat', hlat', -⟩, ⟨lon', hlon', -⟩, ⟨altitude', haltitude'⟩, attitude', hattitude',
    hvalid'⟩ := checkFrame_ok_iff.mp hright
  obtain ⟨hslat, hslon, hsalt, -⟩ := straight_fields
  rw [checkFrame_ok_iff, derivedValue_interpolateState hslat hlat hlat',
    derivedValue_interpolateState hslon hlon hlon',
    derivedValue_interpolateState hsalt haltitude haltitude']
  have hpose : ∃ attitude, (interpolateState slerp left right target).attitude = some attitude ∧
      isAttitude attitude = true := by
    unfold interpolateState interpolateQuaternion
    simp only [hattitude, hattitude', hvalid, hvalid', Bool.and_self, if_true]
    exact ⟨_, rfl, hslerp _ _ _ hvalid hvalid'⟩
  constructor
  · rintro ⟨⟨x, hx, hxlow, hxhigh⟩, ⟨y, hy, hylow, hyhigh⟩, -⟩ field limit hfield a b ha hb
    rcases hfield with _ | _
    · rw [hlat] at ha
      rw [hlat'] at hb
      cases ha
      cases hb
      cases hx
      exact ⟨hxlow, hxhigh⟩
    · rw [hlon] at ha
      rw [hlon'] at hb
      cases ha
      cases hb
      cases hy
      exact ⟨hylow, hyhigh⟩
  · intro h
    obtain ⟨hlow, hhigh⟩ := h DerivedState.lat 90 .lat lat lat' hlat hlat'
    obtain ⟨hlow', hhigh'⟩ := h DerivedState.lon 180 .lon lon lon' hlon hlon'
    exact ⟨⟨_, rfl, hlow, hhigh⟩, ⟨_, rfl, hlow', hhigh'⟩, ⟨_, rfl⟩, hpose⟩

/-! ## The positions rendered -/

theorem interpolationFactor_narrow (hspan : left.timestampSecs ≤ right.timestampSecs)
    (hnarrow : right.timestampSecs - left.timestampSecs ≤ epsilon) (target : Secs) :
    interpolationFactor left right target = 1 := by
  have habs : |right.timestampSecs - left.timestampSecs| ≤ epsilon := by
    rwa [abs_of_nonneg (sub_nonneg.mpr hspan)]
  unfold interpolationFactor
  exact if_pos habs

/-- The factor at a position relative to the right sample. -/
theorem interpolationFactor_wide
    (hwide : epsilon < right.timestampSecs - left.timestampSecs) (w : ℚ) :
    interpolationFactor left right
      (right.timestampSecs + w * (right.timestampSecs - left.timestampSecs)) =
        clamp (1 + w) (-1) 2 := by
  have hpos : 0 < right.timestampSecs - left.timestampSecs := epsilon_pos.trans hwide
  have habs : ¬|right.timestampSecs - left.timestampSecs| ≤ epsilon := by
    rw [abs_of_pos hpos]
    exact not_le.mpr hwide
  unfold interpolationFactor
  dsimp only
  rw [if_neg habs]
  congr 1
  rw [div_eq_iff hpos.ne']
  ring

variable {buffer : LiveFrameBuffer} {before after : List BufferedSample} {latest : BufferedSample}

/-- **Every position of the share behind the right sample** is rendered at some time. -/
theorem exists_betweenFrame (hordered : Ordered buffer.samples)
    (hsamples : buffer.samples = before ++ left :: right :: after)
    (hlatest : buffer.samples.getLast? = some latest) {u : ℚ} (hu : 0 < u) (hu' : u < 1)
    (hshare : u ≤ backShare buffer.config latest left right) :
    ∃ now frame, buffer.smoothedFrame slerp now = some frame ∧ frame.source = .interpolated ∧
      left.timestampSecs < frame.timestampSecs ∧ frame.timestampSecs ≤ right.timestampSecs ∧
      frame.state = interpolateState slerp left right frame.timestampSecs ∧
      interpolationFactor left right frame.timestampSecs = 1 - u := by
  have hwide : epsilon < right.timestampSecs - left.timestampSecs := by
    by_contra hnarrow
    unfold backShare at hshare
    rw [if_pos (not_lt.mp hnarrow)] at hshare
    linarith
  have hpos : 0 < right.timestampSecs - left.timestampSecs := epsilon_pos.trans hwide
  have hreach : u * (right.timestampSecs - left.timestampSecs) ≤
      right.timestampSecs - (latest.timestampSecs - buffer.config.interpolationDelay) := by
    unfold backShare at hshare
    rw [if_neg (not_le.mpr hwide)] at hshare
    rcases le_max_iff.mp (hshare.trans (min_le_right _ _)) with hzero | hdiv
    · linarith
    · rwa [le_div_iff₀ hpos] at hdiv
  -- the clock reading at which the target is there
  obtain ⟨now, htarget⟩ : ∃ now, buffer.targetAt latest now =
      right.timestampSecs + -u * (right.timestampSecs - left.timestampSecs) := by
    refine ⟨latest.receivedAt + (right.timestampSecs + -u *
      (right.timestampSecs - left.timestampSecs) - latest.timestampSecs +
        buffer.config.interpolationDelay), ?_⟩
    unfold targetAt elapsedSecs
    rw [add_sub_cancel_left, max_eq_left (by linarith)]
    ring
  have hback : 0 < u * (right.timestampSecs - left.timestampSecs) := mul_pos hu hpos
  have hleft : left.timestampSecs < buffer.targetAt latest now := by
    have := mul_lt_mul_of_pos_right hu' hpos
    rw [htarget]
    linarith
  have hright : buffer.targetAt latest now < right.timestampSecs := by
    rw [htarget]
    linarith
  have hframe : buffer.smoothedFrame slerp now = _ :=
    smoothedFrame_between hordered hsamples hlatest hleft hright.le
  unfold betweenFrame at hframe
  rw [if_neg hright.ne] at hframe
  refine ⟨now, _, hframe, rfl, hleft, hright.le, rfl, ?_⟩
  show interpolationFactor left right (buffer.targetAt latest now) = 1 - u
  rw [htarget, interpolationFactor_wide hwide]
  unfold clamp
  rw [max_eq_left (by linarith), min_eq_left (by linarith)]
  ring

/-- **An interpolated frame** shows a position of the share. -/
theorem share_of_interpolated (hordered : Ordered buffer.samples)
    (hsamples : buffer.samples = before ++ left :: right :: after)
    (hlatest : buffer.samples.getLast? = some latest) {now : Instant} {frame : SmoothedFrame}
    (hframe : buffer.smoothedFrame slerp now = some frame) (hsource : frame.source = .interpolated)
    (hleft : left.timestampSecs < frame.timestampSecs)
    (hright : frame.timestampSecs ≤ right.timestampSecs) :
    frame.state = right.state ∨ ∃ u, 0 ≤ u ∧ u ≤ 1 ∧
      u ≤ backShare buffer.config latest left right ∧
      frame.state = interpolateState slerp left right frame.timestampSecs ∧
      interpolationFactor left right frame.timestampSecs = 1 - u := by
  have htime : frame.timestampSecs = buffer.targetAt latest now := by
    rcases smoothedFrame_cases hframe hlatest with hheld | ⟨-, htime⟩ | ⟨-, htime, -⟩
    · rw [hsource] at hheld
      exact nomatch hheld
    · exact htime
    · exact htime
  have hbetween : buffer.smoothedFrame slerp now = _ :=
    smoothedFrame_between hordered hsamples hlatest (htime ▸ hleft) (htime ▸ hright)
  rw [hframe, ← htime] at hbetween
  have heq := Option.some.inj hbetween
  unfold betweenFrame at heq
  split_ifs at heq with hend
  · exact .inl (by rw [heq])
  · refine .inr ?_
    have hstate : frame.state = interpolateState slerp left right frame.timestampSecs :=
      congrArg SmoothedFrame.state heq
    have hpos : 0 < right.timestampSecs - left.timestampSecs :=
      sub_pos.mpr (neighbours_lt hordered hsamples)
    by_cases hnarrow : right.timestampSecs - left.timestampSecs ≤ epsilon
    · refine ⟨0, le_refl _, zero_le_one, ?_, hstate, ?_⟩
      · unfold backShare
        rw [if_pos hnarrow]
      · rw [interpolationFactor_narrow (by linarith) hnarrow, sub_zero]
    · have hrelative : right.timestampSecs + -((right.timestampSecs - frame.timestampSecs) /
          (right.timestampSecs - left.timestampSecs)) *
            (right.timestampSecs - left.timestampSecs) = frame.timestampSecs := by
        rw [neg_mul, div_mul_cancel₀ _ hpos.ne']
        ring
      have hnonneg : 0 ≤ (right.timestampSecs - frame.timestampSecs) /
          (right.timestampSecs - left.timestampSecs) := div_nonneg (by linarith) hpos.le
      have hone : (right.timestampSecs - frame.timestampSecs) /
          (right.timestampSecs - left.timestampSecs) ≤ 1 := by
        rw [div_le_one hpos]
        linarith
      refine ⟨(right.timestampSecs - frame.timestampSecs) /
        (right.timestampSecs - left.timestampSecs), hnonneg, hone, ?_, hstate, ?_⟩
      · unfold backShare
        rw [if_neg hnarrow]
        refine le_min hone ((div_le_div_of_nonneg_right ?_ hpos.le).trans (le_max_right _ _))
        have helapsed : 0 ≤ elapsedSecs now latest.receivedAt := le_max_right _ _
        rw [htime]
        unfold targetAt
        linarith
      · rw [← hrelative, interpolationFactor_wide (not_le.mp hnarrow), hrelative]
        unfold clamp
        rw [max_eq_left (by linarith), min_eq_left (by linarith)]
        ring

/-- **The end of the share beyond the right sample** is rendered at some time. -/
theorem exists_beyondFrame (hdelay : 0 ≤ buffer.config.interpolationDelay)
    (hordered : Ordered buffer.samples) (hsamples : buffer.samples = before ++ [left, right])
    {v : ℚ} (hv : 0 < v) (hshare : v ≤ beyondShare buffer.config left right) :
    ∃ now frame, buffer.smoothedFrame slerp now = some frame ∧ frame.source = .extrapolated ∧
      frame.state = interpolateState slerp left right frame.timestampSecs ∧
      interpolationFactor left right frame.timestampSecs = 1 + v := by
  have hwide : epsilon < right.timestampSecs - left.timestampSecs := by
    by_contra hnarrow
    unfold beyondShare at hshare
    rw [if_pos (not_lt.mp hnarrow)] at hshare
    linarith
  have hpos : 0 < right.timestampSecs - left.timestampSecs := epsilon_pos.trans hwide
  unfold beyondShare at hshare
  rw [if_neg (not_le.mpr hwide)] at hshare
  obtain ⟨hone, hreach⟩ := le_min_iff.mp hshare
  rw [le_div_iff₀ hpos] at hreach
  have hahead : 0 < v * (right.timestampSecs - left.timestampSecs) := mul_pos hv hpos
  obtain ⟨now, htarget⟩ : ∃ now, buffer.targetAt right now =
      right.timestampSecs + v * (right.timestampSecs - left.timestampSecs) := by
    refine ⟨right.receivedAt + (v * (right.timestampSecs - left.timestampSecs) +
      buffer.config.interpolationDelay), ?_⟩
    unfold targetAt elapsedSecs
    rw [add_sub_cancel_left, max_eq_left (by linarith)]
    ring
  have hframe : buffer.smoothedFrame slerp now = _ :=
    smoothedFrame_beyond hordered hsamples (by rw [htarget]; linarith) (by rw [htarget]; linarith)
  refine ⟨now, _, hframe, rfl, rfl, ?_⟩
  show interpolationFactor left right (buffer.targetAt right now) = 1 + v
  rw [htarget, interpolationFactor_wide hwide]
  unfold clamp
  rw [max_eq_left (by linarith), min_eq_left (by linarith)]

/-- **An extrapolated frame** shows a position of the share. -/
theorem share_of_extrapolated (hordered : Ordered buffer.samples)
    (hsamples : buffer.samples = before ++ [left, right]) {now : Instant} {frame : SmoothedFrame}
    (hframe : buffer.smoothedFrame slerp now = some frame)
    (hsource : frame.source = .extrapolated) :
    ∃ v, 0 ≤ v ∧ v ≤ beyondShare buffer.config left right ∧
      frame.state = interpolateState slerp left right frame.timestampSecs ∧
      interpolationFactor left right frame.timestampSecs = 1 + v := by
  have hlatest : buffer.samples.getLast? = some right := by
    rw [hsamples]
    simp
  obtain ⟨htime, hbeyond, hmax⟩ : frame.timestampSecs = buffer.targetAt right now ∧
      right.timestampSecs < buffer.targetAt right now ∧
      buffer.targetAt right now - right.timestampSecs ≤ buffer.config.maxExtrapolation := by
    rcases smoothedFrame_cases hframe hlatest with hheld | ⟨hother, -⟩ | ⟨-, hextrapolated⟩
    · rw [hsource] at hheld
      exact nomatch hheld
    · rw [hsource] at hother
      exact nomatch hother
    · exact hextrapolated
  have hpos : 0 < right.timestampSecs - left.timestampSecs :=
    sub_pos.mpr (neighbours_lt hordered hsamples)
  have hbehind : buffer.smoothedFrame slerp now = _ :=
    smoothedFrame_beyond hordered hsamples hbeyond hmax
  rw [hframe, ← htime] at hbehind
  have hstate : frame.state = interpolateState slerp left right frame.timestampSecs :=
    congrArg SmoothedFrame.state (Option.some.inj hbehind)
  rw [← htime] at hbeyond hmax
  by_cases hnarrow : right.timestampSecs - left.timestampSecs ≤ epsilon
  · refine ⟨0, le_refl _, ?_, hstate, ?_⟩
    · unfold beyondShare
      rw [if_pos hnarrow]
    · rw [interpolationFactor_narrow (by linarith) hnarrow, add_zero]
  · have hrelative : right.timestampSecs + (frame.timestampSecs - right.timestampSecs) /
        (right.timestampSecs - left.timestampSecs) *
          (right.timestampSecs - left.timestampSecs) = frame.timestampSecs := by
      rw [div_mul_cancel₀ _ hpos.ne']
      ring
    have hnonneg : 0 ≤ (frame.timestampSecs - right.timestampSecs) /
        (right.timestampSecs - left.timestampSecs) := div_nonneg (by linarith) hpos.le
    refine ⟨min 1 ((frame.timestampSecs - right.timestampSecs) /
      (right.timestampSecs - left.timestampSecs)), le_min zero_le_one hnonneg, ?_, hstate, ?_⟩
    · unfold beyondShare
      rw [if_neg hnarrow]
      exact min_le_min_left 1 (div_le_div_of_nonneg_right hmax hpos.le)
    · -- the factor is cut off at two
      rw [← hrelative, interpolationFactor_wide (not_le.mp hnarrow), hrelative]
      unfold clamp
      rw [max_eq_left (by linarith), min_comm, ← min_add_add_left]
      norm_num

/-! ## When the pose is kept -/

/-- Between two values in a range everything is. -/
theorem lerp_mem_range {limit a b u : ℚ} (ha : -limit ≤ a ∧ a ≤ limit)
    (hb : -limit ≤ b ∧ b ≤ limit) (hu : 0 ≤ u) (hu' : u ≤ 1) :
    -limit ≤ lerp a b (1 - u) ∧ lerp a b (1 - u) ≤ limit := by
  have hsplit : lerp a b (1 - u) = u * a + (1 - u) * b := by
    unfold lerp
    ring
  have hrest : 0 ≤ 1 - u := sub_nonneg.mpr hu'
  have h1 := mul_le_mul_of_nonneg_left ha.1 hu
  have h2 := mul_le_mul_of_nonneg_left ha.2 hu
  have h3 := mul_le_mul_of_nonneg_left hb.1 hrest
  have h4 := mul_le_mul_of_nonneg_left hb.2 hrest
  rw [hsplit]
  constructor <;> linarith

/-- Beyond the right value the range is kept as long as there is room. -/
theorem lerp_beyond {limit a b share v : ℚ} (hb : -limit ≤ b ∧ b ≤ limit)
    (hroom : share * (b - a) ≤ limit - b ∧ share * (a - b) ≤ limit + b) (hv : 0 ≤ v)
    (hshare : v ≤ share) : -limit ≤ lerp a b (1 + v) ∧ lerp a b (1 + v) ≤ limit := by
  have hsplit : lerp a b (1 + v) = b + v * (b - a) := by
    unfold lerp
    ring
  rw [hsplit]
  rcases le_total 0 (b - a) with hup | hdown
  · have h1 := mul_le_mul_of_nonneg_right hshare hup
    have h2 := mul_nonneg hv hup
    constructor <;> linarith [hroom.1]
  · have h1 := mul_le_mul_of_nonpos_right hshare hdown
    have h2 := mul_nonpos_of_nonneg_of_nonpos hv hdown
    have h3 : share * (a - b) = -(share * (b - a)) := by ring
    constructor <;> linarith [hroom.2]

theorem backShare_mem (config : LiveSmoothingConfig) (latest left right : BufferedSample) :
    0 ≤ backShare config latest left right ∧ backShare config latest left right ≤ 1 := by
  unfold backShare
  dsimp only
  split_ifs
  · exact ⟨le_refl _, zero_le_one⟩
  · exact ⟨le_min zero_le_one (le_max_left _ _), min_le_left _ _⟩

theorem lerp_back (a b u : ℚ) : lerp a b (1 - u) = b - u * (b - a) := by
  unfold lerp
  ring

/-- Longitudes at most half a turn apart stay on the shorter arc. -/
theorem lon_onShorterArc {a b share u : ℚ} (hshort : share = 0 ∨ |b - a| ≤ 180) (hu : 0 ≤ u)
    (hu' : u ≤ 1) (hshare : u ≤ share) : OnShorterArc 360 a b (lerp a b (1 - u)) := by
  rw [lerp_back]
  rcases hshort with hzero | hle
  · obtain rfl : u = 0 := le_antisymm (hzero ▸ hshare) hu
    rw [zero_mul, sub_zero]
    exact onShorterArc_right (by norm_num) a b
  · refine @onShorterArc_back ℚ _ _ 360 a b _ u 0 hu ?_ ?_
    · have := mul_le_of_le_one_left (abs_nonneg (b - a)) hu'
      push_cast
      linarith
    · push_cast
      linarith

/-- Longitudes more than half a turn apart leave it. -/
theorem exists_lon_off {a b share : ℚ} (hshare : 0 < share) (hshare' : share ≤ 1)
    (ha : -180 ≤ a ∧ a ≤ 180) (hb : -180 ≤ b ∧ b ≤ 180) (hfar : 180 < |b - a|) :
    ∃ u, 0 < u ∧ u < 1 ∧ u ≤ share ∧ ¬OnShorterArc 360 a b (lerp a b (1 - u)) := by
  have hturn : |b - a| ≤ 360 := abs_le.mpr ⟨by linarith, by linarith⟩
  have hpos : 0 < |b - a| := by linarith
  have hreach : 0 < share * |b - a| := mul_pos hshare hpos
  have hk : ∀ k : ℤ, |b - a| - k * 360 ≤ 180 → |b - a| - k * 360 ≤ 0 := by
    intro k hle
    have hone : (0 : ℚ) < k := by linarith
    have hone : (1 : ℤ) ≤ k := by
      have : (0 : ℤ) < k := by exact_mod_cast hone
      omega
    have hone : (1 : ℚ) ≤ k := by exact_mod_cast hone
    linarith
  obtain ⟨near, far, hnear, hlt, hle, hoff⟩ := @exists_off_arc ℚ _ _ 360 a b _ _ (by norm_num) _
    hreach (fun k hhalf => by linarith [hk k (by linarith)])
    (fun k heq => by linarith [hk k (by linarith)])
  obtain ⟨v, hv, hv'⟩ := exists_between hlt
  have hu : v / |b - a| * |b - a| = v := div_mul_cancel₀ _ hpos.ne'
  have hle' : v / |b - a| ≤ share := by
    rw [div_le_iff₀ hpos]
    linarith
  have hlt' : v / |b - a| < share := by
    rw [div_lt_iff₀ hpos]
    linarith
  refine ⟨v / |b - a|, div_pos (by linarith) hpos, hlt'.trans_le hshare', hle', ?_⟩
  rw [lerp_back]
  exact hoff _ (by rw [hu]; exact hv) (by rw [hu]; exact hv')

/-- A turn that renders no more than the rest of the shorter way stays on the shorter arc. -/
theorem chi_onShorterArc {a b share u : ℚ}
    (hshort : share * |b - a| = 0 ∨
      ∃ k : ℤ, (share : ℝ) * |(b : ℝ) - a| ≤ |(b : ℝ) - a| - k * (2 * Real.pi) ∧
        |(b : ℝ) - a| - k * (2 * Real.pi) ≤ Real.pi) (hu : 0 ≤ u) (hshare : u ≤ share) :
    OnShorterArc (2 * Real.pi) (a : ℝ) (b : ℝ) ((lerp a b (1 - u) : ℚ) : ℝ) := by
  have hcast : ((lerp a b (1 - u) : ℚ) : ℝ) = b - u * (b - a) := by
    rw [lerp_back]
    push_cast
    ring
  rw [hcast]
  rcases hshort with hzero | ⟨k, hcover, hhalf⟩
  · have hnone : u * (b - a) = 0 := by
      rcases mul_eq_zero.mp hzero with hshare' | hsame
      · rw [le_antisymm (hshare' ▸ hshare) hu, zero_mul]
      · rw [abs_eq_zero.mp hsame, mul_zero]
    have hnone : (u : ℝ) * (b - a) = 0 := by exact_mod_cast hnone
    rw [hnone, sub_zero]
    exact onShorterArc_right Real.two_pi_pos _ _
  · refine onShorterArc_back (by exact_mod_cast hu) (le_trans ?_ hcover) (by linarith)
    exact mul_le_mul_of_nonneg_right (by exact_mod_cast hshare) (abs_nonneg _)

/-- No two rational angles are opposite. -/
theorem not_opposite (a b : ℚ) (k : ℤ) :
    |(b : ℝ) - a| - k * (2 * Real.pi) ≠ 2 * Real.pi / 2 := by
  intro heq
  have hodd : (2 * (k : ℝ) + 1) ≠ 0 := by
    have : 2 * k + 1 ≠ 0 := by omega
    exact_mod_cast this
  have hpi : Real.pi = ((|b - a| / (2 * k + 1) : ℚ) : ℝ) := by
    push_cast
    rw [eq_div_iff hodd]
    linear_combination -heq
  exact irrational_pi ⟨_, hpi.symm⟩

/-- Any other turn leaves it. -/
theorem exists_chi_off {a b share : ℚ} (hshare' : share ≤ 1) (hreach : 0 < share * |b - a|)
    (hlong : ∀ k : ℤ, ¬((share : ℝ) * |(b : ℝ) - a| ≤ |(b : ℝ) - a| - k * (2 * Real.pi) ∧
      |(b : ℝ) - a| - k * (2 * Real.pi) ≤ Real.pi)) :
    ∃ u : ℚ, 0 < u ∧ u < 1 ∧ u ≤ share ∧
      ¬OnShorterArc (2 * Real.pi) (a : ℝ) (b : ℝ) ((lerp a b (1 - u) : ℚ) : ℝ) := by
  have hreal : (0 : ℝ) < share * |(b : ℝ) - a| := by exact_mod_cast hreach
  have hpos : 0 < |(b : ℝ) - a| := by
    refine lt_of_le_of_ne (abs_nonneg _) fun hzero => ?_
    rw [← hzero, mul_zero] at hreal
    exact lt_irrefl _ hreal
  obtain ⟨near, far, hnear, hlt, hle, hoff⟩ := exists_off_arc Real.two_pi_pos hreal
    (fun k hhalf hcover => hlong k ⟨hcover, by linarith⟩) (not_opposite a b)
  obtain ⟨u, hu, hu'⟩ := exists_rat_btwn (div_lt_div_of_pos_right hlt hpos)
  rw [div_lt_iff₀ hpos] at hu
  rw [lt_div_iff₀ hpos] at hu'
  have hupos : (0 : ℝ) < u := by
    by_contra hle'
    have := mul_nonpos_of_nonpos_of_nonneg (not_lt.mp hle') hpos.le
    linarith
  have hushare : (u : ℝ) < share := lt_of_mul_lt_mul_right (hu'.trans_le hle) hpos.le
  have hushare : u < share := by exact_mod_cast hushare
  refine ⟨u, by exact_mod_cast hupos, hushare.trans_le hshare', hushare.le, ?_⟩
  have hcast : ((lerp a b (1 - u) : ℚ) : ℝ) = b - u * (b - a) := by
    rw [lerp_back]
    push_cast
    ring
  rw [hcast]
  exact hoff u hu hu'

/-- The numbers of an accepted pose are in their ranges. -/
theorem range_of_accepted {state : AircraftState} (h : checkFrame state = .ok ())
    {field : DerivedState → F64} {limit a : ℚ} (hlimit : PoseLimit field limit)
    (ha : derivedValue field state = some a) : -limit ≤ a ∧ a ≤ limit := by
  obtain ⟨⟨lat, hlat, hlatRange⟩, ⟨lon, hlon, hlonRange⟩, -⟩ := checkFrame_ok_iff.mp h
  rcases hlimit with _ | _
  · rw [hlat] at ha
    cases ha
    exact hlatRange
  · rw [hlon] at ha
    cases ha
    exact hlonRange

/-- If every frame of the pair is kept on the short way, it is short. -/
theorem shortWay_of_keepsPose (hleft : checkFrame left.state = .ok ())
    (hright : checkFrame right.state = .ok ()) (hordered : Ordered buffer.samples)
    (hsamples : buffer.samples = before ++ left :: right :: after)
    (hlatest : buffer.samples.getLast? = some latest)
    (hkeeps : ∀ now frame, buffer.smoothedFrame slerp now = some frame →
      RenderedFrom left right after frame → KeepsPose left right frame) :
    ShortWay (backShare buffer.config latest left right) left right := by
  obtain ⟨-, hslon, -, hschi⟩ := straight_fields
  obtain ⟨hshare, hshare'⟩ := backShare_mem buffer.config latest left right
  constructor
  · intro a b ha hb
    by_contra hnot
    rw [not_or, not_le] at hnot
    obtain ⟨u, hu, hu', hle, hoff⟩ := exists_lon_off (lt_of_le_of_ne hshare (Ne.symm hnot.1))
      hshare' (range_of_accepted hleft .lon ha) (range_of_accepted hright .lon hb) hnot.2
    obtain ⟨now, frame, hframe, hsource, hafter, hbefore, hstate, hfactor⟩ :=
      exists_betweenFrame hordered hsamples hlatest hu hu' hle
    obtain ⟨x, hx, harc⟩ := (hkeeps now frame hframe (.inl ⟨hsource, hafter, hbefore⟩)).lon
      hsource a b ha hb
    rw [hstate, derivedValue_interpolateState hslon ha hb, hfactor] at hx
    cases hx
    exact hoff harc
  · intro a b ha hb
    by_contra hnot
    rw [not_or, not_exists] at hnot
    have hreach : 0 < backShare buffer.config latest left right * |b - a| :=
      lt_of_le_of_ne (mul_nonneg hshare (abs_nonneg _)) (Ne.symm hnot.1)
    obtain ⟨u, hu, hu', hle, hoff⟩ := exists_chi_off hshare' hreach hnot.2
    obtain ⟨now, frame, hframe, hsource, hafter, hbefore, hstate, hfactor⟩ :=
      exists_betweenFrame hordered hsamples hlatest hu hu' hle
    obtain ⟨x, hx, harc⟩ := (hkeeps now frame hframe (.inl ⟨hsource, hafter, hbefore⟩)).chi
      hsource a b ha hb
    rw [hstate, derivedValue_interpolateState hschi ha hb, hfactor] at hx
    cases hx
    exact hoff harc

section Pair
variable (hslerp : ∀ l r t, isAttitude l = true → isAttitude r = true →
    isAttitude (slerp l r t) = true)
  (hleft : checkFrame left.state = .ok ()) (hright : checkFrame right.state = .ok ())
include hslerp hleft hright

/-- What is interpolated is kept on the short way. -/
theorem keepsPose_interpolated (hordered : Ordered buffer.samples)
    (hsamples : buffer.samples = before ++ left :: right :: after)
    (hlatest : buffer.samples.getLast? = some latest)
    (hshort : ShortWay (backShare buffer.config latest left right) left right) {now : Instant}
    {frame : SmoothedFrame} (hframe : buffer.smoothedFrame slerp now = some frame)
    (hsource : frame.source = .interpolated) (hafter : left.timestampSecs < frame.timestampSecs)
    (hbefore : frame.timestampSecs ≤ right.timestampSecs) : KeepsPose left right frame := by
  obtain ⟨-, hslon, -, hschi⟩ := straight_fields
  rcases share_of_interpolated hordered hsamples hlatest hframe hsource hafter hbefore with
    hstate | ⟨u, hu, hu', hshare, hstate, hfactor⟩
  · refine ⟨by rw [hstate]; exact hright, fun _ a b ha hb => ?_, fun _ a b ha hb => ?_⟩
    · exact ⟨b, by rw [hstate]; exact hb, onShorterArc_right (by norm_num) a b⟩
    · exact ⟨b, by rw [hstate]; exact hb, onShorterArc_right Real.two_pi_pos _ _⟩
  · refine ⟨?_, fun _ a b ha hb => ?_, fun _ a b ha hb => ?_⟩
    · rw [hstate, checkFrame_interpolateState hslerp hleft hright, hfactor]
      intro field limit hlimit a b ha hb
      exact lerp_mem_range (range_of_accepted hleft hlimit ha)
        (range_of_accepted hright hlimit hb) hu hu'
    · refine ⟨lerp a b (1 - u), ?_, lon_onShorterArc (hshort.lon a b ha hb) hu hu' hshare⟩
      rw [hstate, derivedValue_interpolateState hslon ha hb, hfactor]
    · refine ⟨lerp a b (1 - u), ?_, chi_onShorterArc (hshort.chi a b ha hb) hu hshare⟩
      rw [hstate, derivedValue_interpolateState hschi ha hb, hfactor]

/-- What is extrapolated has room. -/
theorem keepsPose_extrapolated (hordered : Ordered buffer.samples)
    (hsamples : buffer.samples = before ++ [left, right])
    (hroom : ∀ field limit, PoseLimit field limit →
      HasRoom limit (beyondShare buffer.config left right) field left right) {now : Instant}
    {frame : SmoothedFrame} (hframe : buffer.smoothedFrame slerp now = some frame)
    (hsource : frame.source = .extrapolated) : KeepsPose left right frame := by
  obtain ⟨v, hv, hshare, hstate, hfactor⟩ :=
    share_of_extrapolated hordered hsamples hframe hsource
  have hother : frame.source ≠ .interpolated := by
    rw [hsource]
    decide
  refine ⟨?_, fun h => absurd h hother, fun h => absurd h hother⟩
  rw [hstate, checkFrame_interpolateState hslerp hleft hright, hfactor]
  intro field limit hlimit a b ha hb
  exact lerp_beyond (range_of_accepted hright hlimit hb) (hroom field limit hlimit a b ha hb) hv
    hshare

/-- If every frame of the last pair is kept on the short way, there is room beyond it. -/
theorem hasRoom_of_keepsPose (hdelay : 0 ≤ buffer.config.interpolationDelay)
    (hmax : 0 ≤ buffer.config.maxExtrapolation) (hordered : Ordered buffer.samples)
    (hsamples : buffer.samples = before ++ [left, right])
    (hkeeps : ∀ now frame, buffer.smoothedFrame slerp now = some frame →
      RenderedFrom left right [] frame → KeepsPose left right frame)
    {field : DerivedState → F64} {limit : ℚ} (hlimit : PoseLimit field limit) :
    HasRoom limit (beyondShare buffer.config left right) field left right := by
  intro a b ha hb
  have hpos : 0 < right.timestampSecs - left.timestampSecs :=
    sub_pos.mpr (neighbours_lt hordered hsamples)
  have hshare : 0 ≤ beyondShare buffer.config left right := by
    unfold beyondShare
    dsimp only
    split_ifs
    · exact le_refl _
    · exact le_min zero_le_one (div_nonneg hmax hpos.le)
  rcases hshare.eq_or_lt with hnone | hsome
  · have hrange := range_of_accepted hright hlimit hb
    rw [← hnone, zero_mul, zero_mul]
    constructor <;> linarith [hrange.1, hrange.2]
  · obtain ⟨now, frame, hframe, hsource, hstate, hfactor⟩ :=
      exists_beyondFrame hdelay hordered hsamples hsome (le_refl _)
    have haccepted := (hkeeps now frame hframe (.inr ⟨hsource, rfl⟩)).accepted
    rw [hstate, checkFrame_interpolateState hslerp hleft hright, hfactor] at haccepted
    obtain ⟨hlow, hhigh⟩ := haccepted field limit hlimit a b ha hb
    unfold lerp at hlow hhigh
    constructor <;> linarith

end Pair

/-- **When smoothing keeps the pose**: every frame interpolated or extrapolated from two neighbours
of a buffer is accepted and on the short way if and only if what is rendered between them covers no
more than the shorter way and, at the end of the buffer, the ranges have room for what is rendered
beyond them. -/
theorem keepsPose_iff
    (hslerp : ∀ l r t, isAttitude l = true → isAttitude r = true → isAttitude (slerp l r t) = true)
    {config : LiveSmoothingConfig} (hdelay : 0 ≤ config.interpolationDelay)
    (hmax : 0 ≤ config.maxExtrapolation) (ops : List BufferOp)
    (hsamples : (ops.foldl (LiveFrameBuffer.next slerp) (new config)).samples =
      before ++ left :: right :: after)
    (hlatest : (right :: after).getLast? = some latest)
    (hleft : checkFrame left.state = .ok ()) (hright : checkFrame right.state = .ok ()) :
    (∀ now frame,
      (ops.foldl (LiveFrameBuffer.next slerp) (new config)).smoothedFrame slerp now = some frame →
        RenderedFrom left right after frame → KeepsPose left right frame) ↔
      ShortWay (backShare config latest left right) left right ∧
        (after = [] → ∀ field limit, PoseLimit field limit →
          HasRoom limit (beyondShare config left right) field left right) := by
  obtain ⟨hordered, hconfig⟩ := run_ordered slerp config ops
  generalize ops.foldl (LiveFrameBuffer.next slerp) (new config) = buffer at *
  subst hconfig
  have hnewest : buffer.samples.getLast? = some latest := by
    rw [hsamples, List.getLast?_append, List.getLast?_cons_cons, hlatest]
    rfl
  constructor
  · intro hkeeps
    refine ⟨shortWay_of_keepsPose hleft hright hordered hsamples hnewest hkeeps, ?_⟩
    rintro rfl field limit hlimit
    exact hasRoom_of_keepsPose hslerp hleft hright hdelay hmax hordered hsamples hkeeps hlimit
  · rintro ⟨hshort, hroom⟩ now frame hframe (⟨hsource, hafter, hbefore⟩ | ⟨hsource, rfl⟩)
    · exact keepsPose_interpolated hslerp hleft hright hordered hsamples hnewest hshort hframe
        hsource hafter hbefore
    · exact keepsPose_extrapolated hslerp hleft hright hordered hsamples (hroom rfl) hframe hsource

/-! ## Across the antimeridian -/

/-- A state on the equator in the reference attitude. -/
def equatorState (lon : ℚ) : AircraftState :=
  { attitude := some ⟨.finite 1, .finite 0, .finite 0, .finite 0⟩
    derived := some
      { lat := .finite 0, lon := .finite lon, altitude := .finite 1000, alpha := .finite 0
        beta := .finite 0, tas := .finite 100, eas := .finite 100, gamma := .finite 0
        chi := .finite 0, ias := none, cas := none, mach := none, groundSpeed := none
        verticalSpeed := none, dynamicPressure := none, normalLoadFactor := none } }

def equatorSample (timestampSecs : Secs) (lon : ℚ) : BufferedSample :=
  ⟨timestampSecs, timestampSecs, equatorState lon⟩

/-- Two samples on the equator, a twentieth of a second apart. -/
def equatorOps (lon lon' : ℚ) : List BufferOp :=
  [.push (.finite 0) (equatorState lon) 0, .push (.finite (1 / 20)) (equatorState lon') (1 / 20)]

/-- The spherical interpolation of an attitude and itself. -/
def sameAttitude (left _right : Quaternion) (_t : ℚ) : Quaternion := left

theorem keepsPose_iff_equator :
    (∀ now frame, ((equatorOps 10 11).foldl (LiveFrameBuffer.next sameAttitude)
        (new {})).smoothedFrame sameAttitude now = some frame →
      RenderedFrom (equatorSample 0 10) (equatorSample (1 / 20) 11) [] frame →
        KeepsPose (equatorSample 0 10) (equatorSample (1 / 20) 11) frame) ↔
      ShortWay (backShare {} (equatorSample (1 / 20) 11) (equatorSample 0 10)
          (equatorSample (1 / 20) 11)) (equatorSample 0 10) (equatorSample (1 / 20) 11) ∧
        (([] : List BufferedSample) = [] → ∀ field limit, PoseLimit field limit →
          HasRoom limit (beyondShare {} (equatorSample 0 10) (equatorSample (1 / 20) 11)) field
            (equatorSample 0 10) (equatorSample (1 / 20) 11)) := by
  have hslerp : ∀ l r t, isAttitude l = true → isAttitude r = true →
      isAttitude (sameAttitude l r t) = true := fun l r t hl hr => hl
  have hsamples : ((equatorOps 10 11).foldl (LiveFrameBuffer.next sameAttitude)
      (new {})).samples = [] ++ [equatorSample 0 10, equatorSample (1 / 20) 11] := by
    decide +kernel
  exact keepsPose_iff hslerp (by decide +kernel) (by decide +kernel) (equatorOps 10 11) hsamples rfl
    (by decide +kernel) (by decide +kernel)

/-- **Around the globe**: from 179 degrees east to 179 degrees west, the frame three fifths of the
way is rendered at 35.8 degrees west. -/
theorem not_keepsPose_antimeridian :
    let buffer := (equatorOps 179 (-179)).foldl (LiveFrameBuffer.next sameAttitude) (new {})
    buffer.samples = [equatorSample 0 179, equatorSample (1 / 20) (-179)] ∧
      checkFrame (equatorState 179) = .ok () ∧ checkFrame (equatorState (-179)) = .ok () ∧
      ∃ frame, buffer.smoothedFrame sameAttitude (3 / 50) = some frame ∧
        RenderedFrom (equatorSample 0 179) (equatorSample (1 / 20) (-179)) [] frame ∧
        derivedValue DerivedState.lon frame.state = some (-179 / 5) ∧
        ¬KeepsPose (equatorSample 0 179) (equatorSample (1 / 20) (-179)) frame := by
  have hframe : ((equatorOps 179 (-179)).foldl (LiveFrameBuffer.next sameAttitude)
      (new {})).smoothedFrame sameAttitude (3 / 50) = some ⟨3 / 100, interpolateState sameAttitude
        (equatorSample 0 179) (equatorSample (1 / 20) (-179)) (3 / 100), .interpolated⟩ := by
    decide +kernel
  have hlon : derivedValue DerivedState.lon (interpolateState sameAttitude
      (equatorSample 0 179) (equatorSample (1 / 20) (-179)) (3 / 100)) = some (-179 / 5) := by
    decide +kernel
  refine ⟨by decide +kernel, by decide +kernel, by decide +kernel, _, hframe, ?_, hlon, ?_⟩
  · exact .inl ⟨rfl, by decide +kernel, by decide +kernel⟩
  · intro hkeeps
    obtain ⟨x, hx, harc⟩ := hkeeps.lon rfl 179 (-179) rfl rfl
    rw [hlon] at hx
    cases hx
    have hoff := @not_onShorterArc ℚ _ _ 360 (-179) 179 _ 1 (by norm_num) (716 / 5) (by norm_num)
      (by norm_num) (by norm_num)
    refine hoff ?_
    have hmirror := harc.neg
    norm_num at hmirror ⊢
    exact hmirror

end FlyRuler.Msfs
