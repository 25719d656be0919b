import FlyRuler.Msfs.Smoothing
import Mathlib.Algebra.Field.Rat
import Mathlib.Algebra.Order.Field.Basic

/-!
# The live frame buffer

What the buffer of `bindings/msfs/src/smoothing.rs` holds after any pushes and renders, and which of
its five branches `smoothed_frame` takes: the bounds on the samples follow from their order, and the
order makes the search for the neighbours of a time succeed.

* `Pruned.next`: what one operation keeps.
* `exists_brackets`, `Brackets.unique`: the neighbours of a time.
* `liveBuffer_spec`: the invariant of the buffer and what is rendered from it.
-/

namespace FlyRuler.Msfs

open FlyRuler.Pb FlyRuler.Store FlyRuler.Playback FlyRuler.Godot LiveFrameBuffer

/-! ## What is buffered -/

/-- The samples are in order, not too many, and all but two of them not too old. -/
structure Pruned (config : LiveSmoothingConfig) (samples : List BufferedSample) : Prop where
  ordered : Ordered samples
  count : samples.length ≤ config.maxSamples
  age : samples.length ≤ 2 ∨ ∀ latest, samples.getLast? = some latest →
    ∀ sample ∈ samples, latest.timestampSecs - config.maxBufferAge ≤ sample.timestampSecs

/-- The counters of `push`, added up. -/
def SmoothingStats.pushed (stats : SmoothingStats) : ℕ :=
  stats.acceptedSamples + stats.droppedOutOfOrder + stats.droppedInvalidTimestamp

/-- One more operation, counted if it is a push; a reset starts again. -/
def countPush (n : ℕ) : BufferOp → ℕ
  | .push _ _ _ => n + 1
  | .render _ => n
  | .reset => 0

/-- The pushes since the last reset. -/
def pushes (ops : List BufferOp) : ℕ := ops.foldl countPush 0

theorem length_pruneCount (maxSamples : ℕ) (samples : List BufferedSample) :
    (pruneCount maxSamples samples).length ≤ maxSamples := by
  induction samples with
  | nil => exact Nat.zero_le _
  | cons first rest ih =>
    rw [pruneCount]
    split_ifs with hmany
    · exact ih
    · exact not_lt.mp hmany

/-- The samples kept are not too old, unless there are at most two. -/
theorem pruneAge_kept {minTimestamp : Secs} {samples : List BufferedSample}
    (h : Ordered samples) :
    (pruneAge minTimestamp samples).length ≤ 2 ∨
      ∀ sample ∈ pruneAge minTimestamp samples, minTimestamp ≤ sample.timestampSecs := by
  induction samples with
  | nil => exact .inl (Nat.zero_le _)
  | cons first rest ih =>
    have hrest := List.pairwise_cons.mp h
    rw [pruneAge]
    split_ifs with hold
    · exact ih hrest.2
    · rcases not_and_or.mp hold with hyoung | hfew
      · refine .inr fun sample hsample => ?_
        rcases List.mem_cons.mp hsample with rfl | hsample
        · exact not_lt.mp hyoung
        · exact (not_lt.mp hyoung).trans (hrest.1 sample hsample).le
      · exact .inl (not_lt.mp hfew)

theorem getLast?_of_suffix {α : Type} {l l' : List α} {x : α} (h : l' <:+ l)
    (hx : l'.getLast? = some x) : l.getLast? = some x := by
  obtain ⟨dropped, rfl⟩ := h
  rw [List.getLast?_append, hx, Option.some_or]

theorem pruned_prune (config : LiveSmoothingConfig) {samples : List BufferedSample}
    (h : Ordered samples) : Pruned config (prune config samples) where
  ordered := List.Pairwise.sublist (prune_suffix config samples).sublist h
  count := by
    unfold prune
    dsimp only
    split
    · exact length_pruneCount _ _
    · exact (pruneAge_suffix _ _).length_le.trans (length_pruneCount _ _)
  age := by
    have hcounted : Ordered (pruneCount config.maxSamples samples) :=
      List.Pairwise.sublist (pruneCount_suffix _ _).sublist h
    unfold prune
    dsimp only
    split
    · next hnone =>
      rw [List.getLast?_eq_none_iff.mp hnone]
      exact .inl (Nat.zero_le _)
    · next latest hlatest =>
      refine (pruneAge_kept hcounted).imp_right fun hkept latest' hlatest' sample hsample => ?_
      rw [getLast?_of_suffix (pruneAge_suffix _ _) hlatest', Option.some.injEq] at hlatest
      rw [hlatest]
      exact hkept sample hsample

theorem Pruned.replace_last {config : LiveSmoothingConfig} {samples : List BufferedSample}
    (h : Pruned config samples) {latest sample : BufferedSample}
    (hlatest : samples.getLast? = some latest)
    (hsame : sample.timestampSecs = latest.timestampSecs) :
    Pruned config (samples.dropLast ++ [sample]) := by
  have hmem : latest ∈ samples := List.mem_of_getLast? hlatest
  have hlength : (samples.dropLast ++ [sample]).length = samples.length := by
    have hpos := List.length_pos_of_mem hmem
    rw [List.length_append, List.length_dropLast, List.length_singleton]
    omega
  refine ⟨h.ordered.replace_last hlatest hsame, hlength.trans_le h.count, ?_⟩
  rw [hlength]
  refine h.age.imp_right fun hage newest hnewest other hother => ?_
  rw [List.getLast?_concat, Option.some.injEq] at hnewest
  subst hnewest
  rw [hsame]
  rcases List.mem_append.mp hother with hother | hother
  · exact hage latest hlatest other ((List.dropLast_sublist samples).subset hother)
  · rw [List.mem_singleton.mp hother, hsame]
    exact hage latest hlatest latest hmem

section Run
variable (slerp : Quaternion → Quaternion → ℚ → Quaternion)

/-- **One operation** keeps the bounds on the samples. -/
theorem Pruned.next {buffer : LiveFrameBuffer} (h : Pruned buffer.config buffer.samples)
    (op : BufferOp) : Pruned buffer.config (buffer.next slerp op).samples := by
  rcases op with ⟨timestampSecs, state, receivedAt⟩ | now | _
  · show Pruned buffer.config (buffer.push timestampSecs state receivedAt).1.samples
    rcases push_cases buffer timestampSecs state receivedAt with
      hsame | ⟨latest, hlatest, hreplaced⟩ | ⟨timestamp, hlater, happended⟩
    · rw [hsame]
      exact h
    · rw [hreplaced]
      exact h.replace_last hlatest rfl
    · rw [happended]
      exact pruned_prune buffer.config (h.ordered.concat hlater)
  · show Pruned buffer.config (buffer.render slerp now).1.samples
    rw [render_samples]
    exact h
  · exact ⟨List.Pairwise.nil, Nat.zero_le _, .inl (Nat.zero_le _)⟩

/-- **One operation** adds one to the counters of `push` if it is a push. -/
theorem pushed_next (buffer : LiveFrameBuffer) (op : BufferOp) :
    (buffer.next slerp op).stats.pushed = countPush buffer.stats.pushed op := by
  rcases op with ⟨timestampSecs, state, receivedAt⟩ | now | _
  · show (buffer.push timestampSecs state receivedAt).1.stats.pushed = buffer.stats.pushed + 1
    unfold push accept SmoothingStats.pushed
    split
    · rfl
    · split
      · dsimp only
        omega
      · split_ifs
        · dsimp only
          omega
        · dsimp only
          omega
        · dsimp only
          omega
  · show (buffer.render slerp now).1.stats.pushed = buffer.stats.pushed
    unfold render
    dsimp only
    split
    · rfl
    · next frame _ =>
      rcases frame.source with _ | _ | _ | _ <;> rfl
  · rfl

/-- **Every run** keeps the bounds and counts the pushes. -/
theorem run_pruned (config : LiveSmoothingConfig) (ops : List BufferOp) :
    Pruned config (ops.foldl (LiveFrameBuffer.next slerp) (new config)).samples ∧
      (ops.foldl (LiveFrameBuffer.next slerp) (new config)).stats.pushed = pushes ops := by
  induction ops using List.reverseRecOn with
  | nil => exact ⟨⟨List.Pairwise.nil, Nat.zero_le _, .inl (Nat.zero_le _)⟩, rfl⟩
  | append_singleton ops op ih =>
    have hconfig := (run_ordered slerp config ops).2
    unfold pushes at ih ⊢
    rw [List.foldl_concat, List.foldl_concat]
    refine ⟨?_, by rw [pushed_next, ih.2]⟩
    have hnext := Pruned.next slerp (by rw [hconfig]; exact ih.1) op
    rwa [hconfig] at hnext

end Run

/-! ## The neighbours of a time -/

/-- Two neighbours of the buffer with the time behind the one and not behind the other. -/
structure Brackets (samples : List BufferedSample) (left right : BufferedSample) (target : Secs) :
    Prop where
  neighbours : ∃ before after, samples = before ++ left :: right :: after
  behind : left.timestampSecs < target
  upTo : target ≤ right.timestampSecs

section Neighbours
variable {samples : List BufferedSample} {left right left' right' : BufferedSample} {target : Secs}

/-- The samples before a time end with the left neighbour, the others begin with the right one. -/
theorem Brackets.split (hordered : Ordered samples) (h : Brackets samples left right target) :
    (samples.takeWhile fun sample => sample.timestampSecs < target).getLast? = some left ∧
      (samples.dropWhile fun sample => sample.timestampSecs < target).head? = some right := by
  obtain ⟨before, after, rfl⟩ := h.neighbours
  have hbefore : ∀ sample ∈ before ++ [left], decide (sample.timestampSecs < target) = true := by
    intro sample hsample
    refine decide_eq_true ?_
    rcases List.mem_append.mp hsample with hsample | hsample
    · exact ((List.pairwise_append.mp hordered).2.2 sample hsample left List.mem_cons_self).trans
        h.behind
    · rw [List.mem_singleton.mp hsample]
      exact h.behind
  have hright : decide (right.timestampSecs < target) = false := by
    simpa using h.upTo
  rw [List.append_cons before left (right :: after)]
  constructor
  · rw [List.takeWhile_append_of_pos hbefore, List.takeWhile_cons, hright]
    rw [if_neg Bool.false_ne_true, List.append_nil, List.getLast?_concat]
  · rw [List.dropWhile_append_of_pos hbefore, List.dropWhile_cons, hright]
    rw [if_neg Bool.false_ne_true, List.head?_cons]

/-- **There is one pair of neighbours** around a time. -/
theorem Brackets.unique (hordered : Ordered samples) (h : Brackets samples left right target)
    (h' : Brackets samples left' right' target) : left' = left ∧ right' = right := by
  obtain ⟨hleft, hright⟩ := h.split hordered
  obtain ⟨hleft', hright'⟩ := h'.split hordered
  rw [hleft] at hleft'
  rw [hright] at hright'
  exact ⟨(Option.some.inj hleft').symm, (Option.some.inj hright').symm⟩

/-- **A time within the buffer** has neighbours. -/
theorem exists_brackets {first latest : BufferedSample} (hfirst : samples.head? = some first)
    (hlatest : samples.getLast? = some latest) (hlow : first.timestampSecs < target)
    (hhigh : target ≤ latest.timestampSecs) : ∃ left right, Brackets samples left right target := by
  induction samples generalizing first with
  | nil => exact nomatch hfirst
  | cons head rest ih =>
    obtain rfl : head = first := Option.some.inj hfirst
    rcases rest with _ | ⟨second, rest⟩
    · obtain rfl : head = latest := Option.some.inj hlatest
      exact absurd hlow (not_lt.mpr hhigh)
    · rw [List.getLast?_cons_cons] at hlatest
      rcases lt_or_ge second.timestampSecs target with hbefore | hupTo
      · obtain ⟨left, right, ⟨before, after, hsamples⟩, hleft, hright⟩ :=
          ih rfl hlatest hbefore
        exact ⟨left, right, ⟨head :: before, after, by rw [hsamples]; rfl⟩, hleft, hright⟩
      · exact ⟨head, second, ⟨[], rest, rfl⟩, hlow, hupTo⟩

end Neighbours

/-! ## Vectors -/

/-- The vectors of a state that are interpolated. -/
def stateVectors : List (AircraftState → Option Vector3) :=
  [AircraftState.position, AircraftState.velocity, AircraftState.angularVelocity,
    AircraftState.linearAccelerationBody]

/-- The point at a time on the line through two values at the times of the samples. -/
def interpolant (left right : BufferedSample) (target : Secs) (l r : ℚ) : ℚ :=
  l + (r - l) * ((target - left.timestampSecs) / (right.timestampSecs - left.timestampSecs))

theorem eq_of_finiteVector {v : Vector3} {x y z : ℚ} (h : finiteVector v = some (x, y, z)) :
    v = ⟨.finite x, .finite y, .finite z⟩ := by
  obtain ⟨vx, vy, vz⟩ := v
  unfold finiteVector at h
  rcases vx with _ | _ | _ | _ <;> rcases vy with _ | _ | _ | _ <;>
    rcases vz with _ | _ | _ | _ <;> simp_all [F64.toFinite]

section Vectors
variable {slerp : Quaternion → Quaternion → ℚ → Quaternion} {left right : BufferedSample}
  {target : Secs}

theorem vector_interpolateState {vector : AircraftState → Option Vector3}
    (hvector : vector ∈ stateVectors) :
    vector (interpolateState slerp left right target) = interpolateVector (vector left.state)
      (vector right.state) (interpolationFactor left right target) := by
  simp only [stateVectors, List.mem_cons, List.not_mem_nil, or_false] at hvector
  rcases hvector with rfl | rfl | rfl | rfl <;> rfl

theorem interpolationFactor_between (hwide : epsilon < right.timestampSecs - left.timestampSecs)
    (hleft : left.timestampSecs < target) (hright : target ≤ right.timestampSecs) :
    interpolationFactor left right target =
      (target - left.timestampSecs) / (right.timestampSecs - left.timestampSecs) := by
  have hpos : 0 < right.timestampSecs - left.timestampSecs := epsilon_pos.trans hwide
  have habs : ¬|right.timestampSecs - left.timestampSecs| ≤ epsilon := by
    rw [abs_of_pos hpos]
    exact not_le.mpr hwide
  have hlow : -1 ≤ (target - left.timestampSecs) / (right.timestampSecs - left.timestampSecs) :=
    le_trans (by decide) (div_nonneg (sub_nonneg.mpr hleft.le) hpos.le)
  have hhigh : (target - left.timestampSecs) / (right.timestampSecs - left.timestampSecs) ≤ 2 :=
    le_trans ((div_le_one hpos).mpr (sub_le_sub_right hright _)) (by decide)
  unfold interpolationFactor clamp
  dsimp only
  rw [if_neg habs, max_eq_left hlow, min_eq_left hhigh]

/-- **A vector that is finite in both samples** is interpolated, component by component. -/
theorem vector_betweenFrame (hwide : epsilon < right.timestampSecs - left.timestampSecs)
    (hleft : left.timestampSecs < target) (hright : target ≤ right.timestampSecs)
    {vector : AircraftState → Option Vector3} (hvector : vector ∈ stateVectors) {l r : Vector3}
    (hl : vector left.state = some l) (hr : vector right.state = some r) {x y z x' y' z' : ℚ}
    (hlfinite : finiteVector l = some (x, y, z)) (hrfinite : finiteVector r = some (x', y', z')) :
    vector (betweenFrame slerp left right target).state =
      some ⟨.finite (interpolant left right target x x'),
        .finite (interpolant left right target y y'),
        .finite (interpolant left right target z z')⟩ := by
  unfold betweenFrame
  split_ifs with hend
  · have hpos : 0 < right.timestampSecs - left.timestampSecs := epsilon_pos.trans hwide
    have hone : ∀ a b, interpolant left right target a b = b := by
      intro a b
      unfold interpolant
      rw [hend, div_self hpos.ne', mul_one, add_sub_cancel]
    rw [hone, hone, hone, hr, eq_of_finiteVector hrfinite]
  · rw [vector_interpolateState hvector, hl, hr, interpolationFactor_between hwide hleft hright]
    unfold interpolateVector
    simp only [hlfinite, hrfinite]
    rfl

/-- A vector with a component that is not finite is that of the right sample. -/
theorem vector_betweenFrame_mixed {vector : AircraftState → Option Vector3}
    (hvector : vector ∈ stateVectors) {l r : Vector3} (hl : vector left.state = some l)
    (hr : vector right.state = some r) (hmixed : finiteVector l = none ∨ finiteVector r = none) :
    vector (betweenFrame slerp left right target).state = some r := by
  unfold betweenFrame
  split_ifs with hend
  · exact hr
  · rw [vector_interpolateState hvector, hl, hr]
    unfold interpolateVector
    rcases hmixed with hnone | hnone
    · simp only [hnone]
    · rcases hl' : finiteVector l with _ | ⟨x, y, z⟩ <;> simp only [hl', hnone]

end Vectors

/-! ## What is rendered -/

/-- The vectors of a state at a time between two samples: on the line through those of the samples,
if both are finite, else that of the right sample. -/
structure VectorsBetween (left right : BufferedSample) (target : Secs) (state : AircraftState) :
    Prop where
  finite : epsilon < right.timestampSecs - left.timestampSecs →
    ∀ vector ∈ stateVectors, ∀ l r, vector left.state = some l → vector right.state = some r →
      ∀ x y z x' y' z', finiteVector l = some (x, y, z) → finiteVector r = some (x', y', z') →
        vector state = some ⟨.finite (interpolant left right target x x'),
          .finite (interpolant left right target y y'),
          .finite (interpolant left right target z z')⟩
  mixed : ∀ vector ∈ stateVectors, ∀ l r, vector left.state = some l →
    vector right.state = some r → finiteVector l = none ∨ finiteVector r = none →
      vector state = some r

/-- A frame rendered for the time `target` from samples that begin and end with these. -/
structure Renders (slerp : Quaternion → Quaternion → ℚ → Quaternion)
    (config : LiveSmoothingConfig) (samples : List BufferedSample) (first latest : BufferedSample)
    (target : Secs) (frame : SmoothedFrame) : Prop where
  lower : first.timestampSecs ≤ frame.timestampSecs
  upper : frame.timestampSecs ≤ latest.timestampSecs + config.maxExtrapolation
  interpolated_iff : frame.source = .interpolated ↔
    2 ≤ samples.length ∧ first.timestampSecs < target ∧ target ≤ latest.timestampSecs
  pair : frame.source = .interpolated → ∃ left right, Brackets samples left right target ∧
    (∀ left' right', Brackets samples left' right' target → left' = left ∧ right' = right) ∧
    frame = betweenFrame slerp left right target ∧ VectorsBetween left right target frame.state
  -- the return behind the loop is not reached
  found : 2 ≤ samples.length → first.timestampSecs < target → target ≤ latest.timestampSecs →
    (scanFrame slerp target samples).isSome

section Rendering
variable {slerp : Quaternion → Quaternion → ℚ → Quaternion} {buffer : LiveFrameBuffer}
  {first latest left right : BufferedSample} {now : Instant} {frame : SmoothedFrame}

theorem first_le_latest {samples : List BufferedSample} (hordered : Ordered samples)
    (hfirst : samples.head? = some first) (hlatest : samples.getLast? = some latest) :
    first.timestampSecs ≤ latest.timestampSecs := by
  rcases samples with _ | ⟨head, rest⟩
  · exact nomatch hfirst
  · obtain rfl : head = first := Option.some.inj hfirst
    rcases List.mem_cons.mp (List.mem_of_getLast? hlatest) with rfl | hlatest
    · exact le_refl _
    · exact (List.rel_of_pairwise_cons hordered hlatest).le

/-- The vectors of the frame between two neighbours. -/
theorem vectorsBetween_betweenFrame {samples : List BufferedSample} {target : Secs}
    (h : Brackets samples left right target) :
    VectorsBetween left right target (betweenFrame slerp left right target).state where
  finite := fun hwide _ hvector _ _ hl hr _ _ _ _ _ _ hlfinite hrfinite =>
    vector_betweenFrame hwide h.behind h.upTo hvector hl hr hlfinite hrfinite
  mixed := fun _ hvector _ _ hl hr hmixed => vector_betweenFrame_mixed hvector hl hr hmixed

/-- **Outside the buffered time** the frame is held or extrapolated. -/
theorem smoothedFrame_outside (hfirst : buffer.samples.head? = some first)
    (hlatest : buffer.samples.getLast? = some latest)
    (hout : ¬(2 ≤ buffer.samples.length ∧ first.timestampSecs < buffer.targetAt latest now ∧
      buffer.targetAt latest now ≤ latest.timestampSecs))
    (h : buffer.smoothedFrame slerp now = some frame) :
    frame = heldFrame first ∨ frame = heldFrame latest ∨
      frame.source = .extrapolated ∧ frame.timestampSecs = buffer.targetAt latest now ∧
        latest.timestampSecs < buffer.targetAt latest now ∧
        buffer.targetAt latest now - latest.timestampSecs ≤ buffer.config.maxExtrapolation := by
  unfold smoothedFrame at h
  rw [hlatest, hfirst] at h
  dsimp only at h
  split_ifs at h with hone hheld hbeyond hmax
  · exact .inr (.inl (Option.some.inj h).symm)
  · exact .inl (Option.some.inj h).symm
  · obtain ⟨previous, -, rfl⟩ := Option.map_eq_some_iff.mp h
    exact .inr (.inr ⟨rfl, rfl, hbeyond, hmax⟩)
  · exact .inr (.inl (Option.some.inj h).symm)
  · have hpos : 0 < buffer.samples.length :=
      List.length_pos_of_mem (List.mem_of_getLast? hlatest)
    exact absurd ⟨by omega, not_le.mp hheld, not_lt.mp hbeyond⟩ hout

/-- **Every frame** of a buffer in order. -/
theorem renders_smoothedFrame (hordered : Ordered buffer.samples)
    (hmax : 0 ≤ buffer.config.maxExtrapolation) (hfirst : buffer.samples.head? = some first)
    (hlatest : buffer.samples.getLast? = some latest)
    (h : buffer.smoothedFrame slerp now = some frame) :
    Renders slerp buffer.config buffer.samples first latest (buffer.targetAt latest now) frame := by
  have hle := first_le_latest hordered hfirst hlatest
  have hscan : ∀ left right, Brackets buffer.samples left right (buffer.targetAt latest now) →
      (scanFrame slerp (buffer.targetAt latest now) buffer.samples).isSome := by
    rintro left right ⟨⟨before, after, hsamples⟩, hleft, hright⟩
    rw [hsamples] at hordered ⊢
    rw [scanFrame_between hordered hleft hright]
    rfl
  by_cases hin : 2 ≤ buffer.samples.length ∧ first.timestampSecs < buffer.targetAt latest now ∧
      buffer.targetAt latest now ≤ latest.timestampSecs
  · obtain ⟨left, right, hpair⟩ := exists_brackets hfirst hlatest hin.2.1 hin.2.2
    obtain ⟨before, after, hsamples⟩ := hpair.neighbours
    rw [smoothedFrame_between hordered hsamples hlatest hpair.behind hpair.upTo,
      Option.some.injEq] at h
    subst h
    obtain ⟨htime, hsource⟩ : (betweenFrame slerp left right
        (buffer.targetAt latest now)).timestampSecs = buffer.targetAt latest now ∧
          (betweenFrame slerp left right (buffer.targetAt latest now)).source = .interpolated := by
      unfold betweenFrame
      split_ifs <;> exact ⟨rfl, rfl⟩
    refine ⟨?_, ?_, iff_of_true hsource hin, fun _ => ⟨left, right, hpair, ?_, rfl, ?_⟩, ?_⟩
    · rw [htime]
      exact hin.2.1.le
    · rw [htime]
      exact hin.2.2.trans (le_add_of_nonneg_right hmax)
    · exact fun left' right' hpair' => hpair.unique hordered hpair'
    · exact vectorsBetween_betweenFrame hpair
    · exact fun _ _ _ => hscan left right hpair
  · obtain ⟨htime, hsource⟩ : (first.timestampSecs ≤ frame.timestampSecs ∧
        frame.timestampSecs ≤ latest.timestampSecs + buffer.config.maxExtrapolation) ∧
          frame.source ≠ .interpolated := by
      rcases smoothedFrame_outside hfirst hlatest hin h with
        rfl | rfl | ⟨hsource, htime, hbeyond, hreach⟩
      · exact ⟨⟨le_refl _, hle.trans (le_add_of_nonneg_right hmax)⟩, by simp [heldFrame]⟩
      · exact ⟨⟨hle, le_add_of_nonneg_right hmax⟩, by simp [heldFrame]⟩
      · rw [hsource, htime]
        exact ⟨⟨hle.trans hbeyond.le, sub_le_iff_le_add'.mp hreach⟩, by decide⟩
    exact ⟨htime.1, htime.2, iff_of_false hsource hin, fun h => absurd h hsource,
      fun hlen hlow hhigh => absurd ⟨hlen, hlow, hhigh⟩ hin⟩

end Rendering

/-- **The live frame buffer**, after any operations: the samples are in order, at most as many as
configured and, but for two, not older than configured, and every push is counted; and in the modes
that smooth every frame lies within the buffered time and the extrapolation, and is interpolated
exactly for a time behind the first sample and not behind the newest one, from the one pair of
neighbours around it. -/
theorem liveBuffer_spec (slerp : Quaternion → Quaternion → ℚ → Quaternion)
    {config : LiveSmoothingConfig} (hmax : 0 ≤ config.maxExtrapolation) (ops : List BufferOp) :
    let buffer := ops.foldl (LiveFrameBuffer.next slerp) (new config)
    (Pruned config buffer.samples ∧ buffer.stats.pushed = pushes ops) ∧
      (config.mode ≠ .latest → ∀ now frame, (buffer.render slerp now).2 = some frame →
        ∃ first latest, buffer.samples.head? = some first ∧
          buffer.samples.getLast? = some latest ∧ Renders slerp config buffer.samples first latest
            (buffer.targetAt latest now) frame) := by
  intro buffer
  obtain ⟨hpruned, hpushed⟩ := run_pruned slerp config ops
  have hconfig : buffer.config = config := (run_ordered slerp config ops).2
  refine ⟨⟨hpruned, hpushed⟩, fun hmode now frame hframe => ?_⟩
  have hsmoothed : buffer.smoothedFrame slerp now = some frame := by
    unfold render at hframe
    rw [hconfig] at hframe
    rcases hcase : config.mode with _ | _ | _
    · exact absurd hcase hmode
    all_goals
      rw [hcase] at hframe
      dsimp only at hframe
      split at hframe
      · exact nomatch hframe
      · next frame' hframe' =>
        rw [hframe', ← hframe]
  obtain ⟨latest, hlatest⟩ : ∃ latest, buffer.samples.getLast? = some latest := by
    rcases hlatest : buffer.samples.getLast? with _ | latest
    · unfold smoothedFrame at hsmoothed
      rw [hlatest] at hsmoothed
      exact nomatch hsmoothed
    · exact ⟨latest, rfl⟩
  obtain ⟨first, hfirst⟩ : ∃ first, buffer.samples.head? = some first := by
    rcases hsamples : buffer.samples with _ | ⟨first, rest⟩
    · rw [hsamples] at hlatest
      exact nomatch hlatest
    · exact ⟨first, rfl⟩
  refine ⟨first, latest, hfirst, hlatest, ?_⟩
  rw [← hconfig] at hmax ⊢
  exact renders_smoothedFrame hpruned.ordered hmax hfirst hlatest hsmoothed

/-! ## Two samples of a vector -/

/-- Two samples, a second apart, with these positions. -/
def positionOps (start stop : Vector3) : List BufferOp :=
  [.push (.finite 0) { position := some start } 0, .push (.finite 1) { position := some stop } 1]

/-- The spherical interpolation of an attitude and itself. -/
def leftAttitude (left _right : Quaternion) (_t : ℚ) : Quaternion := left

theorem liveBuffer_spec_straight :
    let buffer := (positionOps ⟨.finite 0, .finite 0, .finite 0⟩
      ⟨.finite 1, .finite 2, .finite 3⟩).foldl (LiveFrameBuffer.next leftAttitude) (new {})
    Pruned {} buffer.samples ∧ buffer.stats.pushed = 2 ∧
      ∃ frame, (buffer.render leftAttitude 1).2 = some frame ∧ frame.source = .interpolated ∧
        frame.state.position =
          some ⟨.finite (97 / 100), .finite (97 / 50), .finite (291 / 100)⟩ ∧
        ∃ first latest, buffer.samples.head? = some first ∧
          buffer.samples.getLast? = some latest ∧ Renders leftAttitude {} buffer.samples first
            latest (buffer.targetAt latest 1) frame := by
  intro buffer
  have hmax : 0 ≤ ({} : LiveSmoothingConfig).maxExtrapolation := by decide +kernel
  obtain ⟨⟨hpruned, hpushed⟩, hrenders⟩ := liveBuffer_spec leftAttitude hmax
    (positionOps ⟨.finite 0, .finite 0, .finite 0⟩ ⟨.finite 1, .finite 2, .finite 3⟩)
  refine ⟨hpruned, hpushed, ?_⟩
  have hshown : (buffer.render leftAttitude 1).2.map
      (fun frame => (frame.source, frame.state.position)) = some (.interpolated,
        some ⟨.finite (97 / 100), .finite (97 / 50), .finite (291 / 100)⟩) := by
    decide +kernel
  obtain ⟨frame, hframe, hframe'⟩ := Option.map_eq_some_iff.mp hshown
  obtain ⟨hsource, hposition⟩ := Prod.ext_iff.mp hframe'
  exact ⟨frame, hframe, hsource, hposition, hrenders (by decide) 1 frame hframe⟩

/-- Each component that is finite in both samples is on the line through them. -/
def ComponentsBetween (left right : BufferedSample) (target : Secs) (state : AircraftState) :
    Prop :=
  ∀ vector ∈ stateVectors, ∀ component ∈ [Vector3.x, Vector3.y, Vector3.z], ∀ a b,
    (vector left.state).map component = some (.finite a) →
    (vector right.state).map component = some (.finite b) →
      (vector state).map component = some (.finite (interpolant left right target a b))

/-- **A component is not interpolated** if another one of its vector is not finite: at `0.97` on
the way from `0` to `1` it is already `1`. -/
theorem not_componentsBetween_nan :
    let buffer := (positionOps ⟨.finite 0, .nan, .finite 0⟩
      ⟨.finite 1, .finite 2, .finite 3⟩).foldl (LiveFrameBuffer.next leftAttitude) (new {})
    ∃ left right frame, buffer.samples = [left, right] ∧
      Brackets buffer.samples left right (97 / 100) ∧ buffer.targetAt right 1 = 97 / 100 ∧
      (buffer.render leftAttitude 1).2 = some frame ∧ frame.source = .interpolated ∧
      frame.state.position = some ⟨.finite 1, .finite 2, .finite 3⟩ ∧
      ¬ComponentsBetween left right (97 / 100) frame.state := by
  intro buffer
  have hshown : (buffer.render leftAttitude 1).2.map
      (fun frame => (frame.source, frame.state.position)) = some (.interpolated,
        some ⟨.finite 1, .finite 2, .finite 3⟩) := by
    decide +kernel
  obtain ⟨frame, hframe, hframe'⟩ := Option.map_eq_some_iff.mp hshown
  obtain ⟨hsource, hposition⟩ := Prod.ext_iff.mp hframe'
  have hsamples : buffer.samples = [⟨0, 0, { position := some ⟨.finite 0, .nan, .finite 0⟩ }⟩,
      ⟨1, 1, { position := some ⟨.finite 1, .finite 2, .finite 3⟩ }⟩] := by
    decide +kernel
  refine ⟨_, _, frame, hsamples, ⟨⟨[], [], hsamples⟩, by decide +kernel, by decide +kernel⟩,
    by decide +kernel, hframe, hsource, hposition, fun h => ?_⟩
  have hx := h AircraftState.position List.mem_cons_self Vector3.x List.mem_cons_self 0 1 rfl rfl
  dsimp only at hposition
  rw [hposition] at hx
  revert hx
  decide +kernel

end FlyRuler.Msfs
