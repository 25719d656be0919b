import FlyRuler.Godot.Gear

/-!
# Live smoothing of the MSFS bridge

`bindings/msfs/src/smoothing.rs`: a ring buffer of live samples, rendered a little behind the newest
one.  A time between two samples is interpolated, a time shortly behind the newest one extrapolated,
and every field of the state goes its straight way, but the attitude, which goes along the sphere.
Time and arithmetic are exact; the spherical interpolation of `nalgebra` is a parameter.

* `run_ordered`: the timestamps in the buffer increase.
* `smoothedFrame_between`, `smoothedFrame_beyond`: what is rendered from two neighbours.
-/

namespace FlyRuler.Msfs

open FlyRuler.Pb FlyRuler.Store FlyRuler.Playback FlyRuler.Godot

inductive SmoothingMode where
  | latest
  | lowLatency
  | smooth
  deriving DecidableEq

structure LiveSmoothingConfig where
  mode : SmoothingMode := .lowLatency
  interpolationDelay : Duration := 3 / 100
  maxExtrapolation : Duration := 4 / 100
  maxBufferAge : Duration := 2
  maxSamples : ℕ := 512
  deriving DecidableEq

inductive PushResult where
  | accepted
  | updatedDuplicate
  | droppedInvalidTimestamp
  | droppedOutOfOrder
  deriving DecidableEq

inductive FrameSource where
  | latest
  | interpolated
  | extrapolated
  | held
  deriving DecidableEq

structure SmoothedFrame where
  timestampSecs : Secs
  state : AircraftState
  source : FrameSource
  deriving DecidableEq

structure SmoothingStats where
  acceptedSamples : ℕ := 0
  droppedOutOfOrder : ℕ := 0
  droppedInvalidTimestamp : ℕ := 0
  latestFrames : ℕ := 0
  interpolatedFrames : ℕ := 0
  extrapolatedFrames : ℕ := 0
  heldFrames : ℕ := 0
  deriving DecidableEq

structure BufferedSample where
  timestampSecs : Secs
  receivedAt : Instant
  state : AircraftState
  deriving DecidableEq

structure LiveFrameBuffer where
  config : LiveSmoothingConfig
  samples : List BufferedSample := []
  stats : SmoothingStats := {}
  deriving DecidableEq

/-! ## What the simulator accepts -/

inductive FrameError where
  | missingDerived
  | missingAttitude
  | nonFinite (name : String)
  | latitudeRange
  | longitudeRange
  | invalidAttitude
  deriving DecidableEq

/-- The checks of `frame_from_state`; what it builds after them cannot fail. -/
def checkFrame (state : AircraftState) : Except FrameError Unit :=
  match state.derived, state.attitude with
  | none, _ => .error .missingDerived
  | some _, none => .error .missingAttitude
  | some derived, some attitude =>
    match derived.lat.toFinite, derived.lon.toFinite, derived.altitude.toFinite with
    | none, _, _ => .error (.nonFinite "latitude")
    | some _, none, _ => .error (.nonFinite "longitude")
    | some _, some _, none => .error (.nonFinite "altitude")
    | some lat, some lon, some _ =>
      if ¬(-90 ≤ lat ∧ lat ≤ 90) then .error .latitudeRange
      else if ¬(-180 ≤ lon ∧ lon ≤ 180) then .error .longitudeRange
      else if !isAttitude attitude then .error .invalidAttitude
      else .ok ()

/-! ## Interpolation -/

def lerp (left right t : ℚ) : ℚ := left + (right - left) * t

/-- `lerp` in exact arithmetic. -/
def exactLerp (left right t : ℚ) : F64 := .finite (lerp left right t)

def finiteLerpOrNearest (left right : F64) (t : ℚ) : F64 :=
  match left.toFinite, right.toFinite with
  | some l, some r => .finite (lerp l r t)
  | _, some _ => right
  | _, none => left

/-- `interpolate_option`, with `lerp` of finite doubles as the parameter `lerpF64`. -/
def interpolateOption {τ : Type} (lerpF64 : ℚ → ℚ → τ → F64) (left right : Option F64) (t : τ) :
    Option F64 :=
  match left.bind F64.toFinite, right.bind F64.toFinite with
  | some left, some right => some (lerpF64 left right t)
  | _, some right => some (.finite right)
  | some left, none => some (.finite left)
  | none, none => none

/-- The components of a vector, if all are finite. -/
def finiteVector (value : Vector3) : Option (ℚ × ℚ × ℚ) :=
  match value.x.toFinite, value.y.toFinite, value.z.toFinite with
  | some x, some y, some z => some (x, y, z)
  | _, _, _ => none

def interpolateVector (left right : Option Vector3) (t : ℚ) : Option Vector3 :=
  match left, right with
  | some left, some right =>
    match finiteVector left, finiteVector right with
    | some (x, y, z), some (x', y', z') =>
      some ⟨.finite (lerp x x' t), .finite (lerp y y' t), .finite (lerp z z' t)⟩
    | _, _ => some right
  | none, some right => some right
  | some left, none => some left
  | none, none => none

def interpolateQuaternion (slerp : Quaternion → Quaternion → ℚ → Quaternion)
    (left right : Option Quaternion) (t : ℚ) : Option Quaternion :=
  match left, right with
  | some left, some right =>
    if isAttitude left && isAttitude right then some (slerp left right t) else some right
  | none, some right => some right
  | some left, none => some left
  | none, none => none

def interpolateDerived (left right : Option DerivedState) (t : ℚ) : Option DerivedState :=
  match left, right with
  | some left, some right => some
    { lat := finiteLerpOrNearest left.lat right.lat t
      lon := finiteLerpOrNearest left.lon right.lon t
      altitude := finiteLerpOrNearest left.altitude right.altitude t
      alpha := finiteLerpOrNearest left.alpha right.alpha t
      beta := finiteLerpOrNearest left.beta right.beta t
      tas := finiteLerpOrNearest left.tas right.tas t
      eas := finiteLerpOrNearest left.eas right.eas t
      gamma := finiteLerpOrNearest left.gamma right.gamma t
      chi := finiteLerpOrNearest left.chi right.chi t
      ias := interpolateOption exactLerp left.ias right.ias t
      cas := interpolateOption exactLerp left.cas right.cas t
      mach := interpolateOption exactLerp left.mach right.mach t
      groundSpeed := interpolateOption exactLerp left.groundSpeed right.groundSpeed t
      verticalSpeed := interpolateOption exactLerp left.verticalSpeed right.verticalSpeed t
      dynamicPressure := interpolateOption exactLerp left.dynamicPressure right.dynamicPressure t
      normalLoadFactor :=
        interpolateOption exactLerp left.normalLoadFactor right.normalLoadFactor t }
  | none, some right => some right
  | some left, none => some left
  | none, none => none

def interpolateControls (left right : Option ControlSurfaceState) (t : ℚ) :
    Option ControlSurfaceState :=
  match left, right with
  | some left, some right => some
    { aileronLeftRad := interpolateOption exactLerp left.aileronLeftRad right.aileronLeftRad t
      aileronRightRad := interpolateOption exactLerp left.aileronRightRad right.aileronRightRad t
      elevatorRad := interpolateOption exactLerp left.elevatorRad right.elevatorRad t
      rudderRad := interpolateOption exactLerp left.rudderRad right.rudderRad t
      flapsLeftRatio := interpolateOption exactLerp left.flapsLeftRatio right.flapsLeftRatio t
      flapsRightRatio := interpolateOption exactLerp left.flapsRightRatio right.flapsRightRatio t
      spoilersRatio := interpolateOption exactLerp left.spoilersRatio right.spoilersRatio t }
  | none, some right => some right
  | some left, none => some left
  | none, none => none

section Propulsors
variable {τ : Type} (lerpF64 : ℚ → ℚ → τ → F64)

/-- The numbers of a propulsor of both samples, put into the entry that has its id. -/
def interpolatePropulsor (left right : PropulsorState) (t : τ) (propulsor : PropulsorState) :
    PropulsorState :=
  { propulsor with
    throttleRatio := interpolateOption lerpF64 left.throttleRatio right.throttleRatio t
    rpm := interpolateOption lerpF64 left.rpm right.rpm t
    bladePitchRad := interpolateOption lerpF64 left.bladePitchRad right.bladePitchRad t
    thrustNewton := interpolateOption lerpF64 left.thrustNewton right.thrustNewton t
    torqueNewtonMeter :=
      interpolateOption lerpF64 left.torqueNewtonMeter right.torqueNewtonMeter t }

/-- The loop of `interpolate_propulsors` for one propulsor of the left sample. -/
def mergePropulsor (right : List PropulsorState) (t : τ) (propulsors : List PropulsorState)
    (left : PropulsorState) : List PropulsorState :=
  match right.find? fun candidate => candidate.propulsorId == left.propulsorId with
  | none =>
    if propulsors.any fun candidate => candidate.propulsorId == left.propulsorId then propulsors
    else propulsors ++ [left]
  | some match' =>
    propulsors.modify
      (propulsors.findIdx fun candidate => candidate.propulsorId == left.propulsorId)
      (interpolatePropulsor lerpF64 left match' t)

def interpolatePropulsors (left right : List PropulsorState) (t : τ) : List PropulsorState :=
  (left.foldl (mergePropulsor lerpF64 right t) right).insertionSort fun a b =>
    a.propulsorId ≤ b.propulsorId

end Propulsors

theorem epsilon_pos : 0 < epsilon := by decide +kernel

/-- How far from the left sample to the right one a time is. -/
def interpolationFactor (left right : BufferedSample) (target : Secs) : ℚ :=
  let span := right.timestampSecs - left.timestampSecs
  if |span| ≤ epsilon then 1 else clamp ((target - left.timestampSecs) / span) (-1) 2

def interpolateState (slerp : Quaternion → Quaternion → ℚ → Quaternion)
    (left right : BufferedSample) (target : Secs) : AircraftState :=
  let t := interpolationFactor left right target
  { position := interpolateVector left.state.position right.state.position t
    velocity := interpolateVector left.state.velocity right.state.velocity t
    attitude := interpolateQuaternion slerp left.state.attitude right.state.attitude t
    angularVelocity :=
      interpolateVector left.state.angularVelocity right.state.angularVelocity t
    derived := interpolateDerived left.state.derived right.state.derived t
    controlSurfaces :=
      interpolateControls left.state.controlSurfaces right.state.controlSurfaces t
    linearAccelerationBody := interpolateVector left.state.linearAccelerationBody
      right.state.linearAccelerationBody t
    propulsors :=
      interpolatePropulsors exactLerp left.state.propulsors right.state.propulsors t }

/-! ## The buffer -/

def elapsedSecs (now since : Instant) : ℚ := max (now - since) 0

/-- Drop samples from the front while there are too many. -/
def pruneCount (maxSamples : ℕ) : List BufferedSample → List BufferedSample
  | [] => []
  | first :: rest =>
    if maxSamples < (first :: rest).length then pruneCount maxSamples rest else first :: rest

/-- Drop samples from the front while they are too old and there are more than two. -/
def pruneAge (minTimestamp : Secs) : List BufferedSample → List BufferedSample
  | [] => []
  | first :: rest =>
    if first.timestampSecs < minTimestamp ∧ 2 < (first :: rest).length then
      pruneAge minTimestamp rest
    else first :: rest

namespace LiveFrameBuffer

def new (config : LiveSmoothingConfig) : LiveFrameBuffer := { config := config }

def prune (config : LiveSmoothingConfig) (samples : List BufferedSample) : List BufferedSample :=
  let samples := pruneCount config.maxSamples samples
  match samples.getLast? with
  | none => samples
  | some latest => pruneAge (latest.timestampSecs - config.maxBufferAge) samples

variable (buffer : LiveFrameBuffer)

/-- Append a sample that is newer than all others. -/
def accept (sample : BufferedSample) : LiveFrameBuffer × PushResult :=
  ({ buffer with
    samples := prune buffer.config (buffer.samples ++ [sample])
    stats := { buffer.stats with acceptedSamples := buffer.stats.acceptedSamples + 1 } },
    .accepted)

def push (timestampSecs : F64) (state : AircraftState) (receivedAt : Instant) :
    LiveFrameBuffer × PushResult :=
  match timestampSecs.toFinite with
  | none =>
    ({ buffer with stats := { buffer.stats with
        droppedInvalidTimestamp := buffer.stats.droppedInvalidTimestamp + 1 } },
      .droppedInvalidTimestamp)
  | some timestamp =>
    match buffer.samples.getLast? with
    | none => buffer.accept ⟨timestamp, receivedAt, state⟩
    | some latest =>
      if timestamp < latest.timestampSecs then
        ({ buffer with stats := { buffer.stats with
            droppedOutOfOrder := buffer.stats.droppedOutOfOrder + 1 } },
          .droppedOutOfOrder)
      else if timestamp = latest.timestampSecs then
        ({ buffer with
          samples := buffer.samples.dropLast ++ [⟨latest.timestampSecs, receivedAt, state⟩]
          stats := { buffer.stats with acceptedSamples := buffer.stats.acceptedSamples + 1 } },
          .updatedDuplicate)
      else buffer.accept ⟨timestamp, receivedAt, state⟩

def latestFrame : Option SmoothedFrame :=
  buffer.samples.getLast?.map fun sample => ⟨sample.timestampSecs, sample.state, .latest⟩

variable (slerp : Quaternion → Quaternion → ℚ → Quaternion)

/-- The loop of `smoothed_frame`: the first sample that is not before the target. -/
def scanFrame (target : Secs) : List BufferedSample → Option SmoothedFrame
  | left :: right :: rest =>
    if target ≤ right.timestampSecs then
      if target = right.timestampSecs then
        some ⟨right.timestampSecs, right.state, .interpolated⟩
      else some ⟨target, interpolateState slerp left right target, .interpolated⟩
    else scanFrame target (right :: rest)
  | _ => none

/-- A sample as it is. -/
def heldFrame (sample : BufferedSample) : SmoothedFrame :=
  ⟨sample.timestampSecs, sample.state, .held⟩

/-- The source time that is shown at the time `now`. -/
def targetAt (latest : BufferedSample) (now : Instant) : Secs :=
  latest.timestampSecs + elapsedSecs now latest.receivedAt - buffer.config.interpolationDelay

def smoothedFrame (now : Instant) : Option SmoothedFrame :=
  match buffer.samples.getLast?, buffer.samples.head? with
  | some latest, some first =>
    let target := buffer.targetAt latest now
    if buffer.samples.length = 1 then some (heldFrame latest)
    else if target ≤ first.timestampSecs then some (heldFrame first)
    else if latest.timestampSecs < target then
      if target - latest.timestampSecs ≤ buffer.config.maxExtrapolation then
        (buffer.samples[buffer.samples.length - 2]?).map fun previous =>
          ⟨target, interpolateState slerp previous latest target, .extrapolated⟩
      else some (heldFrame latest)
    else some ((scanFrame slerp target buffer.samples).getD (heldFrame latest))
  | _, _ => none

/-- The statistics after a rendered frame. -/
def countFrame (stats : SmoothingStats) : FrameSource → SmoothingStats
  | .latest => { stats with latestFrames := stats.latestFrames + 1 }
  | .interpolated => { stats with interpolatedFrames := stats.interpolatedFrames + 1 }
  | .extrapolated => { stats with extrapolatedFrames := stats.extrapolatedFrames + 1 }
  | .held => { stats with heldFrames := stats.heldFrames + 1 }

def render (now : Instant) : LiveFrameBuffer × Option SmoothedFrame :=
  let frame := match buffer.config.mode with
    | .latest => buffer.latestFrame
    | .lowLatency | .smooth => buffer.smoothedFrame slerp now
  match frame with
  | none => (buffer, none)
  | some frame => ({ buffer with stats := countFrame buffer.stats frame.source }, some frame)

end LiveFrameBuffer

/-! ## The order of the samples -/

/-- An operation of the buffer. -/
inductive BufferOp where
  | push (timestampSecs : F64) (state : AircraftState) (receivedAt : Instant)
  | render (now : Instant)
  | reset

namespace LiveFrameBuffer

variable (slerp : Quaternion → Quaternion → ℚ → Quaternion)

def reset (buffer : LiveFrameBuffer) : LiveFrameBuffer := { config := buffer.config }

/-- One operation. -/
def next (buffer : LiveFrameBuffer) : BufferOp → LiveFrameBuffer
  | .push timestampSecs state receivedAt => (buffer.push timestampSecs state receivedAt).1
  | .render now => (buffer.render slerp now).1
  | .reset => buffer.reset

/-- The timestamps increase. -/
def Ordered (samples : List BufferedSample) : Prop :=
  samples.Pairwise fun a b => a.timestampSecs < b.timestampSecs

theorem pruneCount_suffix (maxSamples : ℕ) (samples : List BufferedSample) :
    pruneCount maxSamples samples <:+ samples := by
  induction samples with
  | nil => exact List.suffix_refl _
  | cons first rest ih =>
    rw [pruneCount]
    split_ifs
    · exact ih.trans (List.suffix_cons first rest)
    · exact List.suffix_refl _

theorem pruneAge_suffix (minTimestamp : Secs) (samples : List BufferedSample) :
    pruneAge minTimestamp samples <:+ samples := by
  induction samples with
  | nil => exact List.suffix_refl _
  | cons first rest ih =>
    rw [pruneAge]
    split_ifs
    · exact ih.trans (List.suffix_cons first rest)
    · exact List.suffix_refl _

theorem prune_suffix (config : LiveSmoothingConfig) (samples : List BufferedSample) :
    prune config samples <:+ samples := by
  unfold prune
  dsimp only
  split
  · exact pruneCount_suffix _ _
  · exact (pruneAge_suffix _ _).trans (pruneCount_suffix _ _)

@[simp] theorem next_config (buffer : LiveFrameBuffer) (op : BufferOp) :
    (buffer.next slerp op).config = buffer.config := by
  rcases op with ⟨timestampSecs, state, receivedAt⟩ | now | _
  · unfold next push accept
    dsimp only
    split
    · rfl
    · split
      · rfl
      · split_ifs <;> rfl
  · unfold next render
    dsimp only
    split <;> rfl
  · rfl

/-- A sample behind the newest one. -/
theorem Ordered.concat {samples : List BufferedSample} (h : Ordered samples)
    {sample : BufferedSample} (hlater : ∀ latest, samples.getLast? = some latest →
      latest.timestampSecs < sample.timestampSecs) : Ordered (samples ++ [sample]) := by
  refine List.pairwise_append.mpr ⟨h, List.pairwise_singleton _ _, fun a ha b hb => ?_⟩
  rw [List.mem_singleton.mp hb]
  rcases List.eq_nil_or_concat samples with rfl | ⟨earlier, latest, rfl⟩
  · exact absurd ha List.not_mem_nil
  · rw [List.concat_eq_append] at h ha hlater
    have hlatest := hlater latest List.getLast?_concat
    rcases List.mem_append.mp ha with ha | ha
    · exact ((List.pairwise_append.mp h).2.2 a ha latest List.mem_cons_self).trans hlatest
    · rwa [List.mem_singleton.mp ha]

/-- The newest sample replaced by one with its timestamp. -/
theorem Ordered.replace_last {samples : List BufferedSample} (h : Ordered samples)
    {latest sample : BufferedSample} (hlatest : samples.getLast? = some latest)
    (hsame : sample.timestampSecs = latest.timestampSecs) :
    Ordered (samples.dropLast ++ [sample]) := by
  rcases List.eq_nil_or_concat samples with rfl | ⟨earlier, last, rfl⟩
  · exact nomatch hlatest
  · rw [List.concat_eq_append] at h hlatest ⊢
    rw [List.getLast?_concat, Option.some.injEq] at hlatest
    subst hlatest
    obtain ⟨hearlier, -, hlast⟩ := List.pairwise_append.mp h
    rw [List.dropLast_concat]
    refine List.pairwise_append.mpr ⟨hearlier, List.pairwise_singleton _ _, fun a ha b hb => ?_⟩
    rw [List.mem_singleton.mp hb, hsame]
    exact hlast a ha last List.mem_cons_self

/-- **What `push` does**: it drops the sample, replaces the newest one, or appends a newer one. -/
theorem push_cases (buffer : LiveFrameBuffer) (timestampSecs : F64) (state : AircraftState)
    (receivedAt : Instant) :
    (buffer.push timestampSecs state receivedAt).1.samples = buffer.samples ∨
      (∃ latest, buffer.samples.getLast? = some latest ∧
        (buffer.push timestampSecs state receivedAt).1.samples =
          buffer.samples.dropLast ++ [⟨latest.timestampSecs, receivedAt, state⟩]) ∨
      ∃ timestamp, (∀ latest, buffer.samples.getLast? = some latest →
          latest.timestampSecs < timestamp) ∧
        (buffer.push timestampSecs state receivedAt).1.samples =
          prune buffer.config (buffer.samples ++ [⟨timestamp, receivedAt, state⟩]) := by
  unfold push
  split
  · exact .inl rfl
  · next timestamp _ =>
    split
    · next hnone =>
      refine .inr (.inr ⟨timestamp, fun latest hlatest => ?_, rfl⟩)
      rw [hnone] at hlatest
      exact nomatch hlatest
    · next latest hlatest =>
      split_ifs with hbefore hsame
      · exact .inl rfl
      · exact .inr (.inl ⟨latest, hlatest, rfl⟩)
      · refine .inr (.inr ⟨timestamp, fun latest' hlatest' => ?_, rfl⟩)
        rw [hlatest, Option.some.injEq] at hlatest'
        rw [← hlatest']
        exact lt_of_le_of_ne (not_lt.mp hbefore) (Ne.symm hsame)

@[simp] theorem render_samples (buffer : LiveFrameBuffer) (now : Instant) :
    (buffer.render slerp now).1.samples = buffer.samples := by
  unfold render
  dsimp only
  split <;> rfl

/-- **One operation** keeps the samples in order. -/
theorem Ordered.next {buffer : LiveFrameBuffer} (h : Ordered buffer.samples) (op : BufferOp) :
    Ordered (buffer.next slerp op).samples := by
  rcases op with ⟨timestampSecs, state, receivedAt⟩ | now | _
  · show Ordered (buffer.push timestampSecs state receivedAt).1.samples
    rcases push_cases buffer timestampSecs state receivedAt with
      hsame | ⟨latest, hlatest, hreplaced⟩ | ⟨timestamp, hlater, happended⟩
    · rw [hsame]
      exact h
    · rw [hreplaced]
      exact h.replace_last hlatest rfl
    · rw [happended]
      exact List.Pairwise.sublist (prune_suffix _ _).sublist (h.concat hlater)
  · show Ordered (buffer.render slerp now).1.samples
    rw [render_samples]
    exact h
  · exact List.Pairwise.nil

/-- **In every buffer the timestamps increase.** -/
theorem run_ordered (config : LiveSmoothingConfig) (ops : List BufferOp) :
    Ordered (ops.foldl (LiveFrameBuffer.next slerp) (new config)).samples ∧
      (ops.foldl (LiveFrameBuffer.next slerp) (new config)).config = config := by
  induction ops using List.reverseRecOn with
  | nil => exact ⟨List.Pairwise.nil, rfl⟩
  | append_singleton ops op ih =>
    rw [List.foldl_concat]
    exact ⟨ih.1.next slerp op, by rw [next_config, ih.2]⟩

/-! ## What is rendered -/

variable {slerp}

theorem scanFrame_timestamp {target : Secs} {samples : List BufferedSample} {frame : SmoothedFrame}
    (h : scanFrame slerp target samples = some frame) :
    frame.timestampSecs = target ∧ frame.source = .interpolated := by
  induction samples with
  | nil => exact nomatch h
  | cons left rest ih =>
    rcases rest with _ | ⟨right, rest⟩
    · exact nomatch h
    · rw [scanFrame] at h
      split_ifs at h with hle heq
      · cases h
        exact ⟨heq.symm, rfl⟩
      · cases h
        exact ⟨rfl, rfl⟩
      · exact ih h

/-- What is shown of two neighbours at a time between them. -/
def betweenFrame (slerp : Quaternion → Quaternion → ℚ → Quaternion) (left right : BufferedSample)
    (target : Secs) : SmoothedFrame :=
  if target = right.timestampSecs then ⟨target, right.state, .interpolated⟩
  else ⟨target, interpolateState slerp left right target, .interpolated⟩

theorem scanFrame_between {target : Secs} {before after : List BufferedSample}
    {left right : BufferedSample} (hordered : Ordered (before ++ left :: right :: after))
    (hleft : left.timestampSecs < target) (hright : target ≤ right.timestampSecs) :
    scanFrame slerp target (before ++ left :: right :: after) =
      some (betweenFrame slerp left right target) := by
  induction before with
  | nil =>
    show scanFrame slerp target (left :: right :: after) = _
    unfold betweenFrame
    rw [scanFrame, if_pos hright]
    split_ifs with heq
    · rw [heq]
    · rfl
  | cons first before ih =>
    have hrest := (List.pairwise_cons.mp hordered).2
    -- the second sample is still not after `left`
    obtain ⟨second, rest, hsplit, hbefore⟩ : ∃ second rest,
        before ++ left :: right :: after = second :: rest ∧ second.timestampSecs < target := by
      rcases before with _ | ⟨second, before⟩
      · exact ⟨left, right :: after, rfl, hleft⟩
      · refine ⟨second, before ++ left :: right :: after, rfl, ?_⟩
        exact (List.rel_of_pairwise_cons hrest (by simp)).trans hleft
    rw [List.cons_append, hsplit, scanFrame, if_neg (not_le.mpr hbefore), ← hsplit]
    exact ih hrest

variable {buffer : LiveFrameBuffer} {before after : List BufferedSample}
  {left right latest : BufferedSample} {now : Instant}

theorem neighbours_lt (hordered : Ordered buffer.samples)
    (hsamples : buffer.samples = before ++ left :: right :: after) :
    left.timestampSecs < right.timestampSecs := by
  rw [hsamples] at hordered
  exact List.rel_of_pairwise_cons (List.pairwise_append.mp hordered).2.1 List.mem_cons_self

theorem latest_ge (hordered : Ordered buffer.samples)
    (hsamples : buffer.samples = before ++ left :: right :: after)
    (hlatest : buffer.samples.getLast? = some latest) :
    right.timestampSecs ≤ latest.timestampSecs := by
  rw [hsamples] at hordered
  rcases List.eq_nil_or_concat after with rfl | ⟨middle, last, rfl⟩
  · rw [hsamples] at hlatest
    obtain rfl : right = latest := by simpa using hlatest
    exact le_refl _
  · rw [hsamples] at hlatest
    rw [List.concat_eq_append, ← List.cons_append, ← List.cons_append, ← List.append_assoc,
      List.getLast?_concat] at hlatest
    obtain rfl : last = latest := Option.some.inj hlatest
    have hrest := (List.pairwise_cons.mp (List.pairwise_append.mp hordered).2.1).2
    exact (List.rel_of_pairwise_cons hrest (by simp)).le

/-- **Between two neighbours** the frame is interpolated from them. -/
theorem smoothedFrame_between (hordered : Ordered buffer.samples)
    (hsamples : buffer.samples = before ++ left :: right :: after)
    (hlatest : buffer.samples.getLast? = some latest)
    (hleft : left.timestampSecs < buffer.targetAt latest now)
    (hright : buffer.targetAt latest now ≤ right.timestampSecs) :
    buffer.smoothedFrame slerp now =
      some (betweenFrame slerp left right (buffer.targetAt latest now)) := by
  have hnewest := latest_ge hordered hsamples hlatest
  have hlength : buffer.samples.length ≠ 1 := by
    rw [hsamples, List.length_append, List.length_cons, List.length_cons]
    omega
  obtain ⟨first, hfirst, hbefore⟩ : ∃ first, buffer.samples.head? = some first ∧
      first.timestampSecs < buffer.targetAt latest now := by
    rw [hsamples] at hordered ⊢
    rcases before with _ | ⟨first, before⟩
    · exact ⟨left, rfl, hleft⟩
    · refine ⟨first, rfl, (List.rel_of_pairwise_cons hordered (by simp)).trans hleft⟩
  unfold smoothedFrame
  rw [hlatest, hfirst]
  dsimp only
  rw [if_neg hlength, if_neg (not_le.mpr hbefore), if_neg (not_lt.mpr (hright.trans hnewest))]
  rw [hsamples] at hordered ⊢
  rw [scanFrame_between hordered hleft hright, Option.getD_some]

/-- **Shortly behind the newest sample** the frame is extrapolated from the last two. -/
theorem smoothedFrame_beyond (hordered : Ordered buffer.samples)
    (hsamples : buffer.samples = before ++ [left, right])
    (hright : right.timestampSecs < buffer.targetAt right now)
    (hmax : buffer.targetAt right now - right.timestampSecs ≤ buffer.config.maxExtrapolation) :
    buffer.smoothedFrame slerp now = some ⟨buffer.targetAt right now,
      interpolateState slerp left right (buffer.targetAt right now), .extrapolated⟩ := by
  have hlatest : buffer.samples.getLast? = some right := by
    rw [hsamples]
    simp
  have hlength : buffer.samples.length ≠ 1 := by
    rw [hsamples]
    simp
  have hprevious : buffer.samples[buffer.samples.length - 2]? = some left := by
    rw [hsamples]
    simp
  obtain ⟨first, hfirst, hbefore⟩ : ∃ first, buffer.samples.head? = some first ∧
      first.timestampSecs < buffer.targetAt right now := by
    rw [hsamples] at hordered ⊢
    rcases before with _ | ⟨first, before⟩
    · exact ⟨left, rfl, (List.rel_of_pairwise_cons hordered (by simp)).trans hright⟩
    · exact ⟨first, rfl, (List.rel_of_pairwise_cons hordered (by simp)).trans hright⟩
  unfold smoothedFrame
  rw [hlatest, hfirst]
  dsimp only
  rw [if_neg hlength, if_neg (not_le.mpr hbefore), if_pos hright, if_pos hmax, hprevious]
  rfl

/-- **A frame that is not held** shows the target, which an extrapolated one has behind the newest
sample. -/
theorem smoothedFrame_cases {frame : SmoothedFrame}
    (h : buffer.smoothedFrame slerp now = some frame)
    (hlatest : buffer.samples.getLast? = some latest) :
    frame.source = .held ∨
      frame.source = .interpolated ∧ frame.timestampSecs = buffer.targetAt latest now ∨
      frame.source = .extrapolated ∧ frame.timestampSecs = buffer.targetAt latest now ∧
        latest.timestampSecs < buffer.targetAt latest now ∧
        buffer.targetAt latest now - latest.timestampSecs ≤ buffer.config.maxExtrapolation := by
  unfold smoothedFrame at h
  rw [hlatest] at h
  split at h
  · next first hlast hfirst =>
    cases hlast
    dsimp only at h
    split_ifs at h with hone hfirst hbeyond hmax
    · cases h
      exact .inl rfl
    · cases h
      exact .inl rfl
    · obtain ⟨previous, -, rfl⟩ := Option.map_eq_some_iff.mp h
      exact .inr (.inr ⟨rfl, rfl, hbeyond, hmax⟩)
    · cases h
      exact .inl rfl
    · rcases hscan : scanFrame slerp (buffer.targetAt latest now) buffer.samples with _ | found
      · rw [hscan] at h
        cases h
        exact .inl rfl
      · rw [hscan] at h
        cases h
        obtain ⟨htime, hsource⟩ := scanFrame_timestamp hscan
        exact .inr (.inl ⟨hsource, htime⟩)
  · exact nomatch h

end LiveFrameBuffer

end FlyRuler.Msfs
