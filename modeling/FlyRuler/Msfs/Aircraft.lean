import FlyRuler.Lib.Run
import FlyRuler.Msfs.AiRegistry
import FlyRuler.Msfs.GearTracker
import FlyRuler.Msfs.LiveBuffer
import FlyRuler.Playback.Reachable

/-!
# The runtime of an aircraft in the MSFS bridge

`process` of `bindings/msfs/src/aircraft.rs` shows an aircraft in the simulator, once for every
playback snapshot: in live mode through the smoothing buffer, in replay as it is resolved.  Between
two calls the timeline may be replaced.  The buffer is reset when the mode of the snapshot is
another one than at the last call; a replacement that the bridge has not seen in another mode leaves
samples of the old timeline in it.

* `process_spec`: what one call does to the buffer.
* `Inv.step`: every buffered sample is from the timeline of the last call.
* `follows_run`: what holds of the live calls of a run whose replacements are seen.
-/

namespace FlyRuler.Msfs.Aircraft

open FlyRuler.Pb FlyRuler.Store FlyRuler.Playback FlyRuler.Lib.Run

/-! ## The runtime -/

structure AircraftRuntime where
  smoother : LiveFrameBuffer
  lastSampleKey : Option (Secs × ℕ) := none
  lastState : Option AircraftState := none
  staleReported : Bool := false
  gearEvents : GearEventTracker := {}
  lastPlaybackMode : Option PlaybackMode := none

/-- Whether the simulator takes a gear command and a pose. -/
structure Answers where
  gear : GearCommand → Bool
  pose : AircraftState → Bool

structure ProcessArgs where
  store : TimeSeriesStore
  playbackState : PlaybackSnapshot
  aircraftId : AircraftId
  loopStart : Instant
  -- the clock when the age of the live state is asked for
  clock : Instant
  staleTimeout : Duration
  smoothingMode : SmoothingMode
  answers : Answers

/-- What a call pushed and rendered, and whether it answers `Ok(())`. -/
structure Outcome where
  pushed : Option PushResult := none
  rendered : Option SmoothedFrame := none
  ok : Bool := true

namespace AircraftRuntime

def new (smoothing : LiveSmoothingConfig) : AircraftRuntime :=
  { smoother := LiveFrameBuffer.new smoothing }

variable (runtime : AircraftRuntime)

def resetTimelineState : AircraftRuntime :=
  { smoother := runtime.smoother.reset, lastPlaybackMode := runtime.lastPlaybackMode }

/-- The start of `process`: another mode resets. -/
def enterMode (mode : PlaybackMode) : AircraftRuntime :=
  if runtime.lastPlaybackMode ≠ some mode then
    { runtime.resetTimelineState with lastPlaybackMode := some mode }
  else runtime

/-- The gear commands, up to the first that fails. -/
def applyGear (args : ProcessArgs) : AircraftRuntime × Bool :=
  match args.playbackState.cursorSecs with
  | none => (runtime, true)
  | some cursor =>
    let found := runtime.gearEvents.commandsToApply args.store args.aircraftId
      args.playbackState.mode (.finite cursor) args.playbackState.revision
    ({ runtime with gearEvents := found.1 }, found.2.all args.answers.gear)

def applyState (answers : Answers) (state : AircraftState) (source : Option FrameSource)
    (liveStale : Bool) : AircraftRuntime × Bool :=
  match checkFrame state with
  | .ok _ =>
    if answers.pose state then
      (if source = some .held ∧ liveStale ∧ !runtime.staleReported then
        { runtime with staleReported := true }
      else runtime, true)
    else (runtime, false)
  | .error _ => (runtime, true)

def rawChanged (sample : TimestampedState) (revision : ℕ) : Bool :=
  decide (runtime.lastSampleKey ≠ some (sample.stamp, revision)) ||
    decide (runtime.lastState ≠ some sample.item)

/-- The push of a sample that has changed. -/
def pushSample (sample : TimestampedState) (revision : ℕ) (loopStart : Instant) :
    AircraftRuntime × Option PushResult :=
  if runtime.rawChanged sample revision then
    let pushed := runtime.smoother.push (.finite sample.stamp) sample.item loopStart
    ({ runtime with
      smoother := pushed.1
      staleReported := match pushed.2 with
        | .accepted | .updatedDuplicate => false
        | _ => runtime.staleReported
      lastSampleKey := some (sample.stamp, revision)
      lastState := some sample.item }, some pushed.2)
  else (runtime, none)

variable (slerp : Quaternion → Quaternion → ℚ → Quaternion)

/-- `process` in live mode, once the sample is resolved. -/
def processLive (args : ProcessArgs) (sample : TimestampedState) : AircraftRuntime × Outcome :=
  let liveStale := args.store.liveStateIsStale args.clock args.aircraftId args.staleTimeout
  let runtime := if liveStale then runtime else { runtime with staleReported := false }
  let rawChanged := runtime.rawChanged sample args.playbackState.revision
  let pushed := runtime.pushSample sample args.playbackState.revision args.loopStart
  let runtime := pushed.1
  if args.smoothingMode ≠ .latest ∨ rawChanged then
    let rendered := runtime.smoother.render slerp args.loopStart
    let runtime := { runtime with smoother := rendered.1 }
    match rendered.2 with
    | none => (runtime, { pushed := pushed.2 })
    | some smoothed =>
      let applied := runtime.applyState args.answers smoothed.state (some smoothed.source) liveStale
      (applied.1, { pushed := pushed.2, rendered := some smoothed, ok := applied.2 })
  else if liveStale ∧ !runtime.staleReported then
    ({ runtime with staleReported := true }, { pushed := pushed.2 })
  else (runtime, { pushed := pushed.2 })

/-- `process` in replay, once the sample is resolved. -/
def processReplay (args : ProcessArgs) (sample : TimestampedState) : AircraftRuntime × Outcome :=
  if runtime.rawChanged sample args.playbackState.revision then
    let applied := runtime.applyState args.answers sample.item none false
    if applied.2 then
      ({ applied.1 with
        lastSampleKey := some (sample.stamp, args.playbackState.revision)
        lastState := some sample.item
        staleReported := false }, {})
    else (applied.1, { ok := false })
  else (runtime, {})

def process (args : ProcessArgs) : AircraftRuntime × Outcome :=
  let geared := (runtime.enterMode args.playbackState.mode).applyGear args
  if !geared.2 then (geared.1, { ok := false })
  else
    match resolveSample args.store args.playbackState args.aircraftId with
    | none => (geared.1, {})
    | some sample =>
      if args.playbackState.mode = .live then geared.1.processLive slerp args sample
      else geared.1.processReplay args sample

end AircraftRuntime

/-! ## The bridge and the timeline -/

/-- A call of `process`: the time of the snapshot before it and the rest of its arguments. -/
structure Call where
  now : Instant
  loopStart : Instant
  clock : Instant
  staleTimeout : Duration
  smoothingMode : SmoothingMode
  answers : Answers

/-- What happens to the runtime of an aircraft and to the timeline it shows.  A clear or a load
replaces the store and resets the playback. -/
inductive BridgeOp where
  | control (op : ControlOp) (now : Instant)
  | append (op : AppendOp)
  | clear
  | load (saved : TimeSeriesStore)
  | reset
  | process (call : Call)

/-- The playback and the runtime, with the number of the timeline, that of the last call, and for
each buffered sample that of the timeline it is from. -/
structure World where
  controller : PlaybackController
  runtime : AircraftRuntime
  timeline : ℕ := 0
  lastSeen : ℕ := 0
  origins : List ℕ := []

/-- The origins after a push that leaves so many samples. -/
def originsAfter (timeline length : ℕ) (origins : List ℕ) : Option PushResult → List ℕ
  | some .accepted => (origins ++ [timeline]).drop (origins.length + 1 - length)
  | some .updatedDuplicate => origins.dropLast ++ [timeline]
  | _ => origins

namespace World

def start (store : TimeSeriesStore) (config : ReplayConfig) (smoothing : LiveSmoothingConfig) :
    World :=
  { controller := .new store config, runtime := .new smoothing }

variable (slerp : Quaternion → Quaternion → ℚ → Quaternion) (aircraftId : AircraftId) (w : World)

/-- The snapshot a call starts with, and the controller after it. -/
def poll (now : Instant) : PlaybackInner × PlaybackSnapshot :=
  w.controller.inner.snapshot w.controller.store now

def args (call : Call) : ProcessArgs where
  store := w.controller.store
  playbackState := (w.poll call.now).2
  aircraftId := aircraftId
  loopStart := call.loopStart
  clock := call.clock
  staleTimeout := call.staleTimeout
  smoothingMode := call.smoothingMode
  answers := call.answers

def outcome (call : Call) : Outcome := (w.runtime.process slerp (w.args aircraftId call)).2

/-- One call of `process`. -/
def process (call : Call) : World :=
  let runtime := (w.runtime.process slerp (w.args aircraftId call)).1
  let mode := (w.poll call.now).2.mode
  let kept := if w.runtime.lastPlaybackMode = some mode then w.origins else []
  { controller := { w.controller with inner := (w.poll call.now).1 }
    runtime := runtime
    timeline := w.timeline
    lastSeen := w.timeline
    origins := originsAfter w.timeline runtime.smoother.samples.length kept
      (w.outcome slerp aircraftId call).pushed }

def next : BridgeOp → World
  | .control op now => { w with controller := w.controller.next (.control op, now) }
  | .append op => { w with controller := w.controller.next (.append op, 0) }
  | .clear =>
    { w with
      controller := (w.controller.next (.clear, 0)).next (.resetEmpty, 0)
      timeline := w.timeline + 1 }
  | .load saved =>
    { w with
      controller := (w.controller.next (.replaceFrom saved, 0)).next (.resetAfterLoad, 0)
      timeline := w.timeline + 1 }
  | .reset => { w with runtime := w.runtime.resetTimelineState, origins := [] }
  | .process call => w.process slerp aircraftId call

end World

/-- The frame is made from two neighbours, with the samples `after` behind them: it is interpolated
between them, or extrapolated from the last two. -/
def MadeFrom (frame : SmoothedFrame) (left right : BufferedSample)
    (after : List (BufferedSample × ℕ)) : Prop :=
  frame.source = .interpolated ∧ left.timestampSecs < frame.timestampSecs ∧
      frame.timestampSecs ≤ right.timestampSecs ∨
    frame.source = .extrapolated ∧ after = []

/-- What a call may not do: drop a sample because of one of another timeline, or make a frame from
samples of two timelines. -/
structure FollowsTimeline (w : World) (outcome : Outcome) : Prop where
  dropped : outcome.pushed = some .droppedOutOfOrder → w.origins.getLast? = some w.timeline
  rendered : ∀ frame, outcome.rendered = some frame →
    ∀ before left right after, w.runtime.smoother.samples.zip w.origins =
      before ++ left :: right :: after → MadeFrom frame left.1 right.1 after → left.2 = right.2

/-- From one live call to the next the timeline stays the same, unless nothing is buffered. -/
def Observed (w : World) : BridgeOp → Prop
  | .process call => (w.poll call.now).2.mode = .live → w.runtime.lastPlaybackMode = some .live →
      w.runtime.smoother.samples ≠ [] → w.lastSeen = w.timeline
  | _ => True

/-! ## One call -/

namespace AircraftRuntime

variable (runtime : AircraftRuntime)

theorem enterMode_smoother (mode : PlaybackMode) :
    (runtime.enterMode mode).smoother =
      if runtime.lastPlaybackMode = some mode then runtime.smoother
      else runtime.smoother.reset := by
  unfold enterMode
  by_cases hmode : runtime.lastPlaybackMode = some mode
  · rw [if_neg (not_not.mpr hmode), if_pos hmode]
  · rw [if_pos hmode, if_neg hmode]
    rfl

@[simp] theorem enterMode_mode (mode : PlaybackMode) :
    (runtime.enterMode mode).lastPlaybackMode = some mode := by
  unfold enterMode
  split_ifs with hmode
  · rfl
  · exact not_not.mp hmode

/-- Gear commands and poses leave the buffer and the mode alone. -/
structure SameBuffer (runtime runtime' : AircraftRuntime) : Prop where
  samples : runtime'.smoother.samples = runtime.smoother.samples
  mode : runtime'.lastPlaybackMode = runtime.lastPlaybackMode

theorem sameBuffer_applyGear (args : ProcessArgs) :
    SameBuffer runtime (runtime.applyGear args).1 := by
  unfold applyGear
  split <;> exact ⟨rfl, rfl⟩

theorem sameBuffer_applyState (answers : Answers) (state : AircraftState)
    (source : Option FrameSource) (liveStale : Bool) :
    SameBuffer runtime (runtime.applyState answers state source liveStale).1 := by
  unfold applyState
  split
  · split_ifs <;> exact ⟨rfl, rfl⟩
  · exact ⟨rfl, rfl⟩

/-- What a call pushes, and the samples it leaves. -/
inductive Pushes (buffer : LiveFrameBuffer) :
    Option PushResult → List BufferedSample → Prop where
  | nothing : Pushes buffer none buffer.samples
  | sample (timestampSecs : F64) (state : AircraftState) (receivedAt : Instant) :
    Pushes buffer (some (buffer.push timestampSecs state receivedAt).2)
      (buffer.push timestampSecs state receivedAt).1.samples

theorem pushes_pushSample (sample : TimestampedState) (revision : ℕ) (loopStart : Instant) :
    Pushes runtime.smoother (runtime.pushSample sample revision loopStart).2
        (runtime.pushSample sample revision loopStart).1.smoother.samples ∧
      (runtime.pushSample sample revision loopStart).1.lastPlaybackMode =
        runtime.lastPlaybackMode := by
  unfold pushSample
  split_ifs
  · exact ⟨.sample _ _ _, rfl⟩
  · exact ⟨.nothing, rfl⟩

variable (slerp : Quaternion → Quaternion → ℚ → Quaternion)

/-- A live call pushes at most one sample; rendering leaves the samples alone. -/
theorem pushes_processLive (args : ProcessArgs) (sample : TimestampedState) :
    Pushes runtime.smoother (runtime.processLive slerp args sample).2.pushed
        (runtime.processLive slerp args sample).1.smoother.samples ∧
      (runtime.processLive slerp args sample).1.lastPlaybackMode = runtime.lastPlaybackMode := by
  have hstart : ∀ liveStale : Bool, SameBuffer runtime
      (if liveStale then runtime else { runtime with staleReported := false }) ∧
        (if liveStale then runtime else { runtime with staleReported := false }).smoother =
          runtime.smoother := by
    intro liveStale
    split_ifs <;> exact ⟨⟨rfl, rfl⟩, rfl⟩
  unfold processLive
  dsimp only
  obtain ⟨hsame, hsmoother⟩ := hstart
    (args.store.liveStateIsStale args.clock args.aircraftId args.staleTimeout)
  revert hsame hsmoother
  generalize (if args.store.liveStateIsStale args.clock args.aircraftId args.staleTimeout = true
    then runtime else { runtime with staleReported := false }) = fresh
  intro hsame hsmoother
  obtain ⟨hpushes, hmode⟩ :=
    pushes_pushSample fresh sample args.playbackState.revision args.loopStart
  rw [hsmoother] at hpushes
  rw [hsame.mode] at hmode
  split_ifs
  · split
    · exact ⟨by rw [LiveFrameBuffer.render_samples]; exact hpushes, hmode⟩
    · next smoothed _ =>
      have happlied := sameBuffer_applyState
        { (fresh.pushSample sample args.playbackState.revision args.loopStart).1 with
          smoother := ((fresh.pushSample sample args.playbackState.revision
            args.loopStart).1.smoother.render slerp args.loopStart).1 }
        args.answers smoothed.state (some smoothed.source)
        (args.store.liveStateIsStale args.clock args.aircraftId args.staleTimeout)
      refine ⟨?_, happlied.mode.trans hmode⟩
      dsimp only
      rw [happlied.samples]
      dsimp only
      rw [LiveFrameBuffer.render_samples]
      exact hpushes
  · exact ⟨hpushes, hmode⟩
  · exact ⟨hpushes, hmode⟩

theorem pushes_processReplay (args : ProcessArgs) (sample : TimestampedState) :
    SameBuffer runtime (runtime.processReplay args sample).1 ∧
      (runtime.processReplay args sample).2.pushed = none := by
  unfold processReplay
  have happlied := sameBuffer_applyState runtime args.answers sample.item none false
  dsimp only
  split_ifs
  · exact ⟨⟨happlied.samples, happlied.mode⟩, rfl⟩
  · exact ⟨happlied, rfl⟩
  · exact ⟨⟨rfl, rfl⟩, rfl⟩

/-- **One call** resets the buffer if the mode is another one, and then pushes at most one sample,
in live mode only. -/
theorem process_spec (args : ProcessArgs) :
    Pushes (runtime.enterMode args.playbackState.mode).smoother
        (runtime.process slerp args).2.pushed
        (runtime.process slerp args).1.smoother.samples ∧
      (runtime.process slerp args).1.lastPlaybackMode = some args.playbackState.mode ∧
      (args.playbackState.mode ≠ .live → (runtime.process slerp args).2.pushed = none) := by
  have hgeared := sameBuffer_applyGear (runtime.enterMode args.playbackState.mode) args
  have hsmoother : ((runtime.enterMode args.playbackState.mode).applyGear args).1.smoother =
      (runtime.enterMode args.playbackState.mode).smoother := by
    unfold applyGear
    split <;> rfl
  have hmode := hgeared.mode.trans (runtime.enterMode_mode args.playbackState.mode)
  have hnothing : Pushes (runtime.enterMode args.playbackState.mode).smoother none
      ((runtime.enterMode args.playbackState.mode).applyGear args).1.smoother.samples := by
    rw [hgeared.samples]
    exact .nothing
  unfold process
  rcases resolveSample args.store args.playbackState args.aircraftId with _ | sample
  · dsimp only
    split_ifs <;> exact ⟨hnothing, hmode, fun _ => rfl⟩
  · dsimp only
    split_ifs with hfails hlive
    · exact ⟨hnothing, hmode, fun _ => rfl⟩
    · obtain ⟨hpushes, hmode'⟩ := pushes_processLive
        ((runtime.enterMode args.playbackState.mode).applyGear args).1 slerp args sample
      rw [hsmoother] at hpushes
      exact ⟨hpushes, hmode'.trans hmode, fun h => absurd hlive h⟩
    · obtain ⟨hsame, hnone⟩ := pushes_processReplay
        ((runtime.enterMode args.playbackState.mode).applyGear args).1 args sample
      refine ⟨?_, hsame.mode.trans hmode, fun _ => hnone⟩
      rw [hnone, hsame.samples]
      exact hnothing

end AircraftRuntime

/-! ## Where the samples are from -/

/-- The origins follow the samples, and what is new is from the timeline of the call. -/
theorem originsAfter_spec (timeline : ℕ) {buffer : LiveFrameBuffer} {origins : List ℕ}
    {pushed : Option PushResult} {samples : List BufferedSample}
    (hlength : origins.length = buffer.samples.length)
    (h : AircraftRuntime.Pushes buffer pushed samples) :
    (originsAfter timeline samples.length origins pushed).length = samples.length ∧
      (∀ origin ∈ originsAfter timeline samples.length origins pushed,
        origin ∈ origins ∨ origin = timeline) ∧
      (pushed = some .droppedOutOfOrder → samples ≠ []) := by
  have haccept : ∀ sample : BufferedSample,
      (originsAfter timeline (LiveFrameBuffer.prune buffer.config
          (buffer.samples ++ [sample])).length origins (some .accepted)).length =
        (LiveFrameBuffer.prune buffer.config (buffer.samples ++ [sample])).length ∧
      (∀ origin ∈ originsAfter timeline (LiveFrameBuffer.prune buffer.config
          (buffer.samples ++ [sample])).length origins (some .accepted),
        origin ∈ origins ∨ origin = timeline) := by
    intro sample
    have hle := (LiveFrameBuffer.prune_suffix buffer.config
      (buffer.samples ++ [sample])).length_le
    rw [List.length_append, List.length_singleton, ← hlength] at hle
    unfold originsAfter
    constructor
    · rw [List.length_drop, List.length_append, List.length_singleton]
      omega
    · intro origin horigin
      have hmem := List.mem_of_mem_drop horigin
      rwa [List.mem_append, List.mem_singleton] at hmem
  rcases h with _ | ⟨timestampSecs, state, receivedAt⟩
  · exact ⟨hlength, fun origin horigin => .inl horigin, fun h => nomatch h⟩
  · unfold LiveFrameBuffer.push LiveFrameBuffer.accept
    split
    · exact ⟨hlength, fun origin horigin => .inl horigin, fun h => nomatch h⟩
    · split
      · exact ⟨(haccept _).1, (haccept _).2, fun h => nomatch h⟩
      · next latest hlatest =>
        have hpos : 0 < buffer.samples.length :=
          List.length_pos_of_mem (List.mem_of_getLast? hlatest)
        split_ifs
        · exact ⟨hlength, fun origin horigin => .inl horigin, fun _ => List.length_pos_iff.mp hpos⟩
        · refine ⟨?_, fun origin horigin => ?_, fun h => nomatch h⟩
          · dsimp only [originsAfter]
            rw [List.length_append, List.length_append, List.length_dropLast,
              List.length_dropLast, hlength]
            rfl
          · rcases List.mem_append.mp horigin with horigin | horigin
            · exact .inl ((List.dropLast_sublist origins).subset horigin)
            · exact .inr (List.mem_singleton.mp horigin)
        · exact ⟨(haccept _).1, (haccept _).2, fun h => nomatch h⟩

/-- Every buffered sample is from the timeline of the last call, and there are some only if that
call was a live one. -/
structure Inv (w : World) : Prop where
  length : w.origins.length = w.runtime.smoother.samples.length
  current : ∀ origin ∈ w.origins, origin = w.lastSeen
  live : w.runtime.smoother.samples ≠ [] → w.runtime.lastPlaybackMode = some .live

theorem Inv.of_same {w w' : World} (h : Inv w) (hruntime : w'.runtime = w.runtime)
    (horigins : w'.origins = w.origins) (hseen : w'.lastSeen = w.lastSeen) : Inv w' :=
  ⟨by rw [hruntime, horigins]; exact h.length, by rw [horigins, hseen]; exact h.current,
    by rw [hruntime]; exact h.live⟩

section Step
variable (slerp : Quaternion → Quaternion → ℚ → Quaternion) (aircraftId : AircraftId) {w : World}

/-- What a call keeps of the buffer is from the timeline of the call, and nothing is kept outside of
live mode. -/
theorem Inv.kept (h : Inv w) {call : Call} (hobserved : Observed w (.process call)) :
    (if w.runtime.lastPlaybackMode = some (w.poll call.now).2.mode then w.origins
        else []).length =
      (w.runtime.enterMode (w.poll call.now).2.mode).smoother.samples.length ∧
    (∀ origin ∈ if w.runtime.lastPlaybackMode = some (w.poll call.now).2.mode then w.origins
      else [], origin = w.timeline) ∧
    ((w.runtime.enterMode (w.poll call.now).2.mode).smoother.samples ≠ [] →
      (w.poll call.now).2.mode = .live) := by
  rw [w.runtime.enterMode_smoother]
  split_ifs with hsame
  · have hmodes : w.runtime.smoother.samples ≠ [] → (w.poll call.now).2.mode = .live := by
      intro hsome
      rw [h.live hsome] at hsame
      exact (Option.some.inj hsame).symm
    refine ⟨h.length, fun origin horigin => ?_, hmodes⟩
    have hsome : w.runtime.smoother.samples ≠ [] := by
      rw [← List.length_pos_iff, ← h.length]
      exact List.length_pos_of_mem horigin
    rw [h.current origin horigin]
    exact hobserved (hmodes hsome) (h.live hsome) hsome
  · exact ⟨rfl, fun origin horigin => absurd horigin List.not_mem_nil, fun h => absurd rfl h⟩

/-- **After a call** every buffered sample is from the timeline of this call. -/
theorem Inv.process (h : Inv w) {call : Call} (hobserved : Observed w (.process call)) :
    Inv (w.process slerp aircraftId call) ∧ ((w.outcome slerp aircraftId call).pushed =
      some .droppedOutOfOrder → (w.process slerp aircraftId call).origins ≠ []) := by
  obtain ⟨hpushes, hmode, hreplay⟩ :=
    w.runtime.process_spec slerp (w.args aircraftId call)
  obtain ⟨hkept, hcurrent, hlive⟩ := h.kept hobserved
  obtain ⟨hlength, horigins, hdropped⟩ := originsAfter_spec w.timeline hkept hpushes
  refine ⟨⟨hlength, fun origin horigin => ?_, fun hsome => ?_⟩, fun hdrop => ?_⟩
  · exact (horigins origin horigin).elim (hcurrent origin) id
  · refine hmode.trans (congrArg some ?_)
    by_contra hother
    have hnone := hreplay hother
    have hempty : (w.runtime.enterMode (w.poll call.now).2.mode).smoother.samples = [] :=
      of_not_not fun hsome => hother (hlive hsome)
    rw [hnone] at hpushes
    rcases hsamples : (w.runtime.process slerp (w.args aircraftId call)).1.smoother.samples
      with _ | ⟨first, rest⟩
    · exact hsome hsamples
    · rw [hsamples] at hpushes
      generalize hlist : first :: rest = samples at hpushes
      rcases hpushes with _ | _
      exact nomatch hlist.trans hempty
  · have hsome := hdropped hdrop
    rw [← List.length_pos_iff] at hsome ⊢
    exact hsome.trans_eq hlength.symm

/-- **One step** keeps the invariant. -/
theorem Inv.step (h : Inv w) {op : BridgeOp} (hobserved : Observed w op) :
    Inv (w.next slerp aircraftId op) := by
  rcases op with ⟨op, now⟩ | op | _ | saved | _ | call
  · exact h.of_same rfl rfl rfl
  · exact h.of_same rfl rfl rfl
  · exact h.of_same rfl rfl rfl
  · exact h.of_same rfl rfl rfl
  · exact ⟨rfl, fun origin horigin => absurd horigin List.not_mem_nil, fun h => absurd rfl h⟩
  · exact (h.process slerp aircraftId hobserved).1

/-- **A call** follows the timeline. -/
theorem Inv.followsTimeline (h : Inv w) {call : Call} (hobserved : Observed w (.process call)) :
    FollowsTimeline (w.process slerp aircraftId call) (w.outcome slerp aircraftId call) := by
  obtain ⟨hinv, hdropped⟩ := h.process slerp aircraftId hobserved
  have htimeline : ∀ origin ∈ (w.process slerp aircraftId call).origins,
      origin = (w.process slerp aircraftId call).timeline := hinv.current
  constructor
  · intro hdrop
    obtain ⟨origin, horigin⟩ : ∃ origin,
        (w.process slerp aircraftId call).origins.getLast? = some origin :=
      ⟨_, List.getLast?_eq_some_getLast (hdropped hdrop)⟩
    rw [horigin, htimeline origin (List.mem_of_getLast? horigin)]
  · intro frame _ before left right after hsamples _
    have hmem : ∀ entry ∈ [left, right], entry.2 = (w.process slerp aircraftId call).timeline := by
      intro entry hentry
      have hzip : entry ∈ (w.process slerp aircraftId call).runtime.smoother.samples.zip
          (w.process slerp aircraftId call).origins := by
        rw [hsamples]
        refine List.mem_append_right _ ?_
        rcases List.mem_cons.mp hentry with rfl | hentry
        · exact List.mem_cons_self
        · rw [List.mem_singleton.mp hentry]
          exact List.mem_cons_of_mem _ List.mem_cons_self
      exact htimeline entry.2 (List.of_mem_zip hzip).2
    rw [hmem left List.mem_cons_self, hmem right (List.mem_cons_of_mem _ List.mem_cons_self)]

end Step

/-- **The bridge follows the timeline** in every run in which no timeline is replaced from one live
call to the next. -/
theorem follows_run (slerp : Quaternion → Quaternion → ℚ → Quaternion) (aircraftId : AircraftId)
    (store : TimeSeriesStore) (config : ReplayConfig) (smoothing : LiveSmoothingConfig)
    {ops : List BridgeOp} (h : Meets (World.next slerp aircraftId) Observed
      (World.start store config smoothing) ops) :
    ∀ pre call, pre ++ [.process call] <+: ops →
      let w := pre.foldl (World.next slerp aircraftId) (World.start store config smoothing)
      FollowsTimeline (w.process slerp aircraftId call) (w.outcome slerp aircraftId call) := by
  intro pre call hpre w
  have hstart : Inv (World.start store config smoothing) :=
    ⟨rfl, fun origin horigin => absurd horigin List.not_mem_nil, fun h => absurd rfl h⟩
  have hmeets := h.of_prefix hpre
  rw [meets_append] at hmeets
  have hinv : Inv w := hmeets.1.inv (fun w op hw hop => hw.step slerp aircraftId hop) hstart
  exact hinv.followsTimeline slerp aircraftId hmeets.2.1

/-! ## Replacements, seen and unseen -/

/-- An aircraft that is spawned and has a state at this time. -/
def stateAt (time : ℚ) : TimeSeriesStore :=
  (({} : TimeSeriesStore).apply (.event "a" (.finite 0) (.spawn {}))).apply
    (.state "a" (.finite time) {})

/-- A call at this time, to a simulator that takes everything. -/
def callAt (now : Instant) : Call :=
  ⟨now, now, now, 1, .lowLatency, ⟨fun _ => true, fun _ => true⟩⟩

/-- A live call, then a load that brings a state at this time, then these operations. -/
def loadedWorld (time : ℚ) (ops : List BridgeOp) : World :=
  (.process (callAt 0) :: .load (stateAt time) :: ops : List BridgeOp).foldl
    (World.next leftAttitude "a") (.start (stateAt 10) {} {})

theorem follows_run_seen :
    let ops : List BridgeOp := [.process (callAt 0), .load (stateAt 5), .process (callAt 1),
      .control .live 1, .process (callAt 1)]
    let w := loadedWorld 5 [.process (callAt 1), .control .live 1]
    Meets (World.next leftAttitude "a") Observed (.start (stateAt 10) {} {}) ops ∧
      (w.outcome leftAttitude "a" (callAt 1)).pushed = some .accepted ∧
      FollowsTimeline (w.process leftAttitude "a" (callAt 1))
        (w.outcome leftAttitude "a" (callAt 1)) := by
  intro ops w
  have hmeets : Meets (World.next leftAttitude "a") Observed (.start (stateAt 10) {} {}) ops := by
    refine ⟨fun _ hlast => ?_, trivial, fun hlive => ?_, trivial, fun _ hlast => ?_, trivial⟩
    · exact absurd hlast (by decide +kernel)
    · exact absurd hlive (by decide +kernel)
    · exact absurd hlast (by decide +kernel)
  exact ⟨hmeets, by decide +kernel, follows_run leftAttitude "a" (stateAt 10) {} {} hmeets
    [.process (callAt 0), .load (stateAt 5), .process (callAt 1), .control .live 1] _
    (List.prefix_refl _)⟩

/-- A load that is not seen: live mode is back before the next call. -/
def unseenWorld (time : ℚ) : World := loadedWorld time [.control .live 1]

/-- **After a load that is not seen** a state that is older than the last one of the old timeline is
dropped, and a newer one is interpolated with it. -/
theorem not_followsTimeline_unseen :
    ((((unseenWorld 5).outcome leftAttitude "a" (callAt 1)).pushed = some .droppedOutOfOrder ∧
        ((unseenWorld 5).process leftAttitude "a" (callAt 1)).origins = [0]) ∧
      ¬FollowsTimeline ((unseenWorld 5).process leftAttitude "a" (callAt 1))
        ((unseenWorld 5).outcome leftAttitude "a" (callAt 1))) ∧
    (((unseenWorld (10 + 1 / 20)).outcome leftAttitude "a" (callAt 1)).rendered.map (fun frame =>
          (frame.source, frame.timestampSecs)) = some (.interpolated, 10 + 2 / 100) ∧
        ((unseenWorld (10 + 1 / 20)).process leftAttitude "a" (callAt 1)).origins = [0, 1]) ∧
      ¬FollowsTimeline ((unseenWorld (10 + 1 / 20)).process leftAttitude "a" (callAt 1))
        ((unseenWorld (10 + 1 / 20)).outcome leftAttitude "a" (callAt 1)) := by
  constructor
  · have hdropped : ((unseenWorld 5).outcome leftAttitude "a" (callAt 1)).pushed =
        some .droppedOutOfOrder := by
      decide +kernel
    have horigins : ((unseenWorld 5).process leftAttitude "a" (callAt 1)).origins = [0] := by
      decide +kernel
    refine ⟨⟨hdropped, horigins⟩, fun h => ?_⟩
    have hlast := h.dropped hdropped
    rw [horigins] at hlast
    revert hlast
    decide +kernel
  · have hrendered : ((unseenWorld (10 + 1 / 20)).outcome leftAttitude "a"
        (callAt 1)).rendered.map (fun frame => (frame.source, frame.timestampSecs)) =
          some (.interpolated, 10 + 2 / 100) := by
      decide +kernel
    have horigins : ((unseenWorld (10 + 1 / 20)).process leftAttitude "a" (callAt 1)).origins =
        [0, 1] := by
      decide +kernel
    have hsamples : ((unseenWorld (10 + 1 / 20)).process leftAttitude "a"
        (callAt 1)).runtime.smoother.samples = [⟨10, 0, {}⟩, ⟨10 + 1 / 20, 1, {}⟩] := by
      decide +kernel
    refine ⟨⟨hrendered, horigins⟩, fun h => ?_⟩
    obtain ⟨frame, hframe, hshown⟩ := Option.map_eq_some_iff.mp hrendered
    obtain ⟨hsource, htime⟩ := Prod.ext_iff.mp hshown
    dsimp only at hsource htime
    have hbetween : MadeFrom frame ⟨10, 0, {}⟩ ⟨10 + 1 / 20, 1, {}⟩ [] := by
      refine .inl ⟨hsource, ?_, ?_⟩
      · rw [htime]
        decide +kernel
      · rw [htime]
        decide +kernel
    have hsame := h.rendered frame hframe [] (⟨10, 0, {}⟩, 0) (⟨10 + 1 / 20, 1, {}⟩, 1) []
      (by rw [horigins, hsamples]; rfl) hbetween
    exact absurd hsame (by decide)

end FlyRuler.Msfs.Aircraft
