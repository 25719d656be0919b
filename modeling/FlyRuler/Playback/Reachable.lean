import FlyRuler.Playback
import FlyRuler.Store.Bounds
import FlyRuler.Lib.Run

/-!
# The reachable states of the playback controller

The controller with the store it reads, and everything that happens to the two: the requests of the
controller, appends, and the store replacement and the playback reset of a clear or a load, as
operations of their own.  Each takes place at a time of its own, in no particular order; a clock
that went backwards counts as one that stood still.

* `updateEffectiveCursor_fits`: the hidden step of most requests puts the cursor within the bounds.
* `control_fits`: what every request leaves behind fits the bounds it read.
* `PlaybackController.sound_run`: what holds of every run.
-/

namespace FlyRuler.Playback

open FlyRuler.Pb FlyRuler.Store FlyRuler.Lib.TimeOrder FlyRuler.Lib.Run

/-! ## The controller and its operations -/

structure PlaybackController where
  store : TimeSeriesStore
  config : ReplayConfig
  inner : PlaybackInner

/-- A request to the controller. -/
inductive ControlOp where
  | snapshot
  | live
  | pause
  | seek (timestamp : F64)
  | play (speed : Option F64)
  | setSpeed (speed : F64)
  | step (unit : PlaybackStepUnit) (direction : PlaybackStepDirection) (count : ℕ)

/-- Everything that can happen to the controller and its store. -/
inductive TimelineOp where
  | control (op : ControlOp)
  | append (op : AppendOp)
  | clear
  | resetEmpty
  | replaceFrom (saved : TimeSeriesStore)
  | resetAfterLoad

namespace PlaybackController

/-- `PlaybackController::new`. -/
def new (store : TimeSeriesStore) (config : ReplayConfig) : PlaybackController :=
  ⟨store, config, { speed := config.defaultSpeed }⟩

/-- A request, at the time `now`: the state it leaves and its answer. -/
def control (c : PlaybackController) (now : Instant) :
    ControlOp → PlaybackInner × Except PlaybackError PlaybackSnapshot
  | .snapshot => (c.inner.snapshot c.store now).map id .ok
  | .live => (c.inner.live c.store).map id .ok
  | .pause => c.inner.pause c.store now
  | .seek timestamp => c.inner.seek c.store timestamp
  | .play speed => c.inner.play c.store now c.config speed
  | .setSpeed speed => c.inner.setSpeed c.store now c.config speed
  | .step unit direction count => c.inner.step c.store now unit direction count

/-- One operation, at the time `now`, with what it returns. -/
def perform (c : PlaybackController) (op : TimelineOp × Instant) :
    PlaybackController × Option (Except PlaybackError PlaybackSnapshot) :=
  match op.1 with
  | .control request =>
    let answer := c.control op.2 request
    ({ c with inner := answer.1 }, some answer.2)
  | .append request => ({ c with store := c.store.apply request }, none)
  | .clear => ({ c with store := c.store.clear }, none)
  | .resetEmpty => ({ c with inner := c.inner.resetEmpty.1 }, some (.ok c.inner.resetEmpty.2))
  | .replaceFrom saved => ({ c with store := c.store.replaceFrom saved }, none)
  | .resetAfterLoad =>
    let answer := c.inner.resetAfterLoad c.store
    ({ c with inner := answer.1 }, some (.ok answer.2))

/-- The controller after an operation. -/
def next (c : PlaybackController) (op : TimelineOp × Instant) : PlaybackController :=
  (c.perform op).1

end PlaybackController

/-! ## The calls of `clamp` -/

/-- The bounds `update_effective_cursor` calls `clamp` with. -/
def PlaybackInner.clamps (inner : PlaybackInner) : Option (Secs × Secs) → List (Secs × Secs)
  | none => []
  | some bounds => if inner.mode = .replayPaused then [bounds] else []

/-- The bounds a request calls `clamp` with, in order. -/
def PlaybackController.clamps (c : PlaybackController) : ControlOp → List (Secs × Secs)
  | .snapshot => c.inner.clamps c.store.activeTimeBounds
  | .live => []
  | .pause => c.inner.clamps c.store.activeTimeBounds
  | .seek timestamp =>
    match timestamp.toFinite with
    | none => []
    | some _ => c.store.activeTimeBounds.toList
  | .play speed =>
    match PlaybackInner.requestedSpeed c.config speed with
    | .error _ => []
    | .ok _ => c.inner.clamps c.store.activeTimeBounds ++ c.store.activeTimeBounds.toList
  | .setSpeed speed =>
    match validateSpeed c.config speed with
    | .error _ => []
    | .ok _ => c.inner.clamps c.store.activeTimeBounds
  | .step _ _ count =>
    if 1 ≤ count ∧ count ≤ 100 then
      c.inner.clamps c.store.activeTimeBounds ++ c.store.activeTimeBounds.toList
    else []

/-- Every call of `clamp` is with the bounds of the store. -/
theorem PlaybackController.clamps_bounds (c : PlaybackController) (op : ControlOp)
    {b : Secs × Secs} (hb : b ∈ c.clamps op) : c.store.activeTimeBounds = some b := by
  have hinner : ∀ bounds, b ∈ c.inner.clamps bounds → bounds = some b := by
    intro bounds h
    unfold PlaybackInner.clamps at h
    rcases bounds with _ | bounds
    · exact absurd h List.not_mem_nil
    · dsimp only at h
      split_ifs at h
      · rw [List.mem_singleton.mp h]
      · exact absurd h List.not_mem_nil
  have happend : b ∈ c.inner.clamps c.store.activeTimeBounds ++ c.store.activeTimeBounds.toList →
      c.store.activeTimeBounds = some b := by
    intro h
    rcases List.mem_append.mp h with h | h
    · exact hinner _ h
    · exact Option.mem_toList.mp h
  unfold PlaybackController.clamps at hb
  rcases op with _ | _ | _ | timestamp | speed | speed | ⟨unit, direction, count⟩ <;>
    dsimp only at hb
  · exact hinner _ hb
  · exact absurd hb List.not_mem_nil
  · exact hinner _ hb
  · split at hb
    · exact absurd hb List.not_mem_nil
    · exact Option.mem_toList.mp hb
  · split at hb
    · exact absurd hb List.not_mem_nil
    · exact happend hb
  · split at hb
    · exact absurd hb List.not_mem_nil
    · exact hinner _ hb
  · split_ifs at hb
    · exact happend hb
    · exact absurd hb List.not_mem_nil

/-! ## Fitting the bounds -/

/-- There is a clock anchor if and only if playback is running. -/
def PlaybackInner.Anchored (inner : PlaybackInner) : Prop :=
  inner.anchor.isSome ↔ inner.mode = .replayPlaying

/-- The cursor and the anchor fit the mode and the bounds. -/
structure PlaybackInner.Fits (inner : PlaybackInner) (bounds : Option (Secs × Secs)) : Prop where
  empty : bounds = none → inner.cursorSecs = none
  within : ∀ b, bounds = some b → ∃ cursor, inner.cursorSecs = some cursor ∧ b.1 ≤ cursor ∧
    cursor ≤ b.2
  live : inner.mode = .live → inner.cursorSecs = bounds.map Prod.snd
  running : inner.mode = .replayPlaying → bounds.isSome
  anchored : inner.Anchored

theorem clamp_mem (x : Secs) {b : Secs × Secs} (hb : b.1 ≤ b.2) :
    b.1 ≤ clamp x b.1 b.2 ∧ clamp x b.1 b.2 ≤ b.2 :=
  ⟨le_min (le_max_right _ _) hb, min_le_right _ _⟩

/-- Paused at a cursor within the bounds. -/
theorem fits_paused {inner : PlaybackInner} {b : Secs × Secs} {cursor : Secs}
    (hmode : inner.mode = .replayPaused) (hcursor : inner.cursorSecs = some cursor)
    (hanchor : inner.anchor = none) (hle : b.1 ≤ cursor ∧ cursor ≤ b.2) :
    inner.Fits (some b) where
  empty := fun h => nomatch h
  within := by
    rintro b' ⟨⟩
    exact ⟨cursor, hcursor, hle⟩
  live := fun h => by rw [hmode] at h; exact nomatch h
  running := fun _ => rfl
  anchored := by
    unfold PlaybackInner.Anchored
    rw [hmode, hanchor]
    decide

/-- **`update_effective_cursor` makes the state fit the bounds.** -/
theorem updateEffectiveCursor_fits (inner : PlaybackInner) {bounds : Option (Secs × Secs)}
    (now : Instant) (hb : ∀ b, bounds = some b → b.1 ≤ b.2) :
    (inner.updateEffectiveCursor bounds now).Fits bounds := by
  unfold PlaybackInner.updateEffectiveCursor
  rcases bounds with _ | b
  · dsimp only
    split_ifs with hmode
    · refine ⟨fun _ => rfl, (fun b h => nomatch h), fun _ => rfl, ?_, ?_⟩
      · intro hplaying
        exact nomatch hmode.symm.trans hplaying
      · unfold PlaybackInner.Anchored
        simp [hmode]
    · refine ⟨fun _ => rfl, (fun b h => nomatch h), (fun h => nomatch h), (fun h => nomatch h), ?_⟩
      unfold PlaybackInner.Anchored
      simp
  have hle : b.1 ≤ b.2 := hb b rfl
  rcases hmode : inner.mode with _ | _ | _
  · dsimp only
    refine ⟨(fun h => nomatch h), ?_, fun _ => rfl, fun _ => rfl, ?_⟩
    · rintro b' ⟨⟩
      exact ⟨b.2, rfl, hle, le_refl _⟩
    · unfold PlaybackInner.Anchored
      simp
  · exact fits_paused rfl rfl rfl (clamp_mem _ hle)
  · dsimp only
    split_ifs with hnext
    · exact fits_paused rfl rfl rfl ⟨hle, le_refl _⟩
    · refine ⟨(fun h => nomatch h), ?_, (fun h => nomatch h), fun _ => rfl, ?_⟩
      · rintro b' ⟨⟩
        exact ⟨_, rfl, le_max_right _ _, max_le (not_le.mp hnext).le hle⟩
      · unfold PlaybackInner.Anchored
        simp

@[simp] theorem updateEffectiveCursor_speed (inner : PlaybackInner) (bounds : Option (Secs × Secs))
    (now : Instant) : (inner.updateEffectiveCursor bounds now).speed = inner.speed := by
  unfold PlaybackInner.updateEffectiveCursor
  split
  · dsimp only
    split_ifs <;> rfl
  · split
    · rfl
    · rfl
    · dsimp only
      split_ifs <;> rfl

/-! ## The requests -/

/-- The speed lies in the configured range. -/
def ReplayConfig.InRange (config : ReplayConfig) (speed : ℚ) : Prop :=
  config.minSpeed ≤ speed ∧ speed ≤ config.maxSpeed

instance (config : ReplayConfig) (speed : ℚ) : Decidable (config.InRange speed) :=
  inferInstanceAs (Decidable (_ ∧ _))

theorem inRange_of_validateSpeed {config : ReplayConfig} {requested : F64} {speed : ℚ}
    (h : validateSpeed config requested = .ok speed) : config.InRange speed := by
  unfold validateSpeed at h
  split at h
  · split_ifs at h with hrange
    · cases h
      exact hrange
  · exact nomatch h

theorem requestedSpeed_getD {config : ReplayConfig} {requested : Option F64} {speed : Option ℚ}
    (h : PlaybackInner.requestedSpeed config requested = .ok speed) (current : ℚ) :
    speed.getD current = current ∨ config.InRange (speed.getD current) := by
  unfold PlaybackInner.requestedSpeed at h
  split at h
  · cases h
    exact .inl rfl
  · split at h
    · next hvalid =>
      cases h
      exact .inr (inRange_of_validateSpeed hvalid)
    · exact nomatch h

/-- The state and the answer of a request: an error changes nothing, and a snapshot shows the new
state, which fits the bounds. -/
structure Answered (c : PlaybackController)
    (r : PlaybackInner × Except PlaybackError PlaybackSnapshot) : Prop where
  error : ∀ e, r.2 = .error e → r.1 = c.inner
  ok : ∀ playback, r.2 = .ok playback →
    playback = r.1.snapshotFromInner c.store.activeTimeBounds ∧ r.1.Fits c.store.activeTimeBounds
  speed : r.1.speed = c.inner.speed ∨ c.config.InRange r.1.speed

theorem answered_error (c : PlaybackController) (e : PlaybackError) :
    Answered c (c.inner, .error e) :=
  ⟨fun _ _ => rfl, (fun _ h => nomatch h), .inl rfl⟩

theorem answered_ok {c : PlaybackController} {inner : PlaybackInner}
    {bounds : Option (Secs × Secs)} (hbounds : c.store.activeTimeBounds = bounds)
    (hfits : inner.Fits bounds)
    (hspeed : inner.speed = c.inner.speed ∨ c.config.InRange inner.speed) :
    Answered c (inner, .ok (inner.snapshotFromInner bounds)) := by
  subst hbounds
  refine ⟨(fun _ h => nomatch h), ?_, hspeed⟩
  rintro playback ⟨⟩
  exact ⟨rfl, hfits⟩

theorem bounds_le (store : TimeSeriesStore) (b : Secs × Secs)
    (hb : store.activeTimeBounds = some b) : b.1 ≤ b.2 := by
  have hspec := store.activeTimeBounds_spec
  rw [hb] at hspec
  exact hspec.le

/-- **What a request leaves behind fits the bounds it read.** -/
theorem control_fits (c : PlaybackController) (now : Instant) (op : ControlOp) :
    Answered c (c.control now op) := by
  have hle := bounds_le c.store
  rcases op with _ | _ | _ | timestamp | speed | speed | ⟨unit, direction, count⟩
  · -- `snapshot`
    exact answered_ok rfl (updateEffectiveCursor_fits _ now hle)
      (.inl (updateEffectiveCursor_speed c.inner _ now))
  · -- `live`
    refine answered_ok rfl ⟨?_, ?_, fun _ => rfl, (fun h => nomatch h), ?_⟩ (.inl rfl)
    · intro h
      show c.store.activeTimeBounds.map Prod.snd = none
      rw [h]
      rfl
    · intro b hb
      refine ⟨b.2, ?_, hle b hb, le_refl _⟩
      show c.store.activeTimeBounds.map Prod.snd = some b.2
      rw [hb]
      rfl
    · unfold PlaybackInner.Anchored
      simp
  · -- `pause`
    unfold PlaybackController.control PlaybackInner.pause
    dsimp only
    split
    · exact answered_error c _
    · next b hb =>
      obtain ⟨cursor, hcursor, hmem⟩ :=
        (updateEffectiveCursor_fits c.inner now (hb ▸ hle)).within b rfl
      refine answered_ok hb (fits_paused rfl ?_ rfl hmem) (.inl (updateEffectiveCursor_speed _ _ _))
      dsimp only
      rw [hcursor, Option.getD_some]
  · -- `seek`
    unfold PlaybackController.control PlaybackInner.seek
    dsimp only
    split
    · exact answered_error c _
    · split
      · exact answered_error c _
      · next b hb =>
        exact answered_ok hb (fits_paused rfl rfl rfl (clamp_mem _ (hle b hb))) (.inl rfl)
  · -- `play`
    unfold PlaybackController.control PlaybackInner.play
    dsimp only
    split
    · exact answered_error c _
    · exact answered_error c _
    · next speed b hspeed hb =>
      refine answered_ok hb (updateEffectiveCursor_fits _ now (hb ▸ hle)) ?_
      rw [updateEffectiveCursor_speed]
      have hrequested := requestedSpeed_getD hspeed c.inner.speed
      simpa using hrequested
  · -- `set_speed`
    unfold PlaybackController.control PlaybackInner.setSpeed
    dsimp only
    split
    · exact answered_error c _
    · next speed hspeed =>
      have hfits := updateEffectiveCursor_fits c.inner now hle
      refine answered_ok rfl ⟨hfits.empty, hfits.within, hfits.live, hfits.running, ?_⟩
        (.inr (inRange_of_validateSpeed hspeed))
      have hanchored := hfits.anchored
      unfold PlaybackInner.Anchored at hanchored ⊢
      dsimp only
      split_ifs with hmode
      · simp [hmode]
      · exact hanchored
  · -- `step`
    unfold PlaybackController.control PlaybackInner.step
    dsimp only
    by_cases hcount : 1 ≤ count ∧ count ≤ 100
    · rw [if_neg (not_not.mpr hcount)]
      split
      · exact answered_error c _
      · next b hb =>
        exact answered_ok hb (fits_paused rfl rfl rfl (clamp_mem _ (hle b hb)))
          (.inl (updateEffectiveCursor_speed _ _ _))
    · rw [if_pos hcount]
      exact answered_error c _

/-! ## Runs -/

/-- What a returned snapshot of the store says. -/
structure SnapshotSound (store : TimeSeriesStore) (config : ReplayConfig)
    (playback : PlaybackSnapshot) : Prop where
  empty : playback.bounds = none → playback.cursorSecs = none
  bounds : ∀ lo hi, playback.bounds = some (lo, hi) →
    IsLeast store.stamps lo ∧ IsGreatest store.stamps hi ∧
      ∃ cursor, playback.cursorSecs = some cursor ∧ lo ≤ cursor ∧ cursor ≤ hi
  live : playback.mode = .live → playback.cursorSecs = playback.bounds.map Prod.snd
  inRange : config.InRange playback.speed

/-- What holds between the operations. -/
structure PlaybackController.Sound (c : PlaybackController) : Prop where
  anchored : c.inner.Anchored
  inRange : c.config.InRange c.inner.speed

theorem sound_of_fits {store : TimeSeriesStore} {config : ReplayConfig} {inner : PlaybackInner}
    (hfits : inner.Fits store.activeTimeBounds) (hrange : config.InRange inner.speed) :
    SnapshotSound store config (inner.snapshotFromInner store.activeTimeBounds) where
  empty := hfits.empty
  bounds := by
    intro lo hi hb
    have hb : store.activeTimeBounds = some (lo, hi) := hb
    have hspec := store.activeTimeBounds_spec
    rw [hb] at hspec
    exact ⟨hspec.1, hspec.2, hfits.within _ hb⟩
  live := hfits.live
  inRange := hrange

theorem resetAfterLoad_fits (inner : PlaybackInner) (store : TimeSeriesStore) :
    (inner.resetAfterLoad store).1.Fits store.activeTimeBounds := by
  have hle := bounds_le store
  unfold PlaybackInner.resetAfterLoad
  rcases hb : store.activeTimeBounds with _ | b
  · refine ⟨fun _ => rfl, (fun b h => nomatch h), (fun h => nomatch h), (fun h => nomatch h), ?_⟩
    unfold PlaybackInner.Anchored
    simp
  · exact fits_paused rfl rfl rfl ⟨le_refl _, hle b hb⟩

namespace PlaybackController

@[simp] theorem next_config (c : PlaybackController) (op : TimelineOp × Instant) :
    (c.next op).config = c.config := by
  obtain ⟨op, now⟩ := op
  cases op <;> rfl

/-- **One operation** keeps what holds between the operations, and the snapshot it returns is
sound. -/
theorem Sound.next {c : PlaybackController} (h : c.Sound) (op : TimelineOp × Instant) :
    (c.next op).Sound ∧ ∀ playback, (c.perform op).2 = some (.ok playback) →
      SnapshotSound (c.next op).store c.config playback := by
  obtain ⟨op, now⟩ := op
  rcases op with op | op | _ | _ | saved | _
  · -- a request
    have hans := control_fits c now op
    have hsound : (c.next (.control op, now)).Sound := by
      refine ⟨?_, ?_⟩
      · show (c.control now op).1.Anchored
        match hr : (c.control now op).2 with
        | .error e =>
          rw [hans.error e hr]
          exact h.anchored
        | .ok playback => exact (hans.ok playback hr).2.anchored
      · rcases hans.speed with hsame | hrange
        · show c.config.InRange (c.control now op).1.speed
          rw [hsame]
          exact h.inRange
        · exact hrange
    refine ⟨hsound, fun playback hok => ?_⟩
    obtain ⟨rfl, hfits⟩ := hans.ok playback (Option.some_injective _ hok)
    exact sound_of_fits hfits hsound.inRange
  · exact ⟨⟨h.anchored, h.inRange⟩, fun playback hok => nomatch hok⟩
  · exact ⟨⟨h.anchored, h.inRange⟩, fun playback hok => nomatch hok⟩
  · -- `reset_empty`
    refine ⟨⟨?_, h.inRange⟩, ?_⟩
    · show c.inner.resetEmpty.1.Anchored
      unfold PlaybackInner.resetEmpty PlaybackInner.Anchored
      simp
    · rintro playback ⟨⟩
      exact ⟨fun _ => rfl, (fun lo hi hb => nomatch hb), (fun hlive => nomatch hlive), h.inRange⟩
  · exact ⟨⟨h.anchored, h.inRange⟩, fun playback hok => nomatch hok⟩
  · -- `reset_after_load`
    have hfits := resetAfterLoad_fits c.inner c.store
    refine ⟨⟨hfits.anchored, h.inRange⟩, ?_⟩
    rintro playback ⟨⟩
    exact sound_of_fits hfits h.inRange

theorem foldl_next_config (run : List (TimelineOp × Instant)) :
    ∀ c : PlaybackController, (run.foldl next c).config = c.config := by
  induction run with
  | nil => exact fun _ => rfl
  | cons op run ih => exact fun c => (ih (c.next op)).trans (c.next_config op)

theorem Sound.foldl {c : PlaybackController} (h : c.Sound) (run : List (TimelineOp × Instant)) :
    (run.foldl PlaybackController.next c).Sound := by
  induction run generalizing c with
  | nil => exact h
  | cons op run ih => exact ih (h.next op).1

/-- **The reachable states.**  After any run from a new controller there is an anchor if and only if
playback is running and the speed is in range, and whatever operation comes next, every call of
`clamp` in it is with bounds in order and the snapshot it returns is sound. -/
theorem sound_run (store : TimeSeriesStore) (config : ReplayConfig)
    (hdefault : config.InRange config.defaultSpeed) (run : List (TimelineOp × Instant)) :
    let c := run.foldl next (new store config)
    (c.inner.anchor.isSome ↔ c.inner.mode = .replayPlaying) ∧ config.InRange c.inner.speed ∧
      (∀ op, ∀ b ∈ c.clamps op, b.1 ≤ b.2) ∧
      ∀ op playback, (c.perform op).2 = some (.ok playback) →
        SnapshotSound (c.next op).store config playback := by
  have hnew : (new store config).Sound := by
    refine ⟨?_, hdefault⟩
    unfold PlaybackInner.Anchored new
    simp
  have hsound := hnew.foldl run
  have hconfig : (run.foldl next (new store config)).config = config :=
    foldl_next_config run (new store config)
  intro c
  refine ⟨hsound.anchored, hconfig ▸ hsound.inRange, fun op b hb => ?_, fun op playback hok => ?_⟩
  · exact bounds_le c.store b (c.clamps_bounds op hb)
  · have hsnap := (hsound.next op).2 playback hok
    rwa [hconfig] at hsnap

/-- A run through every kind of operation, under the default configuration. -/
theorem sound_run_default :
    let run : List (TimelineOp × Instant) := [(.append (.state "a" (.finite 1) {}), 0),
      (.control (.play none), 0), (.clear, 1), (.control .snapshot, 2)]
    (run.foldl next (new {} {})).inner.mode = .replayPaused ∧
      ((run.foldl next (new {} {})).inner.anchor.isSome ↔
        (run.foldl next (new {} {})).inner.mode = .replayPlaying) :=
  ⟨by decide +kernel, (sound_run {} {} (by decide +kernel) _).1⟩

end PlaybackController

end FlyRuler.Playback
