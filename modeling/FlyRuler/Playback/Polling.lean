import FlyRuler.Playback.Reachable
import Mathlib.Tactic.Linarith
import Mathlib.Tactic.Ring

/-!
# Polling the playback

Every snapshot moves the cursor and the clock anchor of a running replay forward
(`update_effective_cursor` of `core/src/playback.rs`).  Unless the cursor is behind the lower time
bound, which the store can only bring about by being replaced, moving in several goes is moving in
one.

* `update_update`: two moves are one.
* `pollIndependent_iff`: the snapshots taken on the way do not matter, unless the cursor is behind.
* `Cruising.ride`: a run with changes of the speed covers the sum of its stretches.
-/

namespace FlyRuler.Playback

open FlyRuler.Pb FlyRuler.Store

namespace PlaybackInner

variable (inner : PlaybackInner) (store : TimeSeriesStore)

/-- Snapshots at these times, one after the other. -/
def poll (times : List Instant) : PlaybackInner :=
  times.foldl (fun inner now => (inner.snapshot store now).1) inner

/-- Snapshots and changes of the speed at these times, one after the other. -/
def ride (config : ReplayConfig) (schedule : List (Instant × Option F64)) : PlaybackInner :=
  schedule.foldl (fun inner entry =>
    match entry.2 with
    | none => (inner.snapshot store entry.1).1
    | some speed => (inner.setSpeed store entry.1 config speed).1) inner

/-- Replay is running with the cursor before the lower bound. -/
def Behind (bounds : Option (Secs × Secs)) : Prop :=
  inner.mode = .replayPlaying ∧ ∃ b cursor, bounds = some b ∧ inner.cursorSecs = some cursor ∧
    cursor < b.1

/-- Whatever snapshots are taken on the way to a time, the one at that time is the same. -/
def PollIndependent : Prop :=
  ∀ (times : List Instant) (stop : Instant),
    (inner.anchor.toList ++ times ++ [stop]).Pairwise (· ≤ ·) →
      ((inner.poll store times).snapshot store stop).2 = (inner.snapshot store stop).2

end PlaybackInner

/-- The sum of elapsed time times speed from `since` to `stop`, where a refused speed changes
nothing. -/
def distance (config : ReplayConfig) (stop : Instant) :
    ℚ → Instant → List (Instant × Option F64) → ℚ
  | speed, since, [] => (stop - since) * speed
  | speed, since, (moment, none) :: rest =>
    (moment - since) * speed + distance config stop speed moment rest
  | speed, since, (moment, some requested) :: rest =>
    match validateSpeed config requested with
    | .ok next => (moment - since) * speed + distance config stop next moment rest
    | .error _ => distance config stop speed since rest

/-! ## Running replay -/

/-- Running at the speed `speed`, with the position `position` at the time `since`; or paused at the
upper bound, which the position has passed. -/
structure Cruising (b : Secs × Secs) (speed position : ℚ) (since : Instant)
    (inner : PlaybackInner) : Prop where
  speed : inner.speed = speed
  lower : b.1 ≤ position
  place : inner.mode = .replayPlaying ∧ inner.cursorSecs.getD b.1 = position ∧
      inner.anchor = some since ∨
    inner.mode = .replayPaused ∧ inner.cursorSecs = some b.2 ∧ b.2 ≤ position

variable {b : Secs × Secs} {speed position : ℚ} {since : Instant} {inner : PlaybackInner}

/-- What a move of a running replay does. -/
theorem updateEffectiveCursor_playing {now : Instant} (hmode : inner.mode = .replayPlaying)
    (hanchor : inner.anchor = some since) (hnow : since ≤ now) :
    inner.updateEffectiveCursor (some b) now =
      if b.2 ≤ inner.cursorSecs.getD b.1 + (now - since) * inner.speed then
        { inner with
          cursorSecs := some b.2
          mode := .replayPaused
          anchor := none
          revision := nextRevision inner.revision }
      else { inner with
        cursorSecs := some (max (inner.cursorSecs.getD b.1 + (now - since) * inner.speed) b.1)
        anchor := some now } := by
  have helapsed : max (now - since) 0 = now - since := max_eq_left (sub_nonneg.mpr hnow)
  unfold PlaybackInner.updateEffectiveCursor
  simp only [hmode, hanchor, Option.map_some, Option.getD_some, helapsed]

theorem updateEffectiveCursor_paused {now : Instant} (hmode : inner.mode = .replayPaused) :
    inner.updateEffectiveCursor (some b) now =
      { inner with
        cursorSecs := some (clamp (inner.cursorSecs.getD b.1) b.1 b.2)
        anchor := none } := by
  unfold PlaybackInner.updateEffectiveCursor
  simp only [hmode]

/-- **A move** covers the time since the last one. -/
theorem Cruising.update (h : Cruising b speed position since inner) (hb : b.1 ≤ b.2)
    (hspeed : 0 < speed) {now : Instant} (hnow : since ≤ now) :
    Cruising b speed (position + (now - since) * speed) now
        (inner.updateEffectiveCursor (some b) now) ∧
      (inner.updateEffectiveCursor (some b) now).cursorSecs =
        some (min (position + (now - since) * speed) b.2) ∧
      ((inner.updateEffectiveCursor (some b) now).mode = .replayPlaying ↔
        position + (now - since) * speed < b.2) := by
  have hcover : 0 ≤ (now - since) * speed := mul_nonneg (sub_nonneg.mpr hnow) hspeed.le
  have hlower : b.1 ≤ position + (now - since) * speed := by linarith [h.lower]
  rcases h.place with ⟨hmode, hposition, hanchor⟩ | ⟨hmode, hcursor, hpassed⟩
  · rw [updateEffectiveCursor_playing hmode hanchor hnow, h.speed, hposition]
    split_ifs with hend
    · refine ⟨⟨rfl, hlower, .inr ⟨rfl, rfl, hend⟩⟩, ?_, ?_⟩
      · rw [min_eq_right hend]
      · simp [hend]
    · rw [max_eq_left hlower]
      refine ⟨⟨rfl, hlower, .inl ⟨hmode, rfl, rfl⟩⟩, ?_, ?_⟩
      · rw [min_eq_left (not_le.mp hend).le]
      · exact iff_of_true hmode (not_le.mp hend)
  · have hpassed : b.2 ≤ position + (now - since) * speed := by linarith
    have hclamp : clamp b.2 b.1 b.2 = b.2 := by
      unfold clamp
      rw [max_eq_left hb, min_self]
    rw [updateEffectiveCursor_paused hmode, hcursor, Option.getD_some, hclamp]
    refine ⟨⟨h.speed, hlower, .inr ⟨hmode, rfl, hpassed⟩⟩, ?_, ?_⟩
    · rw [min_eq_right hpassed]
    · simp [hmode, hpassed]

/-- Polls and changes of the speed cover the sum of their stretches. -/
theorem Cruising.ride {store : TimeSeriesStore} {config : ReplayConfig}
    (hbounds : store.activeTimeBounds = some b) (hmin : 0 < config.minSpeed) {stop : Instant}
    (schedule : List (Instant × Option F64)) {inner : PlaybackInner} {speed position : ℚ}
    {since : Instant} (h : Cruising b speed position since inner) (hspeed : 0 < speed)
    (htimes : (since :: schedule.map Prod.fst ++ [stop]).Pairwise (· ≤ ·)) :
    ∃ speed' position' since', 0 < speed' ∧ since' ≤ stop ∧
      Cruising b speed' position' since' (inner.ride store config schedule) ∧
      position' + (stop - since') * speed' =
        position + distance config stop speed since schedule := by
  have hb : b.1 ≤ b.2 := bounds_le store b hbounds
  induction schedule generalizing inner speed position since with
  | nil =>
    have hstop : since ≤ stop := List.rel_of_pairwise_cons htimes (by simp)
    exact ⟨speed, position, since, hspeed, hstop, h, rfl⟩
  | cons entry rest ih =>
    obtain ⟨moment, request⟩ := entry
    have hnow : since ≤ moment := List.rel_of_pairwise_cons htimes (by simp)
    have hrest := (List.pairwise_cons.mp htimes).2
    obtain ⟨hmove, -, -⟩ := h.update hb hspeed hnow
    rcases request with _ | requested
    · -- a snapshot
      obtain ⟨speed', position', since', hspeed', hstop, hcruise, hsum⟩ := ih hmove hspeed hrest
      refine ⟨speed', position', since', hspeed', hstop, ?_, ?_⟩
      · show Cruising b speed' position' since'
          (((inner.snapshot store moment).1).ride store config rest)
        unfold PlaybackInner.snapshot
        rw [hbounds]
        exact hcruise
      · rw [hsum, distance]
        ring
    · rcases hvalid : validateSpeed config requested with e | next
      · -- a speed that is refused
        have hskip : (since :: rest.map Prod.fst ++ [stop]).Pairwise (· ≤ ·) := by
          refine htimes.sublist ?_
          exact (List.sublist_cons_self moment (rest.map Prod.fst ++ [stop])).cons_cons since
        obtain ⟨speed', position', since', hspeed', hstop, hcruise, hsum⟩ := ih h hspeed hskip
        refine ⟨speed', position', since', hspeed', hstop, ?_, ?_⟩
        · show Cruising b speed' position' since'
            (((inner.setSpeed store moment config requested).1).ride store config rest)
          unfold PlaybackInner.setSpeed
          rw [hvalid]
          exact hcruise
        · rw [hsum, distance, hvalid]
      · -- a new speed
        have hnext : 0 < next := hmin.trans_le (inRange_of_validateSpeed hvalid).1
        have hchanged : Cruising b next (position + (moment - since) * speed) moment
            (inner.setSpeed store moment config requested).1 := by
          unfold PlaybackInner.setSpeed
          rw [hvalid, hbounds]
          refine ⟨rfl, hmove.lower, ?_⟩
          rcases hmove.place with ⟨hmode, hposition, -⟩ | ⟨hmode, hcursor, hpassed⟩
          · refine .inl ⟨hmode, hposition, ?_⟩
            simp only [hmode, if_true]
          · exact .inr ⟨hmode, hcursor, hpassed⟩
        obtain ⟨speed', position', since', hspeed', hstop, hcruise, hsum⟩ :=
          ih hchanged hnext hrest
        refine ⟨speed', position', since', hspeed', hstop, hcruise, ?_⟩
        rw [hsum, distance, hvalid]
        ring

/-! ## Polls on the way -/

theorem anchor_update (inner : PlaybackInner) (bounds : Option (Secs × Secs)) (now : Instant) :
    (inner.updateEffectiveCursor bounds now).anchor = none ∨
      (inner.updateEffectiveCursor bounds now).anchor = some now := by
  unfold PlaybackInner.updateEffectiveCursor
  split
  · dsimp only
    split_ifs
    · exact .inl rfl
    · exact .inl rfl
  · split
    · exact .inl rfl
    · exact .inl rfl
    · dsimp only
      split_ifs
      · exact .inl rfl
      · exact .inr rfl

theorem not_behind_of_fits {bounds : Option (Secs × Secs)} (h : inner.Fits bounds) :
    ¬inner.Behind bounds := by
  rintro ⟨-, b, cursor, hb, hcursor, hlt⟩
  obtain ⟨cursor', hcursor', hlower, -⟩ := h.within b hb
  rw [hcursor] at hcursor'
  cases hcursor'
  exact absurd hlt (not_lt.mpr hlower)

/-- **Two moves are one.** -/
theorem update_update {bounds : Option (Secs × Secs)} (hb : ∀ b, bounds = some b → b.1 ≤ b.2)
    (hspeed : 0 < inner.speed) (hanchored : inner.Anchored) (hbehind : ¬inner.Behind bounds)
    {now stop : Instant} (hanchor : ∀ since, inner.anchor = some since → since ≤ now)
    (hstop : now ≤ stop) :
    (inner.updateEffectiveCursor bounds now).updateEffectiveCursor bounds stop =
      inner.updateEffectiveCursor bounds stop := by
  rcases bounds with _ | b
  · unfold PlaybackInner.updateEffectiveCursor
    by_cases hmode : inner.mode = .live
    · simp [hmode]
    · simp [hmode]
  have hle : b.1 ≤ b.2 := hb b rfl
  rcases hmode : inner.mode with _ | _ | _
  · unfold PlaybackInner.updateEffectiveCursor
    simp [hmode]
  · have hmem := clamp_mem (inner.cursorSecs.getD b.1) hle
    have hclamp : clamp (clamp (inner.cursorSecs.getD b.1) b.1 b.2) b.1 b.2 =
        clamp (inner.cursorSecs.getD b.1) b.1 b.2 := by
      nth_rewrite 1 [clamp]
      rw [max_eq_left hmem.1, min_eq_left hmem.2]
    have hpaused : (inner.updateEffectiveCursor (some b) now).mode = .replayPaused := by
      rw [updateEffectiveCursor_paused hmode]
      exact hmode
    rw [updateEffectiveCursor_paused hpaused, updateEffectiveCursor_paused hmode,
      updateEffectiveCursor_paused hmode]
    simp only [Option.getD_some, hclamp]
  · obtain ⟨since, hsince⟩ := Option.isSome_iff_exists.mp (hanchored.mpr hmode)
    have hnow : since ≤ now := hanchor since hsince
    have hlower : b.1 ≤ inner.cursorSecs.getD b.1 := by
      rcases hcursor : inner.cursorSecs with _ | cursor
      · exact le_refl _
      · rw [Option.getD_some]
        by_contra hlt
        exact hbehind ⟨hmode, b, cursor, rfl, hcursor, not_le.mp hlt⟩
    have hfirst : 0 ≤ (now - since) * inner.speed := mul_nonneg (sub_nonneg.mpr hnow) hspeed.le
    have hsecond : 0 ≤ (stop - now) * inner.speed := mul_nonneg (sub_nonneg.mpr hstop) hspeed.le
    have hsum : (stop - since) * inner.speed =
        (now - since) * inner.speed + (stop - now) * inner.speed := by ring
    rw [updateEffectiveCursor_playing hmode hsince hnow,
      updateEffectiveCursor_playing hmode hsince (hnow.trans hstop), hsum]
    by_cases hend : b.2 ≤ inner.cursorSecs.getD b.1 + (now - since) * inner.speed
    · -- the end is reached on the way
      have hclamp : clamp b.2 b.1 b.2 = b.2 := by
        unfold clamp
        rw [max_eq_left hle, min_self]
      rw [if_pos hend, updateEffectiveCursor_paused rfl, if_pos (by linarith)]
      simp only [Option.getD_some, hclamp]
    · have hrest := @updateEffectiveCursor_playing b now { inner with
          cursorSecs := some (inner.cursorSecs.getD b.1 + (now - since) * inner.speed)
          anchor := some now } stop hmode rfl hstop
      rw [if_neg hend, max_eq_left (by linarith), hrest]
      simp only [Option.getD_some, add_assoc]

/-- Nothing depends on the snapshots taken on the way. -/
theorem poll_update {store : TimeSeriesStore} (times : List Instant) {stop : Instant}
    {inner : PlaybackInner} (hspeed : 0 < inner.speed) (hanchored : inner.Anchored)
    (hbehind : ¬inner.Behind store.activeTimeBounds)
    (htimes : (inner.anchor.toList ++ times ++ [stop]).Pairwise (· ≤ ·)) :
    (inner.poll store times).updateEffectiveCursor store.activeTimeBounds stop =
      inner.updateEffectiveCursor store.activeTimeBounds stop := by
  induction times generalizing inner with
  | nil => rfl
  | cons now times ih =>
    have hfits := updateEffectiveCursor_fits inner now (bounds_le store)
    rw [List.append_assoc, List.pairwise_append] at htimes
    obtain ⟨-, hrest, hbefore⟩ := htimes
    have hnext : ((inner.updateEffectiveCursor store.activeTimeBounds now).anchor.toList ++ times ++
        [stop]).Pairwise (· ≤ ·) := by
      rcases anchor_update inner store.activeTimeBounds now with hanchor | hanchor
      · rw [hanchor]
        exact (List.pairwise_cons.mp hrest).2
      · rw [hanchor]
        exact hrest
    show ((inner.updateEffectiveCursor store.activeTimeBounds now).poll store
      times).updateEffectiveCursor store.activeTimeBounds stop = _
    rw [ih (by rwa [updateEffectiveCursor_speed]) hfits.anchored (not_behind_of_fits hfits) hnext]
    refine update_update (bounds_le store) hspeed hanchored hbehind (fun since hsince => ?_) ?_
    · exact hbefore since (by simp [hsince]) now (by simp)
    · exact List.rel_of_pairwise_cons hrest (by simp)

/-- **Snapshots on the way do not matter, unless the cursor is behind.** -/
theorem pollIndependent_iff {store : TimeSeriesStore} {inner : PlaybackInner}
    (hspeed : 0 < inner.speed) (hanchored : inner.Anchored) :
    inner.PollIndependent store ↔ ¬inner.Behind store.activeTimeBounds := by
  constructor
  · rintro hsame ⟨hmode, b, cursor, hbounds, hcursor, hlt⟩
    have hb : b.1 ≤ b.2 := bounds_le store b hbounds
    obtain ⟨since, hsince⟩ := Option.isSome_iff_exists.mp (hanchored.mpr hmode)
    -- a snapshot at the anchor puts the cursor on the lower bound
    have hfirst : inner.updateEffectiveCursor (some b) since =
        { inner with cursorSecs := some b.1, anchor := some since } := by
      rw [updateEffectiveCursor_playing hmode hsince (le_refl since), hcursor, Option.getD_some,
        sub_self, zero_mul, add_zero, if_neg (by linarith), max_eq_right hlt.le]
    have hcruise : Cruising b inner.speed b.1 since
        { inner with cursorSecs := some b.1, anchor := some since } :=
      ⟨rfl, le_refl _, .inl ⟨hmode, rfl, rfl⟩⟩
    have hobserved : ∀ stop, since ≤ stop →
        ({ inner with cursorSecs := some b.1, anchor := some since
          : PlaybackInner }.updateEffectiveCursor (some b) stop).snapshotFromInner (some b) =
          (inner.updateEffectiveCursor (some b) stop).snapshotFromInner (some b) := by
      intro stop hstop
      have hboth := hsame [since] stop (by simp [hsince, hstop])
      unfold PlaybackInner.poll PlaybackInner.snapshot at hboth
      simpa only [hbounds, List.foldl_cons, List.foldl_nil, hfirst] using hboth
    by_cases hdistinct : b.1 < b.2
    · -- at the time the cursor arrives at the lower bound the other run is past it
      have hgap : 0 < (b.1 - cursor) / inner.speed := div_pos (sub_pos.mpr hlt) hspeed
      have hcover : (since + (b.1 - cursor) / inner.speed - since) * inner.speed =
          b.1 - cursor := by
        rw [add_sub_cancel_left, div_mul_cancel₀ _ hspeed.ne']
      have hstop : since ≤ since + (b.1 - cursor) / inner.speed := by linarith
      have hcursors := congrArg PlaybackSnapshot.cursorSecs (hobserved _ hstop)
      have hpolled := (hcruise.update hb hspeed hstop).2.1
      rw [hcover] at hpolled
      have hunpolled : (inner.updateEffectiveCursor (some b)
          (since + (b.1 - cursor) / inner.speed)).cursorSecs = some b.1 := by
        rw [updateEffectiveCursor_playing hmode hsince hstop, hcursor, Option.getD_some, hcover,
          add_sub_cancel, if_neg (not_le.mpr hdistinct), max_self]
      have hequal := hpolled.symm.trans (hcursors.trans hunpolled)
      have hfar : b.1 < min (b.1 + (b.1 - cursor)) b.2 := lt_min (by linarith) hdistinct
      exact absurd (Option.some_injective _ hequal) hfar.ne'
    · -- the bounds are one point: at once, one run is over and the other is not
      have hmodes := congrArg PlaybackSnapshot.mode (hobserved since (le_refl since))
      have hpolled := (hcruise.update hb hspeed (le_refl since)).2.2
      rw [sub_self, zero_mul, add_zero] at hpolled
      have hrunning : (inner.updateEffectiveCursor (some b) since).mode = .replayPlaying := by
        rw [hfirst]
        exact hmode
      exact hdistinct (hpolled.mp (hmodes.trans hrunning))
  · intro hbehind times stop htimes
    have hsame := poll_update times hspeed hanchored hbehind htimes
    unfold PlaybackInner.snapshot
    dsimp only
    rw [hsame]

/-! ## The reachable states -/

/-- Replay goes forward. -/
structure PlaybackController.Forward (c : PlaybackController) : Prop where
  anchored : c.inner.Anchored
  speed : 0 < c.inner.speed
  min : 0 < c.config.minSpeed

theorem PlaybackController.Forward.next {c : PlaybackController} (h : c.Forward)
    (op : TimelineOp × Instant) : (c.next op).Forward := by
  obtain ⟨op, now⟩ := op
  rcases op with op | op | _ | _ | saved | _
  · -- a request
    have hans := control_fits c now op
    refine ⟨?_, ?_, h.min⟩
    · show (c.control now op).1.Anchored
      match hr : (c.control now op).2 with
      | .error e =>
        rw [hans.error e hr]
        exact h.anchored
      | .ok playback => exact (hans.ok playback hr).2.anchored
    · show 0 < (c.control now op).1.speed
      rcases hans.speed with hsame | hrange
      · rw [hsame]
        exact h.speed
      · exact h.min.trans_le hrange.1
  · exact ⟨h.anchored, h.speed, h.min⟩
  · exact ⟨h.anchored, h.speed, h.min⟩
  · refine ⟨?_, h.speed, h.min⟩
    show c.inner.resetEmpty.1.Anchored
    unfold PlaybackInner.resetEmpty PlaybackInner.Anchored
    simp
  · exact ⟨h.anchored, h.speed, h.min⟩
  · exact ⟨(resetAfterLoad_fits c.inner c.store).anchored, h.speed, h.min⟩

theorem PlaybackController.Forward.foldl {c : PlaybackController} (h : c.Forward)
    (run : List (TimelineOp × Instant)) : (run.foldl PlaybackController.next c).Forward := by
  induction run generalizing c with
  | nil => exact h
  | cons op run ih => exact ih (h.next op)

theorem PlaybackController.forward_new (store : TimeSeriesStore) {config : ReplayConfig}
    (hmin : 0 < config.minSpeed) (hdefault : 0 < config.defaultSpeed) :
    (PlaybackController.new store config).Forward := by
  refine ⟨?_, hdefault, hmin⟩
  unfold PlaybackInner.Anchored PlaybackController.new
  simp

/-- A second look at the same time finds the same cursor. -/
theorem cursor_update_again {bounds : Option (Secs × Secs)} {inner : PlaybackInner} {now : Instant}
    (hfits : inner.Fits bounds) (hspeed : 0 < inner.speed)
    (hanchor : inner.mode = .replayPlaying → inner.anchor = some now) :
    (inner.updateEffectiveCursor bounds now).cursorSecs = inner.cursorSecs := by
  rcases bounds with _ | b
  · rw [hfits.empty rfl]
    exact Option.not_isSome_iff_eq_none.mp (by rw [updateEffectiveCursor_cursor]; simp)
  obtain ⟨cursor, hcursor, hlower, hupper⟩ := hfits.within b rfl
  rcases hmode : inner.mode with _ | _ | _
  · rw [hfits.live hmode]
    unfold PlaybackInner.updateEffectiveCursor
    simp [hmode]
  · rw [updateEffectiveCursor_paused hmode, hcursor, Option.getD_some]
    unfold clamp
    rw [max_eq_left hlower, min_eq_left hupper]
  · have hcruise : Cruising b inner.speed cursor now inner :=
      ⟨rfl, hlower, .inl ⟨hmode, by rw [hcursor, Option.getD_some], hanchor hmode⟩⟩
    rw [(hcruise.update (hlower.trans hupper) hspeed (le_refl now)).2.1, sub_self, zero_mul,
      add_zero, min_eq_left hupper, hcursor]

/-- **A change of the speed keeps the effective cursor.** -/
theorem setSpeed_cursor {store : TimeSeriesStore} {config : ReplayConfig}
    (hmin : 0 < config.minSpeed) {inner : PlaybackInner} {now : Instant} {requested : F64}
    {playback : PlaybackSnapshot}
    (h : (inner.setSpeed store now config requested).2 = .ok playback) :
    playback.cursorSecs = (inner.snapshot store now).2.cursorSecs ∧
      playback.mode = (inner.snapshot store now).2.mode ∧
      ((inner.setSpeed store now config requested).1.snapshot store now).2.cursorSecs =
        playback.cursorSecs := by
  have hfits := updateEffectiveCursor_fits inner now (bounds_le store)
  unfold PlaybackInner.setSpeed at h ⊢
  rcases hvalid : validateSpeed config requested with e | speed
  · rw [hvalid] at h
    exact nomatch h
  · rw [hvalid] at h
    cases h
    refine ⟨rfl, rfl, cursor_update_again ⟨hfits.empty, hfits.within, hfits.live, hfits.running, ?_⟩
      (hmin.trans_le (inRange_of_validateSpeed hvalid).1) fun hmode => if_pos hmode⟩
    have hanchored := hfits.anchored
    unfold PlaybackInner.Anchored at hanchored ⊢
    dsimp only
    split_ifs with hmode
    · simp [hmode]
    · exact hanchored

/-- **Polling a reachable controller**: snapshots on the way do not matter, unless replay is running
with the cursor before the lower bound; a change of the speed keeps the effective cursor; and a run
with changes of the speed covers the sum of its stretches, up to the upper bound. -/
theorem polling_spec (store : TimeSeriesStore) {config : ReplayConfig} (hmin : 0 < config.minSpeed)
    (hdefault : 0 < config.defaultSpeed) (run : List (TimelineOp × Instant)) :
    let c := run.foldl PlaybackController.next (PlaybackController.new store config)
    (c.inner.PollIndependent c.store ↔ ¬c.inner.Behind c.store.activeTimeBounds) ∧
      (∀ (now : Instant) (requested : F64) (playback : PlaybackSnapshot),
        (c.inner.setSpeed c.store now config requested).2 = .ok playback →
          playback.cursorSecs = (c.inner.snapshot c.store now).2.cursorSecs ∧
            playback.mode = (c.inner.snapshot c.store now).2.mode ∧
            ((c.inner.setSpeed c.store now config requested).1.snapshot c.store now).2.cursorSecs =
              playback.cursorSecs) ∧
      ∀ (b : Secs × Secs) (since stop : Instant) (schedule : List (Instant × Option F64)),
        c.store.activeTimeBounds = some b → c.inner.mode = .replayPlaying →
        c.inner.anchor = some since → ¬c.inner.Behind c.store.activeTimeBounds →
        (since :: schedule.map Prod.fst ++ [stop]).Pairwise (· ≤ ·) →
          let last := ((c.inner.ride c.store config schedule).snapshot c.store stop).2
          let reached := c.inner.cursorSecs.getD b.1 +
            distance config stop c.inner.speed since schedule
          last.cursorSecs = some (min reached b.2) ∧
            (last.mode = .replayPlaying ↔ reached < b.2) := by
  intro c
  have hforward : c.Forward := (PlaybackController.forward_new store hmin hdefault).foldl run
  refine ⟨pollIndependent_iff hforward.speed hforward.anchored,
    fun now requested playback h => setSpeed_cursor hmin h, ?_⟩
  intro b since stop schedule hbounds hmode hanchor hbehind htimes last reached
  have hb : b.1 ≤ b.2 := bounds_le c.store b hbounds
  have hlower : b.1 ≤ c.inner.cursorSecs.getD b.1 := by
    rcases hcursor : c.inner.cursorSecs with _ | cursor
    · exact le_refl _
    · rw [Option.getD_some]
      by_contra hlt
      exact hbehind ⟨hmode, b, cursor, hbounds, hcursor, not_le.mp hlt⟩
  have hstart : Cruising b c.inner.speed (c.inner.cursorSecs.getD b.1) since c.inner :=
    ⟨rfl, hlower, .inl ⟨hmode, rfl, hanchor⟩⟩
  obtain ⟨speed, position, since', hspeed, hstop, hcruise, hsum⟩ :=
    hstart.ride hbounds hmin schedule hforward.speed htimes
  obtain ⟨-, hcursor, hplaying⟩ := hcruise.update hb hspeed hstop
  rw [hsum] at hcursor hplaying
  have hlast : last = (((c.inner.ride c.store config schedule).updateEffectiveCursor (some b)
      stop).snapshotFromInner (some b)) := by
    show (PlaybackInner.snapshot _ _ _).2 = _
    unfold PlaybackInner.snapshot
    rw [hbounds]
  rw [hlast]
  exact ⟨hcursor, hplaying⟩

/-- Replay of ten seconds under the default configuration. -/
def replayRun : List (TimelineOp × Instant) :=
  [(.append (.state "a" (.finite 0) {}), 0), (.append (.state "a" (.finite 10) {}), 0),
    (.control (.seek (.finite 0)), 0), (.control (.play none), 0)]

theorem polling_spec_default :
    let c := replayRun.foldl PlaybackController.next (PlaybackController.new {} {})
    (0 < c.config.minSpeed ∧ 0 < c.config.defaultSpeed ∧ c.inner.mode = .replayPlaying) ∧
      (c.inner.PollIndependent c.store ↔ ¬c.inner.Behind c.store.activeTimeBounds) :=
  ⟨by decide +kernel, (polling_spec {} (by decide +kernel) (by decide +kernel) replayRun).1⟩

/-! ## A replaced store -/

/-- The store is replaced under the running replay by one that begins at `100`. -/
def replacedRun : List (TimelineOp × Instant) :=
  replayRun ++ [(.replaceFrom ((({} : TimeSeriesStore).apply (.state "a" (.finite 100) {})).apply
    (.state "a" (.finite 110) {})), 1)]

def replacedController : PlaybackController :=
  replacedRun.foldl PlaybackController.next (PlaybackController.new {} {})

/-- **A snapshot on the way is seen**: with one at `55` the cursor at `60` is five seconds into the
new timeline, without it is at its beginning. -/
theorem not_pollIndependent_replaced :
    replacedController.inner.mode = .replayPlaying ∧
      ((replacedController.inner.poll replacedController.store [55]).snapshot
        replacedController.store 60).2.cursorSecs = some 105 ∧
      (replacedController.inner.snapshot replacedController.store 60).2.cursorSecs = some 100 ∧
      ¬replacedController.inner.PollIndependent replacedController.store := by
  have hpolled : ((replacedController.inner.poll replacedController.store [55]).snapshot
      replacedController.store 60).2.cursorSecs = some 105 := by decide +kernel
  have hunpolled : (replacedController.inner.snapshot
      replacedController.store 60).2.cursorSecs = some 100 := by decide +kernel
  refine ⟨by decide +kernel, hpolled, hunpolled, fun hsame => ?_⟩
  have hequal := congrArg PlaybackSnapshot.cursorSecs (hsame [55] 60 (by decide +kernel))
  rw [hpolled, hunpolled] at hequal
  exact absurd hequal (by decide)

end FlyRuler.Playback
