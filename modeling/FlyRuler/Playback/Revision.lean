import FlyRuler.Playback.Reachable

/-!
# The revision of the playback controller

A clear or a load is served as one request here: the store is replaced and playback is reset before
anything else happens.  A request moves the revision by at most two on balance: it can go up by
three only where playback was running, and the start of that playback moved it by one only.  So the
revision does not wrap within `2 ^ 63 - 1` requests, and a `play` at the end of the timeline, which
moves it by two, wraps it with the `2 ^ 63`-th (`play_wraps`).

* `updateEffectiveCursor_later`: the hidden step of a snapshot only moves forward in time.
* `Steady.serve`: one request.
* `revision_run`: what holds of every run of fewer than `2 ^ 63` requests.
-/

namespace FlyRuler.Playback

open FlyRuler.Pb FlyRuler.Store FlyRuler.Lib.TimeOrder FlyRuler.Lib.Run

/-! ## Requests -/

/-- A request of a client or a store append. -/
inductive TimelineRequest where
  | control (op : ControlOp)
  | append (op : AppendOp)
  | memoryClear
  | sessionLoad (saved : TimeSeriesStore)

/-- The operations a request consists of. -/
def TimelineRequest.ops : TimelineRequest → List TimelineOp
  | .control op => [.control op]
  | .append op => [.append op]
  | .memoryClear => [.clear, .resetEmpty]
  | .sessionLoad saved => [.replaceFrom saved, .resetAfterLoad]

/-- The request changes the timeline whenever it succeeds. -/
def TimelineRequest.Mutates : TimelineRequest → Prop
  | .control .snapshot => False
  | .append _ => False
  | _ => True

namespace PlaybackController

/-- Serve a request, with nothing in between its operations. -/
def request (c : PlaybackController) (r : TimelineRequest × Instant) :
    PlaybackController × Option (Except PlaybackError PlaybackSnapshot) :=
  r.1.ops.foldl (fun served op => served.1.perform (op, r.2)) (c, none)

/-- The controller after a request. -/
def serve (c : PlaybackController) (r : TimelineRequest × Instant) : PlaybackController :=
  (c.request r).1

end PlaybackController

/-! ## How far the revision moves -/

namespace PlaybackInner

/-- The revision, counting the pause that a running playback still has to come to. -/
def work (inner : PlaybackInner) : ℕ :=
  inner.revision + if inner.mode = .replayPlaying then 1 else 0

theorem revision_le_work (inner : PlaybackInner) : inner.revision ≤ inner.work :=
  Nat.le_add_right _ _

theorem work_le (inner : PlaybackInner) : inner.work ≤ inner.revision + 1 := by
  unfold work
  split_ifs <;> omega

theorem work_of_playing {inner : PlaybackInner} (h : inner.mode = .replayPlaying) :
    inner.work = inner.revision + 1 := by
  unfold work
  rw [if_pos h]

/-- The revision of `b` is later than that of `a`, by a bounded amount of work. -/
def Advances (a b : PlaybackInner) : Prop :=
  a.revision < b.revision ∧ b.work ≤ a.work + 2

/-- Nothing is lost from `a` to `b`: the revision does not go back, and where it stays the mode and
the speed stay and the cursor does not go back. -/
structure Later (a b : PlaybackInner) : Prop where
  revision : a.revision ≤ b.revision
  same : a.revision = b.revision → a.mode = b.mode ∧ a.speed = b.speed ∧
    ∀ x, a.cursorSecs = some x → ∃ y, b.cursorSecs = some y ∧ x ≤ y

theorem Later.refl (a : PlaybackInner) : a.Later a :=
  ⟨le_refl _, fun _ => ⟨rfl, rfl, fun x hx => ⟨x, hx, le_refl _⟩⟩⟩

theorem Later.trans {a b c : PlaybackInner} (hab : a.Later b) (hbc : b.Later c) : a.Later c := by
  refine ⟨hab.revision.trans hbc.revision, fun hac => ?_⟩
  have hrevision := hab.revision
  have hrevision' := hbc.revision
  obtain ⟨hmode, hspeed, hcursor⟩ := hab.same (by omega)
  obtain ⟨hmode', hspeed', hcursor'⟩ := hbc.same (by omega)
  refine ⟨hmode.trans hmode', hspeed.trans hspeed', fun x hx => ?_⟩
  obtain ⟨y, hy, hxy⟩ := hcursor x hx
  obtain ⟨z, hz, hyz⟩ := hcursor' y hy
  exact ⟨z, hz, hxy.trans hyz⟩

theorem Advances.later {a b : PlaybackInner} (h : a.Advances b) : a.Later b :=
  ⟨h.1.le, fun heq => absurd heq h.1.ne⟩

theorem nextRevision_of_lt {revision : ℕ} (h : revision + 1 < u64Size) :
    nextRevision revision = revision + 1 :=
  Nat.mod_eq_of_lt h

variable {inner : PlaybackInner}

/-- `update_effective_cursor` does no work beyond the pause already counted. -/
theorem updateEffectiveCursor_work (inner : PlaybackInner) (bounds : Option (Secs × Secs))
    (now : Instant) (hroom : inner.work < u64Size) :
    (inner.updateEffectiveCursor bounds now).work ≤ inner.work ∧
      inner.revision ≤ (inner.updateEffectiveCursor bounds now).revision := by
  unfold updateEffectiveCursor work
  unfold work at hroom
  rcases bounds with _ | b
  · dsimp only
    split_ifs with hlive hplaying <;> simp_all
  · rcases hmode : inner.mode with _ | _ | _
    · simp
    · simp
    · rw [hmode, if_pos rfl] at hroom
      by_cases hend : b.2 ≤ inner.cursorSecs.getD b.1 +
          (inner.anchor.map fun anchor => max (now - anchor) 0).getD 0 * inner.speed
      · simp [if_pos hend, nextRevision_of_lt hroom]
      · simp [if_neg hend]

/-- A state with the next revision of one that did no work advances. -/
theorem advances_of_revision {a u b : PlaybackInner} (hwork : u.work ≤ a.work)
    (hrevision : a.revision ≤ u.revision) (hroom : a.work + 2 < u64Size)
    (hb : b.revision = nextRevision u.revision) : a.Advances b := by
  have hle := u.revision_le_work
  rw [nextRevision_of_lt (by omega)] at hb
  have hwork' := b.work_le
  exact ⟨by omega, by omega⟩

/-- The cursor lies within the bounds, and playback runs only where there are bounds. -/
structure Placed (inner : PlaybackInner) (bounds : Option (Secs × Secs)) : Prop where
  within : ∀ x, inner.cursorSecs = some x → Within bounds x
  running : inner.mode = .replayPlaying → bounds.isSome

theorem Fits.placed {bounds : Option (Secs × Secs)} (h : inner.Fits bounds) :
    inner.Placed bounds := by
  refine ⟨fun x hx => ?_, h.running⟩
  rcases bounds with _ | b
  · have hnone := h.empty rfl
    rw [hx] at hnone
    exact nomatch hnone
  · obtain ⟨cursor, hcursor, hmem⟩ := h.within b rfl
    rw [hx] at hcursor
    cases hcursor
    exact ⟨b, rfl, hmem⟩

/-- **A snapshot only moves forward in time.** -/
theorem updateEffectiveCursor_later {bounds : Option (Secs × Secs)} (now : Instant)
    (hplaced : inner.Placed bounds) (hspeed : 0 ≤ inner.speed) (hroom : inner.work < u64Size) :
    inner.Later (inner.updateEffectiveCursor bounds now) := by
  refine ⟨(updateEffectiveCursor_work inner bounds now hroom).2, fun hrevision => ?_⟩
  unfold updateEffectiveCursor at hrevision ⊢
  rcases bounds with _ | b
  · have hnone : ∀ x, inner.cursorSecs ≠ some x := by
      intro x hx
      obtain ⟨b, hb, -⟩ := hplaced.within x hx
      exact nomatch hb
    have hnot : inner.mode ≠ .replayPlaying := fun h => nomatch hplaced.running h
    rcases hmode : inner.mode with _ | _ | _
    · exact ⟨rfl, rfl, fun x hx => absurd hx (hnone x)⟩
    · exact ⟨rfl, rfl, fun x hx => absurd hx (hnone x)⟩
    · exact absurd hmode hnot
  · have hmem : ∀ x, inner.cursorSecs = some x → b.1 ≤ x ∧ x ≤ b.2 := by
      intro x hx
      obtain ⟨b', hb', hmem⟩ := hplaced.within x hx
      cases hb'
      exact hmem
    rcases hmode : inner.mode with _ | _ | _
    all_goals
      rw [hmode] at hrevision
      dsimp only at hrevision ⊢
    · exact ⟨rfl, rfl, fun x hx => ⟨b.2, rfl, (hmem x hx).2⟩⟩
    · refine ⟨rfl, rfl, fun x hx => ⟨_, rfl, ?_⟩⟩
      rw [hx, Option.getD_some]
      exact le_min (le_max_left _ _) (hmem x hx).2
    · split_ifs at hrevision ⊢ with hnext
      · -- the pause at the end has a revision of its own
        have hwork := work_of_playing hmode
        dsimp only at hrevision
        rw [nextRevision_of_lt (by omega)] at hrevision
        omega
      · refine ⟨rfl, rfl, fun x hx => ⟨_, rfl, ?_⟩⟩
        rw [hx, Option.getD_some]
        refine le_trans ?_ (le_max_left _ _)
        refine le_add_of_nonneg_right (mul_nonneg ?_ hspeed)
        rcases inner.anchor with _ | anchor
        · exact le_refl _
        · exact le_max_right _ _

end PlaybackInner

/-! ## One request -/

/-- The snapshot shows this state. -/
structure Shows (playback : PlaybackSnapshot) (inner : PlaybackInner) : Prop where
  mode : playback.mode = inner.mode
  cursorSecs : playback.cursorSecs = inner.cursorSecs
  speed : playback.speed = inner.speed
  revision : playback.revision = inner.revision

theorem shows_snapshotFromInner (inner : PlaybackInner) (bounds : Option (Secs × Secs)) :
    Shows (inner.snapshotFromInner bounds) inner :=
  ⟨rfl, rfl, rfl, rfl⟩

open PlaybackInner in
/-- **A successful request other than a snapshot advances.** -/
theorem control_advances (c : PlaybackController) (now : Instant) (op : ControlOp)
    (hop : op ≠ .snapshot) (hroom : c.inner.work + 2 < u64Size) {playback : PlaybackSnapshot}
    (hok : (c.control now op).2 = .ok playback) : c.inner.Advances (c.control now op).1 := by
  have hupd := fun bounds => updateEffectiveCursor_work c.inner bounds now (by omega)
  rcases op with _ | _ | _ | timestamp | speed | speed | ⟨unit, direction, count⟩
  · exact absurd rfl hop
  · -- `live`
    exact advances_of_revision (le_refl _) (le_refl _) hroom rfl
  · -- `pause`
    unfold PlaybackController.control PlaybackInner.pause at hok ⊢
    dsimp only at hok ⊢
    split
    · next hb =>
      rw [hb] at hok
      exact nomatch hok
    · next b hb => exact advances_of_revision (hupd _).1 (hupd _).2 hroom rfl
  · -- `seek`
    unfold PlaybackController.control PlaybackInner.seek at hok ⊢
    dsimp only at hok ⊢
    split
    · next ht =>
      rw [ht] at hok
      exact nomatch hok
    · next t ht =>
      rw [ht] at hok
      dsimp only at hok ⊢
      split
      · next hb =>
        rw [hb] at hok
        exact nomatch hok
      · exact advances_of_revision (le_refl _) (le_refl _) hroom rfl
  · -- `play`: the state set and the pause that may follow at once
    unfold PlaybackController.control PlaybackInner.play at hok ⊢
    dsimp only at hok ⊢
    split
    · next hs =>
      rw [hs] at hok
      exact nomatch hok
    · next hs hb =>
      rw [hs, hb] at hok
      exact nomatch hok
    · next speed' b hs hb =>
      dsimp only
      generalize hset : ({ c.inner.updateEffectiveCursor (some b) now with
        speed := _, cursorSecs := _, mode := _, anchor := _, revision := _ } : PlaybackInner) = set
      have hadv : c.inner.Advances set :=
        advances_of_revision (hupd (some b)).1 (hupd (some b)).2 hroom (by rw [← hset])
      have hlast := updateEffectiveCursor_work set (some b) now (by
        have := hadv.2
        omega)
      exact ⟨lt_of_lt_of_le hadv.1 hlast.2, hlast.1.trans hadv.2⟩
  · -- `set_speed`
    unfold PlaybackController.control PlaybackInner.setSpeed at hok ⊢
    dsimp only at hok ⊢
    split
    · next hs =>
      rw [hs] at hok
      exact nomatch hok
    · next speed' hs => exact advances_of_revision (hupd _).1 (hupd _).2 hroom rfl
  · -- `step`
    unfold PlaybackController.control PlaybackInner.step at hok ⊢
    dsimp only at hok ⊢
    by_cases hcount : 1 ≤ count ∧ count ≤ 100
    · rw [if_neg (not_not.mpr hcount)] at hok ⊢
      split
      · next hb =>
        rw [hb] at hok
        exact nomatch hok
      · next b hb => exact advances_of_revision (hupd _).1 (hupd _).2 hroom rfl
    · rw [if_pos hcount] at hok
      exact nomatch hok

namespace PlaybackController

variable {c : PlaybackController}

/-- What holds between the requests. -/
structure Steady (c : PlaybackController) : Prop where
  placed : c.inner.Placed c.store.activeTimeBounds
  speed : 0 ≤ c.inner.speed

/-- What one request does. -/
structure Served (c : PlaybackController) (r : TimelineRequest × Instant) : Prop where
  steady : (c.serve r).Steady
  later : c.inner.Later (c.serve r).inner
  work : (c.serve r).inner.work ≤ c.inner.work + 2
  error : ∀ e, (c.request r).2 = some (.error e) → (c.serve r).inner = c.inner
  ok : ∀ playback, (c.request r).2 = some (.ok playback) → Shows playback (c.serve r).inner
  mutates : r.1.Mutates → (∃ playback, (c.request r).2 = some (.ok playback)) →
    c.inner.revision < (c.serve r).inner.revision

theorem serve_control (c : PlaybackController) (op : ControlOp) (now : Instant) :
    c.request (.control op, now) =
      ({ c with inner := (c.control now op).1 }, some (c.control now op).2) :=
  rfl

/-- A request other than an append, which succeeded. -/
theorem served_of_advances {r : TimelineRequest × Instant} (playback : PlaybackSnapshot)
    (hsteady : (c.serve r).Steady) (hadv : c.inner.Advances (c.serve r).inner)
    (hok : (c.request r).2 = some (.ok playback)) (hshows : Shows playback (c.serve r).inner) :
    Served c r where
  steady := hsteady
  later := hadv.later
  work := hadv.2
  error := fun e he => by rw [hok] at he; exact nomatch he
  ok := fun playback' hok' => by
    rw [hok] at hok'
    cases hok'
    exact hshows
  mutates := fun _ _ => hadv.1

theorem Steady.control (h : c.Steady) (hmin : 0 ≤ c.config.minSpeed)
    (hroom : c.inner.work + 2 < u64Size) (op : ControlOp) (now : Instant) :
    Served c (.control op, now) := by
  have hans := control_fits c now op
  match hr : (c.control now op).2 with
  | .error e =>
    have hinner : (c.serve (.control op, now)).inner = c.inner := hans.error e hr
    have hstore : (c.serve (.control op, now)).store = c.store := rfl
    refine ⟨⟨?_, ?_⟩, ?_, ?_, fun _ _ => hinner, ?_, ?_⟩
    · rw [hinner, hstore]
      exact h.placed
    · rw [hinner]
      exact h.speed
    · rw [hinner]
      exact PlaybackInner.Later.refl _
    · rw [hinner]
      omega
    · intro playback hok
      rw [serve_control, hr] at hok
      exact nomatch hok
    · rintro - ⟨playback, hok⟩
      rw [serve_control, hr] at hok
      exact nomatch hok
  | .ok playback =>
    obtain ⟨hplayback, hfits⟩ := hans.ok playback hr
    have hanswer : (c.request (.control op, now)).2 = some (.ok playback) := by
      rw [serve_control, hr]
    have hshows : Shows playback (c.serve (.control op, now)).inner :=
      hplayback ▸ shows_snapshotFromInner (c.control now op).1 _
    have hsteady : (c.serve (.control op, now)).Steady := by
      refine ⟨hfits.placed, ?_⟩
      show 0 ≤ (c.control now op).1.speed
      rcases hans.speed with hsame | hrange
      · rw [hsame]
        exact h.speed
      · exact hmin.trans hrange.1
    by_cases hop : op = .snapshot
    · subst hop
      have hwork := PlaybackInner.updateEffectiveCursor_work c.inner c.store.activeTimeBounds now
        (by omega)
      refine ⟨hsteady, ?_, hwork.1.trans (by omega), ?_, ?_, fun hmut => hmut.elim⟩
      · exact PlaybackInner.updateEffectiveCursor_later now h.placed h.speed (by omega)
      · intro e he
        rw [hanswer] at he
        exact nomatch he
      · intro playback' hok
        rw [hanswer] at hok
        cases hok
        exact hshows
    · have hadv := control_advances c now op hop hroom hr
      exact served_of_advances playback hsteady hadv hanswer hshows

/-- **One request** keeps what holds between the requests. -/
theorem Steady.serve (h : c.Steady) (hmin : 0 ≤ c.config.minSpeed)
    (hroom : c.inner.work + 2 < u64Size) (r : TimelineRequest × Instant) : Served c r := by
  obtain ⟨r, now⟩ := r
  rcases r with op | op | _ | saved
  · exact h.control hmin hroom op now
  · -- an append widens the bounds
    refine ⟨⟨⟨fun x hx => ?_, fun hplaying => ?_⟩, h.speed⟩, PlaybackInner.Later.refl _,
      Nat.le_add_right _ _, (fun e he => nomatch he), (fun playback hok => nomatch hok),
      fun hmut => hmut.elim⟩
    · obtain ⟨b, hb, hlo, hhi⟩ := h.placed.within x hx
      obtain ⟨b', hb', hle, hle'⟩ := c.store.activeTimeBounds_spec.mono
        (c.store.apply op).activeTimeBounds_spec (c.store.stamps_apply op) hb
      exact ⟨b', hb', hle.trans hlo, hhi.trans hle'⟩
    · obtain ⟨b, hb⟩ := Option.isSome_iff_exists.mp (h.placed.running hplaying)
      obtain ⟨b', hb', -⟩ := c.store.activeTimeBounds_spec.mono
        (c.store.apply op).activeTimeBounds_spec (c.store.stamps_apply op) hb
      exact Option.isSome_iff_exists.mpr ⟨b', hb'⟩
  · refine served_of_advances c.inner.resetEmpty.2
      ⟨⟨(fun x hx => nomatch hx), (fun hplaying => nomatch hplaying)⟩, h.speed⟩ ?_ rfl
      (shows_snapshotFromInner _ _)
    exact PlaybackInner.advances_of_revision (le_refl _) (le_refl _) hroom rfl
  · refine served_of_advances (c.inner.resetAfterLoad (c.store.replaceFrom saved)).2
      ⟨(resetAfterLoad_fits c.inner (c.store.replaceFrom saved)).placed, h.speed⟩ ?_ rfl
      (shows_snapshotFromInner _ _)
    exact PlaybackInner.advances_of_revision (le_refl _) (le_refl _) hroom rfl

/-! ## Runs -/

@[simp] theorem serve_config (c : PlaybackController) (r : TimelineRequest × Instant) :
    (c.serve r).config = c.config := by
  obtain ⟨r, now⟩ := r
  rcases r with op | op | _ | saved <;> rfl

/-- What the requests of a run leave behind, as long as the revision does not wrap. -/
theorem Steady.foldl (h : c.Steady) (hmin : 0 ≤ c.config.minSpeed)
    (run : List (TimelineRequest × Instant)) (hroom : c.inner.work + 2 * run.length < u64Size) :
    (run.foldl PlaybackController.serve c).Steady ∧
      c.inner.Later (run.foldl PlaybackController.serve c).inner ∧
      (run.foldl PlaybackController.serve c).inner.work ≤ c.inner.work + 2 * run.length ∧
      (run.foldl PlaybackController.serve c).config = c.config := by
  induction run generalizing c with
  | nil => exact ⟨h, PlaybackInner.Later.refl _, le_refl _, rfl⟩
  | cons r run ih =>
    rw [List.length_cons] at hroom
    have hserved := h.serve hmin (by omega) r
    have hwork := hserved.work
    obtain ⟨hsteady, hlater, hwork', hconfig⟩ :=
      ih hserved.steady (by rwa [serve_config]) (by omega)
    refine ⟨hsteady, hserved.later.trans hlater, ?_, hconfig.trans (serve_config c r)⟩
    rw [List.foldl_cons, List.length_cons]
    omega

/-- A new controller over any store. -/
theorem steady_new (store : TimeSeriesStore) {config : ReplayConfig}
    (hdefault : 0 ≤ config.defaultSpeed) : (new store config).Steady :=
  ⟨⟨(fun _ hx => nomatch hx), (fun hplaying => nomatch hplaying)⟩, hdefault⟩

/-- Each request of a run, and the state it is served in. -/
theorem served_run (store : TimeSeriesStore) {config : ReplayConfig} (hmin : 0 ≤ config.minSpeed)
    (hdefault : 0 ≤ config.defaultSpeed) {run pre : List (TimelineRequest × Instant)}
    {r : TimelineRequest × Instant} (hlen : run.length < u64Size / 2) (hpre : pre ++ [r] <+: run) :
    Served (pre.foldl serve (new store config)) r := by
  have hle : (pre ++ [r]).length ≤ run.length := hpre.length_le
  rw [List.length_append, List.length_singleton] at hle
  have hwork : (new store config).inner.work = 0 := rfl
  have hsize : u64Size = 2 * (u64Size / 2) := by decide
  obtain ⟨hsteady, -, hwork', hconfig⟩ :=
    (steady_new store hdefault).foldl hmin pre (by rw [hwork]; omega)
  exact hsteady.serve (by rw [hconfig]; exact hmin) (by omega) r

/-- **The revision law.** In every run of fewer than `2 ^ 63` requests: a request that fails changes
nothing; a request that changes the timeline increases the revision, and so does every end of
running playback; and of two snapshots with the same revision the later one has the same mode and
speed and a cursor that is not smaller. -/
theorem revision_run (store : TimeSeriesStore) (config : ReplayConfig)
    (hmin : 0 ≤ config.minSpeed) (hdefault : 0 ≤ config.defaultSpeed)
    (run : List (TimelineRequest × Instant)) (hlen : run.length < u64Size / 2) :
    (∀ pre r, pre ++ [r] <+: run →
      let c := pre.foldl serve (new store config)
      (∀ e, (c.request r).2 = some (.error e) → (c.serve r).inner = c.inner) ∧
      (r.1.Mutates → ∀ playback, (c.request r).2 = some (.ok playback) →
        c.inner.revision < (c.serve r).inner.revision ∧
          playback.revision = (c.serve r).inner.revision) ∧
      (c.inner.mode = .replayPlaying → (c.serve r).inner.mode ≠ .replayPlaying →
        c.inner.revision < (c.serve r).inner.revision)) ∧
    ∀ pre r pre' r', pre ++ [r] <+: pre' → pre' ++ [r'] <+: run → ∀ playback playback',
      ((pre.foldl serve (new store config)).request r).2 = some (.ok playback) →
      ((pre'.foldl serve (new store config)).request r').2 = some (.ok playback') →
      playback.revision = playback'.revision →
      playback.mode = playback'.mode ∧ playback.speed = playback'.speed ∧
        ∀ x, playback.cursorSecs = some x → ∃ y, playback'.cursorSecs = some y ∧ x ≤ y := by
  refine ⟨fun pre r hpre => ?_, fun pre r pre' r' hpre hpre' playback playback' hok hok' hrev => ?_⟩
  · have hserved := served_run store hmin hdefault hlen hpre
    intro c
    refine ⟨hserved.error, fun hmut playback hok => ?_, fun hplaying hnot => ?_⟩
    · exact ⟨hserved.mutates hmut ⟨playback, hok⟩, (hserved.ok playback hok).revision⟩
    · refine lt_of_le_of_ne hserved.later.revision fun heq => hnot ?_
      rw [← (hserved.later.same heq).1]
      exact hplaying
  · have hlong : pre' <+: run := (List.prefix_append pre' [r']).trans hpre'
    have hserved := served_run store hmin hdefault hlen (hpre.trans hlong)
    have hserved' := served_run store hmin hdefault hlen hpre'
    have hshows := hserved.ok playback hok
    have hshows' := hserved'.ok playback' hok'
    obtain ⟨between, rfl⟩ := hpre
    -- the requests between the two snapshots
    have hlater : (PlaybackController.serve (pre.foldl serve (new store config)) r).inner.Later
        ((pre ++ [r] ++ between).foldl serve (new store config)).inner := by
      have hsize : u64Size = 2 * (u64Size / 2) := by decide
      have hle := hlong.length_le
      rw [List.length_append, List.length_append, List.length_singleton] at hle
      have hwork : (new store config).inner.work = 0 := rfl
      obtain ⟨-, -, hworkPre, hconfig⟩ :=
        (steady_new store hdefault).foldl hmin pre (by rw [hwork]; omega)
      have hworkServed := hserved.work
      obtain ⟨-, hlater, -⟩ := hserved.steady.foldl (by rw [serve_config, hconfig]; exact hmin)
        between (by omega)
      rw [List.foldl_append, List.foldl_append]
      exact hlater
    have hfinal := hlater.trans hserved'.later
    rw [hshows.revision, hshows'.revision] at hrev
    obtain ⟨hmode, hspeed, hcursor⟩ := hfinal.same hrev
    rw [hshows.mode, hshows.speed, hshows.cursorSecs, hshows'.mode, hshows'.speed,
      hshows'.cursorSecs]
    exact ⟨hmode, hspeed, hcursor⟩

/-- The law for a run that loads a session and plays it. -/
theorem revision_run_load :
    let saved := TimeSeriesStore.apply {} (.state "a" (.finite 1) {})
    let c := (new {} {}).serve (.sessionLoad saved, 0)
    c.inner.revision < (c.serve (.control (.play none), 0)).inner.revision :=
  (((revision_run {} {} (by decide +kernel) (by decide +kernel)
    [(.sessionLoad _, 0), (.control (.play none), 0)] (by decide)).1
    [(.sessionLoad _, 0)] (.control (.play none), 0) (List.prefix_refl _)).2.1 trivial
    ⟨.replayPaused, some 1, 1, some (1, 1), 3⟩ (by decide +kernel)).1

/-! ## The revision wraps -/

/-- A store with one sample, at zero. -/
def oneSample : TimeSeriesStore := TimeSeriesStore.apply {} (.state "a" (.finite 0) {})

/-- Paused at the end of the one sample. -/
def atEnd (revision : ℕ) : PlaybackController :=
  ⟨oneSample, {}, { mode := .replayPaused, cursorSecs := some 0, revision := revision }⟩

/-- The request `play`, at a time when nothing has elapsed. -/
def playRequest : TimelineRequest × Instant := (.control (.play none), 0)

/-- A `play` at the end has two revisions: of the start and of the pause. -/
theorem request_atEnd (revision : ℕ) :
    (atEnd revision).request playRequest =
      (atEnd (nextRevision (nextRevision revision)), some (.ok
        ⟨.replayPaused, some 0, 1, some (0, 0), nextRevision (nextRevision revision)⟩)) := by
  have hb : oneSample.activeTimeBounds = some (0, 0) := by decide +kernel
  show (({ atEnd revision with inner := ((atEnd revision).control 0 (.play none)).1 } :
    PlaybackController), some ((atEnd revision).control 0 (.play none)).2) = _
  simp [control, PlaybackInner.play, PlaybackInner.requestedSpeed, atEnd, hb,
    PlaybackInner.updateEffectiveCursor, PlaybackInner.snapshotFromInner, clamp]

theorem nextRevision_twice (n : ℕ) :
    nextRevision (nextRevision (n % u64Size)) = (n + 2) % u64Size := by
  unfold nextRevision
  rw [Nat.mod_add_mod, Nat.add_assoc, Nat.mod_add_mod]

theorem foldl_plays (n : ℕ) :
    (List.replicate (n + 1) playRequest).foldl serve (new oneSample {}) =
      atEnd (2 * (n + 1) % u64Size) := by
  induction n with
  | zero =>
    have hb : oneSample.activeTimeBounds = some (0, 0) := by decide +kernel
    show ({ new oneSample {} with inner := ((new oneSample {}).control 0 (.play none)).1 } :
      PlaybackController) = _
    simp [control, PlaybackInner.play, PlaybackInner.requestedSpeed, atEnd, hb, new,
      PlaybackInner.updateEffectiveCursor, PlaybackInner.snapshotFromInner, clamp]
    decide
  | succ n ih =>
    rw [List.replicate_succ', List.foldl_append, ih, List.foldl_cons, List.foldl_nil]
    unfold serve
    rw [request_atEnd, nextRevision_twice]
    rfl

/-- **The revision wraps with the `2 ^ 63`-th request** at the latest, so it does not increase with
every successful request of a run of fewer than `2 ^ 64`. -/
theorem play_wraps :
    ¬ ∀ run : List (TimelineRequest × Instant), run.length < u64Size →
      ∀ pre r, pre ++ [r] <+: run → r.1.Mutates → ∀ playback,
        ((pre.foldl serve (new oneSample {})).request r).2 = some (.ok playback) →
        (pre.foldl serve (new oneSample {})).inner.revision < playback.revision := by
  intro hlaw
  obtain ⟨n, hn⟩ : ∃ n, u64Size = 2 * (n + 2) := ⟨u64Size / 2 - 2, by decide⟩
  have hserved := foldl_plays n
  have hanswer : ((List.replicate (n + 1) playRequest).foldl serve (new oneSample {})).request
      playRequest = (atEnd 0, some (.ok ⟨.replayPaused, some 0, 1, some (0, 0), 0⟩)) := by
    rw [hserved, request_atEnd, nextRevision_twice, show 2 * (n + 1) + 2 = u64Size by omega,
      Nat.mod_self]
  have hlt := hlaw (List.replicate (n + 2) playRequest)
    (by rw [List.length_replicate]; omega) (List.replicate (n + 1) playRequest) playRequest
    (List.replicate_succ' ▸ List.prefix_refl _) trivial _ (congrArg Prod.snd hanswer)
  exact absurd hlt (Nat.not_lt_zero _)

end PlaybackController

end FlyRuler.Playback
