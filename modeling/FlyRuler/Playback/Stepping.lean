import FlyRuler.Playback
import FlyRuler.Store.Bounds
import FlyRuler.Lib.Walk
import Mathlib.Data.Finset.Sort

/-!
# Stepping through the frames

The timestamps of all aircraft, states or events, are the frames of the timeline.  The search for an
adjacent frame asks each series for its nearest entry, takes the nearest of these, and goes on from
there.

* `nearest_adjacentCandidate`: one round finds the nearest frame.
* `adjacentGlobalTimestamp_eq`: the search is a walk over the frames in order.
* `step_eq`: a step of the paused controller is such a walk; the time bounds cut nothing off.
-/

namespace FlyRuler.Store

open FlyRuler.Pb FlyRuler.Lib.Keyed FlyRuler.Lib.TimeOrder FlyRuler.Lib.Walk
open TimeSeriesStore

/-- The timestamps of one aircraft that are of a kind. -/
def AircraftTimeSeries.stampsOf (s : AircraftTimeSeries) : TimelineEntryKind → List Secs
  | .state => s.states.entries.map Stamped.stamp
  | .event => s.events.entries.map Stamped.stamp

namespace TimeSeriesStore

variable (store : TimeSeriesStore)

def previousGlobalStateTimestamp (cursor : F64) (count : ℕ) : Option Secs :=
  cursor.toFinite.bind fun cursor => store.adjacentGlobalTimestamp cursor count .state false

def nextGlobalStateTimestamp (cursor : F64) (count : ℕ) : Option Secs :=
  cursor.toFinite.bind fun cursor => store.adjacentGlobalTimestamp cursor count .state true

def previousGlobalEventTimestamp (cursor : F64) (count : ℕ) : Option Secs :=
  cursor.toFinite.bind fun cursor => store.adjacentGlobalTimestamp cursor count .event false

def nextGlobalEventTimestamp (cursor : F64) (count : ℕ) : Option Secs :=
  cursor.toFinite.bind fun cursor => store.adjacentGlobalTimestamp cursor count .event true

/-- The distinct timestamps of a kind over all aircraft. -/
def frames (kind : TimelineEntryKind) : Finset Secs :=
  ((toPairs store.data).flatMap fun entry => entry.2.stampsOf kind).toFinset

/-- The frames strictly after the cursor, the nearest first. -/
def framesAfter (kind : TimelineEntryKind) (cursor : Secs) : List Secs :=
  ((store.frames kind).sort (· ≤ ·)).filter fun t => decide (cursor < t)

/-- The frames strictly before the cursor, the nearest first. -/
def framesBefore (kind : TimelineEntryKind) (cursor : Secs) : List Secs :=
  ((store.frames kind).sort (· ≥ ·)).filter fun t => decide (t < cursor)

/-- One round of the search, from `probe`. -/
def nextFrame (kind : TimelineEntryKind) (forward : Bool) (probe : Secs) : Option Secs :=
  store.adjacentCandidate probe kind forward

end TimeSeriesStore

/-- The result is the `count`-th of the frames ahead, the last one if there are fewer; there is none
only if nothing is ahead. -/
def IsFrame (ahead : List Secs) (count : ℕ) (result : Option Secs) : Prop :=
  result = ahead[min count ahead.length - 1]? ∧ (result = none ↔ ahead = [])

/-! ## One round -/

section Round
variable {α : Type}

/-- The entry found ahead in a series is the first of the later ones. -/
theorem adjacentStamp_forward (t : Timeline Secs α) (probe : Secs) :
    adjacentStamp t.entries probe true =
      ((t.entries.map Stamped.stamp).filter fun stamp => decide (probe < stamp)).head? := by
  have hdrop := drop_partitionPoint (partitioned_le t.sorted probe)
  unfold adjacentStamp
  rw [if_pos rfl, ← List.head?_drop, hdrop, List.filter_map, List.head?_map]
  congr 2
  refine List.filter_congr fun e _ => ?_
  show (!decide (e.stamp ≤ probe)) = decide (probe < e.stamp)
  rw [← decide_not, decide_eq_decide]
  exact not_le

/-- The entry found behind in a series is the last of the earlier ones. -/
theorem adjacentStamp_backward (t : Timeline Secs α) (probe : Secs) :
    adjacentStamp t.entries probe false =
      ((t.entries.map Stamped.stamp).filter fun stamp => decide (stamp < probe)).getLast? := by
  have htake := take_partitionPoint (partitioned_lt t.sorted probe)
  unfold adjacentStamp
  rw [if_neg (by simp), htake, List.filter_map, List.getLast?_map]
  rfl

end Round

theorem AircraftTimeSeries.pairwise_stampsOf (s : AircraftTimeSeries) (kind : TimelineEntryKind) :
    (s.stampsOf kind).Pairwise (· ≤ ·) := by
  cases kind with
  | state => exact List.pairwise_map.mpr s.states.sorted
  | event => exact List.pairwise_map.mpr s.events.sorted

/-- The first element of a list in order is the least. -/
theorem exists_head?_le {l : List Secs} (hl : l.Pairwise (· ≤ ·)) {t : Secs} (ht : t ∈ l) :
    ∃ h ∈ l.head?, h ≤ t := by
  cases l with
  | nil => exact absurd ht List.not_mem_nil
  | cons first rest =>
    refine ⟨first, rfl, ?_⟩
    rcases List.mem_cons.mp ht with rfl | hrest
    · exact le_refl _
    · exact List.rel_of_pairwise_cons hl hrest

/-- The last element of a list in order is the greatest. -/
theorem exists_getLast?_ge {l : List Secs} (hl : l.Pairwise (· ≤ ·)) {t : Secs} (ht : t ∈ l) :
    ∃ h ∈ l.getLast?, t ≤ h := by
  obtain ⟨rest, last, rfl⟩ := List.eq_nil_or_concat l |>.resolve_left (List.ne_nil_of_mem ht)
  rw [List.concat_eq_append] at hl ht ⊢
  refine ⟨last, by simp, ?_⟩
  rcases List.mem_append.mp ht with hrest | hlast
  · exact (List.pairwise_append.mp hl).2.2 t hrest last List.mem_cons_self
  · exact (List.mem_singleton.mp hlast).le

/-- The least of representatives of what is later than `probe` is the nearest. -/
theorem nearest_min {frames : Set Secs} {probe : Secs} {l : List Secs}
    (hmem : ∀ h ∈ l, h ∈ frames ∧ probe < h)
    (hle : ∀ t ∈ frames, probe < t → ∃ h ∈ l, h ≤ t) : Nearest (· < ·) frames probe l.min? := by
  obtain ⟨hnone, hleast⟩ := @bounds_min l {t | t ∈ frames ∧ probe < t} hmem
    fun t ht => hle t ht.1 ht.2
  rcases hmin : l.min? with _ | a
  · intro t ht hprobe
    exact Set.eq_empty_iff_forall_notMem.mp (hnone hmin) t ⟨ht, hprobe⟩
  · obtain ⟨⟨ha, hprobe⟩, hlower⟩ := hleast a hmin
    refine ⟨ha, hprobe, fun t ht hprobe => ?_⟩
    exact (hlower ⟨ht, hprobe⟩).eq_or_lt.imp_left Eq.symm

theorem nearest_max {frames : Set Secs} {probe : Secs} {l : List Secs}
    (hmem : ∀ h ∈ l, h ∈ frames ∧ h < probe)
    (hle : ∀ t ∈ frames, t < probe → ∃ h ∈ l, t ≤ h) : Nearest (· > ·) frames probe l.max? := by
  obtain ⟨hnone, hgreatest⟩ := @bounds_max l {t | t ∈ frames ∧ t < probe} hmem
    fun t ht => hle t ht.1 ht.2
  rcases hmax : l.max? with _ | a
  · intro t ht hprobe
    exact Set.eq_empty_iff_forall_notMem.mp (hnone hmax) t ⟨ht, hprobe⟩
  · obtain ⟨⟨ha, hprobe⟩, hupper⟩ := hgreatest a hmax
    exact ⟨ha, hprobe, fun t ht hprobe => (hupper ⟨ht, hprobe⟩).eq_or_lt⟩

/-- The last of the first `count` elements of a list. -/
theorem getLast?_take_isFrame (ahead : List Secs) {count : ℕ} (hcount : 1 ≤ count) :
    IsFrame ahead count (ahead.take count).getLast? := by
  constructor
  · rw [List.getLast?_eq_getElem?, List.length_take, List.getElem?_take]
    split_ifs with h
    · rfl
    · omega
  · rw [List.getLast?_eq_none_iff, List.take_eq_nil_iff]
    exact ⟨fun h => h.resolve_left (by omega), Or.inr⟩

namespace TimeSeriesStore

variable {store : TimeSeriesStore}

theorem mem_frames {kind : TimelineEntryKind} {t : Secs} :
    t ∈ store.frames kind ↔ ∃ entry ∈ toPairs store.data, t ∈ entry.2.stampsOf kind := by
  unfold frames
  rw [List.mem_toFinset, List.mem_flatMap]

theorem adjacentCandidate_forward (probe : Secs) (kind : TimelineEntryKind) :
    store.adjacentCandidate probe kind true = ((toPairs store.data).filterMap fun entry =>
      ((entry.2.stampsOf kind).filter fun t => decide (probe < t)).head?).min? := by
  unfold adjacentCandidate
  cases kind with
  | state => simp only [adjacentStamp_forward, AircraftTimeSeries.stampsOf, if_true]
  | event => simp only [adjacentStamp_forward, AircraftTimeSeries.stampsOf, if_true]

theorem adjacentCandidate_backward (probe : Secs) (kind : TimelineEntryKind) :
    store.adjacentCandidate probe kind false = ((toPairs store.data).filterMap fun entry =>
      ((entry.2.stampsOf kind).filter fun t => decide (t < probe)).getLast?).max? := by
  unfold adjacentCandidate
  cases kind with
  | state =>
    simp only [adjacentStamp_backward, AircraftTimeSeries.stampsOf, Bool.false_eq_true, if_false]
  | event =>
    simp only [adjacentStamp_backward, AircraftTimeSeries.stampsOf, Bool.false_eq_true, if_false]

/-- What is picked from the series of each aircraft among the frames with a property, and is the
best there, represents all frames with the property. -/
theorem picked_frames {kind : TimelineEntryKind} {p : Secs → Bool}
    {pick : List Secs → Option Secs} {better : Secs → Secs → Prop}
    (hmem : ∀ l, ∀ h ∈ pick l, h ∈ l)
    (hbest : ∀ l : List Secs, l.Pairwise (· ≤ ·) → ∀ t ∈ l, ∃ h ∈ pick l, better h t) :
    (∀ h ∈ (toPairs store.data).filterMap fun entry => pick ((entry.2.stampsOf kind).filter p),
      h ∈ store.frames kind ∧ p h = true) ∧
    ∀ t ∈ store.frames kind, p t = true → ∃ h ∈ (toPairs store.data).filterMap fun entry =>
      pick ((entry.2.stampsOf kind).filter p), better h t := by
  constructor
  · intro h hh
    obtain ⟨entry, hentry, hpick⟩ := List.mem_filterMap.mp hh
    obtain ⟨hstamp, hp⟩ := List.mem_filter.mp (hmem _ h hpick)
    exact ⟨mem_frames.mpr ⟨entry, hentry, hstamp⟩, hp⟩
  · intro t ht hp
    obtain ⟨entry, hentry, hstamp⟩ := mem_frames.mp ht
    obtain ⟨h, hpick, hbetter⟩ := hbest _ ((entry.2.pairwise_stampsOf kind).filter _) t
      (List.mem_filter.mpr ⟨hstamp, hp⟩)
    exact ⟨h, List.mem_filterMap.mpr ⟨entry, hentry, hpick⟩, hbetter⟩

/-- **One round forward** finds the nearest later frame. -/
theorem nearest_forward (kind : TimelineEntryKind) (probe : Secs) :
    Nearest (· < ·) {t | t ∈ store.frames kind} probe
      (store.adjacentCandidate probe kind true) := by
  rw [adjacentCandidate_forward]
  obtain ⟨hmem, hbest⟩ := @picked_frames store kind (fun t => decide (probe < t)) List.head?
    (· ≤ ·) (fun _ _ => List.mem_of_head?) fun _ hl _ => exists_head?_le hl
  refine nearest_min (fun h hh => ?_) fun t ht hprobe => hbest t ht (decide_eq_true hprobe)
  exact (hmem h hh).imp_right of_decide_eq_true

/-- **One round backward** finds the nearest earlier frame. -/
theorem nearest_backward (kind : TimelineEntryKind) (probe : Secs) :
    Nearest (· > ·) {t | t ∈ store.frames kind} probe
      (store.adjacentCandidate probe kind false) := by
  rw [adjacentCandidate_backward]
  obtain ⟨hmem, hbest⟩ := @picked_frames store kind (fun t => decide (t < probe)) List.getLast?
    (· ≥ ·) (fun _ _ => List.mem_of_getLast?) fun _ hl _ => exists_getLast?_ge hl
  refine nearest_max (fun h hh => ?_) fun t ht hprobe => hbest t ht (decide_eq_true hprobe)
  exact (hmem h hh).imp_right of_decide_eq_true

/-! ## The search -/

/-- The search is a walk. -/
theorem adjacentLoop_eq (kind : TimelineEntryKind) (forward : Bool) (count : ℕ) (probe : Secs)
    (result : Option Secs) :
    store.adjacentLoop kind forward count probe result =
      (steps (store.nextFrame kind forward) count probe).getLast?.or result := by
  induction count generalizing probe result with
  | zero => rfl
  | succ count ih =>
    rw [adjacentLoop, steps]
    rcases hnext : store.nextFrame kind forward probe with _ | candidate
    · unfold nextFrame at hnext
      rw [hnext]
      rfl
    · unfold nextFrame at hnext
      rw [hnext]
      show store.adjacentLoop kind forward count candidate (some candidate) =
        (candidate :: steps (store.nextFrame kind forward) count candidate).getLast?.or result
      rw [ih, List.getLast?_cons]
      rcases (steps (store.nextFrame kind forward) count candidate).getLast? with _ | last
      · rfl
      · rfl

theorem adjacentGlobalTimestamp_eq (cursor : Secs) (count : ℕ) (kind : TimelineEntryKind)
    (forward : Bool) : store.adjacentGlobalTimestamp cursor count kind forward =
      (steps (store.nextFrame kind forward) count cursor).getLast? := by
  unfold adjacentGlobalTimestamp
  rw [adjacentLoop_eq, Option.or_none]

/-- **The frames a search comes to**, going forward. -/
theorem steps_forward (kind : TimelineEntryKind) (count : ℕ) (cursor : Secs) :
    steps (store.nextFrame kind true) count cursor =
      (store.framesAfter kind cursor).take count := by
  have hsorted : ((store.frames kind).sort (· ≤ ·)).Pairwise (· < ·) :=
    ((store.frames kind).sortedLT_sort).pairwise
  refine steps_eq_take hsorted (fun probe => ?_) count cursor
  simp only [Finset.mem_sort]
  exact nearest_forward kind probe

/-- **The frames a search comes to**, going backward. -/
theorem steps_backward (kind : TimelineEntryKind) (count : ℕ) (cursor : Secs) :
    steps (store.nextFrame kind false) count cursor =
      (store.framesBefore kind cursor).take count := by
  have hsorted : ((store.frames kind).sort (· ≥ ·)).Pairwise (· > ·) :=
    ((store.frames kind).sortedGT_sort).pairwise
  refine steps_eq_take hsorted (fun probe => ?_) count cursor
  simp only [Finset.mem_sort]
  exact nearest_backward kind probe

theorem frames_subset_stamps (store : TimeSeriesStore) (kind : TimelineEntryKind) :
    {t | t ∈ store.frames kind} ⊆ store.stamps := by
  intro t ht
  obtain ⟨⟨id, s⟩, hentry, hmem⟩ := mem_frames.mp ht
  refine ⟨id, s, mem_toPairs.mp hentry, ?_⟩
  cases kind with
  | state => exact .inl (List.mem_map.mp hmem)
  | event => exact .inr (.inl (List.mem_map.mp hmem))

/-- A search that starts within the time bounds ends within them. -/
theorem within_walk (kind : TimelineEntryKind) (forward : Bool) {cursor : Secs} (count : ℕ)
    (h : Within store.activeTimeBounds cursor) :
    Within store.activeTimeBounds (walk (store.nextFrame kind forward) count cursor) := by
  obtain ⟨b, hb, hcursor⟩ := h
  have hexact : Bounds store.stamps (some b) := by
    rw [← hb]
    exact activeTimeBounds_spec store
  have hnext : ∀ probe, store.nextFrame kind forward probe = none ∨
      ∃ t ∈ store.frames kind, store.nextFrame kind forward probe = some t := by
    intro probe
    have hnearest : ∃ r, Nearest r {t | t ∈ store.frames kind} probe
        (store.nextFrame kind forward probe) := by
      cases forward with
      | true => exact ⟨_, nearest_forward kind probe⟩
      | false => exact ⟨_, nearest_backward kind probe⟩
    obtain ⟨r, hr⟩ := hnearest
    rcases hfound : store.nextFrame kind forward probe with _ | t
    · exact .inl rfl
    · rw [hfound] at hr
      exact .inr ⟨t, hr.1, rfl⟩
  rcases walk_eq_or_mem hnext count cursor with heq | hmem
  · rw [heq]
    exact ⟨b, hb, hcursor⟩
  · have hstamp := frames_subset_stamps store kind hmem
    exact ⟨b, hb, hexact.1.2 hstamp, hexact.2.2 hstamp⟩

end TimeSeriesStore

end FlyRuler.Store

namespace FlyRuler.Playback

open FlyRuler.Pb FlyRuler.Store FlyRuler.Lib.Walk

/-- The kind of entries a unit steps through. -/
def PlaybackStepUnit.kind : PlaybackStepUnit → TimeSeriesStore.TimelineEntryKind
  | .sample => .state
  | .event => .event

def PlaybackStepDirection.forward : PlaybackStepDirection → Bool
  | .previous => false
  | .next => true

/-! ## Steps of the controller -/

/-- The four searches a step chooses from. -/
theorem stepTarget_eq (store : TimeSeriesStore) (cursor : Secs) (count : ℕ) :
    PlaybackInner.stepTarget store cursor .sample .previous count =
        store.previousGlobalStateTimestamp (.finite cursor) count ∧
      PlaybackInner.stepTarget store cursor .sample .next count =
        store.nextGlobalStateTimestamp (.finite cursor) count ∧
      PlaybackInner.stepTarget store cursor .event .previous count =
        store.previousGlobalEventTimestamp (.finite cursor) count ∧
      PlaybackInner.stepTarget store cursor .event .next count =
        store.nextGlobalEventTimestamp (.finite cursor) count :=
  ⟨rfl, rfl, rfl, rfl⟩

theorem stepTarget_getD (store : TimeSeriesStore) (cursor : Secs) (unit : PlaybackStepUnit)
    (direction : PlaybackStepDirection) (count : ℕ) :
    (PlaybackInner.stepTarget store cursor unit direction count).getD cursor =
      walk (store.nextFrame unit.kind direction.forward) count cursor := by
  unfold PlaybackInner.stepTarget walk
  rw [TimeSeriesStore.adjacentGlobalTimestamp_eq]
  cases unit <;> cases direction <;> rfl

theorem clamp_of_within {b : Secs × Secs} {t : Secs} (h : Within (some b) t) :
    clamp t b.1 b.2 = t := by
  obtain ⟨b', hb', hlo, hhi⟩ := h
  cases hb'
  unfold clamp
  rw [max_eq_left hlo, min_eq_left hhi]

theorem within_clamp {store : TimeSeriesStore} {b : Secs × Secs}
    (hb : store.activeTimeBounds = some b) (t : Secs) :
    Within store.activeTimeBounds (clamp t b.1 b.2) := by
  have hexact : Bounds store.stamps (some b) := by
    rw [← hb]
    exact TimeSeriesStore.activeTimeBounds_spec store
  exact ⟨b, hb, le_min (le_max_right _ _) hexact.le, min_le_right _ _⟩

/-- What a step leaves behind. -/
def PlaybackInner.steppedTo (inner : PlaybackInner) (cursor : Secs) : PlaybackInner :=
  { inner with
    mode := .replayPaused
    cursorSecs := some cursor
    anchor := none
    revision := nextRevision inner.revision }

/-- **A step of the paused controller** is a walk from its effective cursor. -/
theorem step_eq {inner : PlaybackInner} {store : TimeSeriesStore} {b : Secs × Secs}
    (hb : store.activeTimeBounds = some b) (hmode : inner.mode = .replayPaused) (now : Instant)
    (unit : PlaybackStepUnit) (direction : PlaybackStepDirection) {count : ℕ}
    (hcount : 1 ≤ count ∧ count ≤ 100) :
    inner.step store now unit direction count =
      let stepped := inner.steppedTo (walk (store.nextFrame unit.kind direction.forward) count
        (clamp (inner.cursorSecs.getD b.1) b.1 b.2))
      (stepped, .ok (stepped.snapshotFromInner (some b))) := by
  have hwalk := TimeSeriesStore.within_walk unit.kind direction.forward count
    (within_clamp hb (inner.cursorSecs.getD b.1))
  rw [hb] at hwalk
  unfold PlaybackInner.step PlaybackInner.updateEffectiveCursor PlaybackInner.steppedTo
  rw [if_neg (not_not_intro hcount), hb]
  simp only [hmode, Option.getD_some, stepTarget_getD, clamp_of_within hwalk]

/-- **Frame stepping**: each search gives the `count`-th frame of its kind on its side of the
cursor, or the last one there is; and two steps of the paused controller are one step by the sum. -/
theorem frame_stepping (store : TimeSeriesStore) :
    (∀ (cursor : Secs) (count : ℕ), 1 ≤ count →
      IsFrame (store.framesAfter .state cursor) count
        (store.nextGlobalStateTimestamp (.finite cursor) count) ∧
      IsFrame (store.framesBefore .state cursor) count
        (store.previousGlobalStateTimestamp (.finite cursor) count) ∧
      IsFrame (store.framesAfter .event cursor) count
        (store.nextGlobalEventTimestamp (.finite cursor) count) ∧
      IsFrame (store.framesBefore .event cursor) count
        (store.previousGlobalEventTimestamp (.finite cursor) count)) ∧
    ∀ (inner : PlaybackInner) (unit : PlaybackStepUnit) (direction : PlaybackStepDirection)
      (m n : ℕ) (now now' now'' : Instant), inner.mode = .replayPaused → 1 ≤ m ∧ m ≤ 100 →
      1 ≤ n ∧ n ≤ 100 → 1 ≤ m + n ∧ m + n ≤ 100 →
        let first := inner.step store now unit direction m
        let second := first.1.step store now' unit direction n
        let once := inner.step store now'' unit direction (m + n)
        second.1.cursorSecs = once.1.cursorSecs ∧
          second.2.map PlaybackSnapshot.cursorSecs = once.2.map PlaybackSnapshot.cursorSecs ∧
          second.1.mode = .replayPaused ∧ once.1.mode = .replayPaused := by
  constructor
  · intro cursor count hcount
    have hforward := fun kind => getLast?_take_isFrame (store.framesAfter kind cursor) hcount
    have hbackward := fun kind => getLast?_take_isFrame (store.framesBefore kind cursor) hcount
    simp only [← TimeSeriesStore.steps_forward, ← TimeSeriesStore.steps_backward,
      ← TimeSeriesStore.adjacentGlobalTimestamp_eq] at hforward hbackward
    exact ⟨hforward .state, hbackward .state, hforward .event, hbackward .event⟩
  · intro inner unit direction m n now now' now'' hmode hm hn hmn
    rcases hb : store.activeTimeBounds with _ | b
    · -- an empty store refuses every step
      have hrefuse : ∀ (count : ℕ) (now : Instant), 1 ≤ count ∧ count ≤ 100 →
          inner.step store now unit direction count = (inner, .error .emptyStore) := by
        intro count now hcount
        unfold PlaybackInner.step
        rw [if_neg (not_not_intro hcount), hb]
      simp only [hrefuse m now hm, hrefuse n now' hn, hrefuse (m + n) now'' hmn]
      exact ⟨trivial, trivial, hmode, hmode⟩
    · have hcursor : Within store.activeTimeBounds (clamp (inner.cursorSecs.getD b.1) b.1 b.2) :=
        within_clamp hb _
      have hwalk := TimeSeriesStore.within_walk unit.kind direction.forward m hcursor
      rw [hb] at hwalk
      have hcursors : ∀ cursor, (inner.steppedTo cursor).cursorSecs = some cursor := fun _ => rfl
      simp only [step_eq hb hmode now unit direction hm, step_eq hb hmode now'' unit direction hmn]
      rw [step_eq hb rfl now' unit direction hn]
      simp only [hcursors, Option.getD_some, clamp_of_within hwalk, walk_add]
      exact ⟨rfl, rfl, rfl, rfl⟩

/-- Two aircraft with an event at the same time, one of them with a repeated and a later one. -/
def tiedStore : TimeSeriesStore :=
  (((({} : TimeSeriesStore).appendEvent "b" (.finite 1) (.custom "x")).appendEvent "a" (.finite 1)
    (.custom "y")).appendEvent "b" (.finite 1) (.custom "z")).appendEvent "b" (.finite 2)
    (.custom "w")

def pausedInner : PlaybackInner := { mode := .replayPaused }

theorem frame_stepping_tied :
    IsFrame (tiedStore.framesAfter .event 0) 2
      (tiedStore.nextGlobalEventTimestamp (.finite 0) 2) ∧
    tiedStore.nextGlobalEventTimestamp (.finite 0) 2 = some 2 ∧
    ((pausedInner.step tiedStore 0 .event .next 1).1.step tiedStore 1 .event .next 2).1.cursorSecs =
      (pausedInner.step tiedStore 2 .event .next 3).1.cursorSecs :=
  ⟨((frame_stepping tiedStore).1 0 2 (by decide)).2.2.1, by decide +kernel,
    ((frame_stepping tiedStore).2 pausedInner .event .next 1 2 0 1 2 rfl (by decide)
      (by decide) (by decide)).1⟩

end FlyRuler.Playback
