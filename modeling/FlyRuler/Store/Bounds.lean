import FlyRuler.Store.Order
import FlyRuler.Store.Query
import Mathlib.Order.Bounds.Basic

/-!
# The time bounds of the store

`active_time_bounds` looks at the first and the last entry of each series only.  As the series are
in time order, what it gives are the smallest and the largest timestamp of all states, events and
telemetry frames.

* `activeTimeBounds_spec`: the bounds are exact, and there are none only if there are no timestamps.
* `stamps_apply`, `Bounds.mono`: appending widens the bounds.
-/

namespace FlyRuler.Store

open FlyRuler.Pb FlyRuler.Lib.Keyed FlyRuler.Lib.TimeOrder

/-! ## Timestamps -/

/-- An entry of the series has the timestamp. -/
def AircraftTimeSeries.HasStamp (s : AircraftTimeSeries) (t : Secs) : Prop :=
  (∃ e ∈ s.states.entries, e.stamp = t) ∨ (∃ e ∈ s.events.entries, e.stamp = t) ∨
    ∃ e ∈ s.telemetry.entries, e.stamp = t

/-- The timestamps of all states, events and telemetry frames. -/
def TimeSeriesStore.stamps (store : TimeSeriesStore) : Set Secs :=
  {t | ∃ id s, store.data.lookup id = some s ∧ s.HasStamp t}

/-- The bounds are the smallest and the largest of the timestamps; there are none if there are no
timestamps. -/
def Bounds (stamps : Set Secs) : Option (Secs × Secs) → Prop
  | none => stamps = ∅
  | some (lo, hi) => IsLeast stamps lo ∧ IsGreatest stamps hi

theorem Bounds.le {stamps : Set Secs} {b : Secs × Secs} (h : Bounds stamps (some b)) :
    b.1 ≤ b.2 :=
  h.1.2 h.2.1

/-- The bounds of two sets together. -/
theorem bounds_union {stamps stamps' : Set Secs} {b b' : Option (Secs × Secs)} :
    Bounds stamps b → Bounds stamps' b' → Bounds (stamps ∪ stamps') (match b', b with
      | none, _ => b
      | some range, none => some range
      | some (first, last), some (lo, hi) => some (min lo first, max hi last)) := by
  intro h h'
  rcases b with _ | ⟨lo, hi⟩ <;> rcases b' with _ | ⟨first, last⟩
  · have hempty : stamps = ∅ := h
    have hempty' : stamps' = ∅ := h'
    show stamps ∪ stamps' = ∅
    rw [hempty, hempty', Set.union_empty]
  · have hempty : stamps = ∅ := h
    rw [hempty, Set.empty_union]
    exact h'
  · have hempty' : stamps' = ∅ := h'
    rw [hempty', Set.union_empty]
    exact h
  · exact ⟨h.1.union h'.1, h.2.union h'.2⟩

/-! ## One aircraft -/

/-- The minimum of representatives, one of which is at or below each element of the set. -/
theorem bounds_min {l : List Secs} {stamps : Set Secs} (hmem : ∀ h ∈ l, h ∈ stamps)
    (hle : ∀ t ∈ stamps, ∃ h ∈ l, h ≤ t) :
    (l.min? = none → stamps = ∅) ∧ ∀ a, l.min? = some a → IsLeast stamps a := by
  refine ⟨fun hnone => ?_, fun a ha => ?_⟩
  · rw [List.min?_eq_none_iff] at hnone
    refine Set.eq_empty_iff_forall_notMem.mpr fun t ht => ?_
    obtain ⟨h, hh, -⟩ := hle t ht
    rw [hnone] at hh
    exact absurd hh List.not_mem_nil
  · obtain ⟨hal, hmin⟩ := List.min?_eq_some_iff.mp ha
    refine ⟨hmem a hal, fun t ht => ?_⟩
    obtain ⟨h, hh, hht⟩ := hle t ht
    exact (hmin h hh).trans hht

theorem bounds_max {l : List Secs} {stamps : Set Secs} (hmem : ∀ h ∈ l, h ∈ stamps)
    (hle : ∀ t ∈ stamps, ∃ h ∈ l, t ≤ h) :
    (l.max? = none → stamps = ∅) ∧ ∀ a, l.max? = some a → IsGreatest stamps a := by
  refine ⟨fun hnone => ?_, fun a ha => ?_⟩
  · rw [List.max?_eq_none_iff] at hnone
    refine Set.eq_empty_iff_forall_notMem.mpr fun t ht => ?_
    obtain ⟨h, hh, -⟩ := hle t ht
    rw [hnone] at hh
    exact absurd hh List.not_mem_nil
  · obtain ⟨hal, hmax⟩ := List.max?_eq_some_iff.mp ha
    refine ⟨hmem a hal, fun t ht => ?_⟩
    obtain ⟨h, hh, hht⟩ := hle t ht
    exact hht.trans (hmax h hh)

/-- The first entry of a timeline is the earliest. -/
theorem exists_head_le {α : Type} (t : Timeline Secs α) {e : Stamped Secs α} (he : e ∈ t.entries) :
    ∃ h ∈ (t.entries.head?.map Stamped.stamp).toList, h ≤ e.stamp := by
  obtain ⟨entries, hsorted⟩ := t
  cases entries with
  | nil => exact absurd he List.not_mem_nil
  | cons first rest =>
    refine ⟨first.stamp, by simp, ?_⟩
    rcases List.mem_cons.mp he with rfl | hrest
    · exact le_refl _
    · exact List.rel_of_pairwise_cons hsorted hrest

/-- The last entry of a timeline is the latest. -/
theorem exists_last_ge {α : Type} (t : Timeline Secs α) {e : Stamped Secs α} (he : e ∈ t.entries) :
    ∃ h ∈ (t.entries.getLast?.map Stamped.stamp).toList, e.stamp ≤ h := by
  obtain ⟨last, hlast⟩ := Option.isSome_iff_exists.mp
    (List.getLast?_isSome.mpr (List.ne_nil_of_mem he))
  refine ⟨last.stamp, by simp [hlast], ?_⟩
  exact le_of_getLast? t.sorted (by rw [hlast]; simp) e he

theorem mem_of_head {α : Type} {t : Timeline Secs α} {h : Secs}
    (hh : h ∈ (t.entries.head?.map Stamped.stamp).toList) : ∃ e ∈ t.entries, e.stamp = h := by
  obtain ⟨e, he, rfl⟩ := Option.map_eq_some_iff.mp (Option.mem_toList.mp hh)
  exact ⟨e, List.mem_of_mem_head? he, rfl⟩

theorem mem_of_last {α : Type} {t : Timeline Secs α} {h : Secs}
    (hh : h ∈ (t.entries.getLast?.map Stamped.stamp).toList) : ∃ e ∈ t.entries, e.stamp = h := by
  obtain ⟨e, he, rfl⟩ := Option.map_eq_some_iff.mp (Option.mem_toList.mp hh)
  exact ⟨e, List.mem_of_getLast? he, rfl⟩

/-- **Representatives**: if each timeline has stamps that stand in the relation `R` to all of its
stamps, then so have the three series of an aircraft. -/
theorem exists_representative (s : AircraftTimeSeries) (R : Secs → Secs → Prop)
    (pick : (α : Type) → Timeline Secs α → List Secs)
    (hmem : ∀ α (t : Timeline Secs α), ∀ h ∈ pick α t, ∃ e ∈ t.entries, e.stamp = h)
    (hpick : ∀ α (t : Timeline Secs α), ∀ e ∈ t.entries, ∃ h ∈ pick α t, R h e.stamp) :
    (∀ h ∈ pick _ s.states ++ pick _ s.events ++ pick _ s.telemetry, s.HasStamp h) ∧
      ∀ t, s.HasStamp t →
        ∃ h ∈ pick _ s.states ++ pick _ s.events ++ pick _ s.telemetry, R h t := by
  constructor
  · intro h hh
    rw [List.mem_append, List.mem_append] at hh
    rcases hh with (hh | hh) | hh
    · exact .inl (hmem _ s.states h hh)
    · exact .inr (.inl (hmem _ s.events h hh))
    · exact .inr (.inr (hmem _ s.telemetry h hh))
  · rintro t (⟨e, he, rfl⟩ | ⟨e, he, rfl⟩ | ⟨e, he, rfl⟩)
    · obtain ⟨h, hh, hR⟩ := hpick _ s.states e he
      exact ⟨h, by simp [hh], hR⟩
    · obtain ⟨h, hh, hR⟩ := hpick _ s.events e he
      exact ⟨h, by simp [hh], hR⟩
    · obtain ⟨h, hh, hR⟩ := hpick _ s.telemetry e he
      exact ⟨h, by simp [hh], hR⟩

/-- **The range of one aircraft** is exact. -/
theorem aircraftTimeRange_spec (s : AircraftTimeSeries) :
    Bounds {t | s.HasStamp t} (aircraftTimeRange s) := by
  obtain ⟨hfirstMem, hfirstLe⟩ := exists_representative s (· ≤ ·)
    (fun _ t => (t.entries.head?.map Stamped.stamp).toList) (fun _ _ _ hh => mem_of_head hh)
    fun _ t _ he => exists_head_le t he
  obtain ⟨hlastMem, hlastGe⟩ := exists_representative s (· ≥ ·)
    (fun _ t => (t.entries.getLast?.map Stamped.stamp).toList) (fun _ _ _ hh => mem_of_last hh)
    fun _ t _ he => exists_last_ge t he
  obtain ⟨hminNone, hmin⟩ := @bounds_min _ {t | s.HasStamp t} hfirstMem hfirstLe
  obtain ⟨hmaxNone, hmax⟩ := @bounds_max _ {t | s.HasStamp t} hlastMem hlastGe
  unfold aircraftTimeRange
  dsimp only at hminNone hmin hmaxNone hmax ⊢
  split
  · next a b ha hb => exact ⟨hmin a ha, hmax b hb⟩
  · next hnot =>
    rcases ha : ((s.states.entries.head?.map Stamped.stamp).toList ++
      (s.events.entries.head?.map Stamped.stamp).toList ++
      (s.telemetry.entries.head?.map Stamped.stamp).toList).min? with _ | a
    · exact hminNone ha
    · rcases hb : ((s.states.entries.getLast?.map Stamped.stamp).toList ++
        (s.events.entries.getLast?.map Stamped.stamp).toList ++
        (s.telemetry.entries.getLast?.map Stamped.stamp).toList).max? with _ | b
      · exact hmaxNone hb
      · exact absurd hb (hnot a b ha)

/-! ## The whole store -/

namespace TimeSeriesStore

variable {store : TimeSeriesStore}

/-- **The bounds are exact.** -/
theorem activeTimeBounds_spec (store : TimeSeriesStore) :
    Bounds store.stamps store.activeTimeBounds := by
  have hfold : ∀ l : List (AircraftId × AircraftTimeSeries),
      Bounds {t | ∃ e ∈ l, e.2.HasStamp t} (l.foldl (fun bounds entry =>
        match aircraftTimeRange entry.2, bounds with
        | none, _ => bounds
        | some range, none => some range
        | some (first, last), some (lo, hi) => some (min lo first, max hi last)) none) := by
    intro l
    induction l using List.reverseRecOn with
    | nil => exact Set.eq_empty_iff_forall_notMem.mpr fun t ⟨e, he, _⟩ => List.not_mem_nil he
    | append_singleton l e ih =>
      have hunion : {t | ∃ e' ∈ l ++ [e], e'.2.HasStamp t} =
          {t | ∃ e' ∈ l, e'.2.HasStamp t} ∪ {t | e.2.HasStamp t} := by
        ext t
        simp only [Set.mem_ofPred_eq, Set.mem_union, List.mem_append, List.mem_singleton]
        constructor
        · rintro ⟨e', he' | rfl, ht⟩
          · exact .inl ⟨e', he', ht⟩
          · exact .inr ht
        · rintro (⟨e', he', ht⟩ | ht)
          · exact ⟨e', .inl he', ht⟩
          · exact ⟨e, .inr rfl, ht⟩
      rw [List.foldl_concat, hunion]
      exact bounds_union ih (aircraftTimeRange_spec e.2)
  have hstamps : store.stamps = {t | ∃ e ∈ toPairs store.data, e.2.HasStamp t} := by
    ext t
    constructor
    · rintro ⟨id, s, hs, ht⟩
      exact ⟨(id, s), mem_toPairs.mpr hs, ht⟩
    · rintro ⟨⟨id, s⟩, he, ht⟩
      exact ⟨id, s, mem_toPairs.mp he, ht⟩
  rw [hstamps]
  exact hfold (toPairs store.data)

/-! ## Appending -/

theorem mem_stamps_iff {t : Secs} : t ∈ store.stamps ↔ ∃ id, (store.series id).HasStamp t := by
  constructor
  · rintro ⟨id, s, hs, ht⟩
    exact ⟨id, by rwa [series_of_lookup hs]⟩
  · rintro ⟨id, ht⟩
    cases hs : store.data.lookup id with
    | some s => exact ⟨id, s, hs, by rwa [series_of_lookup hs] at ht⟩
    | none =>
      unfold series at ht
      rw [hs] at ht
      rcases ht with ⟨e, he, -⟩ | ⟨e, he, -⟩ | ⟨e, he, -⟩ <;> exact absurd he List.not_mem_nil

/-- **Appending keeps the timestamps there are.** -/
theorem stamps_apply (store : TimeSeriesStore) (op : AppendOp) :
    store.stamps ⊆ (store.apply op).stamps := by
  have hadd : ∀ (store : TimeSeriesStore) (a : Arrival), store.stamps ⊆ (store.add a).stamps := by
    intro store a t ht
    obtain ⟨id, ht⟩ := mem_stamps_iff.mp ht
    refine mem_stamps_iff.mpr ⟨id, ?_⟩
    rw [series_add]
    split_ifs with hid
    · unfold AircraftTimeSeries.add
      cases a.entry with
      | state value =>
        refine ht.imp_left fun he => ?_
        obtain ⟨e, he, hstamp⟩ := he
        exact ⟨e, Timeline.mem_append.mpr (.inr he), hstamp⟩
      | event value =>
        refine ht.imp_right fun ht => ht.imp_left fun he => ?_
        obtain ⟨e, he, hstamp⟩ := he
        exact ⟨e, Timeline.mem_append.mpr (.inr he), hstamp⟩
      | telemetry value =>
        refine ht.imp_right fun ht => ht.imp_right fun he => ?_
        obtain ⟨e, he, hstamp⟩ := he
        exact ⟨e, Timeline.mem_append.mpr (.inr he), hstamp⟩
    · exact ht
  have hsame : (store.apply op).stamps = ((store.arrivals op).foldl add store).stamps := by
    unfold stamps
    rw [data_apply]
  rw [hsame]
  clear hsame
  generalize store.arrivals op = l
  induction l generalizing store with
  | nil => exact subset_refl _
  | cons a l ih => exact (hadd store a).trans (ih (store.add a))

end TimeSeriesStore

/-- The cursor lies within the bounds. -/
def Within (bounds : Option (Secs × Secs)) (cursor : Secs) : Prop :=
  ∃ b, bounds = some b ∧ b.1 ≤ cursor ∧ cursor ≤ b.2

/-- **More timestamps widen the bounds.** -/
theorem Bounds.mono {stamps stamps' : Set Secs} {b b' : Option (Secs × Secs)}
    (h : Bounds stamps b) (h' : Bounds stamps' b') (hsub : stamps ⊆ stamps') {range : Secs × Secs}
    (hb : b = some range) : ∃ range', b' = some range' ∧ range'.1 ≤ range.1 ∧
      range.2 ≤ range'.2 := by
  subst hb
  rcases b' with _ | range'
  · have hempty : stamps' = ∅ := h'
    have := hsub h.1.1
    rw [hempty] at this
    exact absurd this (Set.notMem_empty _)
  · exact ⟨range', rfl, h'.1.2 (hsub h.1.1), h'.2.2 (hsub h.2.1)⟩

end FlyRuler.Store
