import FlyRuler.Store.Query
import FlyRuler.Lib.Fallible
import FlyRuler.Lib.Paging

/-!
# Pages and visits of a time range

The range queries of `core/src/store.rs` that cut a slice out of a series between two binary
searches and a page out of the slice, with ends that may be infinite.  A slice whose ends are out of
order is a panic, `none`; the addition of offset and limit saturates.

* `rangeSlice_eq`: the slice is what the linear filter keeps.
* `getGlobalEventsPageChecked_finite`: the page of finite ends is the one of `getGlobalEventsPage`.
* `globalEventsIn_pairwise`, `globalEventsIn_filter`: the order of the global page.
* `pages_spec`: all queries at once.
-/

namespace FlyRuler.Store

open FlyRuler.Pb FlyRuler.Lib.Keyed FlyRuler.Lib.TimeOrder FlyRuler.Lib.Paging
open FlyRuler.Lib.Chunks FlyRuler.Lib.Fallible

/-- `usize::MAX`. -/
def usizeMax : ℕ := u64Size - 1

/-- The entry lies in the inclusive range: the condition of the linear filters. -/
def inSpan {α : Type} (start stop : F64) (e : Stamped Secs α) : Bool :=
  F64.le start (.finite e.stamp) && F64.le (.finite e.stamp) stop

/-- `series[first..last]` between the two partition points of a range. -/
def rangeSlice {α : Type} (entries : List (Stamped Secs α)) (start stop : F64) :
    Option (List (Stamped Secs α)) :=
  slice entries (partitionPoint (fun e => F64.lt (.finite e.stamp) start) entries)
    (partitionPoint (fun e => F64.le (.finite e.stamp) stop) entries)

/-- `page_slice`, where a slice out of bounds is a panic. -/
def pageSliceChecked {α : Type} (items : List α) (offset limit : ℕ) : Option (StorePage α) :=
  let total := items.length
  let start := min offset total
  let stop := min (saturatingAdd usizeMax start limit) total
  (slice items start stop).map fun items => ⟨items, total, offset, some limit⟩

namespace TimeSeriesStore

variable (store : TimeSeriesStore) (signs : ZeroSigns)

def getStatesRange (id : AircraftId) (start stop : F64) : Option (List TimestampedState) :=
  (store.data.lookup id).map fun s => s.states.entries.filter (inSpan start stop)

/-- The telemetry frames of an inclusive range. -/
def telemetryIn (id : AircraftId) (start stop : F64) : Option (List TimestampedTelemetryFrame) :=
  (store.data.lookup id).map fun s => s.telemetry.entries.filter (inSpan start stop)

/-- Look at a slice of one of the series of an aircraft, if there is the aircraft. -/
def visitRange {α R : Type} (series : AircraftTimeSeries → Timeline Secs α) (id : AircraftId)
    (start stop : F64) (visitor : List (Stamped Secs α) → Option R) : Option (Option R) :=
  match store.data.lookup id with
  | none => some none
  | some s => ((rangeSlice (series s).entries start stop).bind visitor).map some

def visitStatesRange {R : Type} (id : AircraftId) (start stop : F64)
    (visitor : List TimestampedState → R) : Option (Option R) :=
  store.visitRange AircraftTimeSeries.states id start stop fun entries => some (visitor entries)

def visitTelemetryRange {R : Type} (id : AircraftId) (start stop : F64)
    (visitor : List TimestampedTelemetryFrame → R) : Option (Option R) :=
  store.visitRange AircraftTimeSeries.telemetry id start stop fun entries => some (visitor entries)

def getStatesPage (id : AircraftId) (start stop : F64) (offset limit : ℕ) :
    Option (Option (StorePage TimestampedState)) :=
  store.visitRange AircraftTimeSeries.states id start stop fun entries =>
    pageSliceChecked entries offset limit

def getEventsPage (id : AircraftId) (start stop : F64) (offset limit : ℕ) :
    Option (Option (StorePage TimestampedEvent)) :=
  store.visitRange AircraftTimeSeries.events id start stop fun entries =>
    pageSliceChecked entries offset limit

/-- `get_global_events_page` for any ends, offset and limit. -/
def getGlobalEventsPageChecked (start stop : F64) (offset limit : ℕ) :
    Option (StorePage GlobalTimestampedEvent) := do
  let ranges ← store.getAircraftIds.mapM fun id =>
    match store.data.lookup id with
    | none => some []
    | some s => (rangeSlice (signedEvents (signs id) s.events).entries start stop).map
      fun entries => entries.map (globalEvent id)
  pageSliceChecked (ranges.flatten.insertionSort EventOrder) offset limit

/-- The events of all aircraft in a range, in the order of the global page. -/
def globalEventsIn (start stop : F64) : List GlobalTimestampedEvent :=
  (store.globalEvents signs).filter fun e => inSpan start stop ⟨e.timestampSecs, e.event⟩

/-- A `usize` counts the entries of every vector that the queries build. -/
structure Countable : Prop where
  states : ∀ id, (store.series id).states.entries.length ≤ usizeMax
  events : (store.getAircraftIds.flatMap fun id => (store.series id).events.entries).length ≤
    usizeMax

end TimeSeriesStore

/-- The page of a selection. -/
def pageOf {α : Type} (selection : List α) (offset limit : ℕ) : StorePage α :=
  ⟨page selection offset limit, selection.length, offset, some limit⟩

/-! ## Slices of a range -/

theorem lt_finite_iff {start : F64} {t : Secs} (hstart : start ≠ .nan) :
    F64.lt (.finite t) start = !F64.le start (.finite t) := by
  rcases start with s | _ | _ | _
  · simp [F64.lt, F64.le, ← decide_not]
  · rfl
  · rfl
  · exact absurd rfl hstart

/-- A range from `start` to `stop` has no NaN at its ends. -/
theorem ne_nan_of_le {start stop : F64} (h : F64.le start stop = true) : start ≠ .nan := by
  rintro rfl
  simp [F64.le] at h

/-- What is before the start of a range is before its end. -/
theorem le_of_lt_start {start stop : F64} (h : F64.le start stop = true) {t : Secs}
    (ht : F64.lt (.finite t) start = true) : F64.le (.finite t) stop = true := by
  rcases start with s | _ | _ | _ <;> rcases stop with e | _ | _ | _ <;>
    simp [F64.le, F64.lt] at h ht ⊢
  exact ht.le.trans h

/-- A timeline is partitioned by every bound. -/
theorem partitioned_stop {α : Type} (t : Timeline Secs α) (stop : F64) :
    Partitioned (fun e : Stamped Secs α => F64.le (.finite e.stamp) stop) t.entries := by
  refine t.sorted.imp fun {a b} hab hb => ?_
  rcases stop with e | _ | _ | _
  · simp only [F64.le, decide_eq_true_eq] at hb ⊢
    exact hab.trans hb
  · rfl
  · simp [F64.le] at hb
  · simp [F64.le] at hb

theorem partitioned_start {α : Type} (t : Timeline Secs α) (start : F64) :
    Partitioned (fun e : Stamped Secs α => F64.lt (.finite e.stamp) start) t.entries := by
  refine t.sorted.imp fun {a b} hab hb => ?_
  rcases start with s | _ | _ | _
  · simp only [F64.lt, decide_eq_true_eq] at hb ⊢
    exact hab.trans_lt hb
  · rfl
  · simp [F64.lt] at hb
  · simp [F64.lt] at hb

/-- **The slice between the two partition points** is what the linear filter keeps. -/
theorem rangeSlice_eq {α : Type} (t : Timeline Secs α) {start stop : F64}
    (h : F64.le start stop = true) :
    rangeSlice t.entries start stop = some (t.entries.filter (inSpan start stop)) := by
  unfold rangeSlice
  rw [slice_partitionPoint (partitioned_start t start) (partitioned_stop t stop)
    fun e he => le_of_lt_start h he]
  refine congrArg some (List.filter_congr fun e _ => ?_)
  rw [lt_finite_iff (ne_nan_of_le h), Bool.not_not]
  rfl

/-- **One page** of what fits a `usize`. -/
theorem pageSliceChecked_eq {α : Type} {selection : List α} (h : selection.length ≤ usizeMax)
    (offset limit : ℕ) :
    pageSliceChecked selection offset limit = some (pageOf selection offset limit) := by
  unfold pageSliceChecked
  dsimp only
  rw [slice_saturatingAdd h]
  rfl

/-- The page of `page_slice` is the page of the selection. -/
theorem pageSlice_some {α : Type} (selection : List α) (offset limit : ℕ) :
    pageSlice selection offset (some limit) = pageOf selection offset limit := by
  unfold pageSlice pageOf page
  dsimp only
  rw [List.drop_take]
  rcases Nat.le_total offset selection.length with hle | hge
  · have htake : (selection.drop offset).take (min (offset + limit) selection.length - offset) =
        (selection.drop offset).take limit := by
      rw [List.take_eq_take_iff, List.length_drop]
      omega
    rw [Nat.min_eq_left hle, htake]
  · rw [Nat.min_eq_right hge, List.drop_length, List.drop_eq_nil_of_le hge, List.take_nil,
      List.take_nil]

namespace TimeSeriesStore

variable {store : TimeSeriesStore} {start stop : F64} {id : AircraftId}

/-- **A visit** sees what the linear filter keeps. -/
theorem visitRange_eq {α R : Type} (series : AircraftTimeSeries → Timeline Secs α)
    (h : F64.le start stop = true) {visitor : List (Stamped Secs α) → Option R}
    (seen : List (Stamped Secs α) → R)
    (hseen : ∀ s, store.data.lookup id = some s →
      visitor ((series s).entries.filter (inSpan start stop)) =
        some (seen ((series s).entries.filter (inSpan start stop)))) :
    store.visitRange series id start stop visitor = some ((store.data.lookup id).map fun s =>
      seen ((series s).entries.filter (inSpan start stop))) := by
  unfold visitRange
  rcases hs : store.data.lookup id with _ | s
  · rfl
  · dsimp only
    rw [rangeSlice_eq _ h, Option.bind_some, hseen s hs]
    rfl

/-- **A visit of the states** sees what the linear filter keeps. -/
theorem visitStatesRange_eq {R : Type} (h : F64.le start stop = true)
    (visitor : List TimestampedState → R) :
    store.visitStatesRange id start stop visitor = some ((store.data.lookup id).map fun s =>
      visitor (s.states.entries.filter (inSpan start stop))) :=
  visitRange_eq _ h visitor fun _ _ => rfl

theorem visitTelemetryRange_eq {R : Type} (h : F64.le start stop = true)
    (visitor : List TimestampedTelemetryFrame → R) :
    store.visitTelemetryRange id start stop visitor = some ((store.data.lookup id).map fun s =>
      visitor (s.telemetry.entries.filter (inSpan start stop))) :=
  visitRange_eq _ h visitor fun _ _ => rfl

theorem length_filter_states (hcount : store.Countable) {s : AircraftTimeSeries}
    (hs : store.data.lookup id = some s) :
    (s.states.entries.filter (inSpan start stop)).length ≤ usizeMax := by
  have hle := hcount.states id
  rw [series_of_lookup hs] at hle
  exact (List.length_filter_le _ _).trans hle

theorem length_filter_events (hcount : store.Countable) {s : AircraftTimeSeries}
    (hs : store.data.lookup id = some s) :
    (s.events.entries.filter (inSpan start stop)).length ≤ usizeMax := by
  have hsub : s.events.entries.Sublist
      (store.getAircraftIds.flatMap fun id => (store.series id).events.entries) := by
    rw [← series_of_lookup hs, List.flatMap_def]
    exact List.sublist_flatten_of_mem
      (List.mem_map_of_mem (f := fun id => (store.series id).events.entries)
        (mem_getAircraftIds.mpr ⟨s, hs⟩))
  exact (List.length_filter_le _ _).trans (hsub.length_le.trans hcount.events)

/-- The signs do not change the number of events. -/
theorem length_globalEvents (store : TimeSeriesStore) (signs : ZeroSigns) :
    (store.globalEvents signs).length =
      (store.getAircraftIds.flatMap fun id => (store.series id).events.entries).length := by
  unfold globalEvents signedEvents signEntries
  rw [List.length_insertionSort, List.length_flatMap, List.length_flatMap]
  simp

/-! ## The global page -/

theorem globalEventsIn_pairwise (store : TimeSeriesStore) (signs : ZeroSigns) (start stop : F64) :
    (store.globalEventsIn signs start stop).Pairwise EventOrder :=
  (globalEvents_sorted store signs).filter _

/-- **The events of one aircraft with one sign of zero** in a global range are those of its own
range, in its order. -/
theorem globalEventsIn_filter (store : TimeSeriesStore) (signs : ZeroSigns) (start stop : F64)
    (id : AircraftId) (negative : Bool) :
    ((store.globalEventsIn signs start stop).filter fun e =>
        decide (e.aircraftId = id) && (e.negative == negative)) =
      (((store.getSignedEventsRange signs id start stop).getD []).filter fun e =>
        e.item.negative == negative).map (globalEvent id) := by
  have hrange : (store.getSignedEventsRange signs id start stop).getD [] =
      (signedEvents (signs id) (store.series id).events).entries.filter fun e =>
        F64.le start (.finite e.stamp) && F64.le (.finite e.stamp) stop := by
    unfold getSignedEventsRange series
    rcases store.data.lookup id with _ | s
    · rfl
    · rfl
  unfold globalEventsIn
  rw [hrange, List.filter_comm, globalEvents_filter, List.filter_map, List.filter_comm]
  rfl

/-- **The global page** is a page of all events in the range. -/
theorem getGlobalEventsPageChecked_eq (hcount : store.Countable) (signs : ZeroSigns)
    (h : F64.le start stop = true) (offset limit : ℕ) :
    store.getGlobalEventsPageChecked signs start stop offset limit =
      some (pageOf (store.globalEventsIn signs start stop) offset limit) := by
  have hranges : (store.getAircraftIds.mapM fun id =>
      match store.data.lookup id with
      | none => some []
      | some s => (rangeSlice (signedEvents (signs id) s.events).entries start stop).map
        fun entries => entries.map (globalEvent id)) = some (store.getAircraftIds.map fun id =>
          ((signedEvents (signs id) (store.series id).events).entries.filter
            (inSpan start stop)).map (globalEvent id)) := by
    refine mapM_eq_some fun id _ => ?_
    rcases hs : store.data.lookup id with _ | s
    · simp [series, hs, signedEvents, signEntries]
    · simp [series_of_lookup hs, rangeSlice_eq _ h]
  have hsorted : ((store.getAircraftIds.map fun id =>
      ((signedEvents (signs id) (store.series id).events).entries.filter (inSpan start stop)).map
        (globalEvent id)).flatten.insertionSort EventOrder) =
          store.globalEventsIn signs start stop := by
    unfold globalEventsIn globalEvents
    rw [filter_insertionSort eventOrder_total eventOrder_trans, filter_flatMap_ids,
      ← List.flatMap_def]
    rfl
  have hlen : (store.globalEventsIn signs start stop).length ≤ usizeMax := by
    refine (List.length_filter_le _ _).trans ?_
    rw [length_globalEvents]
    exact hcount.events
  unfold getGlobalEventsPageChecked
  rw [hranges]
  show pageSliceChecked _ offset limit = _
  rw [hsorted, pageSliceChecked_eq hlen]

/-- **A page with finite ends** is the one of `getGlobalEventsPage`. -/
theorem getGlobalEventsPageChecked_finite (hcount : store.Countable) (signs : ZeroSigns)
    {a b : Secs} (h : a ≤ b) (offset limit : ℕ) :
    store.getGlobalEventsPageChecked signs (.finite a) (.finite b) offset limit =
      some (store.getGlobalEventsPage signs a b offset (some limit)) := by
  have hle : F64.le (.finite a) (.finite b) = true := decide_eq_true h
  rw [getGlobalEventsPageChecked_eq hcount signs hle, getGlobalEventsPage_eq store signs h,
    pageSlice_some]
  rfl

end TimeSeriesStore

/-- **Range queries are the linear filters**: pages, visits and the global page select what the
filter keeps, in its order; the global page stands in the order of timestamp and aircraft, with each
aircraft's events in their own order, where a negative zero comes before a zero; and the pages of
one size, side by side, are the selection. -/
theorem pages_spec {store : TimeSeriesStore} (hcount : store.Countable) (signs : ZeroSigns)
    {start stop : F64} (h : F64.le start stop = true) :
    (∀ (id : AircraftId) (offset limit : ℕ),
      store.getStatesPage id start stop offset limit = some
        ((store.getStatesRange id start stop).map fun selection =>
          pageOf selection offset limit) ∧
      store.getEventsPage id start stop offset limit = some
        ((store.getEventsRange id start stop).map fun selection =>
          pageOf selection offset limit)) ∧
    (∀ (id : AircraftId) (R : Type) (visitor : List TimestampedState → R),
      store.visitStatesRange id start stop visitor =
        some ((store.getStatesRange id start stop).map visitor)) ∧
    (∀ (id : AircraftId) (R : Type) (visitor : List TimestampedTelemetryFrame → R),
      store.visitTelemetryRange id start stop visitor =
        some ((store.telemetryIn id start stop).map visitor)) ∧
    (∃ selection, (∀ offset limit,
        store.getGlobalEventsPageChecked signs start stop offset limit =
          some (pageOf selection offset limit)) ∧
      selection.Pairwise EventOrder ∧
      ∀ id, (store.getSignedEventsRange signs id start stop).map (List.map unsigned) =
          store.getEventsRange id start stop ∧
        ∀ negative, (selection.filter fun e =>
            decide (e.aircraftId = id) && (e.negative == negative)) =
          (((store.getSignedEventsRange signs id start stop).getD []).filter fun e =>
            e.item.negative == negative).map (globalEvent id)) ∧
    ∀ (α : Type) (selection : List α) (limit : ℕ), 0 < limit →
      (List.range (divCeil selection.length limit)).flatMap (fun k =>
        (pageOf selection (k * limit) limit).items) = selection := by
  refine ⟨fun id offset limit => ⟨?_, ?_⟩, fun id R visitor => ?_, fun id R visitor => ?_,
    ⟨store.globalEventsIn signs start stop,
      TimeSeriesStore.getGlobalEventsPageChecked_eq hcount signs h,
      TimeSeriesStore.globalEventsIn_pairwise store signs start stop, fun id =>
        ⟨TimeSeriesStore.map_getSignedEventsRange store signs id start stop,
          TimeSeriesStore.globalEventsIn_filter store signs start stop id⟩⟩,
    fun α selection limit hlimit => flatMap_page hlimit selection⟩
  · unfold TimeSeriesStore.getStatesPage TimeSeriesStore.getStatesRange
    rw [TimeSeriesStore.visitRange_eq _ h (fun selection => pageOf selection offset limit)
      fun s hs => pageSliceChecked_eq (TimeSeriesStore.length_filter_states hcount hs) offset limit,
      Option.map_map]
    rfl
  · unfold TimeSeriesStore.getEventsPage TimeSeriesStore.getEventsRange
    rw [TimeSeriesStore.visitRange_eq _ h (fun selection => pageOf selection offset limit)
      fun s hs => pageSliceChecked_eq (TimeSeriesStore.length_filter_events hcount hs) offset limit,
      Option.map_map]
    rfl
  · unfold TimeSeriesStore.getStatesRange
    rw [TimeSeriesStore.visitStatesRange_eq h, Option.map_map]
    rfl
  · unfold TimeSeriesStore.telemetryIn
    rw [TimeSeriesStore.visitTelemetryRange_eq h, Option.map_map]
    rfl

/-- Two aircraft with events at the same time. -/
def pagedStore : TimeSeriesStore :=
  ((({} : TimeSeriesStore).appendEvent "b" (.finite 1) (.custom "x")).appendEvent "a" (.finite 1)
    (.custom "y")).appendEvent "b" (.finite 2) (.custom "z")

theorem pages_spec_paged :
    F64.le .negInf (.finite 2) = true ∧
      pagedStore.getStatesPage "a" .negInf (.finite 2) 3 5 = some
        ((pagedStore.getStatesRange "a" .negInf (.finite 2)).map fun selection =>
          pageOf selection 3 5) := by
  have hle : F64.le .negInf (.finite 2) = true := rfl
  have hstates : ∀ id, (pagedStore.series id).states.entries = [] := by
    intro id
    unfold pagedStore TimeSeriesStore.appendEvent
    simp only [F64.toFinite, TimeSeriesStore.series_modifySeries]
    split_ifs <;> rfl
  have hcount : pagedStore.Countable := by
    refine ⟨fun id => ?_, ?_⟩
    · rw [hstates]
      exact Nat.zero_le _
    · have hlen : (pagedStore.getAircraftIds.flatMap fun id =>
          (pagedStore.series id).events.entries).length = 3 := by decide +kernel
      rw [hlen]
      decide
  exact ⟨hle, ((pages_spec hcount ZeroSigns.plain hle).1 "a" 3 5).1⟩

end FlyRuler.Store
