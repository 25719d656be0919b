import FlyRuler.Store.Basic
import Mathlib.Data.List.MinMax

/-!
# Reading the store

The queries of `core/src/store.rs`.  Ranges over one series are found by binary search; the global
event page merges the ranges of all aircraft by a stable sort on (timestamp, aircraft id), where
timestamps compare by `f64::total_cmp`: the negative zero comes before the zero.  Everything else in
the store compares them as numbers, so `Secs` has one zero, and which of the stored ones are
negative is a parameter of the sort (`ZeroSigns`).

* `globalEvents store signs`: all stored events in the order of the global page.  A page over
  `a ≤ b` without a limit is its window (`globalEventsPage_items`); it is in order of timestamp
  (`globalEvents_pairwise`), and the events of one aircraft with one sign of zero stand in it in the
  order of that aircraft's series (`globalEvents_filter`).
-/

namespace FlyRuler.Store

open FlyRuler.Pb FlyRuler.Lib.Keyed FlyRuler.Lib.TimeOrder

/-- For every aircraft and every position in its events, whether a timestamp there that is zero is
the negative zero. -/
abbrev ZeroSigns := AircraftId → ℕ → Bool

/-- No timestamp is the negative zero. -/
def ZeroSigns.plain : ZeroSigns := fun _ _ => false

/-- An event with the sign of its timestamp: it is the negative zero if `negative`. -/
structure SignedEvent where
  event : Event
  negative : Bool
  deriving DecidableEq

/-- A stored event with its aircraft and the sign of its timestamp. -/
structure GlobalTimestampedEvent where
  aircraftId : AircraftId
  timestampSecs : Secs
  negative : Bool
  event : Event
  deriving DecidableEq

/-- The stored event. -/
def GlobalTimestampedEvent.entry (e : GlobalTimestampedEvent) : TimestampedEvent :=
  ⟨e.timestampSecs, e.event⟩

structure AircraftSummary where
  id : AircraftId
  config : Option AircraftConfig
  timeRange : Option (Secs × Secs)
  stateCount : ℕ
  eventCount : ℕ
  telemetryCount : ℕ
  deriving DecidableEq

/-- A page of a list.  The limit `none` is `usize::MAX`, which no list exceeds. -/
structure StorePage (α : Type) where
  items : List α
  total : ℕ
  offset : ℕ
  limit : Option ℕ

/-- `page_slice`. -/
def pageSlice {α : Type} (items : List α) (offset : ℕ) (limit : Option ℕ) : StorePage α :=
  let total := items.length
  let start := min offset total
  let stop := match limit with
    | some limit => min (start + limit) total
    | none => total
  ⟨(items.take stop).drop start, total, offset, limit⟩

/-- What an event says about the aircraft being spawned. -/
def lifecycle : Event → Option Bool
  | .spawn _ => some true
  | .despawn _ => some false
  | .custom _ => none

/-- The last lifecycle event of a list decides. -/
def spawnedAfter (events : List TimestampedEvent) : Bool :=
  (events.reverse.findSome? fun entry => lifecycle entry.item).getD false

/-- The first and the last of the stamps at the ends of the three series of an aircraft. -/
def aircraftTimeRange (s : AircraftTimeSeries) : Option (Secs × Secs) :=
  let first := (s.states.entries.head?.map Stamped.stamp).toList ++
    (s.events.entries.head?.map Stamped.stamp).toList ++
    (s.telemetry.entries.head?.map Stamped.stamp).toList
  let last := (s.states.entries.getLast?.map Stamped.stamp).toList ++
    (s.events.entries.getLast?.map Stamped.stamp).toList ++
    (s.telemetry.entries.getLast?.map Stamped.stamp).toList
  match first.min?, last.max? with
  | some a, some b => some (a, b)
  | _, _ => none

/-- The order of the global event page: `total_cmp` on the timestamps, and then the ids. -/
def EventOrder (a b : GlobalTimestampedEvent) : Prop :=
  a.timestampSecs < b.timestampSecs ∨
    a.timestampSecs = b.timestampSecs ∧
      (a.negative = true ∧ b.negative = false ∨
        a.negative = b.negative ∧ a.aircraftId ≤ b.aircraftId)

instance : DecidableRel EventOrder := fun a b => by unfold EventOrder; infer_instance

/-- The events of one aircraft, with its id. -/
def globalEvent (id : AircraftId) (entry : Stamped Secs SignedEvent) : GlobalTimestampedEvent :=
  ⟨id, entry.stamp, entry.item.negative, entry.item.event⟩

/-! ## Signs -/

/-- The entries of a series with their signs. -/
def signEntries (negative : ℕ → Bool) (entries : List TimestampedEvent) :
    List (Stamped Secs SignedEvent) :=
  entries.mapIdx fun i e => ⟨e.stamp, ⟨e.item, decide (e.stamp = 0) && negative i⟩⟩

/-- An entry without its sign. -/
def unsigned (entry : Stamped Secs SignedEvent) : TimestampedEvent :=
  ⟨entry.stamp, entry.item.event⟩

@[simp] theorem map_entry_globalEvent (id : AircraftId)
    (entries : List (Stamped Secs SignedEvent)) :
    (entries.map (globalEvent id)).map GlobalTimestampedEvent.entry = entries.map unsigned := by
  rw [List.map_map]
  rfl

/-- The signs are all there is to a signed series. -/
@[simp] theorem map_unsigned (negative : ℕ → Bool) (entries : List TimestampedEvent) :
    (signEntries negative entries).map unsigned = entries := by
  refine List.ext_getElem? fun i => ?_
  unfold signEntries
  rw [List.getElem?_map, List.getElem?_mapIdx, Option.map_map]
  rcases entries[i]? with _ | e <;> rfl

/-- A condition on the entries filters a signed series as it does the series. -/
theorem map_unsigned_filter (negative : ℕ → Bool) (entries : List TimestampedEvent)
    (p : TimestampedEvent → Bool) :
    ((signEntries negative entries).filter fun e => p (unsigned e)).map unsigned =
      entries.filter p := by
  rw [← map_unsigned negative entries, List.filter_map, map_unsigned]
  rfl

/-- The events of an aircraft with their signs. -/
def signedEvents (negative : ℕ → Bool) (events : Timeline Secs Event) :
    Timeline Secs SignedEvent where
  entries := signEntries negative events.entries
  sorted := by
    have hsorted := events.sorted
    rw [← map_unsigned negative events.entries, List.pairwise_map] at hsorted
    exact hsorted

namespace TimeSeriesStore

variable (store : TimeSeriesStore) (signs : ZeroSigns)

def getLatest (id : AircraftId) : Option TimestampedState :=
  (store.data.lookup id).bind fun s => s.states.entries.getLast?

def getStateAtOrBefore (id : AircraftId) (timestamp : F64) : Option TimestampedState :=
  timestamp.toFinite.bind fun t =>
    (store.data.lookup id).bind fun s => (s.states.upTo t).getLast?

def isSpawnedAt (id : AircraftId) (timestamp : F64) : Bool :=
  match store.data.lookup id with
  | none => false
  | some s =>
    match timestamp with
    | .posInf => spawnedAfter s.events.entries
    | .finite t => spawnedAfter (s.events.upTo t)
    | _ => false

def getTelemetrySchemas (id : AircraftId) : Option (List TelemetryStreamSchema) :=
  (store.data.lookup id).map schemas

def getEventsRange (id : AircraftId) (start stop : F64) : Option (List TimestampedEvent) :=
  (store.data.lookup id).map fun s => s.events.entries.filter fun e =>
    F64.le start (.finite e.stamp) && F64.le (.finite e.stamp) stop

/-- `get_events_range` with the signs of the timestamps. -/
def getSignedEventsRange (id : AircraftId) (start stop : F64) :
    Option (List (Stamped Secs SignedEvent)) :=
  (store.data.lookup id).map fun s => (signedEvents (signs id) s.events).entries.filter fun e =>
    F64.le start (.finite e.stamp) && F64.le (.finite e.stamp) stop

def liveStateIsStale (now : Instant) (id : AircraftId) (timeout : Duration) : Bool :=
  match store.liveStateReceipts.lookup id with
  | none => true
  | some received => decide (timeout < now - received)

/-- All aircraft ids, sorted. -/
def getAircraftIds : List AircraftId := store.data.keys.insertionSort (· ≤ ·)

def aircraftSummaries : List AircraftSummary :=
  ((toPairs store.data).map fun entry =>
    { id := entry.1, config := entry.2.config, timeRange := aircraftTimeRange entry.2,
      stateCount := entry.2.states.entries.length, eventCount := entry.2.events.entries.length,
      telemetryCount := entry.2.telemetry.entries.length : AircraftSummary }).insertionSort
    fun a b => a.id ≤ b.id

/-- The global event page over the timestamps from `start` to `stop`. -/
def getGlobalEventsPage (start stop : Secs) (offset : ℕ) (limit : Option ℕ) :
    StorePage GlobalTimestampedEvent :=
  let events := store.getAircraftIds.flatMap fun id =>
    match store.data.lookup id with
    | none => []
    | some s => ((signedEvents (signs id) s.events).window start stop).map (globalEvent id)
  pageSlice (events.insertionSort EventOrder) offset limit

/-- The smallest and the largest timestamp in the store. -/
def activeTimeBounds : Option (Secs × Secs) :=
  (toPairs store.data).foldl (fun bounds entry =>
    match aircraftTimeRange entry.2, bounds with
    | none, _ => bounds
    | some range, none => some range
    | some (first, last), some (lo, hi) => some (min lo first, max hi last)) none

/-- The entry of a list next to `probe`, strictly after it or strictly before it. -/
def adjacentStamp {α : Type} (l : List (Stamped Secs α)) (probe : Secs) (forward : Bool) :
    Option Secs :=
  if forward then
    (l[partitionPoint (fun e => decide (e.stamp ≤ probe)) l]?).map Stamped.stamp
  else
    (l.take (partitionPoint (fun e => decide (e.stamp < probe)) l)).getLast?.map Stamped.stamp

/-- Which entries `adjacent_global_timestamp` looks at. -/
inductive TimelineEntryKind where
  | state
  | event
  deriving DecidableEq

/-- One step of `adjacent_global_timestamp`: the nearest candidate over all aircraft. -/
def adjacentCandidate (probe : Secs) (kind : TimelineEntryKind) (forward : Bool) : Option Secs :=
  let candidates := (toPairs store.data).filterMap fun entry => match kind with
    | .state => adjacentStamp entry.2.states.entries probe forward
    | .event => adjacentStamp entry.2.events.entries probe forward
  if forward then candidates.min? else candidates.max?

/-- The loop of `adjacent_global_timestamp`; `result` is what it has found so far. -/
def adjacentLoop (kind : TimelineEntryKind) (forward : Bool) :
    ℕ → Secs → Option Secs → Option Secs
  | 0, _, result => result
  | count + 1, probe, result =>
    match store.adjacentCandidate probe kind forward with
    | some candidate => adjacentLoop kind forward count candidate (some candidate)
    | none => result

def adjacentGlobalTimestamp (cursor : Secs) (count : ℕ) (kind : TimelineEntryKind)
    (forward : Bool) : Option Secs :=
  store.adjacentLoop kind forward count cursor none

/-- All stored events, in the order of the global page. -/
def globalEvents : List GlobalTimestampedEvent :=
  (store.getAircraftIds.flatMap fun id =>
    (signedEvents (signs id) (store.series id).events).entries.map (globalEvent id)).insertionSort
      EventOrder

/-- The stored events with `a < timestamp ≤ b`, in the order of the global page. -/
def eventsBetween (a b : Secs) : List GlobalTimestampedEvent :=
  (store.globalEvents signs).filter fun e =>
    decide (a < e.timestampSecs) && decide (e.timestampSecs ≤ b)

end TimeSeriesStore

/-! ## The order of the global page -/

theorem eventOrder_total (a b : GlobalTimestampedEvent) : EventOrder a b ∨ EventOrder b a := by
  unfold EventOrder
  rcases lt_trichotomy a.timestampSecs b.timestampSecs with h | h | h
  · exact Or.inl (Or.inl h)
  · have hid := le_total a.aircraftId b.aircraftId
    rw [h]
    rcases a.negative <;> rcases b.negative <;> simp [hid]
  · exact Or.inr (Or.inl h)

theorem eventOrder_trans (a b c : GlobalTimestampedEvent) (hab : EventOrder a b)
    (hbc : EventOrder b c) : EventOrder a c := by
  unfold EventOrder at *
  rcases hab with hab | ⟨hab, hab'⟩
  · rcases hbc with hbc | ⟨hbc, -⟩
    · exact Or.inl (hab.trans hbc)
    · exact Or.inl (hbc ▸ hab)
  · rcases hbc with hbc | ⟨hbc, hbc'⟩
    · exact Or.inl (hab ▸ hbc)
    · refine Or.inr ⟨hab.trans hbc, ?_⟩
      rcases hab' with ⟨ha, hb⟩ | ⟨hsign, hle⟩
      · rcases hbc' with ⟨hb', -⟩ | ⟨hsign', -⟩
        · rw [hb] at hb'
          cases hb'
        · exact Or.inl ⟨ha, hsign' ▸ hb⟩
      · rcases hbc' with ⟨hb, hc⟩ | ⟨hsign', hle'⟩
        · exact Or.inl ⟨hsign.trans hb, hc⟩
        · exact Or.inr ⟨hsign.trans hsign', hle.trans hle'⟩

/-- Of two events of one aircraft at one time, a negative zero comes first. -/
def SignOrder (a b : Stamped Secs SignedEvent) : Prop :=
  a.stamp = b.stamp → b.item.negative = true → a.item.negative = true

instance : DecidableRel SignOrder := fun a b => by unfold SignOrder; infer_instance

/-- **Events of one aircraft** are in order if they are in time order and the negative zeros come
first. -/
theorem eventOrder_of_le {id : AircraftId} {a b : Stamped Secs SignedEvent}
    (hle : a.stamp ≤ b.stamp) (hsign : SignOrder a b) :
    EventOrder (globalEvent id a) (globalEvent id b) := by
  rcases hle.lt_or_eq with hlt | heq
  · exact Or.inl hlt
  · refine Or.inr ⟨heq, ?_⟩
    have himp := hsign heq
    revert himp
    unfold globalEvent
    dsimp only
    rcases a.item.negative <;> rcases b.item.negative <;> simp

namespace TimeSeriesStore

variable {store : TimeSeriesStore} {signs : ZeroSigns}

theorem mem_getAircraftIds {id : AircraftId} :
    id ∈ store.getAircraftIds ↔ ∃ s, store.data.lookup id = some s := by
  unfold getAircraftIds
  rw [List.mem_insertionSort, mem_keys_iff]

theorem nodup_getAircraftIds (store : TimeSeriesStore) : store.getAircraftIds.Nodup :=
  (List.perm_insertionSort (· ≤ ·) store.data.keys).nodup_iff.mpr store.data.keys_nodup

theorem series_of_lookup {id : AircraftId} {s : AircraftTimeSeries}
    (h : store.data.lookup id = some s) : store.series id = s := by
  unfold TimeSeriesStore.series; rw [h]; rfl

theorem globalEvents_sorted (store : TimeSeriesStore) (signs : ZeroSigns) :
    (store.globalEvents signs).Pairwise EventOrder := by
  have : IsTrans _ EventOrder := ⟨eventOrder_trans⟩
  have : Std.Total EventOrder := ⟨eventOrder_total⟩
  exact List.pairwise_insertionSort EventOrder _

theorem globalEvents_pairwise (store : TimeSeriesStore) (signs : ZeroSigns) :
    (store.globalEvents signs).Pairwise fun a b => a.timestampSecs ≤ b.timestampSecs :=
  (globalEvents_sorted store signs).imp fun h => h.elim le_of_lt fun h => h.1.le

theorem filter_flatMap_ids (ids : List AircraftId)
    (f : AircraftId → List (Stamped Secs SignedEvent)) (p : GlobalTimestampedEvent → Bool) :
    (ids.flatMap fun id => (f id).map (globalEvent id)).filter p =
      ids.flatMap fun id => ((f id).filter fun e => p (globalEvent id e)).map (globalEvent id) := by
  induction ids with
  | nil => rfl
  | cons id ids ih =>
    rw [List.flatMap_cons, List.flatMap_cons, List.filter_append, ih, List.filter_map]
    rfl

/-- **A page is cut out of a window of all events.** -/
theorem getGlobalEventsPage_eq (store : TimeSeriesStore) (signs : ZeroSigns) {a b : Secs}
    (hab : a ≤ b) (offset : ℕ) (limit : Option ℕ) :
    store.getGlobalEventsPage signs a b offset limit =
      pageSlice ((store.globalEvents signs).filter fun e =>
        decide (a ≤ e.timestampSecs) && decide (e.timestampSecs ≤ b)) offset limit := by
  unfold getGlobalEventsPage globalEvents
  rw [filter_insertionSort eventOrder_total eventOrder_trans, filter_flatMap_ids]
  refine congrArg (fun events => pageSlice (events.insertionSort EventOrder) offset limit)
    (List.flatMap_congr fun id hid => ?_)
  obtain ⟨s, hs⟩ := mem_getAircraftIds.mp hid
  rw [series_of_lookup hs, hs]
  exact congrArg (List.map (globalEvent id)) ((signedEvents (signs id) s.events).window_eq hab)

/-- A page without a limit is the whole window. -/
theorem globalEventsPage_items (store : TimeSeriesStore) (signs : ZeroSigns) {a b : Secs}
    (hab : a ≤ b) : (store.getGlobalEventsPage signs a b 0 none).items =
      (store.globalEvents signs).filter fun e =>
        decide (a ≤ e.timestampSecs) && decide (e.timestampSecs ≤ b) := by
  have hpage : ∀ l : List GlobalTimestampedEvent, (pageSlice l 0 none).items = l := fun l => by
    simp [pageSlice]
  rw [getGlobalEventsPage_eq store signs hab, hpage]

/-- **Events of one aircraft that are in order** stand in the global order as among its own. -/
theorem filter_sorted_flatMap {ids : List AircraftId} (hnodup : ids.Nodup)
    (f : AircraftId → List (Stamped Secs SignedEvent)) (id : AircraftId)
    {p : GlobalTimestampedEvent → Bool} (hp : ∀ e, p e = true → e.aircraftId = id)
    (horder : (((f id).map (globalEvent id)).filter p).Pairwise EventOrder) :
    ((ids.flatMap fun j => (f j).map (globalEvent j)).insertionSort EventOrder).filter p =
      if id ∈ ids then ((f id).map (globalEvent id)).filter p else [] := by
  have hone : (ids.flatMap fun j => (f j).map (globalEvent j)).filter p =
      if id ∈ ids then ((f id).map (globalEvent id)).filter p else [] := by
    induction ids with
    | nil => rfl
    | cons j ids ih =>
      rw [List.nodup_cons] at hnodup
      rw [List.flatMap_cons, List.filter_append, ih hnodup.2]
      by_cases hj : j = id
      · subst hj
        simp [hnodup.1]
      · have hnone : ((f j).map (globalEvent j)).filter p = [] := by
          refine List.filter_eq_nil_iff.mpr fun e he hpe => ?_
          obtain ⟨entry, -, rfl⟩ := List.mem_map.mp he
          exact hj (hp _ hpe)
        simp [hnone, Ne.symm hj]
  rw [filter_insertionSort eventOrder_total eventOrder_trans, hone]
  split_ifs with hid
  · exact List.Pairwise.insertionSort_eq horder
  · rfl

/-- The signed range is the range, with signs. -/
theorem map_getSignedEventsRange (store : TimeSeriesStore) (signs : ZeroSigns) (id : AircraftId)
    (start stop : F64) : (store.getSignedEventsRange signs id start stop).map (List.map unsigned) =
      store.getEventsRange id start stop := by
  unfold getSignedEventsRange getEventsRange
  rw [Option.map_map]
  refine congrArg (fun f => Option.map f (store.data.lookup id)) (funext fun s => ?_)
  exact map_unsigned_filter (signs id) s.events.entries fun e =>
    F64.le start (.finite e.stamp) && F64.le (.finite e.stamp) stop

/-- Only the aircraft in the store have events. -/
theorem mem_ids_of_globalEvents {e : GlobalTimestampedEvent} (h : e ∈ store.globalEvents signs) :
    e.aircraftId ∈ store.getAircraftIds := by
  unfold globalEvents at h
  obtain ⟨id, hid, he⟩ := List.mem_flatMap.mp ((List.mem_insertionSort _).mp h)
  obtain ⟨entry, -, rfl⟩ := List.mem_map.mp he
  exact hid

/-- An aircraft that is not in the store has an empty series. -/
theorem series_of_notMem {id : AircraftId} (h : id ∉ store.data.keys) : store.series id = {} := by
  unfold series
  rw [notMem_keys_iff.mp h]
  rfl

/-- Events of one aircraft that are in order, in the list of all events. -/
theorem filter_globalEvents (store : TimeSeriesStore) (signs : ZeroSigns) {id : AircraftId}
    {p : GlobalTimestampedEvent → Bool} (hp : ∀ e, p e = true → e.aircraftId = id)
    (horder : (((signedEvents (signs id) (store.series id).events).entries.map
      (globalEvent id)).filter p).Pairwise EventOrder) :
    (store.globalEvents signs).filter p =
      ((signedEvents (signs id) (store.series id).events).entries.map
        (globalEvent id)).filter p := by
  unfold globalEvents
  rw [filter_sorted_flatMap (nodup_getAircraftIds store)
    (fun j => (signedEvents (signs j) (store.series j).events).entries) id hp horder]
  split_ifs with hid
  · rfl
  · rw [series_of_notMem fun hmem => hid ((List.mem_insertionSort _).mpr hmem)]
    rfl

/-- **The events of one aircraft with one sign of zero** stand in the global order as among its
own. -/
theorem globalEvents_filter (store : TimeSeriesStore) (signs : ZeroSigns) (id : AircraftId)
    (negative : Bool) :
    ((store.globalEvents signs).filter fun e =>
        decide (e.aircraftId = id) && (e.negative == negative)) =
      ((signedEvents (signs id) (store.series id).events).entries.filter fun e =>
        e.item.negative == negative).map (globalEvent id) := by
  have hmine : (((signedEvents (signs id) (store.series id).events).entries.map
      (globalEvent id)).filter fun e => decide (e.aircraftId = id) && (e.negative == negative)) =
      ((signedEvents (signs id) (store.series id).events).entries.filter fun e =>
        e.item.negative == negative).map (globalEvent id) := by
    rw [List.filter_map]
    refine congrArg (List.map (globalEvent id)) (List.filter_congr fun e _ => ?_)
    simp [globalEvent]
  rw [filter_globalEvents store signs
    (fun e he => of_decide_eq_true (Bool.and_eq_true_iff.mp he).1), hmine]
  rw [hmine]
  refine List.pairwise_map.mpr (((signedEvents (signs id) (store.series id).events).sorted.filter
    _).imp_of_mem fun {a b} ha hb hle => eventOrder_of_le hle fun _ hneg => ?_)
  have hsign := (List.mem_filter.mp ha).2
  have hsign' := (List.mem_filter.mp hb).2
  rw [beq_iff_eq] at hsign hsign'
  rw [hsign, ← hsign', hneg]

/-- **The events of one aircraft whose negative zeros come first** stand in the global order as
among its own. -/
theorem globalEvents_ofAircraft (store : TimeSeriesStore) (signs : ZeroSigns) {id : AircraftId}
    (hsigns : (signedEvents (signs id) (store.series id).events).entries.Pairwise SignOrder) :
    ((store.globalEvents signs).filter fun e => decide (e.aircraftId = id)) =
      (signedEvents (signs id) (store.series id).events).entries.map (globalEvent id) := by
  have hmine : (((signedEvents (signs id) (store.series id).events).entries.map
      (globalEvent id)).filter fun e => decide (e.aircraftId = id)) =
      (signedEvents (signs id) (store.series id).events).entries.map (globalEvent id) :=
    List.filter_eq_self.mpr fun e he => by
      obtain ⟨entry, -, rfl⟩ := List.mem_map.mp he
      exact decide_eq_true rfl
  rw [filter_globalEvents store signs (fun e he => of_decide_eq_true he), hmine]
  rw [hmine]
  exact List.pairwise_map.mpr ((signedEvents (signs id) (store.series id).events).sorted.imp₂
    (fun a b hle hsign => eventOrder_of_le hle hsign) hsigns)

end TimeSeriesStore

end FlyRuler.Store
