import FlyRuler.Cursor.Delivery
import FlyRuler.Cursor.Progress
import FlyRuler.Playback.Reachable

/-!
# Events while producers append

The publisher next to producers that append to its store.  It only remembers the cursor up to which
it has looked, so what is appended behind that cursor is not looked at again; a baseline leaves out
the aircraft without a state; and behind a baseline without a cursor there is no delta.  Apart from
that every event is queued once.

* `fromLastSpawn_append`: what counts at a cursor, split at an earlier one.
* `PlacedUpTo.apply`, `PlacedUpTo.delta`: what appends and deltas do to the events that are placed.
* `placed_run`: what the pages since the latest baseline contain, in every run without these cases.
* `not_placed_firstSpawn`: a baseline of the empty store, and the first aircraft after it.
-/

namespace FlyRuler.Cursor

open FlyRuler.Pb FlyRuler.Store FlyRuler.Playback FlyRuler.Transport FlyRuler.Lib.TimeOrder
open FlyRuler.Lib.Keyed FlyRuler.Lib.Run

/-! ## The events since the last `Spawn` -/

/-- The events from the last `Spawn` on; all of them if there is none. -/
def fromLastSpawn (events : List TimestampedEvent) : List TimestampedEvent :=
  events.drop (lastIndex (fun e => isSpawn e.item) events)

theorem fromLastSpawn_suffix (events : List TimestampedEvent) : fromLastSpawn events <:+ events :=
  List.drop_suffix _ _

theorem lastIndex_eq {α : Type} {p : α → Bool} {before after : List α} {x : α} (hx : p x = true)
    (hafter : ∀ y ∈ after, p y = false) :
    lastIndex p (before ++ x :: after) = before.length := by
  have hfind : (before ++ x :: after).reverse.findIdx? p = some after.length := by
    rw [List.reverse_append, List.reverse_cons, List.append_assoc, List.findIdx?_append]
    have hnone : after.reverse.findIdx? p = none :=
      List.findIdx?_eq_none_iff.mpr fun y hy => hafter y (List.mem_reverse.mp hy)
    rw [hnone, List.singleton_append, List.findIdx?_cons, hx]
    simp
  unfold lastIndex
  rw [hfind]
  simp

theorem lifecycle_eq_true {event : Event} : lifecycle event = some true ↔ isSpawn event = true := by
  rcases event with _ | _ | _ <;> simp [lifecycle, isSpawn]

/-- **An aircraft is spawned** if there is nothing but custom events after some `Spawn`. -/
theorem spawnedAfter_iff {events : List TimestampedEvent} :
    spawnedAfter events = true ↔ ∃ before spawn after, events = before ++ spawn :: after ∧
      isSpawn spawn.item = true ∧ ∀ e ∈ after, lifecycle e.item = none := by
  have hgetD : ∀ found : Option Bool, found.getD false = true ↔ found = some true := by
    rintro (_ | _ | _) <;> simp
  unfold spawnedAfter
  rw [hgetD, List.findSome?_eq_some_iff]
  constructor
  · rintro ⟨after, spawn, before, hsplit, hspawn, hafter⟩
    refine ⟨before.reverse, spawn, after.reverse, ?_, lifecycle_eq_true.mp hspawn, fun e he => ?_⟩
    · rw [← List.reverse_reverse events, hsplit]
      simp
    · exact hafter e (List.mem_reverse.mp he)
  · rintro ⟨before, spawn, after, rfl, hspawn, hafter⟩
    refine ⟨after.reverse, spawn, before.reverse, by simp, lifecycle_eq_true.mpr hspawn, ?_⟩
    exact fun e he => hafter e (List.mem_reverse.mp he)

theorem fromLastSpawn_eq {before after : List TimestampedEvent} {spawn : TimestampedEvent}
    (hspawn : isSpawn spawn.item = true) (hafter : ∀ e ∈ after, lifecycle e.item = none) :
    fromLastSpawn (before ++ spawn :: after) = spawn :: after := by
  have hlast : lastIndex (fun e : TimestampedEvent => isSpawn e.item) (before ++ spawn :: after) =
      before.length := by
    refine lastIndex_eq hspawn fun e he => ?_
    have hnone := hafter e he
    rcases hitem : e.item with value | value | value
    · rw [hitem] at hnone
      exact nomatch hnone
    · rfl
    · rfl
  unfold fromLastSpawn
  rw [hlast, List.drop_left]

/-- **Later events** of a spawned aircraft: the last `Spawn` is among them, or the aircraft was
spawned before them. -/
theorem fromLastSpawn_append {events later : List TimestampedEvent}
    (h : spawnedAfter (events ++ later) = true) :
    fromLastSpawn (events ++ later) <:+ later ∨
      spawnedAfter events = true ∧
        fromLastSpawn (events ++ later) = fromLastSpawn events ++ later := by
  obtain ⟨before, spawn, after, hsplit, hspawn, hafter⟩ := spawnedAfter_iff.mp h
  have hfrom : fromLastSpawn (events ++ later) = spawn :: after := by
    rw [hsplit]
    exact fromLastSpawn_eq hspawn hafter
  rcases List.append_eq_append_iff.mp hsplit with ⟨middle, hbefore, hlater⟩ |
    ⟨middle, hevents, hspawned⟩
  · refine .inl ⟨middle, ?_⟩
    rw [hfrom, hlater]
  · rcases middle with _ | ⟨first, middle⟩
    · refine .inl ⟨[], ?_⟩
      rw [hfrom, List.nil_append]
      exact hspawned
    · obtain ⟨rfl, rfl⟩ := List.cons.inj hspawned
      have hmiddle : ∀ e ∈ middle, lifecycle e.item = none :=
        fun e he => hafter e (List.mem_append_left _ he)
      refine .inr ⟨spawnedAfter_iff.mpr ⟨before, spawn, middle, hevents, hspawn, hmiddle⟩, ?_⟩
      rw [hfrom, hevents, fromLastSpawn_eq hspawn hmiddle]
      rfl

/-! ## The store up to a cursor -/

/-- The events of an aircraft up to the cursor. -/
def eventsUpTo (store : TimeSeriesStore) (id : AircraftId) (cursor : Secs) :
    List TimestampedEvent :=
  (store.series id).events.upTo cursor

theorem isSpawnedAt_finite (store : TimeSeriesStore) (id : AircraftId) (cursor : Secs) :
    store.isSpawnedAt id (.finite cursor) = spawnedAfter (eventsUpTo store id cursor) := by
  unfold TimeSeriesStore.isSpawnedAt eventsUpTo TimeSeriesStore.series
  rcases store.data.lookup id with _ | s
  · rfl
  · rfl

/-- Only the aircraft in the store are spawned. -/
theorem mem_ids_of_isSpawnedAt {store : TimeSeriesStore} {id : AircraftId} {cursor : F64}
    (h : store.isSpawnedAt id cursor = true) : id ∈ store.getAircraftIds := by
  rw [TimeSeriesStore.mem_getAircraftIds]
  unfold TimeSeriesStore.isSpawnedAt at h
  rcases hs : store.data.lookup id with _ | s
  · rw [hs] at h
    exact nomatch h
  · exact ⟨s, rfl⟩

/-- **Appending keeps the events there are**, in their order. -/
theorem eventsUpTo_sublist (store : TimeSeriesStore) (op : AppendOp) (id : AircraftId)
    (cursor : Secs) :
    (eventsUpTo store id cursor).Sublist (eventsUpTo (store.apply op) id cursor) := by
  have hadd : ∀ (store : TimeSeriesStore) (a : Arrival),
      (store.series id).events.entries.Sublist ((store.add a).series id).events.entries := by
    intro store a
    rw [TimeSeriesStore.series_add]
    split_ifs
    · unfold AircraftTimeSeries.add
      rcases a.entry with value | value | value
      · exact List.Sublist.refl _
      · exact Timeline.sublist_append _ _
      · exact List.Sublist.refl _
    · exact List.Sublist.refl _
  have hsame : (store.apply op).series id =
      ((store.arrivals op).foldl TimeSeriesStore.add store).series id := by
    unfold TimeSeriesStore.series
    rw [TimeSeriesStore.data_apply]
  unfold eventsUpTo
  rw [Timeline.upTo_eq, Timeline.upTo_eq, hsame]
  refine List.Sublist.filter _ ?_
  clear hsame
  generalize store.arrivals op = arrivals
  induction arrivals generalizing store with
  | nil => exact List.Sublist.refl _
  | cons a arrivals ih => exact (hadd store a).trans (ih (store.add a))

/-! ## The events of a refill -/

/-- The events of one aircraft. -/
def ofAircraft (id : AircraftId) (events : List GlobalTimestampedEvent) :
    List GlobalTimestampedEvent :=
  events.filter fun e => decide (e.aircraftId = id)

variable {store : TimeSeriesStore}

/-- The aircraft is in the frame of the snapshot. -/
def isShown (store : TimeSeriesStore) (snapshot : PlaybackSnapshot) (id : AircraftId) : Bool :=
  (resolveAircraftWith store snapshot id).any ResolvedState.spawned

theorem mem_ids_of_isShown {snapshot : PlaybackSnapshot} {id : AircraftId}
    (h : isShown store snapshot id = true) : id ∈ store.getAircraftIds := by
  rw [TimeSeriesStore.mem_getAircraftIds]
  by_contra hnone
  have hlookup : store.data.lookup id = none := by
    by_contra hsome
    exact hnone (Option.ne_none_iff_exists'.mp hsome)
  have hsample : resolveSample store snapshot id = none := by
    unfold resolveSample TimeSeriesStore.getLatest TimeSeriesStore.getStateAtOrBefore
    rw [hlookup]
    rcases snapshot.mode with _ | _ | _ <;> simp
  unfold isShown resolveAircraftWith at h
  rw [hsample] at h
  exact nomatch h

theorem lastIndex_map {α β : Type} (f : α → β) (p : β → Bool) (l : List α) :
    lastIndex p (l.map f) = lastIndex (fun a => p (f a)) l := by
  unfold lastIndex
  rw [List.length_map, ← List.map_reverse, List.findIdx?_map]
  rfl

/-- The events from the last `Spawn` on, with their signs. -/
def signedFromLastSpawn (events : List (Stamped Secs SignedEvent)) :
    List (Stamped Secs SignedEvent) :=
  events.drop (lastIndex (fun e => isSpawn e.item.event) events)

theorem map_unsigned_fromLastSpawn (events : List (Stamped Secs SignedEvent)) :
    (signedFromLastSpawn events).map unsigned = fromLastSpawn (events.map unsigned) := by
  unfold signedFromLastSpawn fromLastSpawn
  rw [lastIndex_map, List.map_drop]
  rfl

/-- The events of an aircraft up to the cursor, with their signs. -/
def signedEventsUpTo (store : TimeSeriesStore) (signs : ZeroSigns) (id : AircraftId)
    (cursor : Secs) : List (Stamped Secs SignedEvent) :=
  (signedEvents (signs id) (store.series id).events).upTo cursor

theorem map_unsigned_eventsUpTo (store : TimeSeriesStore) (signs : ZeroSigns) (id : AircraftId)
    (cursor : Secs) :
    (signedEventsUpTo store signs id cursor).map unsigned = eventsUpTo store id cursor := by
  unfold signedEventsUpTo eventsUpTo
  rw [Timeline.upTo_eq, Timeline.upTo_eq]
  exact map_unsigned_filter (signs id) _ fun e => decide (e.stamp ≤ cursor)

theorem baselineOf_eq (store : TimeSeriesStore) (signs : ZeroSigns) (snapshot : PlaybackSnapshot)
    (cursor : Secs) (id : AircraftId) : baselineOf store signs snapshot cursor id =
      (if isShown store snapshot id then
        signedFromLastSpawn (signedEventsUpTo store signs id cursor) else []).map
          (globalEvent id) := by
  unfold baselineOf isShown
  rcases hresolved : resolveAircraftWith store snapshot id with _ | resolved
  · rfl
  · dsimp only
    by_cases hspawned : resolved.spawned = true
    · have hshown : isShown store snapshot id = true := by
        unfold isShown
        rw [hresolved]
        exact hspawned
      obtain ⟨s, hs⟩ := TimeSeriesStore.mem_getAircraftIds.mp (mem_ids_of_isShown hshown)
      have hrange : store.getSignedEventsRange signs id .negInf (.finite cursor) =
          some (signedEventsUpTo store signs id cursor) := by
        unfold TimeSeriesStore.getSignedEventsRange signedEventsUpTo
        rw [hs, TimeSeriesStore.series_of_lookup hs, Timeline.upTo_eq]
        rfl
      rw [if_pos hspawned, hrange, Option.any_some, if_pos hspawned]
      rfl
    · rw [if_neg hspawned, Option.any_some, if_neg hspawned]
      rfl

/-- Of the events of the aircraft at one time, the negative zeros are stored first. -/
def SignsOrdered (store : TimeSeriesStore) (signs : ZeroSigns) (id : AircraftId) : Prop :=
  (signedEvents (signs id) (store.series id).events).entries.Pairwise SignOrder

theorem signsOrdered_plain (store : TimeSeriesStore) (id : AircraftId) :
    SignsOrdered store .plain id := by
  unfold SignsOrdered signedEvents signEntries
  refine List.pairwise_of_forall_mem_list fun a _ b hb _ hneg => ?_
  obtain ⟨i, hi, rfl⟩ := List.mem_mapIdx.mp hb
  simp [ZeroSigns.plain] at hneg

/-- **What a baseline contains of an aircraft.** -/
theorem ofAircraft_baselineEvents {signs : ZeroSigns} {id : AircraftId}
    (hsigns : SignsOrdered store signs id) {snapshot : PlaybackSnapshot}
    {cursor : Secs} (hcursor : snapshot.cursorSecs = some cursor) :
    (ofAircraft id (baselineEvents store signs snapshot)).map GlobalTimestampedEvent.entry =
      if isShown store snapshot id then fromLastSpawn (eventsUpTo store id cursor) else [] := by
  have hsub : (signedFromLastSpawn (signedEventsUpTo store signs id cursor)).Sublist
      (signedEvents (signs id) (store.series id).events).entries := by
    refine (List.drop_sublist _ _).trans ?_
    unfold signedEventsUpTo
    rw [Timeline.upTo_eq]
    exact List.filter_sublist
  have horder : (if isShown store snapshot id then
      signedFromLastSpawn (signedEventsUpTo store signs id cursor) else []).Pairwise
        fun a b => EventOrder (globalEvent id a) (globalEvent id b) := by
    split_ifs
    · exact ((signedEvents (signs id) (store.series id).events).sorted.sublist hsub).imp₂
        (fun a b hle hsign => eventOrder_of_le hle hsign) (List.Pairwise.sublist hsub hsigns)
    · exact List.Pairwise.nil
  have hmine : ((if isShown store snapshot id then
      signedFromLastSpawn (signedEventsUpTo store signs id cursor) else []).map
        (globalEvent id)).filter (fun e => decide (e.aircraftId = id)) =
      (if isShown store snapshot id then
        signedFromLastSpawn (signedEventsUpTo store signs id cursor) else []).map
          (globalEvent id) :=
    List.filter_eq_self.mpr fun e he => by
      obtain ⟨entry, -, rfl⟩ := List.mem_map.mp he
      exact decide_eq_true rfl
  unfold ofAircraft baselineEvents
  rw [hcursor]
  simp only [funext (baselineOf_eq store signs snapshot cursor)]
  rw [TimeSeriesStore.filter_sorted_flatMap (TimeSeriesStore.nodup_getAircraftIds store)
    (fun j => if isShown store snapshot j then
      signedFromLastSpawn (signedEventsUpTo store signs j cursor) else [])
    id (fun e he => of_decide_eq_true he) (by rw [hmine]; exact List.pairwise_map.mpr horder),
    hmine]
  split_ifs with hid hshown
  · rw [map_entry_globalEvent, map_unsigned_fromLastSpawn, map_unsigned_eventsUpTo]
  · rfl
  · exact absurd (mem_ids_of_isShown ‹_›) hid
  · rfl

/-- **What a delta contains of an aircraft.** -/
theorem ofAircraft_deltaEvents {signs : ZeroSigns} {id : AircraftId}
    (hsigns : SignsOrdered store signs id) {x y : Secs} (hxy : x ≤ y) :
    (ofAircraft id (deltaEvents store signs (some x) (some y))).map GlobalTimestampedEvent.entry =
      (store.series id).events.entries.filter fun e =>
        decide (x < e.stamp) && decide (e.stamp ≤ y) := by
  unfold ofAircraft
  rw [deltaEvents_eq store signs hxy]
  unfold TimeSeriesStore.eventsBetween
  rw [List.filter_comm, TimeSeriesStore.globalEvents_ofAircraft store signs hsigns,
    List.filter_map, map_entry_globalEvent]
  exact map_unsigned_filter (signs id) _ fun e => decide (x < e.stamp) && decide (e.stamp ≤ y)

/-! ## The pages since the latest baseline -/

/-- The pages since the latest baseline, with it. -/
def sinceBaseline (log : List Page) : List Page :=
  log.foldl (fun pages page => if page.batch.baseline then [page] else pages ++ [page]) []

theorem foldl_sinceBaseline (log : List Page) {pages : List Page}
    (h : ∀ page ∈ pages, page.batch.baseline = false) :
    pages.foldl (fun pages page => if page.batch.baseline then [page] else pages ++ [page]) log =
      log ++ pages := by
  induction pages generalizing log with
  | nil => simp
  | cons page pages ih =>
    have hpage := h page List.mem_cons_self
    rw [List.foldl_cons, if_neg (by simp [hpage]),
      ih _ fun page hmem => h page (List.mem_cons_of_mem _ hmem), List.append_assoc]
    rfl

/-- **A refill** starts over if it is a baseline. -/
theorem sinceBaseline_pagesAt (env : Env) (log : List Page) (r : Refill) (sequence : ℕ → ℕ) :
    sinceBaseline (log ++ r.pagesAt env sequence) =
      (if r.baseline then [] else sinceBaseline log) ++ r.pagesAt env sequence := by
  unfold sinceBaseline
  rw [List.foldl_append]
  by_cases hbase : r.baseline = true
  · obtain ⟨n, hn, -⟩ := pagesAt_concat env r sequence
    have hpages : r.pagesAt env sequence = r.page env (sequence 0) 0 ::
        (List.range n).map fun i => r.page env (sequence (i + 1)) (i + 1) := by
      unfold Refill.pagesAt
      rw [hn, List.range_succ_eq_map, List.map_cons, List.map_map]
      rfl
    have hfirst : (r.page env (sequence 0) 0).batch.baseline = true := by
      show (r.baseline && (0 == 0)) = true
      rw [hbase]
      rfl
    rw [if_pos hbase, hpages, List.foldl_cons, if_pos hfirst, foldl_sinceBaseline]
    · rfl
    · intro page hpage
      obtain ⟨i, -, rfl⟩ := List.mem_map.mp hpage
      show (r.baseline && (i + 1 == 0)) = false
      simp
  · rw [if_neg hbase]
    refine foldl_sinceBaseline _ fun page hpage => ?_
    obtain ⟨i, -, rfl⟩ := List.mem_map.mp hpage
    show (r.baseline && (i == 0)) = false
    simp [hbase]

/-- **What the pages are to contain**: of each aircraft only events stored up to the cursor, none
more often than it is stored, and if the aircraft is spawned there, all of them from its last
`Spawn` on. -/
def Placed (env : Env) (store : TimeSeriesStore) (pages : List Page) (cursor : Secs) : Prop :=
  ∃ placed : List GlobalTimestampedEvent, wire pages = placed.map (cursorEvent env 0) ∧
    ∀ id, ((ofAircraft id placed).map GlobalTimestampedEvent.entry).Sublist
        (eventsUpTo store id cursor) ∧
      (store.isSpawnedAt id (.finite cursor) → fromLastSpawn (eventsUpTo store id cursor) <:+
        (ofAircraft id placed).map GlobalTimestampedEvent.entry)

/-- The same for a cursor there may not be: without one, nothing is placed. -/
def PlacedUpTo (env : Env) (store : TimeSeriesStore) (pages : List Page) : Option Secs → Prop
  | none => wire pages = []
  | some cursor => Placed env store pages cursor

variable {env : Env} {t : Tick} {st : SubscriberState} {ack : ℕ} {log pages pages' : List Page}

/-- **A baseline** that shows every aircraft that is spawned. -/
theorem placedUpTo_baseline {signs : ZeroSigns} (hsigns : ∀ id, SignsOrdered store signs id)
    {snapshot : PlaybackSnapshot}
    (hwire : wire pages = (baselineEvents store signs snapshot).map (cursorEvent env 0))
    (hshown : ∀ cursor ∈ snapshot.cursorSecs, ∀ id, store.isSpawnedAt id (.finite cursor) →
      isShown store snapshot id) : PlacedUpTo env store pages snapshot.cursorSecs := by
  rcases hcursor : snapshot.cursorSecs with _ | cursor
  · show wire pages = []
    unfold baselineEvents at hwire
    rw [hcursor] at hwire
    exact hwire
  · refine ⟨baselineEvents store signs snapshot, hwire, fun id => ?_⟩
    rw [ofAircraft_baselineEvents (hsigns id) hcursor]
    refine ⟨?_, fun hspawned => ?_⟩
    · split_ifs
      · exact (fromLastSpawn_suffix _).sublist
      · exact List.nil_sublist _
    · simp only [hshown cursor hcursor id hspawned, if_true]
      exact List.suffix_refl _

/-- **A delta** continues what is placed. -/
theorem PlacedUpTo.delta {signs : ZeroSigns} (hsigns : ∀ id, SignsOrdered store signs id)
    {last next : Option Secs} (h : PlacedUpTo env store pages last)
    (hwire : wire pages' = wire pages ++
      (deltaEvents store signs last next).map (cursorEvent env 0))
    (hle : ∀ x ∈ last, ∀ y ∈ next, x ≤ y) (hdata : last.isSome → next.isSome)
    (hlast : ∀ y ∈ next, ∀ id, store.isSpawnedAt id (.finite y) → last.isSome) :
    PlacedUpTo env store pages' next := by
  rcases last with _ | x <;> rcases next with _ | y
  · show wire pages' = []
    have hnil : wire pages = [] := h
    rw [hwire, hnil]
    rfl
  · have hnil : wire pages = [] := h
    refine ⟨[], ?_, fun id => ⟨List.nil_sublist _, fun hspawned => ?_⟩⟩
    · rw [hwire, hnil]
      rfl
    · exact nomatch hlast y rfl id hspawned
  · exact nomatch hdata rfl
  · have hxy := hle x rfl y rfl
    obtain ⟨placed, hplaced, hids⟩ := h
    refine ⟨placed ++ deltaEvents store signs (some x) (some y), ?_, fun id => ?_⟩
    · rw [hwire, hplaced, List.map_append]
    · obtain ⟨hsub, hcovers⟩ := hids id
      have hof : ofAircraft id (placed ++ deltaEvents store signs (some x) (some y)) =
          ofAircraft id placed ++ ofAircraft id (deltaEvents store signs (some x) (some y)) :=
        List.filter_append _ _
      have hsplit : eventsUpTo store id y = eventsUpTo store id x ++ _ :=
        (store.series id).events.upTo_append hxy
      rw [hof, List.map_append, ofAircraft_deltaEvents (hsigns id) hxy]
      refine ⟨?_, fun hspawned => ?_⟩
      · rw [hsplit]
        exact hsub.append (List.Sublist.refl _)
      · rw [isSpawnedAt_finite, hsplit] at hspawned
        rw [hsplit]
        rcases fromLastSpawn_append hspawned with hlater | ⟨hbefore, heq⟩
        · -- the last `Spawn` is in the window
          exact hlater.trans (List.suffix_append _ _)
        · rw [heq, List.suffix_append_inj_of_length_eq rfl]
          rw [← isSpawnedAt_finite] at hbefore
          exact ⟨hcovers hbefore, rfl⟩

/-! ## Appends and turns -/

/-- The append does not change what counts up to the cursor: an aircraft that is spawned there has
been so before, with the same events since its last `Spawn`. -/
def Undisturbed (cursor : Option Secs) (store : TimeSeriesStore) (op : AppendOp) : Prop :=
  ∀ x ∈ cursor, ∀ id ∈ (store.apply op).getAircraftIds,
    (store.apply op).isSpawnedAt id (.finite x) → store.isSpawnedAt id (.finite x) ∧
      fromLastSpawn (eventsUpTo (store.apply op) id x) = fromLastSpawn (eventsUpTo store id x)

instance (cursor : Option Secs) (store : TimeSeriesStore) (op : AppendOp) :
    Decidable (Undisturbed cursor store op) := by unfold Undisturbed; infer_instance

/-- The refill of a subscriber does not jump over an aircraft that is spawned at the new cursor: a
baseline shows it, and a delta has a cursor to start from. -/
def SkipsNone (store : TimeSeriesStore) (t : Tick) (st : SubscriberState) : Prop :=
  ∀ cursor ∈ t.snapshot.cursorSecs, ∀ id ∈ store.getAircraftIds,
    store.isSpawnedAt id (.finite cursor) →
      if st.needsBaseline t.snapshot then isShown store t.snapshot id else st.lastCursor.isSome

instance : Decidable (SkipsNone store t st) := by unfold SkipsNone; infer_instance

/-- **What every event preserves** for a subscriber: what is placed is up to the cursor it is on its
way to. -/
structure Covered (env : Env) (store : TimeSeriesStore) (st : SubscriberState) (log : List Page) :
    Prop where
  oneRefill : OneRefill st.queue
  data : st.settled.lastCursor.isSome → store.activeTimeBounds.isSome
  placed : st.settled.lastRevision = none ∧ st.settled.lastCursor = none ∨
    PlacedUpTo env store (sinceBaseline log) st.settled.lastCursor

theorem covered_empty (env : Env) (store : TimeSeriesStore) (log : List Page) :
    Covered env store {} log :=
  ⟨oneRefill_nil, (fun h => nomatch h), .inl ⟨rfl, rfl⟩⟩

theorem PlacedUpTo.apply {cursor : Option Secs} (h : PlacedUpTo env store pages cursor)
    {op : AppendOp} (hop : Undisturbed cursor store op) :
    PlacedUpTo env (store.apply op) pages cursor := by
  rcases cursor with _ | x
  · exact h
  · obtain ⟨placed, hwire, hids⟩ := h
    refine ⟨placed, hwire, fun id => ?_⟩
    obtain ⟨hsub, hcovers⟩ := hids id
    refine ⟨hsub.trans (eventsUpTo_sublist store op id x), fun hspawned => ?_⟩
    obtain ⟨hbefore, hsame⟩ := hop x rfl id (mem_ids_of_isSpawnedAt hspawned) hspawned
    rw [hsame]
    exact hcovers hbefore

theorem isSome_activeTimeBounds_apply (op : AppendOp) (h : store.activeTimeBounds.isSome) :
    (store.apply op).activeTimeBounds.isSome := by
  obtain ⟨range, hrange⟩ := Option.isSome_iff_exists.mp h
  obtain ⟨range', hrange', -⟩ := store.activeTimeBounds_spec.mono
    (store.apply op).activeTimeBounds_spec (store.stamps_apply op) hrange
  exact Option.isSome_of_mem hrange'

/-- **An append** that changes nothing behind the cursor. -/
theorem Covered.apply (h : Covered env store st log) {op : AppendOp}
    (hop : Undisturbed st.settled.lastCursor store op) : Covered env (store.apply op) st log where
  oneRefill := h.oneRefill
  data hsome := isSome_activeTimeBounds_apply op (h.data hsome)
  placed := h.placed.imp_right fun hplaced => hplaced.apply hop

theorem Covered.of_sameQueue (h : Covered env store st log) {st' : SubscriberState}
    (hsame : st.SameQueue st') : Covered env store st' log := by
  obtain ⟨hrevision, hcursor⟩ := hsame.settled
  refine ⟨?_, ?_, ?_⟩
  · rw [hsame.queue]
    exact h.oneRefill
  · rw [hcursor]
    exact h.data
  · rw [hrevision, hcursor]
    exact h.placed

/-- What is placed after a refill. -/
theorem Refilled.wire_sinceBaseline {adv : SubscriberState}
    (h : Refilled env store t ack st adv pages) (log : List Page) :
    wire (sinceBaseline (log ++ pages)) =
      (if st.settled.needsBaseline t.snapshot then [] else wire (sinceBaseline log)) ++
        (st.settled.refillOf store t).events.map (cursorEvent env 0) := by
  rcases h.new with ⟨sequence, hnew⟩ | ⟨hpages, hnew⟩
  · rw [hnew, sinceBaseline_pagesAt, wire_append, wire_pagesAt]
    show wire (if st.settled.needsBaseline t.snapshot then [] else sinceBaseline log) ++ _ = _
    split_ifs <;> rfl
  · obtain ⟨hbase, hevents⟩ := Refill.events_of_not_hasPages hpages
    have hdelta : st.settled.needsBaseline t.snapshot = false := hbase
    rw [hnew, hevents, hdelta]
    simp

/-- **A turn** that jumps over no aircraft. -/
theorem Covered.turn (h : Covered env store st log) (hsigns : ∀ id, SignsOrdered store t.signs id)
    (hskips : st.Drained ack → SkipsNone store t st.settled)
    (hdata : st.settled.lastCursor.isSome → t.snapshot.cursorSecs.isSome)
    (hbounds : t.snapshot.cursorSecs.isSome → store.activeTimeBounds.isSome) :
    Covered env store (st.advance env store t ack) (log ++ st.newPages env store t ack) := by
  obtain ⟨hone, ⟨hrevision, hcursor, hnew⟩ | hrefilled⟩ :=
    advance_moves env store t h.oneRefill ack
  · refine ⟨hone, ?_, ?_⟩
    · rw [hcursor]
      exact h.data
    · rw [hrevision, hcursor, hnew, List.append_nil]
      exact h.placed
  · have hids : ∀ cursor ∈ t.snapshot.cursorSecs, ∀ id,
        store.isSpawnedAt id (.finite cursor) → if st.settled.needsBaseline t.snapshot then
          isShown store t.snapshot id else st.settled.lastCursor.isSome :=
      fun cursor hcursor id hspawned => hskips hrefilled.drained cursor hcursor id
        (mem_ids_of_isSpawnedAt hspawned) hspawned
    have hwire := hrefilled.wire_sinceBaseline log
    refine ⟨hone, ?_, .inr ?_⟩
    · rw [hrefilled.lastCursor]
      exact hbounds
    · rw [hrefilled.lastCursor]
      rcases hbase : st.settled.needsBaseline t.snapshot with _ | _
      · simp only [hbase] at hids
        rw [hbase, events_refillOf_delta store hbase] at hwire
        obtain ⟨hrevision, hle⟩ := needsBaseline_eq_false_iff.mp hbase
        rcases h.placed with ⟨hnone, -⟩ | hplaced
        · rw [hnone] at hrevision
          exact nomatch hrevision
        · exact hplaced.delta hsigns hwire hle hdata hids
      · simp only [hbase, if_true] at hids
        rw [hbase, events_refillOf_baseline store hbase] at hwire
        exact placedUpTo_baseline hsigns hwire hids

/-! ## Runs -/

/-- The publisher with the controller and the store it reads. -/
structure Feed where
  playback : PlaybackController
  room : Room := {}

/-- What can happen: a producer appends; a request to the controller; an operation on the session
tables, such as an acknowledgement; a tick, with what producers append between its snapshot and its
reads of the store. -/
inductive FeedEvent where
  | append (op : AppendOp)
  | control (op : ControlOp) (now : Instant)
  | session (op : SessionOp)
  | tick (now : Instant) (wallClock : Secs) (meanwhile : List AppendOp)

namespace Feed

/-- What a tick reads before the store.  No timestamp is the negative zero: the signs of zeros only
decide which of two events of one time comes first in a refill, not what is in it. -/
def tickAt (feed : Feed) (now : Instant) (wallClock : Secs) : Tick :=
  ⟨(feed.playback.inner.snapshot feed.playback.store now).2, now, wallClock, .plain⟩

def step (env : Env) (feed : Feed) : FeedEvent → Feed
  | .append op =>
    { feed with playback := { feed.playback with store := feed.playback.store.apply op } }
  | .control op now => { feed with playback := feed.playback.next (.control op, now) }
  | .session op => { feed with room := feed.room.step env (.session op) }
  | .tick now wallClock meanwhile =>
    let store := meanwhile.foldl TimeSeriesStore.apply feed.playback.store
    { playback :=
        { feed.playback with
          inner := (feed.playback.inner.snapshot feed.playback.store now).1
          store := store }
      room := feed.room.step env (.tick store (feed.tickAt now wallClock)) }

/-- Nothing is appended behind the cursor the subscriber is on its way to that would count there,
and a tick that refills its queue jumps over no aircraft. -/
def Keeps (a : SocketAddr) (feed : Feed) : FeedEvent → Prop
  | .append op => Undisturbed (feed.room.stateAt a).settled.lastCursor feed.playback.store op
  | .control .. => True
  | .session _ => True
  | .tick now wallClock meanwhile =>
    Meets TimeSeriesStore.apply (Undisturbed (feed.room.stateAt a).settled.lastCursor)
        feed.playback.store meanwhile ∧
      ∀ s ∈ feed.room.sessionAt a, isSubscribed s →
        (feed.room.stateAt a).Drained s.cursorEventAck →
          SkipsNone (meanwhile.foldl TimeSeriesStore.apply feed.playback.store)
            (feed.tickAt now wallClock) (feed.room.stateAt a).settled

instance (a : SocketAddr) (feed : Feed) : (event : FeedEvent) → Decidable (feed.Keeps a event)
  | .append _ => by unfold Keeps; infer_instance
  | .control .. | .session _ => isTrue trivial
  | .tick .. => by unfold Keeps; infer_instance

/-- The invariant, at one address. -/
def CoveredAt (env : Env) (a : SocketAddr) (feed : Feed) : Prop :=
  Covered env feed.playback.store (feed.room.stateAt a) (pagesOf (feed.room.historyAt a))

variable {a : SocketAddr} {feed : Feed}

theorem coveredAt_of_none (h : feed.room.states.lookup a = none) : feed.CoveredAt env a := by
  unfold CoveredAt
  rw [Room.stateAt_of_none h]
  exact covered_empty env _ _

/-- **A tick.** -/
theorem CoveredAt.tick (h : feed.CoveredAt env a) {now : Instant} {wallClock : Secs}
    {meanwhile : List AppendOp} (hkeeps : feed.Keeps a (.tick now wallClock meanwhile)) :
    (feed.step env (.tick now wallClock meanwhile)).CoveredAt env a := by
  obtain ⟨hmeanwhile, hskips⟩ := hkeeps
  have hcursor : (feed.tickAt now wallClock).snapshot.cursorSecs.isSome =
      feed.playback.store.activeTimeBounds.isSome := IsSnapshot.cursor_isSome ⟨_, _, rfl⟩
  have hcovered : Covered env (meanwhile.foldl TimeSeriesStore.apply feed.playback.store)
      (feed.room.stateAt a) (pagesOf (feed.room.historyAt a)) :=
    hmeanwhile.inv (I := fun store => Covered env store (feed.room.stateAt a) _)
      (fun _ _ hstore hop => hstore.apply hop) h
  have hbounds : (feed.tickAt now wallClock).snapshot.cursorSecs.isSome →
      (meanwhile.foldl TimeSeriesStore.apply feed.playback.store).activeTimeBounds.isSome := by
    rw [hcursor]
    exact fun hsome => hmeanwhile.inv (I := fun store => store.activeTimeBounds.isSome = true)
      (fun _ op hstore _ => isSome_activeTimeBounds_apply op hstore) hsome
  have hdata : (feed.room.stateAt a).settled.lastCursor.isSome →
      (feed.tickAt now wallClock).snapshot.cursorSecs.isSome := fun hsome => by
    rw [hcursor]
    exact h.data hsome
  have htick := feed.room.tick_at env (meanwhile.foldl TimeSeriesStore.apply feed.playback.store)
    (feed.tickAt now wallClock) a
  rcases htick with ⟨-, hsame⟩ | ⟨-, -, -, hnone, -⟩ | ⟨-, hended⟩ |
    ⟨s, hs, hsub, -, st', hout, hhist, -, hstate, -⟩ | ⟨-, -, -, -, -, hended⟩
  · show Covered env _ ((feed.room.tick env _ _).stateAt a) _
    show Covered env _ _ (pagesOf ((feed.room.tick env _ _).historyAt a))
    rw [hsame]
    exact hcovered
  · exact coveredAt_of_none hnone
  · exact coveredAt_of_none hended.1
  · have hturn := hcovered.turn (signsOrdered_plain _) (hskips s hs hsub) hdata hbounds
    have hstate' := Room.stateAt_of_some hstate
    show Covered env _ ((feed.room.tick env _ _).stateAt a)
      (pagesOf ((feed.room.tick env _ _).historyAt a))
    rw [hstate', hhist, pagesOf_append, Room.pagesOf_serving]
    exact hturn.of_sameQueue (serve_kept hout)
  · exact coveredAt_of_none hended.1

/-- **Every event** keeps the invariant. -/
theorem CoveredAt.step (h : feed.CoveredAt env a) {event : FeedEvent}
    (hkeeps : feed.Keeps a event) : (feed.step env event).CoveredAt env a := by
  rcases event with op | ⟨op, now⟩ | op | ⟨now, wallClock, meanwhile⟩
  · exact Covered.apply h hkeeps
  · exact h
  · exact h
  · exact h.tick hkeeps

/-- **No event is lost or repeated**, in every run from a new subscription in which nothing is
appended behind the cursor that would count there and no refill jumps over an aircraft: whenever the
queue is empty, the pages since the latest baseline contain what they are to contain. -/
theorem placed_run (env : Env) {a : SocketAddr} {feed : Feed}
    (hnew : feed.room.states.lookup a = none) (events : List FeedEvent)
    (h : Meets (step env) (Keeps a) feed events) {pre : List FeedEvent} (hpre : pre <+: events)
    (hpending : ((pre.foldl (step env) feed).room.stateAt a).pending = []) {cursor : Secs}
    (hcursor : ((pre.foldl (step env) feed).room.stateAt a).lastCursor = some cursor) :
    let feed' := pre.foldl (step env) feed
    Placed env feed'.playback.store (sinceBaseline (pagesOf (feed'.room.historyAt a))) cursor := by
  have hcovered : (pre.foldl (step env) feed).CoveredAt env a :=
    h.inv_prefix (fun _ _ hinv hkeeps => hinv.step hkeeps) (coveredAt_of_none hnew) hpre
  have hplaced := hcovered.placed
  rw [SubscriberState.settled_of_nil hpending, hcursor] at hplaced
  rcases hplaced with ⟨-, hnone⟩ | hplaced
  · exact nomatch hnone
  · exact hplaced

/-- A subscribed client of a publisher in live mode, with nothing in the store. -/
def waiting : Feed := ⟨.new {} {}, (World.connected 1 0 "u" 30).room⟩

/-- The client acknowledges a batch. -/
def acked (sequence : ℕ) : FeedEvent :=
  .session (.acknowledgeCursorEvent 1 Env.small.serverEpoch sequence)

/-- The ids of two aircraft. -/
def firstId : AircraftId := "00000000000000000000000000000001"
def secondId : AircraftId := "00000000000000000000000000000002"

/-- Two aircraft are spawned and have a state; a baseline is acknowledged, and then a delta. -/
def deltaRun : List FeedEvent :=
  [.append (.event firstId (.finite 1) (.spawn {})), .append (.state firstId (.finite 1) {}),
    .append (.event secondId (.finite 1) (.spawn {})), .append (.state secondId (.finite 1) {}),
    .tick 0 0 [.event firstId (.finite 2) (.custom "x")], acked 1, .tick 1 1 [], acked 2,
    .tick 2 2 []]

theorem placed_run_delta :
    let feed := deltaRun.foldl (step Env.small) waiting
    Placed Env.small feed.playback.store (sinceBaseline (pagesOf (feed.room.historyAt 1))) 2 :=
  placed_run Env.small (a := 1) rfl deltaRun (by decide +kernel) (List.prefix_refl _)
    (by decide +kernel) (by decide +kernel)

/-- The first aircraft appears after a baseline of the empty store. -/
def firstSpawnRun : List FeedEvent :=
  [.tick 0 0 [], acked 1, .append (.event "01" (.finite 1) (.spawn {})),
    .append (.state "01" (.finite 1) {}), .tick 1 1 []]

/-- **The first `Spawn` after a baseline of the empty store is lost**, at one revision: the delta
has no cursor to start from, and the subscriber moves on. -/
theorem not_placed_firstSpawn :
    let feed := firstSpawnRun.foldl (step Env.small) waiting
    waiting.room.states.lookup 1 = none ∧
      Meets (step Env.small) (fun feed _ => feed.playback.inner.revision = 0) waiting
        firstSpawnRun ∧
      feed.playback.inner.revision = 0 ∧ (feed.room.stateAt 1).pending = [] ∧
      (feed.room.stateAt 1).lastCursor = some 1 ∧
      ¬Placed Env.small feed.playback.store
        (sinceBaseline (pagesOf (feed.room.historyAt 1))) 1 := by
  refine ⟨rfl, by decide +kernel, by decide +kernel, by decide +kernel, by decide +kernel, ?_⟩
  rintro ⟨placed, hwire, hids⟩
  have hnothing : wire (sinceBaseline (pagesOf
      ((firstSpawnRun.foldl (step Env.small) waiting).room.historyAt 1))) = [] := by
    decide +kernel
  have hspawned : (firstSpawnRun.foldl (step Env.small) waiting).playback.store.isSpawnedAt "01"
      (.finite 1) = true := by decide +kernel
  have hevents : fromLastSpawn (eventsUpTo
      (firstSpawnRun.foldl (step Env.small) waiting).playback.store "01" 1) ≠ [] := by
    decide +kernel
  rw [hnothing] at hwire
  have hplaced : placed = [] := List.map_eq_nil_iff.mp hwire.symm
  have hsuffix := (hids "01").2 hspawned
  rw [hplaced] at hsuffix
  exact hevents (List.suffix_nil.mp hsuffix)

end Feed

end FlyRuler.Cursor
