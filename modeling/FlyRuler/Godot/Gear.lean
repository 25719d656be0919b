import FlyRuler.Cursor.Coverage
import FlyRuler.Cursor.Identity
import FlyRuler.Cursor.Tiling

/-!
# The landing gear in Godot

`bindings/godot/src/model.rs` has two ways to the state of the landing gear of an aircraft: the
server scans the events of its store backwards (`buildFrame`), a subscriber folds the pages of the
cursor stream and looks the aircraft of a frame up in the result (`frameFromCursor`).

* `latestGear_eq_foldl`: the backward scan of a spawned aircraft is a forward fold.
* `gearOf_chain`: what a baseline and the deltas after it leave of an aircraft.
-/

namespace FlyRuler.Godot

open FlyRuler.Pb FlyRuler.Store FlyRuler.Playback FlyRuler.Cursor FlyRuler.Lib.Keyed
open FlyRuler.Lib.TimeOrder

/-- The reserved event names of `core/src/events.rs`. -/
def gearUp : String := "flyruler.control.gear_up"
def gearDown : String := "flyruler.control.gear_down"

/-! ## The subscriber's side -/

/-- What a subscriber knows of the gear, by the hex digits of the aircraft. -/
abbrev GearStates := Table String (Option Bool)

def uuidHex (value : Uuid) : String := String.ofList (value.value.flatMap hexPair)

/-- The hex digits of an id on the wire; without an id there are none. -/
def wireHex (value : Option Uuid) : String := (value.map uuidHex).getD ""

def applyCursorEvent (gearStates : GearStates) (event : CursorEvent) : GearStates :=
  let aircraftId := wireHex event.aircraftId
  match event.info.bind AircraftCommandInfo.kind with
  | some (.spawn _) => gearStates.insert aircraftId none
  | some (.despawn _) => gearStates.erase aircraftId
  | some (.customEvent name) =>
    if name = gearUp then gearStates.insert aircraftId (some false)
    else if name = gearDown then gearStates.insert aircraftId (some true)
    else gearStates
  | _ => gearStates

def applyCursorEventBatch (gearStates : GearStates) (batch : CursorEventBatch) : GearStates :=
  batch.events.foldl applyCursorEvent (if batch.baseline then ∅ else gearStates)

/-- `gear_states.get(&aircraft_id).copied().flatten()`. -/
def gearOf (gearStates : GearStates) (aircraftId : String) : Option Bool :=
  (gearStates.lookup aircraftId).join

/-! ## Frames -/

structure AircraftSnapshotData where
  aircraftId : String
  name : String
  tomlConfig : String
  sourceTimestampSecs : Secs
  stale : Bool
  gearDown : Option Bool
  state : AircraftState

structure FrameSnapshotData where
  mode : PlaybackMode
  cursorSecs : Option Secs
  speed : ℚ
  bounds : Option (Secs × Secs)
  revision : ℕ
  generatedAtSecs : Secs
  aircraft : List AircraftSnapshotData

/-- `f64::EPSILON`. -/
def epsilon : ℚ := 1 / 4503599627370496

/-- `Attitude::try_from` accepts the quaternion. -/
def isAttitude (q : Quaternion) : Bool :=
  match q.w, q.x, q.y, q.z with
  | .finite w, .finite x, .finite y, .finite z =>
    decide (epsilon ^ 2 < w ^ 2 + x ^ 2 + y ^ 2 + z ^ 2)
  | _, _, _, _ => false

def stateIsRenderable (state : AircraftState) : Bool :=
  match state.position, state.attitude with
  | some position, some attitude =>
    [position.x, position.y, position.z].all (fun value => value.toFinite.isSome) &&
      isAttitude attitude
  | _, _ => false

def sortById (aircraft : List AircraftSnapshotData) : List AircraftSnapshotData :=
  aircraft.insertionSort fun left right => left.aircraftId ≤ right.aircraftId

def playbackModeOf : CursorPlaybackMode → PlaybackMode
  | .replayPaused => .replayPaused
  | .replayPlaying => .replayPlaying
  | .unspecified | .live => .live

/-- An aircraft of a cursor frame with its state. -/
def cursorAircraft (gearStates : GearStates) (value : CursorAircraftSnapshot)
    (state : AircraftState) : AircraftSnapshotData where
  aircraftId := wireHex value.aircraftId
  name := value.name
  tomlConfig := value.tomlConfig
  sourceTimestampSecs := value.sourceTimestamp
  stale := value.stale
  gearDown := gearOf gearStates (wireHex value.aircraftId)
  state := state

/-- The same, if there is a state that can be rendered. -/
def aircraftFromCursor (gearStates : GearStates) (value : CursorAircraftSnapshot) :
    Option AircraftSnapshotData :=
  match value.state with
  | none => none
  | some state =>
    if stateIsRenderable state then some (cursorAircraft gearStates value state) else none

def frameFromCursor (frame : CursorFrame) (gearStates : GearStates) : FrameSnapshotData where
  mode := playbackModeOf frame.mode
  cursorSecs := frame.cursor
  speed := frame.speed
  bounds := frame.lowerBound.bind fun lower => frame.upperBound.map fun upper => (lower, upper)
  revision := frame.revision
  generatedAtSecs := frame.generatedAt
  aircraft := sortById (frame.aircraft.filterMap (aircraftFromCursor gearStates))

/-! ## The server's side -/

/-- The scan of `latest_gear_state`, over the events from the last one back. -/
def scanGear : List Event → Option Bool
  | [] => none
  | .custom name :: earlier =>
    if name = gearUp then some false else if name = gearDown then some true else scanGear earlier
  | .spawn _ :: _ => none
  | .despawn _ :: earlier => scanGear earlier

def latestGearState (store : TimeSeriesStore) (aircraftId : AircraftId) (cursorSecs : Secs) :
    Option Bool :=
  (store.getEventsRange aircraftId .negInf (.finite cursorSecs)).bind fun entries =>
    scanGear (entries.map Stamped.item).reverse

/-- A resolved aircraft of the store. -/
def storeAircraft (store : TimeSeriesStore) (snapshot : PlaybackSnapshot) (now : Instant)
    (staleTimeout : Duration) (aircraftId : AircraftId) (resolved : ResolvedState) :
    AircraftSnapshotData :=
  let config := configIn store.aircraftSummaries aircraftId
  { aircraftId := aircraftId
    name := (config.map AircraftConfig.name).getD ""
    tomlConfig := (config.map AircraftConfig.tomlConfig).getD ""
    sourceTimestampSecs := resolved.sample.stamp
    stale := decide (snapshot.mode = .live) && store.liveStateIsStale now aircraftId staleTimeout
    gearDown := latestGearState store aircraftId (snapshot.cursorSecs.getD resolved.sample.stamp)
    state := resolved.sample.item }

/-- One aircraft of `build_frame`, if it is spawned and can be rendered. -/
def aircraftFromStore (store : TimeSeriesStore) (snapshot : PlaybackSnapshot) (now : Instant)
    (staleTimeout : Duration) (aircraftId : AircraftId) : Option AircraftSnapshotData :=
  match resolveAircraftWith store snapshot aircraftId with
  | none => none
  | some resolved =>
    if resolved.spawned && stateIsRenderable resolved.sample.item then
      some (storeAircraft store snapshot now staleTimeout aircraftId resolved)
    else none

def buildFrame (store : TimeSeriesStore) (snapshot : PlaybackSnapshot) (now : Instant)
    (staleTimeout : Duration) (generatedAt : Secs) : FrameSnapshotData where
  mode := snapshot.mode
  cursorSecs := snapshot.cursorSecs
  speed := snapshot.speed
  bounds := snapshot.bounds
  revision := snapshot.revision
  generatedAtSecs := generatedAt
  aircraft := sortById
    (store.getAircraftIds.filterMap (aircraftFromStore store snapshot now staleTimeout))

/-! ## One interpretation of the events -/

/-- What an event makes of the gear. -/
def gearStep (gear : Option Bool) : Event → Option Bool
  | .spawn _ => none
  | .despawn _ => none
  | .custom name =>
    if name = gearUp then some false else if name = gearDown then some true else gear

/-- The event says something about the gear. -/
def isGear : Event → Bool
  | .custom name => decide (name = gearUp) || decide (name = gearDown)
  | _ => false

theorem gearStep_of_not {gear : Option Bool} {event : Event} (hgear : isGear event = false)
    (hlife : lifecycle event = none) : gearStep gear event = gear := by
  rcases event with value | value | name
  · cases hlife
  · cases hlife
  · simp only [isGear, Bool.or_eq_false_iff, decide_eq_false_iff_not] at hgear
    rw [gearStep, if_neg hgear.1, if_neg hgear.2]

theorem gearStep_of_isGear {gear gear' : Option Bool} {event : Event} (h : isGear event = true) :
    gearStep gear event = gearStep gear' event ∧ gearStep gear event ≠ none := by
  rcases event with value | value | name
  · cases h
  · cases h
  · simp only [isGear, Bool.or_eq_true, decide_eq_true_eq] at h
    simp only [gearStep]
    split_ifs with hup hdown
    · exact ⟨rfl, by simp⟩
    · exact ⟨rfl, by simp⟩
    · exact absurd h (not_or.mpr ⟨hup, hdown⟩)

/-- Without gear events the gear stays as it is. -/
theorem foldl_gearStep_of_not {events : List Event} (gear : Option Bool)
    (hgear : ∀ event ∈ events, isGear event = false)
    (hlife : ∀ event ∈ events, lifecycle event = none) : events.foldl gearStep gear = gear := by
  induction events with
  | nil => rfl
  | cons event events ih =>
    rw [List.forall_mem_cons] at hgear hlife
    rw [List.foldl_cons, gearStep_of_not hgear.1 hlife.1]
    exact ih hgear.2 hlife.2

/-- With a gear event, what was before does not matter. -/
theorem foldl_gearStep_of_mem {events : List Event} (gear gear' : Option Bool)
    (hgear : ∃ event ∈ events, isGear event = true)
    (hlife : ∀ event ∈ events, lifecycle event = none) :
    events.foldl gearStep gear = events.foldl gearStep gear' ∧
      events.foldl gearStep gear ≠ none := by
  induction events generalizing gear gear' with
  | nil => exact absurd hgear (by simp)
  | cons event events ih =>
    rw [List.forall_mem_cons] at hlife
    rw [List.foldl_cons, List.foldl_cons]
    by_cases hlater : ∃ event ∈ events, isGear event = true
    · exact ih _ _ hlater hlife.2
    · -- the first event is the only one
      have hnot : ∀ event ∈ events, isGear event = false := by
        intro event he
        by_contra h
        exact hlater ⟨event, he, by simpa using h⟩
      have hfirst : isGear event = true := by
        obtain ⟨event', he', h⟩ := hgear
        rcases List.mem_cons.mp he' with rfl | he'
        · exact h
        · exact absurd ⟨event', he', h⟩ hlater
      rw [foldl_gearStep_of_not _ hnot hlife.2, foldl_gearStep_of_not _ hnot hlife.2]
      exact gearStep_of_isGear hfirst

/-- **Not knowing the gear from before** makes no difference, exactly if nothing was known or a
later gear event decides. -/
theorem foldl_gearStep_eq_iff {known later : List Event}
    (hknown : ∀ event ∈ known, lifecycle event = none)
    (hlater : ∀ event ∈ later, lifecycle event = none) :
    later.foldl gearStep none = later.foldl gearStep (known.foldl gearStep none) ↔
      ((∃ event ∈ known, isGear event = true) → ∃ event ∈ later, isGear event = true) := by
  have hquiet : ∀ {events : List Event}, (¬∃ event ∈ events, isGear event = true) →
      ∀ event ∈ events, isGear event = false := by
    intro events hnot event he
    by_contra hgear
    exact hnot ⟨event, he, by simpa using hgear⟩
  by_cases hdecides : ∃ event ∈ later, isGear event = true
  · exact iff_of_true (foldl_gearStep_of_mem _ _ hdecides hlater).1 fun _ => hdecides
  rw [foldl_gearStep_of_not _ (hquiet hdecides) hlater,
    foldl_gearStep_of_not _ (hquiet hdecides) hlater]
  by_cases hbefore : ∃ event ∈ known, isGear event = true
  · refine iff_of_false ?_ fun h => hdecides (h hbefore)
    exact Ne.symm (foldl_gearStep_of_mem none none hbefore hknown).2
  · rw [foldl_gearStep_of_not _ (hquiet hbefore) hknown]
    exact iff_of_true rfl fun h => absurd h hbefore

/-- A `Spawn` is no gear event, and the gear is unknown after it. -/
theorem gearStep_of_isSpawn {event : Event} (h : isSpawn event = true) :
    isGear event = false ∧ ∀ gear, gearStep gear event = none := by
  rcases event with value | value | name
  · exact ⟨rfl, fun _ => rfl⟩
  · exact ⟨rfl, fun _ => rfl⟩
  · cases h

/-- The scan stops at the last `Spawn`. -/
theorem scanGear_append {before after : List Event} {spawn : Event} (hspawn : isSpawn spawn = true)
    (hafter : ∀ event ∈ after, lifecycle event = none) :
    scanGear (before ++ spawn :: after).reverse = after.foldl gearStep none := by
  have hscan : ∀ after : List Event, (∀ event ∈ after, lifecycle event = none) →
      scanGear (after ++ spawn :: before.reverse) = after.reverse.foldl gearStep none := by
    intro after
    induction after with
    | nil =>
      rcases spawn with value | value | name
      · exact fun _ => rfl
      · cases hspawn
      · cases hspawn
    | cons event after ih =>
      intro hlife
      rw [List.forall_mem_cons] at hlife
      rw [List.cons_append, List.reverse_cons, List.foldl_append, ← ih hlife.2]
      rcases event with value | value | name
      · cases hlife.1
      · cases hlife.1
      · rfl
  rw [List.reverse_append, List.reverse_cons, List.append_assoc, List.singleton_append,
    hscan _ fun event he => hafter event (List.mem_reverse.mp he), List.reverse_reverse]

/-- **The backward scan** of a spawned aircraft is the fold of its events since the last
`Spawn`. -/
theorem latestGear_eq_foldl {store : TimeSeriesStore} {id : AircraftId} {cursor : Secs}
    (h : store.isSpawnedAt id (.finite cursor) = true) :
    latestGearState store id cursor =
      ((fromLastSpawn (eventsUpTo store id cursor)).map Stamped.item).foldl gearStep none := by
  obtain ⟨s, hs⟩ := TimeSeriesStore.mem_getAircraftIds.mp (mem_ids_of_isSpawnedAt h)
  have hrange : store.getEventsRange id .negInf (.finite cursor) =
      some (eventsUpTo store id cursor) := by
    unfold TimeSeriesStore.getEventsRange eventsUpTo
    rw [hs, TimeSeriesStore.series_of_lookup hs, Timeline.upTo_eq]
    rfl
  rw [isSpawnedAt_finite] at h
  obtain ⟨before, spawn, after, hsplit, hspawn, hafter⟩ := spawnedAfter_iff.mp h
  have hlife : ∀ event ∈ after.map Stamped.item, lifecycle event = none := by
    intro event he
    obtain ⟨e, hmem, rfl⟩ := List.mem_map.mp he
    exact hafter e hmem
  have hstep : gearStep none spawn.item = none := by
    rcases hitem : spawn.item with value | value | name
    · rfl
    · rfl
    · rw [hitem] at hspawn
      cases hspawn
  rw [latestGearState, hrange, Option.bind_some, hsplit, fromLastSpawn_eq hspawn hafter,
    List.map_append, List.map_cons, List.foldl_cons, hstep, scanGear_append hspawn hlife]

/-! ## The pages, folded -/

/-- What a subscriber knows after some pages. -/
def foldPages (gearStates : GearStates) (pages : List Page) : GearStates :=
  pages.foldl (fun gearStates page => applyCursorEventBatch gearStates page.batch) gearStates

theorem wire_cons (page : Page) (pages : List Page) :
    wire (page :: pages) = page.batch.events.map unnumbered ++ wire pages := List.flatMap_cons

theorem foldPages_of_not_baseline {pages : List Page}
    (h : ∀ page ∈ pages, page.batch.baseline = false) (gearStates : GearStates) :
    foldPages gearStates pages = (wire pages).foldl applyCursorEvent gearStates := by
  induction pages generalizing gearStates with
  | nil => rfl
  | cons page pages ih =>
    rw [List.forall_mem_cons] at h
    have hpage : applyCursorEventBatch gearStates page.batch =
        (page.batch.events.map unnumbered).foldl applyCursorEvent gearStates := by
      rw [applyCursorEventBatch, h.1, List.foldl_map]
      rfl
    rw [foldPages, List.foldl_cons, ← foldPages, ih h.2, hpage, wire_cons, List.foldl_append]

/-- **A refill** starts over if it is a baseline. -/
theorem foldPages_pagesAt (env : Env) (r : Refill) (sequence : ℕ → ℕ) (gearStates : GearStates) :
    foldPages gearStates (r.pagesAt env sequence) =
      (r.events.map (cursorEvent env 0)).foldl applyCursorEvent
        (if r.baseline then ∅ else gearStates) := by
  rw [← wire_pagesAt env r sequence]
  by_cases hbase : r.baseline = true
  · obtain ⟨n, hn, -⟩ := pagesAt_concat env r sequence
    have hpages : r.pagesAt env sequence = r.page env (sequence 0) 0 ::
        (List.range n).map fun i => r.page env (sequence (i + 1)) (i + 1) := by
      unfold Refill.pagesAt
      rw [hn, List.range_succ_eq_map, List.map_cons, List.map_map]
      rfl
    have hfirst : (r.page env (sequence 0) 0).batch.baseline = true := by
      show (r.baseline && (0 == 0)) = true
      rw [hbase]
      rfl
    have hrest : ∀ page ∈ (List.range n).map fun i => r.page env (sequence (i + 1)) (i + 1),
        page.batch.baseline = false := by
      intro page hpage
      obtain ⟨i, -, rfl⟩ := List.mem_map.mp hpage
      show (r.baseline && (i + 1 == 0)) = false
      simp
    have hpage : applyCursorEventBatch gearStates (r.page env (sequence 0) 0).batch =
        ((r.page env (sequence 0) 0).batch.events.map unnumbered).foldl applyCursorEvent ∅ := by
      rw [applyCursorEventBatch, hfirst, List.foldl_map]
      rfl
    rw [hpages, foldPages, List.foldl_cons, ← foldPages, foldPages_of_not_baseline hrest, hpage,
      if_pos hbase, wire_cons, List.foldl_append]
  · rw [if_neg hbase]
    refine foldPages_of_not_baseline (fun page hpage => ?_) gearStates
    obtain ⟨i, -, rfl⟩ := List.mem_map.mp hpage
    show (r.baseline && (i == 0)) = false
    simp [hbase]

theorem gearOf_insert (gearStates : GearStates) (key key' : String) (value : Option Bool) :
    gearOf (gearStates.insert key value) key' =
      if key' = key then value else gearOf gearStates key' := by
  rw [gearOf, lookup_insert]
  split_ifs <;> rfl

theorem gearOf_erase (gearStates : GearStates) (key key' : String) :
    gearOf (gearStates.erase key) key' = if key' = key then none else gearOf gearStates key' := by
  rw [gearOf, lookup_erase]
  split_ifs <;> rfl

/-- One event, as it is seen by one aircraft. -/
theorem gearOf_applyCursorEvent (env : Env) (gearStates : GearStates)
    (event : GlobalTimestampedEvent) (key : String) :
    gearOf (applyCursorEvent gearStates (cursorEvent env 0 event)) key =
      if key = wireHex (env.hexToPbUuid event.aircraftId) then
        gearStep (gearOf gearStates key) event.event
      else gearOf gearStates key := by
  rcases hevent : event.event with value | value | name
  · have happly : applyCursorEvent gearStates (cursorEvent env 0 event) =
        gearStates.insert (wireHex (env.hexToPbUuid event.aircraftId)) none := by
      simp only [applyCursorEvent, cursorEvent, hevent, eventKind, Option.bind_some]
    rw [happly, gearOf_insert]
    rfl
  · have happly : applyCursorEvent gearStates (cursorEvent env 0 event) =
        gearStates.erase (wireHex (env.hexToPbUuid event.aircraftId)) := by
      simp only [applyCursorEvent, cursorEvent, hevent, eventKind, Option.bind_some]
    rw [happly, gearOf_erase]
    rfl
  · simp only [applyCursorEvent, cursorEvent, hevent, eventKind, Option.bind_some, gearStep]
    by_cases hup : name = gearUp
    · rw [if_pos hup, if_pos hup, gearOf_insert]
    · by_cases hdown : name = gearDown
      · rw [if_neg hup, if_pos hdown, if_neg hup, if_pos hdown, gearOf_insert]
      · rw [if_neg hup, if_neg hdown, if_neg hup, if_neg hdown, ite_self]

/-- **Many events**, as they are seen by one aircraft whose digits no other aircraft has. -/
theorem gearOf_foldl (env : Env) {id : AircraftId} {placed : List GlobalTimestampedEvent}
    (hwire : ∀ event ∈ placed,
      id = wireHex (env.hexToPbUuid event.aircraftId) ↔ event.aircraftId = id)
    (gearStates : GearStates) :
    gearOf ((placed.map (cursorEvent env 0)).foldl applyCursorEvent gearStates) id =
      ((ofAircraft id placed).map GlobalTimestampedEvent.event).foldl gearStep
        (gearOf gearStates id) := by
  induction placed generalizing gearStates with
  | nil => rfl
  | cons event placed ih =>
    rw [List.forall_mem_cons] at hwire
    have hcons : ofAircraft id (event :: placed) =
        (if event.aircraftId = id then [event] else []) ++ ofAircraft id placed := by
      rw [ofAircraft, List.filter_cons]
      by_cases hid : event.aircraftId = id
      · rw [if_pos hid, if_pos (by simpa using hid)]
        rfl
      · rw [if_neg hid, if_neg (by simpa using hid)]
        rfl
    rw [List.map_cons, List.foldl_cons, ih hwire.2, gearOf_applyCursorEvent, hcons]
    by_cases hid : event.aircraftId = id
    · rw [if_pos (hwire.1.mpr hid), if_pos hid]
      rfl
    · rw [if_neg fun hname => hid (hwire.1.mp hname), if_neg hid]
      rfl

/-! ## A baseline and the deltas after it -/

/-- The pages of a baseline of the snapshot `first` and of any number of deltas after it, up to a
cursor, with any sequences. -/
inductive Chain (env : Env) (store : TimeSeriesStore) (signs : ZeroSigns)
    (first : PlaybackSnapshot) :
    Secs → List Page → Prop
  | baseline (cursor : Secs) (hcursor : first.cursorSecs = some cursor) (r : Refill)
      (hbase : r.baseline = true) (hevents : r.events = baselineEvents store signs first)
      (sequence : ℕ → ℕ) : Chain env store signs first cursor (r.pagesAt env sequence)
  | delta (cursor cursor' : Secs) (pages : List Page) (h : Chain env store signs first cursor pages)
      (hle : cursor ≤ cursor') (r : Refill) (hbase : r.baseline = false)
      (hevents : r.events = deltaEvents store signs (some cursor) (some cursor'))
      (sequence : ℕ → ℕ) : Chain env store signs first cursor' (pages ++ r.pagesAt env sequence)

variable {env : Env} {store : TimeSeriesStore} {signs : ZeroSigns} {first : PlaybackSnapshot}
  {start cursor : Secs} {pages : List Page}

/-- The pages of a chain, folded from any state. -/
theorem Chain.foldPages (hstart : first.cursorSecs = some start)
    (h : Chain env store signs first cursor pages) (gearStates : GearStates) :
    start ≤ cursor ∧ Godot.foldPages gearStates pages =
      ((baselineEvents store signs first ++ deltaEvents store signs (some start) (some cursor)).map
        (cursorEvent env 0)).foldl applyCursorEvent ∅ := by
  induction h with
  | baseline cursor hcursor r hbase hevents sequence =>
    have heq : start = cursor := Option.some.inj (hstart.symm.trans hcursor)
    rw [foldPages_pagesAt, if_pos hbase, hevents, heq, deltaEvents_self, List.append_nil]
    exact ⟨le_rfl, rfl⟩
  | delta cursor cursor' pages h hle r hbase hevents sequence ih =>
    obtain ⟨hfrom, hfold⟩ := ih
    have hsplit : deltaEvents store signs (some start) (some cursor) ++
        deltaEvents store signs (some cursor) (some cursor') =
          deltaEvents store signs (some start) (some cursor') :=
      deltaEvents_append rfl rfl
        (fun x hx y hy => by
          rw [← Option.some.inj hx, ← Option.some.inj hy]
          exact hfrom)
        (fun x hx y hy => by
          rw [← Option.some.inj hx, ← Option.some.inj hy]
          exact hle)
    have happend : Godot.foldPages gearStates (pages ++ r.pagesAt env sequence) =
        Godot.foldPages (Godot.foldPages gearStates pages) (r.pagesAt env sequence) :=
      List.foldl_append
    refine ⟨hfrom.trans hle, ?_⟩
    rw [happend, foldPages_pagesAt, if_neg (by simp [hbase]), hfold, hevents, ← hsplit,
      ← List.append_assoc, List.map_append, List.map_append, List.map_append, List.foldl_append,
      List.foldl_append, List.foldl_append]

/-- The events of an aircraft in `(start, cursor]`. -/
def between (store : TimeSeriesStore) (id : AircraftId) (start cursor : Secs) :
    List TimestampedEvent :=
  (store.series id).events.entries.filter fun e =>
    decide (start < e.stamp) && decide (e.stamp ≤ cursor)

theorem eventsUpTo_append (store : TimeSeriesStore) (id : AircraftId) (h : start ≤ cursor) :
    eventsUpTo store id cursor = eventsUpTo store id start ++ between store id start cursor :=
  (store.series id).events.upTo_append h

/-- What is placed of an aircraft. -/
def placedOf (store : TimeSeriesStore) (first : PlaybackSnapshot) (id : AircraftId)
    (start cursor : Secs) : List TimestampedEvent :=
  (if isShown store first id then fromLastSpawn (eventsUpTo store id start) else []) ++
    between store id start cursor

theorem ofAircraft_placed {id : AircraftId} (hsigns : SignsOrdered store signs id)
    (hstart : first.cursorSecs = some start) (hle : start ≤ cursor) :
    (ofAircraft id (baselineEvents store signs first ++
      deltaEvents store signs (some start) (some cursor))).map GlobalTimestampedEvent.entry =
        placedOf store first id start cursor := by
  have happend : ofAircraft id (baselineEvents store signs first ++
      deltaEvents store signs (some start) (some cursor)) =
      ofAircraft id (baselineEvents store signs first) ++
        ofAircraft id (deltaEvents store signs (some start) (some cursor)) :=
    List.filter_append _ _
  rw [happend, List.map_append, ofAircraft_baselineEvents hsigns hstart,
    ofAircraft_deltaEvents hsigns hle, placedOf]
  rfl

/-- Only the aircraft in the store have events. -/
theorem mem_ids_of_placed (hstart : first.cursorSecs = some start) (hle : start ≤ cursor)
    {event : GlobalTimestampedEvent}
    (h : event ∈ baselineEvents store signs first ++
      deltaEvents store signs (some start) (some cursor)) :
    event.aircraftId ∈ store.getAircraftIds := by
  rcases List.mem_append.mp h with hbaseline | hdelta
  · unfold baselineEvents at hbaseline
    rw [hstart] at hbaseline
    obtain ⟨id, hid, hmem⟩ := List.mem_flatMap.mp ((List.mem_insertionSort _).mp hbaseline)
    rw [baselineOf_eq] at hmem
    obtain ⟨entry, -, rfl⟩ := List.mem_map.mp hmem
    exact hid
  · rw [deltaEvents_eq store signs hle] at hdelta
    exact TimeSeriesStore.mem_ids_of_globalEvents (List.mem_filter.mp hdelta).1

/-- **What a chain leaves of an aircraft** whose digits no other aircraft of the store has. -/
theorem gearOf_chain {id : AircraftId}
    (hids : ∀ other ∈ store.getAircraftIds, id = wireHex (env.hexToPbUuid other) ↔ other = id)
    (hsigns : SignsOrdered store signs id) (hstart : first.cursorSecs = some start)
    (h : Chain env store signs first cursor pages) (gearStates : GearStates) :
    gearOf (foldPages gearStates pages) id =
      ((placedOf store first id start cursor).map Stamped.item).foldl gearStep none := by
  obtain ⟨hle, hfold⟩ := h.foldPages hstart gearStates
  rw [hfold, gearOf_foldl env fun event he => hids _ (mem_ids_of_placed hstart hle he),
    ← ofAircraft_placed hsigns hstart hle, List.map_map]
  rfl

/-! ## When the two agree -/

/-- The gear of the aircraft is lost on the way to the cursor: since its last `Spawn` there are gear
events, all of them up to `start`, and the baseline at `start` does not show the aircraft. -/
def losesGear (store : TimeSeriesStore) (first : PlaybackSnapshot) (start cursor : Secs)
    (id : AircraftId) : Prop :=
  isShown store first id = false ∧
    (∃ e ∈ fromLastSpawn (eventsUpTo store id cursor), isGear e.item = true) ∧
      ∀ e ∈ fromLastSpawn (eventsUpTo store id cursor), isGear e.item = true → e.stamp ≤ start

instance (id : AircraftId) : Decidable (losesGear store first start cursor id) := by
  unfold losesGear; infer_instance

theorem stamp_eventsUpTo {id : AircraftId} {e : TimestampedEvent}
    (h : e ∈ eventsUpTo store id start) : e.stamp ≤ start := by
  rw [eventsUpTo, Timeline.upTo_eq] at h
  simpa using (List.mem_filter.mp h).2

theorem stamp_between {id : AircraftId} {e : TimestampedEvent}
    (h : e ∈ between store id start cursor) : start < e.stamp := by
  have hmem := (List.mem_filter.mp h).2
  simp only [Bool.and_eq_true, decide_eq_true_eq] at hmem
  exact hmem.1

/-- A gear event after the last `Spawn` that comes behind `start` keeps the gear. -/
theorem not_losesGear {id : AircraftId} {e : TimestampedEvent}
    (he : e ∈ fromLastSpawn (eventsUpTo store id cursor)) (hgear : isGear e.item = true)
    (hbetween : e ∈ between store id start cursor) : ¬ losesGear store first start cursor id :=
  fun hloses => absurd (stamp_between hbetween) (not_lt.mpr (hloses.2.2 e he hgear))

/-- The last `Spawn` is behind `start`: the gear is not lost. -/
theorem not_losesGear_of_suffix {id : AircraftId}
    (h : fromLastSpawn (eventsUpTo store id cursor) <:+ between store id start cursor) :
    ¬ losesGear store first start cursor id := by
  intro hloses
  obtain ⟨e, he, hgear⟩ := hloses.2.1
  exact not_losesGear he hgear (h.subset he) hloses

/-- **When the gear is lost** of an aircraft that the baseline does not show, although it was
spawned: there are gear events up to `start` and none behind it. -/
theorem losesGear_iff {id : AircraftId} {before after : List TimestampedEvent}
    {spawn : TimestampedEvent} (hsplit : eventsUpTo store id start = before ++ spawn :: after)
    (hfrom : fromLastSpawn (eventsUpTo store id cursor) =
      spawn :: (after ++ between store id start cursor))
    (hspawn : isSpawn spawn.item = true) (hshown : isShown store first id = false) :
    losesGear store first start cursor id ↔
      (∃ e ∈ after, isGear e.item = true) ∧
        ∀ e ∈ between store id start cursor, isGear e.item = false := by
  have hmem : ∀ e, e ∈ fromLastSpawn (eventsUpTo store id cursor) ↔
      e = spawn ∨ e ∈ after ∨ e ∈ between store id start cursor := by
    intro e
    rw [hfrom, List.mem_cons, List.mem_append]
  have hstamp : ∀ e ∈ after, e.stamp ≤ start := by
    intro e he
    refine @stamp_eventsUpTo store start id e ?_
    rw [hsplit]
    exact List.mem_append_right _ (List.mem_cons_of_mem _ he)
  have hnot := (gearStep_of_isSpawn hspawn).1
  constructor
  · intro hloses
    have hquiet : ∀ e ∈ between store id start cursor, isGear e.item = false := by
      intro e he
      by_contra hgear
      exact not_losesGear ((hmem e).mpr (.inr (.inr he))) (by simpa using hgear) he hloses
    obtain ⟨e, he, hgear⟩ := hloses.2.1
    rcases (hmem e).mp he with rfl | he | he
    · rw [hnot] at hgear
      cases hgear
    · exact ⟨⟨e, he, hgear⟩, hquiet⟩
    · rw [hquiet e he] at hgear
      cases hgear
  · rintro ⟨⟨e, he, hgear⟩, hquiet⟩
    refine ⟨hshown, ⟨e, (hmem e).mpr (.inr (.inl he)), hgear⟩, fun e' he' hgear' => ?_⟩
    rcases (hmem e').mp he' with rfl | he' | he'
    · rw [hnot] at hgear'
      cases hgear'
    · exact hstamp e' he'
    · rw [hquiet e' he'] at hgear'
      cases hgear'

/-- What is placed and what counts say the same, unless the gear is lost. -/
theorem placed_agrees_iff {id : AircraftId} (hle : start ≤ cursor)
    (hspawned : spawnedAfter (eventsUpTo store id cursor) = true) :
    ((placedOf store first id start cursor).map Stamped.item).foldl gearStep none =
      ((fromLastSpawn (eventsUpTo store id cursor)).map Stamped.item).foldl gearStep none ↔
    ¬ losesGear store first start cursor id := by
  have happend := eventsUpTo_append store id hle
  have hspawned' := hspawned
  rw [happend] at hspawned'
  rcases fromLastSpawn_append hspawned' with hlater | ⟨hbefore, heq⟩
  · -- the last `Spawn` is in the deltas, and what was before it does not matter
    rw [← happend] at hlater
    refine iff_of_true ?_ (not_losesGear_of_suffix hlater)
    obtain ⟨before, spawn, after, hsplit, hspawn, hafter⟩ := spawnedAfter_iff.mp hspawned
    obtain ⟨skipped, hlater⟩ := hlater
    rw [hsplit, fromLastSpawn_eq hspawn hafter] at hlater ⊢
    rw [placedOf, ← hlater]
    simp only [List.map_append, List.map_cons, List.foldl_append, List.foldl_cons,
      (gearStep_of_isSpawn hspawn).2]
  · rw [← happend] at heq
    by_cases hshown : isShown store first id = true
    · refine iff_of_true ?_ fun hloses => ?_
      · rw [placedOf, if_pos hshown, heq]
      · rw [hloses.1] at hshown
        simp at hshown
    · -- the aircraft is spawned at the baseline and not in it
      obtain ⟨before, spawn, after, hsplit, hspawn, hafter⟩ := spawnedAfter_iff.mp hbefore
      rw [hsplit, fromLastSpawn_eq hspawn hafter, List.cons_append] at heq
      have hlife : ∀ e ∈ between store id start cursor, lifecycle e.item = none := by
        obtain ⟨before', spawn', after', hsplit', hspawn', hafter'⟩ := spawnedAfter_iff.mp hspawned
        rw [hsplit', fromLastSpawn_eq hspawn' hafter'] at heq
        obtain ⟨-, rfl⟩ := List.cons.inj heq
        exact fun e he => hafter' e (List.mem_append_right _ he)
      rw [losesGear_iff hsplit heq hspawn (by simpa using hshown), placedOf, if_neg hshown,
        List.nil_append, heq, List.map_cons, List.foldl_cons, (gearStep_of_isSpawn hspawn).2,
        List.map_append, List.foldl_append,
        foldl_gearStep_eq_iff (by simpa using hafter) (by simpa using hlife)]
      simp only [List.mem_map, exists_exists_and_eq_and, not_and, not_forall, exists_prop,
        Bool.not_eq_false]

/-! ## The frames agree -/

/-- Every aircraft of the frame of the server is in the frame of the subscriber, with the same
gear. -/
def GearAgrees (server client : FrameSnapshotData) : Prop :=
  ∀ x ∈ server.aircraft, (∃ a ∈ client.aircraft, a.aircraftId = x.aircraftId) ∧
    ∀ a ∈ client.aircraft, a.aircraftId = x.aircraftId → a.gearDown = x.gearDown

theorem mem_sortById {aircraft : List AircraftSnapshotData} {a : AircraftSnapshotData} :
    a ∈ sortById aircraft ↔ a ∈ aircraft := (List.perm_insertionSort _ _).mem_iff

/-- The aircraft is in the frame of the snapshot and can be rendered. -/
def isRendered (store : TimeSeriesStore) (snapshot : PlaybackSnapshot) (id : AircraftId) : Prop :=
  ∃ resolved ∈ resolveAircraftWith store snapshot id,
    resolved.spawned = true ∧ stateIsRenderable resolved.sample.item = true

variable {snapshot : PlaybackSnapshot} {now : Instant} {staleTimeout : Duration}
  {generatedAt : Secs} {id : AircraftId}

theorem isRendered.isShown (h : isRendered store snapshot id) :
    isShown store snapshot id = true := by
  obtain ⟨resolved, hresolved, hspawned, -⟩ := h
  rw [Cursor.isShown, Option.mem_def.mp hresolved, Option.any_some, hspawned]

theorem isRendered.mem_ids (h : isRendered store snapshot id) : id ∈ store.getAircraftIds :=
  mem_ids_of_isShown h.isShown

/-- In a replay the aircraft is spawned at the cursor. -/
theorem isRendered.isSpawnedAt (h : isRendered store snapshot id) (hmode : snapshot.mode ≠ .live)
    (hcursor : snapshot.cursorSecs = some cursor) :
    store.isSpawnedAt id (.finite cursor) = true := by
  obtain ⟨resolved, hresolved, hspawned, -⟩ := h
  obtain ⟨sample, -, rfl⟩ := Option.map_eq_some_iff.mp hresolved
  unfold resolveSpawned at hspawned
  rw [hcursor] at hspawned
  rcases hm : snapshot.mode with _ | _ | _
  · exact absurd hm hmode
  · rw [hm] at hspawned
    exact hspawned
  · rw [hm] at hspawned
    exact hspawned

/-- **The aircraft of the frame of the server.** -/
theorem mem_buildFrame (hcursor : snapshot.cursorSecs = some cursor) (gear : Option Bool) :
    (∃ x ∈ (buildFrame store snapshot now staleTimeout generatedAt).aircraft,
      x.aircraftId = id ∧ x.gearDown = gear) ↔
    isRendered store snapshot id ∧ gear = latestGearState store id cursor := by
  simp only [buildFrame, mem_sortById, List.mem_filterMap]
  constructor
  · rintro ⟨x, ⟨id', -, hx⟩, rfl, rfl⟩
    unfold aircraftFromStore at hx
    rcases hresolved : resolveAircraftWith store snapshot id' with _ | resolved
    · rw [hresolved] at hx
      simp at hx
    · rw [hresolved] at hx
      dsimp only at hx
      split_ifs at hx with hshow
      · rw [Bool.and_eq_true] at hshow
        cases hx
        exact ⟨⟨resolved, hresolved, hshow⟩, by rw [storeAircraft, hcursor, Option.getD_some]⟩
  · rintro ⟨hrendered, rfl⟩
    have hmem := hrendered.mem_ids
    obtain ⟨resolved, hresolved, hshow⟩ := hrendered
    refine ⟨storeAircraft store snapshot now staleTimeout id resolved, ⟨id, hmem, ?_⟩, rfl, ?_⟩
    · unfold aircraftFromStore
      rw [Option.mem_def.mp hresolved]
      dsimp only
      rw [if_pos (by rw [Bool.and_eq_true]; exact hshow)]
    · rw [storeAircraft, hcursor, Option.getD_some]

/-- **The aircraft of the frame of a subscriber.** -/
theorem mem_frameFromCursor {frameSequence eventWatermark : ℕ} {gearStates : GearStates}
    (key : String) (gear : Option Bool) :
    (∃ a ∈ (frameFromCursor (assembleCursorFrame env store now snapshot frameSequence
        eventWatermark generatedAt) gearStates).aircraft,
      a.aircraftId = key ∧ a.gearDown = gear) ↔
    (∃ id, isRendered store snapshot id ∧ wireHex (env.hexToPbUuid id) = key) ∧
      gear = gearOf gearStates key := by
  have hframe : ∀ c, c ∈ (assembleCursorFrame env store now snapshot frameSequence eventWatermark
      generatedAt).aircraft ↔ ∃ shown ∈ shownAircraft store snapshot,
        aircraftSnapshot env snapshot shown.1 (configIn store.aircraftSummaries shown.1)
          (store.liveStateIsStale now shown.1 env.staleTimeout) shown.2 = c := by
    intro c
    rw [assembleCursorFrame_shown]
    dsimp only
    rw [(sortAircraft_perm _).mem_iff, List.mem_map]
  simp only [frameFromCursor, mem_sortById, List.mem_filterMap, hframe, mem_shownAircraft]
  constructor
  · rintro ⟨a, ⟨c, ⟨shown, ⟨hresolved, hspawned⟩, rfl⟩, ha⟩, rfl, rfl⟩
    simp only [aircraftFromCursor, aircraftSnapshot] at ha
    split_ifs at ha with hshow
    cases ha
    exact ⟨⟨shown.1, ⟨shown.2, hresolved, hspawned, hshow⟩, rfl⟩, rfl⟩
  · rintro ⟨⟨id, ⟨resolved, hresolved, hspawned, hshow⟩, rfl⟩, rfl⟩
    have hsnapshot : ∃ c, aircraftSnapshot env snapshot id (configIn store.aircraftSummaries id)
        (store.liveStateIsStale now id env.staleTimeout) resolved = c := ⟨_, rfl⟩
    obtain ⟨c, hc⟩ := hsnapshot
    have hid : c.aircraftId = env.hexToPbUuid id := by
      rw [← hc]
      rfl
    refine ⟨cursorAircraft gearStates c resolved.sample.item,
      ⟨c, ⟨(id, resolved), ⟨hresolved, hspawned⟩, hc⟩, ?_⟩, ?_, ?_⟩
    · rw [← hc]
      simp only [aircraftFromCursor, aircraftSnapshot]
      rw [if_pos hshow]
    · rw [cursorAircraft, hid]
    · rw [cursorAircraft, hid]

/-- The name under which a subscriber knows an aircraft. -/
def wireName (id : AircraftId) : String := wireHex ((hexToPbUuid id).getD none)

/-- An aircraft keeps its name if its id survives the wire, or if it has no id at all. -/
theorem wireName_eq_self_iff : wireName id = id ↔ isWireId id ∨ id = "" := by
  constructor
  · intro h
    unfold wireName at h
    rcases hwire : hexToPbUuid id with _ | _ | uuid
    · rw [hwire] at h
      exact .inr h.symm
    · rw [hwire] at h
      exact .inr h.symm
    · rw [hwire] at h
      exact .inl ((hexToPbUuid_faithful_iff id).mp ⟨uuid, hwire, h⟩)
  · rintro (h | rfl)
    · obtain ⟨uuid, hwire, hhex⟩ := (hexToPbUuid_faithful_iff id).mpr h
      rw [wireName, hwire]
      exact hhex
    · decide +kernel

/-- A state that can be rendered. -/
def plainState : AircraftState where
  position := some ⟨.finite 0, .finite 0, .finite 0⟩
  attitude := some ⟨.finite 1, .finite 0, .finite 0, .finite 0⟩

/-- The id of the aircraft of the examples, which is sixteen bytes. -/
def plainId : AircraftId := "00000000000000000000000000000001"

/-- An aircraft that lowers its gear at two seconds, with one state at the given time. -/
def gearStore (stateAt : Secs) : TimeSeriesStore :=
  ((({} : TimeSeriesStore).appendEvent plainId (.finite 1) (.spawn {})).appendEvent plainId
    (.finite 2) (.custom gearDown)).appendState plainId (.finite stateAt) plainState

/-- A replay that stands at the cursor. -/
def replayAt (cursor : Secs) : PlaybackSnapshot := ⟨.replayPaused, some cursor, 1, some (1, 6), 0⟩

def baselineRefill (store : TimeSeriesStore) (cursor : Secs) : Refill :=
  ⟨replayAt cursor, 0, true, true, baselineEvents store .plain (replayAt cursor)⟩

def deltaRefill (store : TimeSeriesStore) (cursor cursor' : Secs) : Refill :=
  ⟨replayAt cursor', 0, false, false, deltaEvents store .plain (some cursor) (some cursor')⟩

/-- The pages of a baseline at three seconds and a delta to six seconds. -/
def gearPages (env : Env) (store : TimeSeriesStore) : List Page :=
  (baselineRefill store 3).pagesAt env Nat.succ ++ (deltaRefill store 3 6).pagesAt env Nat.succ

theorem chain_gearPages (env : Env) (store : TimeSeriesStore) :
    Chain env store .plain (replayAt 3) 6 (gearPages env store) :=
  .delta 3 6 _ (.baseline 3 rfl _ rfl rfl Nat.succ) (by decide +kernel) _ rfl rfl Nat.succ

end FlyRuler.Godot
