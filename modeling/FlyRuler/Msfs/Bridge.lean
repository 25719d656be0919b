import FlyRuler.Msfs.Aircraft
import Mathlib.Data.Prod.Lex

/-!
# The loop of the MSFS bridge

`select_aircraft_at` of `bindings/msfs/src/lib.rs` and the loop of `bindings/msfs/src/bridge.rs`:
every turn pumps the simulator, gives up the selected aircraft if it is no longer spawned, selects
another one, shows it, and updates the registry of the AI aircraft.  A turn that fails leaves the
loop; the bridge then clears the registry and connects again.

* `selectAircraftAt_eq_some`, `selectAircraftAt_eq_none`: which aircraft is selected, and when.
* `Sound.next`: what holds between two turns.
* `user_apart_run`: the selected aircraft is never an AI aircraft, and it stays selected as long as
  it is spawned.
-/

namespace FlyRuler.Msfs.Bridge

open FlyRuler.Pb FlyRuler.Store FlyRuler.Playback FlyRuler.Lib.Keyed FlyRuler.Lib.Run
open FlyRuler.Lib.TimeOrder

/-! ## The selection -/

/-- The timestamp of the first `Spawn` among all events of an aircraft. -/
def firstSpawn (store : TimeSeriesStore) (id : AircraftId) : Option Secs :=
  (store.getEventsRange id .negInf .posInf).bind fun events =>
    events.findSome? fun entry =>
      match entry.item with
      | .spawn _ => some entry.stamp
      | _ => none

/-- The aircraft among which `select_aircraft_at` chooses, by their first spawn. -/
def spawnedBy (store : TimeSeriesStore) (timestampSecs : F64) : List (Secs × AircraftId) :=
  ((store.getAircraftIds.filter fun id => store.isSpawnedAt id timestampSecs).filterMap fun id =>
    (firstSpawn store id).map fun timestamp => (timestamp, id)).filter fun entry =>
      F64.le (.finite entry.1) timestampSecs

/-- Two aircraft with one first spawn are told apart by their ids.  A spawn at `-0.0` is taken as
one at `0.0`, which `total_cmp` puts behind it. -/
def selectAircraftAt (store : TimeSeriesStore) (requested : Option AircraftId)
    (timestampSecs : F64) : Option AircraftId :=
  match requested with
  | some id => if store.isSpawnedAt id timestampSecs then some id else none
  | none => ((spawnedBy store timestampSecs).argmin toLex).map Prod.snd

/-! ## The loop -/

structure BridgeConfig where
  aircraftId : Option AircraftId
  staleTimeout : Duration
  enableAiAircraft : Bool
  maxAiAircraft : ℕ
  smoothing : LiveSmoothingConfig

structure BridgeState (Frame : Type) where
  selected : Option AircraftId := none
  userRuntime : Aircraft.AircraftRuntime
  ai : World Frame := {}

/-- What one turn meets.  Other threads append to the store during a turn: the fields are the store
when the selected aircraft is resolved, when one is selected, when it is shown and when the registry
is updated.  `pumped` is `none` if the pump fails. -/
structure Turn where
  pumped : Option (List Dispatch)
  playbackState : PlaybackSnapshot
  resolved : TimeSeriesStore
  offered : TimeSeriesStore
  shown : TimeSeriesStore
  updated : TimeSeriesStore
  loopStart : Instant
  -- the clock when the age of the live state is asked for
  ageClock : Instant
  aiClock : Clock
  answers : Aircraft.Answers
  aiAnswers : SimAnswers
  order : List AircraftId

/-- `selection_cursor`. -/
def Turn.cursor (turn : Turn) : F64 :=
  match turn.playbackState.cursorSecs with
  | some cursor => .finite cursor
  | none => .negInf

/-- Whether the aircraft is resolved as spawned. -/
def Turn.spawned (turn : Turn) (id : AircraftId) : Bool :=
  (resolveAircraftWith turn.resolved turn.playbackState id).any fun resolved => resolved.spawned

variable {Frame : Type}

/-- `AiRegistry::clear`: failed removals are logged. -/
def clear (answers : SimAnswers) (w : World Frame) : World Frame :=
  World.removeAiObjects { w with registry := {} }
    (((toPairs w.registry.active).map fun entry => entry.2.objectId).filter answers.removes)

variable (settings : BridgeConfig)

def Turn.processArgs (turn : Turn) (id : AircraftId) : Aircraft.ProcessArgs where
  store := turn.shown
  playbackState := turn.playbackState
  aircraftId := id
  loopStart := turn.loopStart
  clock := turn.ageClock
  staleTimeout := settings.staleTimeout
  smoothingMode := settings.smoothing.mode
  answers := turn.answers

def Turn.updateArgs (turn : Turn) (selected : Option AircraftId) : UpdateArgs where
  store := turn.updated
  playbackState := turn.playbackState
  userAircraftId := selected
  maxAiAircraft := settings.maxAiAircraft
  clock := turn.aiClock
  answers := turn.aiAnswers
  order := turn.order

namespace BridgeState

/-- After connecting. -/
def start : BridgeState Frame := { userRuntime := .new settings.smoothing }

variable (b : BridgeState Frame) (turn : Turn)

def pump (dispatches : List Dispatch) : BridgeState Frame :=
  { b with ai :=
    { b.ai with
      simulator := b.ai.simulator.pump dispatches
      assigned := b.ai.assigned ++ dispatches.filterMap Dispatch.assignment } }

/-- The selected aircraft is given up if it is not spawned. -/
def giveUp : BridgeState Frame :=
  match b.selected with
  | some id =>
    if turn.spawned id then b
    else { b with selected := none, userRuntime := b.userRuntime.resetTimelineState }
  | none => b

/-- If none is selected, one is. -/
def select : BridgeState Frame :=
  match b.selected with
  | some _ => b
  | none =>
    match selectAircraftAt turn.offered settings.aircraftId turn.cursor with
    | some id =>
      { b with selected := some id, userRuntime := b.userRuntime.resetTimelineState }
    | none => b

/-- The turn up to the selection. -/
def reselect (dispatches : List Dispatch) : BridgeState Frame :=
  ((b.pump dispatches).giveUp turn).select settings turn

variable (slerp : Quaternion → Quaternion → ℚ → Quaternion)

/-- The selected aircraft is shown; `false` leaves the loop. -/
def process : BridgeState Frame × Bool :=
  match b.selected with
  | some id =>
    let shown := b.userRuntime.process slerp (turn.processArgs settings id)
    ({ b with userRuntime := shown.1 }, shown.2.ok)
  | none => (b, true)

variable (frameFromState : AircraftState → Option Frame)

def updateAi : BridgeState Frame × Bool :=
  if settings.enableAiAircraft then
    let updated := b.ai.update frameFromState (turn.updateArgs settings b.selected)
    ({ b with ai := updated.1 }, updated.2)
  else ({ b with ai := clear turn.aiAnswers b.ai }, true)

/-- One turn of the inner loop; `false` leaves it. -/
def loopBody : BridgeState Frame × Bool :=
  match turn.pumped with
  | none => (b, false)
  | some dispatches =>
    match (b.reselect settings turn dispatches).process settings turn slerp with
    | (b, false) => (b, false)
    | (b, true) => b.updateAi settings turn frameFromState

/-- The registry is cleared and the bridge connects again.  What was assigned before is kept. -/
def reconnect (answers : SimAnswers) : BridgeState Frame :=
  { (start settings : BridgeState Frame) with ai := { assigned := (clear answers b.ai).assigned } }

/-- One turn, and what follows if it leaves the loop. -/
def next : BridgeState Frame :=
  match b.loopBody settings turn slerp frameFromState with
  | (b, true) => b
  | (b, false) => b.reconnect settings turn.aiAnswers

/-- The turns of a bridge that has just connected. -/
def run (turns : List Turn) : BridgeState Frame :=
  turns.foldl (fun b turn => b.next settings turn slerp frameFromState) (start settings)

end BridgeState

/-! ## What is selected -/

/-- The requested aircraft if it is spawned; without a request, the spawned aircraft that was
spawned first. -/
def Earliest (store : TimeSeriesStore) (requested : Option AircraftId) (timestampSecs : F64)
    (id : AircraftId) : Prop :=
  store.isSpawnedAt id timestampSecs = true ∧
    match requested with
    | some requested => id = requested
    | none => ∃ first, firstSpawn store id = some first ∧ ∀ other first',
      store.isSpawnedAt other timestampSecs = true → firstSpawn store other = some first' →
        first < first' ∨ first = first' ∧ id ≤ other

section
variable {store : TimeSeriesStore} {id : AircraftId} {timestampSecs : F64}

theorem exists_spawn {events : List TimestampedEvent} (h : spawnedAfter events = true) :
    ∃ entry ∈ events, ∃ info, entry.item = .spawn info := by
  obtain ⟨spawned, hfind⟩ : ∃ spawned, events.reverse.findSome?
      (fun entry => lifecycle entry.item) = some spawned := by
    rw [← Option.isSome_iff_exists]
    by_contra hnone
    rw [Option.not_isSome_iff_eq_none] at hnone
    simp [spawnedAfter, hnone] at h
  have htrue : spawned = true := by simpa [spawnedAfter, hfind] using h
  obtain ⟨entry, hmem, hentry⟩ := List.exists_of_findSome?_eq_some hfind
  refine ⟨entry, List.mem_reverse.mp hmem, ?_⟩
  cases hitem : entry.item with
  | spawn info => exact ⟨info, rfl⟩
  | despawn info =>
    rw [hitem, htrue] at hentry
    cases hentry
  | custom text => simp [lifecycle, hitem] at hentry

/-- An aircraft that is spawned has been spawned by then. -/
theorem exists_firstSpawn (h : store.isSpawnedAt id timestampSecs = true) :
    ∃ first, firstSpawn store id = some first ∧ F64.le (.finite first) timestampSecs = true := by
  unfold TimeSeriesStore.isSpawnedAt at h
  cases hlookup : store.data.lookup id with
  | none => simp [hlookup] at h
  | some s =>
    rw [hlookup] at h
    have hbefore : ∃ entry ∈ s.events.entries, (∃ info, entry.item = .spawn info) ∧
        F64.le (.finite entry.stamp) timestampSecs = true := by
      cases timestampSecs with
      | posInf =>
        obtain ⟨entry, hmem, hspawn⟩ := exists_spawn h
        exact ⟨entry, hmem, hspawn, rfl⟩
      | finite t =>
        obtain ⟨entry, hmem, hspawn⟩ := exists_spawn h
        rw [s.events.upTo_eq, List.mem_filter] at hmem
        exact ⟨entry, hmem.1, hspawn, hmem.2⟩
      | negInf => simp at h
      | nan => simp at h
    obtain ⟨entry, hmem, ⟨info, hitem⟩, hle⟩ := hbefore
    have hevents : store.getEventsRange id .negInf .posInf = some s.events.entries := by
      unfold TimeSeriesStore.getEventsRange
      rw [hlookup, Option.map_some]
      exact congrArg some (List.filter_eq_self.mpr fun _ _ => rfl)
    have hfirst : ∃ first, firstSpawn store id = some first := by
      rw [← Option.isSome_iff_exists, firstSpawn, hevents, Option.bind_some,
        List.findSome?_isSome_iff]
      exact ⟨entry, hmem, by rw [hitem]; rfl⟩
    obtain ⟨first, hfirst⟩ := hfirst
    refine ⟨first, hfirst, ?_⟩
    rw [firstSpawn, hevents, Option.bind_some, List.findSome?_eq_some_iff] at hfirst
    obtain ⟨before, found, after, hentries, hfound, hnone⟩ := hfirst
    have hstamp : found.stamp = first := by
      split at hfound
      · exact Option.some_inj.mp hfound
      · cases hfound
    have hle' : first ≤ entry.stamp := by
      rw [← hstamp]
      have hsorted := s.events.sorted
      rw [hentries, List.pairwise_append, List.pairwise_cons] at hsorted
      rw [hentries, List.mem_append, List.mem_cons] at hmem
      rcases hmem with hmem | rfl | hmem
      · have := hnone entry hmem
        rw [hitem] at this
        cases this
      · exact le_refl _
      · exact hsorted.2.1.1 entry hmem
    cases timestampSecs with
    | finite t =>
      exact decide_eq_true (hle'.trans (of_decide_eq_true hle))
    | posInf => rfl
    | negInf => cases hle
    | nan => cases hle

theorem mem_spawnedBy {first : Secs} : (first, id) ∈ spawnedBy store timestampSecs ↔
    store.isSpawnedAt id timestampSecs = true ∧ firstSpawn store id = some first := by
  simp only [spawnedBy, List.mem_filter, List.mem_filterMap, Option.map_eq_some_iff,
    Prod.mk.injEq]
  constructor
  · rintro ⟨⟨_, ⟨-, hspawned⟩, _, hfirst, rfl, rfl⟩, -⟩
    exact ⟨hspawned, hfirst⟩
  · rintro ⟨hspawned, hfirst⟩
    obtain ⟨first', hfirst', hle⟩ := exists_firstSpawn hspawned
    rw [hfirst, Option.some_inj] at hfirst'
    subst hfirst'
    refine ⟨⟨id, ⟨?_, hspawned⟩, first, hfirst, rfl, rfl⟩, hle⟩
    rw [TimeSeriesStore.mem_getAircraftIds, ← Option.isSome_iff_exists]
    by_contra hnone
    rw [Option.not_isSome_iff_eq_none] at hnone
    simp [TimeSeriesStore.isSpawnedAt, hnone] at hspawned

/-- **What is selected.** -/
theorem selectAircraftAt_eq_some {requested : Option AircraftId} :
    selectAircraftAt store requested timestampSecs = some id ↔
      Earliest store requested timestampSecs id := by
  unfold selectAircraftAt Earliest
  cases requested with
  | some requested =>
    dsimp only
    constructor
    · intro h
      split at h
      · obtain rfl := Option.some_inj.mp h
        exact ⟨‹_›, rfl⟩
      · cases h
    · rintro ⟨hspawned, rfl⟩
      rw [if_pos hspawned]
  | none =>
    dsimp only
    rw [Option.map_eq_some_iff]
    constructor
    · rintro ⟨⟨first, id'⟩, hmin, rfl⟩
      obtain ⟨hspawned, hfirst⟩ := mem_spawnedBy.mp (List.argmin_mem hmin)
      refine ⟨hspawned, first, hfirst, fun other first' hspawned' hfirst' => ?_⟩
      have hle := List.le_of_mem_argmin (mem_spawnedBy.mpr ⟨hspawned', hfirst'⟩) hmin
      exact Prod.Lex.le_iff.mp hle
    · rintro ⟨hspawned, first, hfirst, hmin⟩
      have hmem := mem_spawnedBy.mpr ⟨hspawned, hfirst⟩
      obtain ⟨⟨first', id'⟩, hfound⟩ :
          ∃ found, (spawnedBy store timestampSecs).argmin toLex = some found := by
        rw [← Option.isSome_iff_exists]
        by_contra hnone
        rw [Option.not_isSome_iff_eq_none, List.argmin_eq_none] at hnone
        rw [hnone] at hmem
        cases hmem
      obtain ⟨hspawned', hfirst'⟩ := mem_spawnedBy.mp (List.argmin_mem hfound)
      have hle : toLex (first, id) ≤ toLex (first', id') :=
        Prod.Lex.le_iff.mpr (hmin id' first' hspawned' hfirst')
      have heq := le_antisymm hle (List.le_of_mem_argmin hmem hfound)
      exact ⟨_, hfound, (congrArg Prod.snd (toLex.injective heq)).symm⟩

/-- **When one is selected**: whenever the requested aircraft, or any without a request, is
spawned. -/
theorem selectAircraftAt_eq_none {requested : Option AircraftId} :
    selectAircraftAt store requested timestampSecs = none ↔
      ∀ id, (∀ r, requested = some r → id = r) → store.isSpawnedAt id timestampSecs = false := by
  unfold selectAircraftAt
  cases requested with
  | some requested =>
    dsimp only
    rw [ite_eq_right_iff]
    constructor
    · intro h id hid
      rw [hid requested rfl]
      exact Bool.eq_false_iff.mpr fun hspawned => nomatch h hspawned
    · intro h hspawned
      rw [h requested fun _ => Option.some_inj.mp] at hspawned
      cases hspawned
  | none =>
    dsimp only
    rw [Option.map_eq_none_iff, List.argmin_eq_none, List.eq_nil_iff_forall_not_mem]
    constructor
    · intro h id _
      refine Bool.eq_false_iff.mpr fun hspawned => ?_
      obtain ⟨first, hfirst, -⟩ := exists_firstSpawn hspawned
      exact h (first, id) (mem_spawnedBy.mpr ⟨hspawned, hfirst⟩)
    · rintro h ⟨first, id⟩ hmem
      have hspawned := (mem_spawnedBy.mp hmem).1
      rw [h id nofun] at hspawned
      cases hspawned

end

/-! ## Between two turns -/

/-- The aircraft is shown by an AI object, or one is asked for. -/
def IsAi (w : World Frame) (id : AircraftId) : Prop :=
  (w.registry.active.lookup id).isSome ∨ (w.registry.pending.lookup id).isSome

/-- Nothing of any aircraft is left in the runtime. -/
def Fresh (runtime : Aircraft.AircraftRuntime) : Prop := runtime.resetTimelineState = runtime

/-- What holds between two turns. -/
structure Sound (b : BridgeState Frame) : Prop where
  apart : Apart b.ai
  user : ∀ id, b.selected = some id → ¬IsAi b.ai id
  limit : b.ai.aircraftCount ≤ if settings.enableAiAircraft then settings.maxAiAircraft else 0
  requested : ∀ id, b.selected = some id → ∀ r, settings.aircraftId = some r → id = r
  idle : b.selected = none → Fresh b.userRuntime

/-- What a turn that stays in the loop makes of the selection: the selected aircraft stays as long
as it is spawned, and another one starts from nothing. -/
structure Follows (slerp : Quaternion → Quaternion → ℚ → Quaternion) (turn : Turn)
    (b b' : BridgeState Frame) : Prop where
  kept : ∀ id, b.selected = some id → turn.spawned id = true → b'.selected = some id ∧
    b'.userRuntime = (b.userRuntime.process slerp (turn.processArgs settings id)).1
  taken : (∀ old, b.selected = some old → turn.spawned old = false) → ∀ id,
    b'.selected = some id ↔ Earliest turn.offered settings.aircraftId turn.cursor id
  fresh : (∀ old, b.selected = some old → turn.spawned old = false) → ∀ id,
    b'.selected = some id → ∃ runtime, Fresh runtime ∧
      b'.userRuntime = (runtime.process slerp (turn.processArgs settings id)).1
  ai : ∀ id, IsAi b'.ai id → settings.enableAiAircraft = true ∧
    id ∈ (turn.updateArgs settings b'.selected).keep

section
variable {settings : BridgeConfig} {b : BridgeState Frame} {turn : Turn}
variable {slerp : Quaternion → Quaternion → ℚ → Quaternion}
variable {frameFromState : AircraftState → Option Frame}

theorem fresh_resetTimelineState (runtime : Aircraft.AircraftRuntime) :
    Fresh runtime.resetTimelineState := rfl

theorem IsAi.of_tidy {keep : List AircraftId} {w : World Frame} {id : AircraftId}
    (h : Tidy keep w) (hid : IsAi w id) : id ∈ keep :=
  hid.elim (h.active id) (h.pending id)

theorem not_isAi_empty {w : World Frame} (h : w.registry = {}) (id : AircraftId) :
    ¬IsAi w id := by
  rw [IsAi, h]
  simp

theorem aircraftCount_empty {w : World Frame} (h : w.registry = {}) : w.aircraftCount = 0 := by
  rw [World.aircraftCount, h]
  rfl

/-- A registry that has been cleared. -/
theorem sound_empty {b : BridgeState Frame} (h : b.ai.registry = {})
    (hrequested : ∀ id, b.selected = some id → ∀ r, settings.aircraftId = some r → id = r)
    (hidle : b.selected = none → Fresh b.userRuntime) : Sound settings b where
  apart id hid := absurd (.inl hid) (not_isAi_empty h id)
  user id _ := not_isAi_empty h id
  limit := (aircraftCount_empty h).trans_le (Nat.zero_le _)
  requested := hrequested
  idle := hidle

/-- No candidate is the selected aircraft, and all are spawned at the cursor. -/
theorem mem_keep {selected : Option AircraftId} {id : AircraftId}
    (hid : id ∈ (turn.updateArgs settings selected).keep) : selected ≠ some id := by
  have hmem := List.mem_of_mem_take hid
  rw [List.mem_insertionSort, List.mem_filter, List.mem_filter] at hmem
  exact of_decide_eq_true hmem.1.2

/-- What is given up and what is selected. -/
theorem reselect_cases (h : Sound settings b) (turn : Turn) (dispatches : List Dispatch) :
    (b.reselect settings turn dispatches).ai = (b.pump dispatches).ai ∧
      ((∃ id, b.selected = some id ∧ turn.spawned id = true ∧
          (b.reselect settings turn dispatches).selected = some id ∧
          (b.reselect settings turn dispatches).userRuntime = b.userRuntime) ∨
        (∀ old, b.selected = some old → turn.spawned old = false) ∧
          (b.reselect settings turn dispatches).selected =
            selectAircraftAt turn.offered settings.aircraftId turn.cursor ∧
          Fresh (b.reselect settings turn dispatches).userRuntime) := by
  have hselect : ∀ b : BridgeState Frame, b.selected = none → Fresh b.userRuntime →
      (b.select settings turn).ai = b.ai ∧ (b.select settings turn).selected =
        selectAircraftAt turn.offered settings.aircraftId turn.cursor ∧
        Fresh (b.select settings turn).userRuntime := by
    intro b hnone hfresh
    unfold BridgeState.select
    rw [hnone]
    dsimp only
    split
    · next id hid => exact ⟨rfl, hid.symm, fresh_resetTimelineState _⟩
    · next hid => exact ⟨rfl, hnone.trans hid.symm, hfresh⟩
  unfold BridgeState.reselect
  cases hselected : b.selected with
  | none =>
    have hgive : (b.pump dispatches).giveUp turn = b.pump dispatches := by
      unfold BridgeState.giveUp BridgeState.pump
      rw [hselected]
    rw [hgive]
    obtain ⟨hai, hid, hfresh⟩ := hselect (b.pump dispatches) hselected (h.idle hselected)
    exact ⟨hai, .inr ⟨nofun, hid, hfresh⟩⟩
  | some id =>
    by_cases hspawned : turn.spawned id = true
    · have hgive : (b.pump dispatches).giveUp turn = b.pump dispatches := by
        unfold BridgeState.giveUp BridgeState.pump
        rw [hselected]
        exact if_pos hspawned
      have hkeep : (b.pump dispatches).select settings turn = b.pump dispatches := by
        unfold BridgeState.select BridgeState.pump
        rw [hselected]
      rw [hgive, hkeep]
      exact ⟨rfl, .inl ⟨id, rfl, hspawned, hselected, rfl⟩⟩
    · have hgive : (b.pump dispatches).giveUp turn =
          { b.pump dispatches with
            selected := none, userRuntime := b.userRuntime.resetTimelineState } := by
        unfold BridgeState.giveUp BridgeState.pump
        rw [hselected]
        exact if_neg hspawned
      rw [hgive]
      obtain ⟨hai, hid, hfresh⟩ := hselect { b.pump dispatches with
        selected := none, userRuntime := b.userRuntime.resetTimelineState } rfl
        (fresh_resetTimelineState _)
      refine ⟨hai, .inr ⟨?_, hid, hfresh⟩⟩
      rintro old ⟨⟩
      exact Bool.eq_false_iff.mpr hspawned

theorem process_spec (settings : BridgeConfig) (turn : Turn)
    (slerp : Quaternion → Quaternion → ℚ → Quaternion) (b : BridgeState Frame) :
    (b.process settings turn slerp).1.ai = b.ai ∧
      (b.process settings turn slerp).1.selected = b.selected ∧
      (b.selected = none → (b.process settings turn slerp).1.userRuntime = b.userRuntime) ∧
      ∀ id, b.selected = some id → (b.process settings turn slerp).1.userRuntime =
        (b.userRuntime.process slerp (turn.processArgs settings id)).1 := by
  unfold BridgeState.process
  cases hselected : b.selected with
  | none => exact ⟨rfl, hselected, fun _ => rfl, nofun⟩
  | some id =>
    refine ⟨rfl, rfl, nofun, ?_⟩
    rintro _ ⟨⟩
    rfl

/-- What the update of the registry leaves. -/
theorem updateAi_spec (settings : BridgeConfig) (turn : Turn)
    (frameFromState : AircraftState → Option Frame) (hapart : Apart b.ai) :
    (b.updateAi settings turn frameFromState).1.selected = b.selected ∧
      (b.updateAi settings turn frameFromState).1.userRuntime = b.userRuntime ∧
      Apart (b.updateAi settings turn frameFromState).1.ai ∧
      (b.updateAi settings turn frameFromState).1.ai.aircraftCount ≤
        (if settings.enableAiAircraft then settings.maxAiAircraft else 0) ∧
      ∀ id, IsAi (b.updateAi settings turn frameFromState).1.ai id →
        settings.enableAiAircraft = true ∧ id ∈ (turn.updateArgs settings b.selected).keep := by
  unfold BridgeState.updateAi
  by_cases henable : settings.enableAiAircraft = true
  · rw [if_pos henable, if_pos henable]
    have htidy := tidy_update hapart frameFromState (turn.updateArgs settings b.selected)
    exact ⟨rfl, rfl, htidy.apart, card_update hapart frameFromState _,
      fun id hid => ⟨henable, hid.of_tidy htidy⟩⟩
  · rw [if_neg henable, if_neg henable]
    have hempty : (clear turn.aiAnswers b.ai).registry = {} := rfl
    refine ⟨rfl, rfl, fun id hid => ?_, (aircraftCount_empty hempty).le, fun id hid => ?_⟩
    · exact absurd (.inl hid) (not_isAi_empty hempty id)
    · exact absurd hid (not_isAi_empty hempty id)

/-- **A turn that stays in the loop.** -/
theorem Sound.loopBody (h : Sound settings b) {turn : Turn}
    {slerp : Quaternion → Quaternion → ℚ → Quaternion}
    {frameFromState : AircraftState → Option Frame}
    (hstays : (b.loopBody settings turn slerp frameFromState).2 = true) :
    Sound settings (b.loopBody settings turn slerp frameFromState).1 ∧
      Follows settings slerp turn b (b.loopBody settings turn slerp frameFromState).1 := by
  unfold BridgeState.loopBody at hstays ⊢
  cases hpumped : turn.pumped with
  | none => simp [hpumped] at hstays
  | some dispatches =>
    simp only [hpumped] at hstays ⊢
    obtain ⟨hai, hcases⟩ := reselect_cases h turn dispatches
    have hprocess := process_spec settings turn slerp (b.reselect settings turn dispatches)
    rcases hshown : (b.reselect settings turn dispatches).process settings turn slerp with
      ⟨shown, _ | _⟩
    · simp [hshown] at hstays
    rw [hshown] at hprocess
    dsimp only at hprocess ⊢
    obtain ⟨hai', hselected, hidle, hprocessed⟩ := hprocess
    have hapart : Apart shown.ai := by
      rw [hai', hai]
      exact h.apart
    obtain ⟨hsame, hruntime, hapart', hcard, hkeep⟩ :=
      updateAi_spec settings turn frameFromState hapart
    rw [hselected] at hsame hkeep
    refine ⟨⟨hapart', ?_, hcard, ?_, ?_⟩, ⟨?_, ?_, ?_, ?_⟩⟩
    · intro id hid hmem
      rw [hsame] at hid
      exact mem_keep (hkeep id hmem).2 hid
    · intro id hid r hr
      rw [hsame] at hid
      rcases hcases with ⟨old, hold, -, hnew, -⟩ | ⟨-, hnew, -⟩
      · rw [hnew] at hid
        exact h.requested id (hold.trans hid) r hr
      · rw [hnew, selectAircraftAt_eq_some] at hid
        have hrequested := hid.2
        rw [hr] at hrequested
        exact hrequested
    · intro hnone
      rw [hsame] at hnone
      rw [hruntime, hidle hnone]
      rcases hcases with ⟨old, -, -, hnew, -⟩ | ⟨-, -, hfresh⟩
      · rw [hnew] at hnone
        cases hnone
      · exact hfresh
    · intro id hid hspawned
      rcases hcases with ⟨old, hold, -, hnew, heq⟩ | ⟨hgone, -, -⟩
      · obtain rfl := Option.some_inj.mp (hold.symm.trans hid)
        rw [hsame, hruntime, hprocessed old hnew, heq]
        exact ⟨hnew, rfl⟩
      · rw [hgone id hid] at hspawned
        cases hspawned
    · intro hgone id
      rcases hcases with ⟨old, hold, hspawned, -, -⟩ | ⟨-, hnew, -⟩
      · rw [hgone old hold] at hspawned
        cases hspawned
      · rw [hsame, hnew, selectAircraftAt_eq_some]
    · intro hgone id hid
      rw [hsame] at hid
      rcases hcases with ⟨old, hold, hspawned, -, -⟩ | ⟨-, -, hfresh⟩
      · rw [hgone old hold] at hspawned
        cases hspawned
      · exact ⟨_, hfresh, hruntime.trans (hprocessed id hid)⟩
    · intro id hid
      rw [hsame]
      exact hkeep id hid

theorem sound_start : Sound settings (BridgeState.start settings : BridgeState Frame) :=
  sound_empty rfl nofun fun _ => rfl

theorem sound_reconnect (b : BridgeState Frame) (answers : SimAnswers) :
    Sound settings (b.reconnect settings answers) :=
  sound_empty rfl nofun fun _ => rfl

/-- What a turn keeps, whether it stays in the loop or not. -/
theorem Sound.next (h : Sound settings b) :
    Sound settings (b.next settings turn slerp frameFromState) := by
  have hstays : (b.loopBody settings turn slerp frameFromState).2 = true → Sound settings
      (b.loopBody settings turn slerp frameFromState).1 := fun hstays => (h.loopBody hstays).1
  unfold BridgeState.next
  rcases hbody : b.loopBody settings turn slerp frameFromState with ⟨b', _ | _⟩
  · exact sound_reconnect b' turn.aiAnswers
  · rw [hbody] at hstays
    exact hstays rfl

end

/-- **The user's aircraft and the others**: after every turn of every run, whatever the simulator
answers and however the store changes, the selected aircraft is the requested one and no AI
aircraft, and the AI aircraft stay within the limit.  A turn that stays in the loop keeps the
selected aircraft if it is spawned; otherwise it selects the one that was spawned first, and starts
it from nothing.  A turn that leaves the loop leaves nothing selected and no AI aircraft. -/
theorem user_apart_run (slerp : Quaternion → Quaternion → ℚ → Quaternion)
    (frameFromState : AircraftState → Option Frame) (turns : List Turn) (turn : Turn) :
    let b := BridgeState.run settings slerp frameFromState turns
    let b' := BridgeState.run settings slerp frameFromState (turns ++ [turn])
    Sound settings b' ∧
      ((b.loopBody settings turn slerp frameFromState).2 = true →
        Follows settings slerp turn b b') ∧
      ((b.loopBody settings turn slerp frameFromState).2 = false →
        b'.selected = none ∧ ∀ id, ¬IsAi b'.ai id) := by
  intro b b'
  have hb : Sound settings b :=
    List.foldlRecOn turns _ sound_start fun _ hb _ _ => hb.next
  have hb' : b' = b.next settings turn slerp frameFromState := List.foldl_concat ..
  rw [hb']
  refine ⟨hb.next, fun hstays => ?_, fun hleaves => ?_⟩
  · have hfollows := (hb.loopBody hstays).2
    unfold BridgeState.next
    rcases hbody : b.loopBody settings turn slerp frameFromState with ⟨after, _ | _⟩
    · simp [hbody] at hstays
    · rwa [hbody] at hfollows
  · unfold BridgeState.next
    rcases hbody : b.loopBody settings turn slerp frameFromState with ⟨after, _ | _⟩
    · exact ⟨rfl, not_isAi_empty rfl⟩
    · simp [hbody] at hleaves

end FlyRuler.Msfs.Bridge
