import FlyRuler.Cursor.Coverage
import FlyRuler.Lib.Fallible

/-!
# Aircraft ids in frames and events

The frames and events of the publisher (`core/src/cursor.rs`) with the conversion of their ids.

* `assembleCursorFrameChecked_eq`: a frame without a panic is the one of `assembleCursorFrame`.
* `faithfulIds_iff`: when the ids of a frame and of events come back from the wire.
-/

namespace FlyRuler.Cursor

open FlyRuler.Pb FlyRuler.Store FlyRuler.Playback FlyRuler.Lib.Fallible

/-- The aircraft that a frame shows, with what is resolved for them. -/
def shownAircraft (store : TimeSeriesStore) (snapshot : PlaybackSnapshot) :
    List (AircraftId × ResolvedState) :=
  store.getAircraftIds.filterMap fun id =>
    match resolveAircraftWith store snapshot id with
    | none => none
    | some resolved => if resolved.spawned then some (id, resolved) else none

theorem mem_shownAircraft {store : TimeSeriesStore} {snapshot : PlaybackSnapshot}
    {shown : AircraftId × ResolvedState} : shown ∈ shownAircraft store snapshot ↔
      shown.2 ∈ resolveAircraftWith store snapshot shown.1 ∧ shown.2.spawned = true := by
  unfold shownAircraft
  rw [List.mem_filterMap]
  constructor
  · rintro ⟨id, -, hid⟩
    rcases hresolved : resolveAircraftWith store snapshot id with _ | resolved
    · rw [hresolved] at hid
      cases hid
    · rw [hresolved] at hid
      dsimp only at hid
      split_ifs at hid with hspawned
      cases hid
      exact ⟨hresolved, hspawned⟩
  · rintro ⟨hresolved, hspawned⟩
    refine ⟨shown.1, ?_, ?_⟩
    · refine @mem_ids_of_isShown store snapshot shown.1 ?_
      rw [isShown, Option.mem_def.mp hresolved]
      exact hspawned
    · rw [Option.mem_def.mp hresolved]
      dsimp only
      rw [if_pos hspawned]

/-- `assemble_cursor_frame` with its conversions of ids. -/
def assembleCursorFrameChecked (env : Env) (store : TimeSeriesStore) (now : Instant)
    (snapshot : PlaybackSnapshot) (frameSequence eventWatermark : ℕ) (generatedAt : Secs) :
    Option CursorFrame := do
  let configs := store.aircraftSummaries
  let aircraft ← (shownAircraft store snapshot).mapM fun shown => do
    let wireId ← hexToPbUuid shown.1
    return { aircraftSnapshot env snapshot shown.1 (configIn configs shown.1)
      (store.liveStateIsStale now shown.1 env.staleTimeout) shown.2 with aircraftId := wireId }
  return { emptyFrame env snapshot frameSequence eventWatermark generatedAt with
    aircraft := sortAircraft aircraft }

/-- `cursor_event` with its conversion of the id. -/
def cursorEventChecked (env : Env) (sequence : ℕ) (event : GlobalTimestampedEvent) :
    Option CursorEvent := do
  let wireId ← hexToPbUuid event.aircraftId
  return { cursorEvent env sequence event with aircraftId := wireId }

/-- The environment whose conversion is the one of the source, where it does not panic. -/
def Env.withIds (env : Env) : Env :=
  { env with hexToPbUuid := fun id => (Cursor.hexToPbUuid id).getD none }

section Wire

variable {env : Env} {store : TimeSeriesStore} {now : Instant} {snapshot : PlaybackSnapshot}
  {frameSequence eventWatermark : ℕ} {generatedAt : Secs}

/-- A frame from the aircraft it shows. -/
theorem assembleCursorFrame_shown :
    assembleCursorFrame env store now snapshot frameSequence eventWatermark generatedAt =
      { emptyFrame env snapshot frameSequence eventWatermark generatedAt with
        aircraft := sortAircraft ((shownAircraft store snapshot).map fun shown =>
          aircraftSnapshot env snapshot shown.1 (configIn store.aircraftSummaries shown.1)
            (store.liveStateIsStale now shown.1 env.staleTimeout) shown.2) } := by
  unfold assembleCursorFrame shownAircraft
  rw [List.map_filterMap]
  refine congrArg (fun aircraft => { emptyFrame env snapshot frameSequence eventWatermark
    generatedAt with aircraft := sortAircraft aircraft }) (List.filterMap_congr fun id _ => ?_)
  rcases resolveAircraftWith store snapshot id with _ | resolved
  · rfl
  · dsimp only
    split_ifs <;> rfl

/-- **Without a panic the frame is the one of `assembleCursorFrame`.** -/
theorem assembleCursorFrameChecked_eq
    (h : ∀ shown ∈ shownAircraft store snapshot, (hexToPbUuid shown.1).isSome) :
    assembleCursorFrameChecked env store now snapshot frameSequence eventWatermark generatedAt =
      some (assembleCursorFrame env.withIds store now snapshot frameSequence eventWatermark
        generatedAt) := by
  have hshown : ∀ shown ∈ shownAircraft store snapshot, (do
      let wireId ← hexToPbUuid shown.1
      return { aircraftSnapshot env snapshot shown.1 (configIn store.aircraftSummaries shown.1)
        (store.liveStateIsStale now shown.1 env.staleTimeout) shown.2 with
          aircraftId := wireId } : Option CursorAircraftSnapshot) =
      some (aircraftSnapshot env.withIds snapshot shown.1
        (configIn store.aircraftSummaries shown.1)
        (store.liveStateIsStale now shown.1 env.staleTimeout) shown.2) := by
    intro shown hmem
    obtain ⟨wireId, hwire⟩ := Option.isSome_iff_exists.mp (h shown hmem)
    simp only [hwire, Env.withIds, aircraftSnapshot, Option.getD_some]
    rfl
  unfold assembleCursorFrameChecked
  dsimp only
  rw [mapM_eq_some hshown, assembleCursorFrame_shown]
  rfl

/-- The ids in a frame, in some order. -/
theorem sortAircraft_perm (aircraft : List CursorAircraftSnapshot) :
    (sortAircraft aircraft).Perm aircraft := List.perm_insertionSort _ _

/-- What the wire is to do for the aircraft of a frame and the events sent beside it: no panic, ids
that come back, distinct ids for distinct aircraft. -/
structure FaithfulIds (env : Env) (store : TimeSeriesStore) (now : Instant)
    (snapshot : PlaybackSnapshot) (frameSequence eventWatermark : ℕ) (generatedAt : Secs)
    (events : List GlobalTimestampedEvent) : Prop where
  frame : ∃ frame, assembleCursorFrameChecked env store now snapshot frameSequence eventWatermark
      generatedAt = some frame ∧
    (frame.aircraft.map fun a => a.aircraftId.map uuidToHex).Perm
      ((shownAircraft store snapshot).map fun shown => some shown.1) ∧
    (frame.aircraft.map CursorAircraftSnapshot.aircraftId).Nodup
  event : ∀ event ∈ events, ∀ sequence, ∃ wire, cursorEventChecked env sequence event = some wire ∧
    wire.aircraftId.map uuidToHex = some event.aircraftId
  distinct : ∀ event ∈ events, ∀ event' ∈ events, event.aircraftId ≠ event'.aircraftId →
    ∀ sequence sequence', (cursorEventChecked env sequence event).map CursorEvent.aircraftId ≠
      (cursorEventChecked env sequence' event').map CursorEvent.aircraftId

theorem nodup_shownAircraft (store : TimeSeriesStore) (snapshot : PlaybackSnapshot) :
    ((shownAircraft store snapshot).map fun shown => some shown.1).Nodup := by
  have hsub : ((shownAircraft store snapshot).map Prod.fst).Sublist store.getAircraftIds := by
    unfold shownAircraft
    generalize store.getAircraftIds = ids
    induction ids with
    | nil => exact List.Sublist.refl _
    | cons id ids ih =>
      rw [List.filterMap_cons]
      rcases resolveAircraftWith store snapshot id with _ | resolved
      · exact ih.cons _
      · dsimp only
        split_ifs
        · exact ih.cons_cons _
        · exact ih.cons _
  have hnodup := (TimeSeriesStore.nodup_getAircraftIds store).sublist hsub
  have hmap := hnodup.map (Option.some_injective AircraftId)
  rwa [List.map_map] at hmap

theorem cursorEventChecked_faithful_iff (sequence : ℕ) (event : GlobalTimestampedEvent) :
    (∃ wire, cursorEventChecked env sequence event = some wire ∧
      wire.aircraftId.map uuidToHex = some event.aircraftId) ↔ isWireId event.aircraftId := by
  rw [← hexToPbUuid_faithful_iff]
  unfold cursorEventChecked
  rcases hexToPbUuid event.aircraftId with _ | wireId
  · simp
  · simp [Option.map_eq_some_iff]

theorem FaithfulIds.isWireId {events : List GlobalTimestampedEvent}
    (h : FaithfulIds env store now snapshot frameSequence eventWatermark generatedAt events) :
    ∀ shown ∈ shownAircraft store snapshot, isWireId shown.1 := by
  obtain ⟨frame, hframe, hperm, -⟩ := h.frame
  intro shown hshown
  have hmem := hperm.mem_iff.mpr (List.mem_map_of_mem (f := fun shown => some shown.1) hshown)
  obtain ⟨a, ha, hid⟩ := List.mem_map.mp hmem
  obtain ⟨uuid, huuid, hhex⟩ := Option.map_eq_some_iff.mp hid
  -- whatever aircraft the entry is of, its UUID has sixteen bytes
  unfold assembleCursorFrameChecked at hframe
  simp only [Option.bind_eq_bind, Option.bind_eq_some_iff] at hframe
  obtain ⟨aircraft, haircraft, heq⟩ := hframe
  cases heq
  obtain ⟨shown', -, hwire⟩ := exists_of_mapM haircraft a ((sortAircraft_perm _).mem_iff.mp ha)
  obtain ⟨wireId, hwireId, heq⟩ := Option.bind_eq_some_iff.mp hwire
  cases heq
  rw [show wireId = some uuid from huuid] at hwireId
  exact isWireId_iff.mpr ⟨uuid, length_hexToPbUuid hwireId, hhex⟩

/-- **When the ids on the wire are faithful**: exactly if every aircraft that is shown or has an
event has an id of 32 lowercase hex digits. -/
theorem faithfulIds_iff (env : Env) (store : TimeSeriesStore) (now : Instant)
    (snapshot : PlaybackSnapshot) (frameSequence eventWatermark : ℕ) (generatedAt : Secs)
    (events : List GlobalTimestampedEvent) :
    FaithfulIds env store now snapshot frameSequence eventWatermark generatedAt events ↔
      (∀ shown ∈ shownAircraft store snapshot, isWireId shown.1) ∧
        ∀ event ∈ events, isWireId event.aircraftId := by
  constructor
  · intro h
    exact ⟨h.isWireId, fun event he =>
      (cursorEventChecked_faithful_iff 0 event).mp (h.event event he 0)⟩
  · rintro ⟨hshown, hevents⟩
    have hwire : ∀ id, isWireId id → ∃ uuid, hexToPbUuid id = some (some uuid) ∧
        uuidToHex uuid = id := fun id => (hexToPbUuid_faithful_iff id).mpr
    have hperm : ((assembleCursorFrame env.withIds store now snapshot frameSequence eventWatermark
        generatedAt).aircraft.map fun a => a.aircraftId.map uuidToHex).Perm
        ((shownAircraft store snapshot).map fun shown => some shown.1) := by
      rw [assembleCursorFrame_shown]
      refine ((sortAircraft_perm _).map _).trans ?_
      rw [List.map_map]
      refine List.Perm.of_eq (List.map_congr_left fun shown hmem => ?_)
      obtain ⟨uuid, huuid, hid⟩ := hwire _ (hshown shown hmem)
      simp only [Function.comp_apply, aircraftSnapshot, Env.withIds, huuid, Option.getD_some,
        Option.map_some, hid]
    refine ⟨⟨_, assembleCursorFrameChecked_eq fun shown hmem => ?_, hperm, ?_⟩, ?_, ?_⟩
    · obtain ⟨uuid, huuid, -⟩ := hwire _ (hshown shown hmem)
      rw [huuid]
      rfl
    · have hnodup := hperm.nodup_iff.mpr (nodup_shownAircraft store snapshot)
      refine List.Nodup.of_map (Option.map uuidToHex) ?_
      rwa [List.map_map]
    · exact fun event he sequence =>
        (cursorEventChecked_faithful_iff sequence event).mpr (hevents event he)
    · intro event he event' he' hne sequence sequence' heq
      obtain ⟨uuid, huuid, hid⟩ := hwire _ (hevents event he)
      obtain ⟨uuid', huuid', hid'⟩ := hwire _ (hevents event' he')
      unfold cursorEventChecked at heq
      rw [huuid, huuid'] at heq
      simp only [Option.bind_eq_bind, Option.bind_some, Option.pure_def, Option.map_some,
        Option.some.injEq] at heq
      exact hne (by rw [← hid, ← hid', heq])

end Wire

/-- A spawn with a state at one second, for an aircraft whose id is the bytes `value`. -/
def spawnMessage (value : List UInt8) : Message :=
  ⟨some (.request ⟨none, .finite 1, some ⟨some (.aircraftEvent
    ⟨some ⟨value⟩, some ⟨some (.spawn { initialState := some {} })⟩⟩)⟩⟩)⟩

/-- Two aircraft whose ids have one byte. -/
def shortIdStore : TimeSeriesStore :=
  (({} : TimeSeriesStore).appendMessage 0 (spawnMessage [1])).appendMessage 0 (spawnMessage [2])

/-- A text of 32 bytes with a character across the eighth byte. -/
def brokenId : AircraftId := "aaaaaaa\u00e9aaaaaaaaaaaaaaaaaaaaaaa"

def liveSnapshot : PlaybackSnapshot := ⟨.live, some 1, 1, some (1, 1), 0⟩

/-- **Short ids are lost and broken ids panic.** -/
theorem not_faithfulIds_short :
    ¬ (∀ (env : Env) (store : TimeSeriesStore) (now : Instant) (snapshot : PlaybackSnapshot)
      (frameSequence eventWatermark : ℕ) (generatedAt : Secs)
      (events : List GlobalTimestampedEvent), FaithfulIds env store now snapshot frameSequence
        eventWatermark generatedAt events) ∧
      ((shownAircraft shortIdStore liveSnapshot).map fun shown => hexToPbUuid shown.1) =
        [some none, some none] ∧
      hexToPbUuid brokenId = none := by
  refine ⟨fun h => ?_, by decide +kernel, by decide +kernel⟩
  have hfaithful := h Env.small shortIdStore 0 liveSnapshot 0 0 0 []
  exact absurd hfaithful.isWireId (by decide +kernel)

example : hexToPbUuid "{00010203-0405-0607-0809-0a0b0c0d0e0f}" =
    some (some ⟨[0, 1, 2, 3, 4, 5, 6, 7, 8, 9, 10, 11, 12, 13, 14, 15]⟩) := by decide +kernel

end FlyRuler.Cursor
