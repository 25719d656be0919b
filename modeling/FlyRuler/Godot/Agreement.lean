import FlyRuler.Godot.Gear

/-!
# The frame of the server and the frame of a subscriber

In Godot a server builds its frame from the store (`build_frame`), a subscriber reads the cursor
frame that the publisher assembles from the same store and snapshot (`frame_from_cursor`).  The two
select, convert and order the aircraft in different places.

* `frameFromCursor_eq_iff`: without the gear, both build the same frame exactly if every rendered
  aircraft keeps its name on the wire.
* `sameFrame_iff`: when the subscriber has the frame of the server.
-/

namespace FlyRuler.Godot

open FlyRuler.Pb FlyRuler.Store FlyRuler.Playback FlyRuler.Cursor FlyRuler.Lib.Fallible

/-! ## Sorted frames -/

theorem sortById_perm (l : List AircraftSnapshotData) : (sortById l).Perm l :=
  List.perm_insertionSort _ l

/-- The order of a sorted frame does not depend on the order in which its aircraft are found. -/
theorem sortById_congr {l l' : List AircraftSnapshotData} (hperm : l.Perm l')
    (hnodup : (l.map AircraftSnapshotData.aircraftId).Nodup) : sortById l = sortById l' := by
  have htotal : Std.Total fun left right : AircraftSnapshotData =>
      left.aircraftId ≤ right.aircraftId := ⟨fun _ _ => le_total _ _⟩
  have htrans : IsTrans AircraftSnapshotData fun left right =>
      left.aircraftId ≤ right.aircraftId := ⟨fun _ _ _ => le_trans⟩
  have hsorted : (sortById l).Perm (sortById l') :=
    (sortById_perm l).trans (hperm.trans (sortById_perm l').symm)
  refine List.Perm.eq_of_pairwise ?_ (List.pairwise_insertionSort _ l)
    (List.pairwise_insertionSort _ l') hsorted
  intro a b ha hb hab hba
  have ha' : a ∈ l := mem_sortById.mp ha
  have hb' : b ∈ l := hperm.mem_iff.mpr (mem_sortById.mp hb)
  exact List.inj_on_of_nodup_map hnodup ha' hb' (le_antisymm hab hba)

/-! ## One aircraft in the two frames -/

/-- Everything but the gear. -/
def AircraftSnapshotData.withoutGear (a : AircraftSnapshotData) : AircraftSnapshotData :=
  { a with gearDown := none }

def FrameSnapshotData.withoutGear (frame : FrameSnapshotData) : FrameSnapshotData :=
  { frame with aircraft := frame.aircraft.map AircraftSnapshotData.withoutGear }

theorem sortById_withoutGear (l : List AircraftSnapshotData) :
    (sortById l).map AircraftSnapshotData.withoutGear =
      sortById (l.map AircraftSnapshotData.withoutGear) :=
  List.map_insertionSort _ _ _ _ fun _ _ _ _ => Iff.rfl

variable {env : Env} {store : TimeSeriesStore} {snapshot : PlaybackSnapshot} {now : Instant}
  {generatedAt : Secs} {frameSequence eventWatermark : ℕ} {gearStates : GearStates}

/-- The shown aircraft that can be rendered. -/
def renderedAircraft (store : TimeSeriesStore) (snapshot : PlaybackSnapshot) :
    List (AircraftId × ResolvedState) :=
  (shownAircraft store snapshot).filter fun shown => stateIsRenderable shown.2.sample.item

theorem mem_renderedAircraft_fst {id : AircraftId} :
    id ∈ (renderedAircraft store snapshot).map Prod.fst ↔ isRendered store snapshot id := by
  simp only [List.mem_map, renderedAircraft, List.mem_filter, mem_shownAircraft, isRendered]
  constructor
  · rintro ⟨shown, ⟨⟨hresolved, hspawned⟩, hrender⟩, rfl⟩
    exact ⟨shown.2, hresolved, hspawned, hrender⟩
  · rintro ⟨resolved, hresolved, hspawned, hrender⟩
    exact ⟨(id, resolved), ⟨⟨hresolved, hspawned⟩, hrender⟩, rfl⟩

theorem nodup_renderedAircraft (store : TimeSeriesStore) (snapshot : PlaybackSnapshot) :
    ((renderedAircraft store snapshot).map Prod.fst).Nodup := by
  have hshown : ((shownAircraft store snapshot).map Prod.fst).Nodup := by
    refine List.Nodup.of_map (some : AircraftId → Option AircraftId) ?_
    rw [List.map_map]
    exact nodup_shownAircraft store snapshot
  exact hshown.sublist (List.filter_sublist.map Prod.fst)

/-- **The aircraft of the server's frame**, each as it is in the store. -/
theorem buildFrame_aircraft (staleTimeout : Duration) :
    (buildFrame store snapshot now staleTimeout generatedAt).aircraft =
      sortById ((renderedAircraft store snapshot).map fun shown =>
        storeAircraft store snapshot now staleTimeout shown.1 shown.2) := by
  refine congrArg sortById ?_
  unfold renderedAircraft shownAircraft
  rw [List.filter_filterMap, List.map_filterMap]
  refine List.filterMap_congr fun id _ => ?_
  unfold aircraftFromStore
  rcases resolveAircraftWith store snapshot id with _ | resolved
  · rfl
  · rcases hrender : stateIsRenderable resolved.sample.item with _ | _ <;>
      rcases hspawned : resolved.spawned with _ | _ <;> simp [hrender, hspawned, Option.filter]

/-- What a subscriber makes of an aircraft of the store. -/
def wireAircraft (store : TimeSeriesStore) (snapshot : PlaybackSnapshot) (now : Instant)
    (staleTimeout : Duration) (gearStates : GearStates) (shown : AircraftId × ResolvedState) :
    AircraftSnapshotData :=
  { storeAircraft store snapshot now staleTimeout shown.1 shown.2 with
    aircraftId := wireName shown.1
    gearDown := gearOf gearStates (wireName shown.1) }

/-- **The aircraft of the subscriber's frame**, in some order. -/
theorem frameFromCursor_aircraft :
    ∃ l, l.Perm ((renderedAircraft store snapshot).map
        (wireAircraft store snapshot now env.staleTimeout gearStates)) ∧
      (frameFromCursor (assembleCursorFrame env.withIds store now snapshot frameSequence
        eventWatermark generatedAt) gearStates).aircraft = sortById l := by
  refine ⟨_, ?_, rfl⟩
  rw [assembleCursorFrame_shown]
  refine ((sortAircraft_perm _).filterMap _).trans (List.Perm.of_eq ?_)
  rw [List.filterMap_map, renderedAircraft, ← List.filterMap_eq_map, List.filterMap_filter]
  refine List.filterMap_congr fun shown _ => ?_
  simp only [Function.comp_apply, aircraftFromCursor, aircraftSnapshot]
  rcases stateIsRenderable shown.2.sample.item with _ | _ <;> rfl

/-- A frame is assembled only if no id panics. -/
theorem isSome_of_assembled {frame : CursorFrame}
    (h : assembleCursorFrameChecked env store now snapshot frameSequence eventWatermark
      generatedAt = some frame) :
    ∀ shown ∈ shownAircraft store snapshot, (hexToPbUuid shown.1).isSome := by
  obtain ⟨aircraft, haircraft, -⟩ := Option.bind_eq_some_iff.mp h
  intro shown hshown
  obtain ⟨a, ha⟩ := Option.isSome_iff_exists.mp (isSome_of_mapM haircraft shown hshown)
  obtain ⟨wireId, hwire, -⟩ := Option.bind_eq_some_iff.mp ha
  rw [hwire]
  rfl

/-- A name on the wire keeps its name. -/
theorem wireName_wireName (id : AircraftId) : wireName (wireName id) = wireName id := by
  rcases hwire : hexToPbUuid id with _ | _ | uuid
  · rw [show wireName id = "" by rw [wireName, hwire]; rfl]
    decide +kernel
  · rw [show wireName id = "" by rw [wireName, hwire]; rfl]
    decide +kernel
  · have hname : wireName id = uuidToHex uuid := by
      rw [wireName, hwire]
      rfl
    rw [hname, wireName, hexToPbUuid_uuidToHex (length_hexToPbUuid hwire)]
    rfl

/-! ## When the two agree -/

/-- **The same frame but for the gear**: exactly if every rendered aircraft keeps its name. -/
theorem frameFromCursor_eq_iff :
    (frameFromCursor (assembleCursorFrame env.withIds store now snapshot frameSequence
        eventWatermark generatedAt) gearStates).withoutGear =
      (buildFrame store snapshot now env.staleTimeout generatedAt).withoutGear ↔
    ∀ id, isRendered store snapshot id → wireName id = id := by
  obtain ⟨l, hperm, hclient⟩ := @frameFromCursor_aircraft env store snapshot now generatedAt
    frameSequence eventWatermark gearStates
  have hserver := @buildFrame_aircraft store snapshot now generatedAt env.staleTimeout
  constructor
  · intro heq id hid
    -- the rendered ids are names on the wire
    have hids := congrArg (fun frame => frame.aircraft.map AircraftSnapshotData.aircraftId) heq
    simp only [FrameSnapshotData.withoutGear, List.map_map] at hids
    rw [hclient, hserver] at hids
    have hnames : ((renderedAircraft store snapshot).map fun shown => wireName shown.1).Perm
        ((renderedAircraft store snapshot).map Prod.fst) := by
      have hleft := ((sortById_perm l).trans hperm).map AircraftSnapshotData.aircraftId
      have hright := (sortById_perm ((renderedAircraft store snapshot).map fun shown =>
        storeAircraft store snapshot now env.staleTimeout shown.1 shown.2)).map
          AircraftSnapshotData.aircraftId
      rw [List.map_map] at hleft hright
      exact hleft.symm.trans ((List.Perm.of_eq hids).trans hright)
    have hmem := hnames.mem_iff.mpr (mem_renderedAircraft_fst.mpr hid)
    obtain ⟨shown, -, hname⟩ := List.mem_map.mp hmem
    rw [← hname]
    exact wireName_wireName shown.1
  · intro hnames
    have hsame : (l.map AircraftSnapshotData.withoutGear).Perm
        (((renderedAircraft store snapshot).map fun shown =>
          storeAircraft store snapshot now env.staleTimeout shown.1 shown.2).map
            AircraftSnapshotData.withoutGear) := by
      refine (hperm.map _).trans (List.Perm.of_eq ?_)
      rw [List.map_map, List.map_map]
      refine List.map_congr_left fun shown hshown => ?_
      have hname := hnames shown.1 (mem_renderedAircraft_fst.mp (List.mem_map_of_mem hshown))
      simp only [Function.comp_apply, wireAircraft, AircraftSnapshotData.withoutGear, hname]
      rfl
    have hnodup : ((l.map AircraftSnapshotData.withoutGear).map
        AircraftSnapshotData.aircraftId).Nodup := by
      refine (hsame.map AircraftSnapshotData.aircraftId).nodup_iff.mpr ?_
      rw [List.map_map, List.map_map]
      exact nodup_renderedAircraft store snapshot
    have haircraft := sortById_congr hsame hnodup
    rw [← sortById_withoutGear, ← sortById_withoutGear, ← hclient, ← hserver] at haircraft
    have hmode : playbackModeOf (cursorPlaybackMode snapshot.mode) = snapshot.mode := by
      rcases snapshot.mode with _ | _ | _ <;> rfl
    have hbounds : ((snapshot.bounds.map Prod.fst).bind fun lower =>
        (snapshot.bounds.map Prod.snd).map fun upper => (lower, upper)) = snapshot.bounds := by
      rcases snapshot.bounds with _ | bounds <;> rfl
    simp only [FrameSnapshotData.withoutGear, haircraft]
    simp only [frameFromCursor, assembleCursorFrame, emptyFrame, buildFrame, hmode, hbounds]

/-- **A subscriber has the frame of the server**, but for the gear, exactly if no shown id panics on
the way to the wire and every rendered aircraft keeps its name. -/
theorem sameFrame_iff (env : Env) (store : TimeSeriesStore) (now : Instant)
    (snapshot : PlaybackSnapshot) (frameSequence eventWatermark : ℕ) (generatedAt : Secs)
    (gearStates : GearStates) :
    (∃ frame, assembleCursorFrameChecked env store now snapshot frameSequence eventWatermark
        generatedAt = some frame ∧
      (frameFromCursor frame gearStates).withoutGear =
        (buildFrame store snapshot now env.staleTimeout generatedAt).withoutGear) ↔
    (∀ shown ∈ shownAircraft store snapshot, (hexToPbUuid shown.1).isSome) ∧
      ∀ id, isRendered store snapshot id → wireName id = id := by
  constructor
  · rintro ⟨frame, hframe, hsame⟩
    have hsent := isSome_of_assembled hframe
    rw [assembleCursorFrameChecked_eq hsent] at hframe
    cases hframe
    exact ⟨hsent, frameFromCursor_eq_iff.mp hsame⟩
  · rintro ⟨hsent, hnames⟩
    exact ⟨_, assembleCursorFrameChecked_eq hsent, frameFromCursor_eq_iff.mpr hnames⟩

end FlyRuler.Godot
