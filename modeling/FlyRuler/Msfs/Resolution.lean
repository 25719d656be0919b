import FlyRuler.Msfs.AiRegistry
import FlyRuler.Store.Bounds

/-!
# Resolving an aircraft at the end of the timeline

The store is read along three ways: the last entries in live mode, the entries up to a cursor in
replay (`resolve_aircraft_with` of `core/src/playback.rs`), and `resolve_sample` of
`bindings/msfs/src/aircraft.rs`.  No entry is later than the upper time bound, so up to it nothing
is left out.
-/

namespace FlyRuler.Msfs

open FlyRuler.Pb FlyRuler.Store FlyRuler.Playback FlyRuler.Lib.Keyed FlyRuler.Lib.TimeOrder

variable {store : TimeSeriesStore} {bounds : Secs × Secs} {id : AircraftId}

/-! ## Up to the upper bound -/

theorem upTo_of_le {α : Type} {t : Timeline Secs α} {upper : Secs}
    (h : ∀ e ∈ t.entries, e.stamp ≤ upper) : t.upTo upper = t.entries := by
  rw [Timeline.upTo_eq, List.filter_eq_self]
  intro e he
  simpa using h e he

/-- No entry of an aircraft is later than the upper bound. -/
theorem hasStamp_le_upper (hbounds : store.activeTimeBounds = some bounds)
    {s : AircraftTimeSeries} (hs : store.data.lookup id = some s) {t : Secs} (ht : s.HasStamp t) :
    t ≤ bounds.2 := by
  have hexact := TimeSeriesStore.activeTimeBounds_spec store
  rw [hbounds] at hexact
  exact hexact.2.2 ⟨id, s, hs, ht⟩

/-- **The latest state is the state at the upper bound.** -/
theorem getStateAtOrBefore_upper (hbounds : store.activeTimeBounds = some bounds) :
    store.getStateAtOrBefore id (.finite bounds.2) = store.getLatest id := by
  unfold TimeSeriesStore.getStateAtOrBefore TimeSeriesStore.getLatest
  rcases hs : store.data.lookup id with _ | s
  · rfl
  · have hall : s.states.upTo bounds.2 = s.states.entries :=
      upTo_of_le fun e he => hasStamp_le_upper hbounds hs (.inl ⟨e, he, rfl⟩)
    simp only [F64.toFinite, Option.bind_some]
    rw [hall]

/-- **What is spawned in the end** is spawned at the upper bound. -/
theorem isSpawnedAt_upper (hbounds : store.activeTimeBounds = some bounds) :
    store.isSpawnedAt id (.finite bounds.2) = store.isSpawnedAt id .posInf := by
  unfold TimeSeriesStore.isSpawnedAt
  rcases hs : store.data.lookup id with _ | s
  · rfl
  · have hall : s.events.upTo bounds.2 = s.events.entries :=
      upTo_of_le fun e he => hasStamp_le_upper hbounds hs (.inr (.inl ⟨e, he, rfl⟩))
    dsimp only
    rw [hall]

/-- **Live and replay at the end** resolve every aircraft alike. -/
theorem resolve_upper (hbounds : store.activeTimeBounds = some bounds)
    {live replay : PlaybackSnapshot} (hlive : live.mode = .live) (hreplay : replay.mode ≠ .live)
    (hcursor : replay.cursorSecs = some bounds.2) (id : AircraftId) :
    resolveAircraftWith store replay id = resolveAircraftWith store live id := by
  have hsample : Playback.resolveSample store replay id = Playback.resolveSample store live id := by
    unfold Playback.resolveSample
    rw [hlive, hcursor]
    rcases hmode : replay.mode with _ | _ | _
    · exact absurd hmode hreplay
    · exact getStateAtOrBefore_upper hbounds
    · exact getStateAtOrBefore_upper hbounds
  have hspawned : resolveSpawned store replay id = resolveSpawned store live id := by
    unfold resolveSpawned
    rw [hlive, hcursor]
    rcases hmode : replay.mode with _ | _ | _
    · exact absurd hmode hreplay
    · exact isSpawnedAt_upper hbounds
    · exact isSpawnedAt_upper hbounds
  unfold resolveAircraftWith
  rw [hsample, hspawned]

/-! ## The operations that lead there -/

/-- The snapshot of a live controller is live. -/
theorem mode_snapshot_live {inner : PlaybackInner} (hmode : inner.mode = .live) (now : Instant) :
    (inner.snapshot store now).2.mode = .live := by
  unfold PlaybackInner.snapshot PlaybackInner.snapshotFromInner PlaybackInner.updateEffectiveCursor
  rcases store.activeTimeBounds with _ | bounds
  · simp [hmode]
  · simp [hmode]

/-- Pausing a live controller leaves the cursor at the upper bound. -/
theorem pause_live {inner : PlaybackInner} (hbounds : store.activeTimeBounds = some bounds)
    (hmode : inner.mode = .live) (now : Instant) :
    ∃ paused, (inner.pause store now).2 = .ok paused ∧ paused.mode = .replayPaused ∧
      paused.cursorSecs = some bounds.2 := by
  unfold PlaybackInner.pause
  rw [hbounds]
  dsimp only
  refine ⟨_, rfl, rfl, ?_⟩
  simp [PlaybackInner.snapshotFromInner, PlaybackInner.updateEffectiveCursor, hmode]

/-- Seeking to the upper bound goes there. -/
theorem seek_upper (hbounds : store.activeTimeBounds = some bounds) (inner : PlaybackInner) :
    ∃ sought, (inner.seek store (.finite bounds.2)).2 = .ok sought ∧
      sought.mode = .replayPaused ∧ sought.cursorSecs = some bounds.2 := by
  have hle : bounds.1 ≤ bounds.2 := by
    have hexact := TimeSeriesStore.activeTimeBounds_spec store
    rw [hbounds] at hexact
    exact hexact.le
  have hclamp : clamp bounds.2 bounds.1 bounds.2 = bounds.2 := by
    unfold clamp
    rw [max_eq_left hle, min_self]
  unfold PlaybackInner.seek
  rw [F64.toFinite, hbounds]
  refine ⟨_, rfl, rfl, ?_⟩
  show some (clamp bounds.2 bounds.1 bounds.2) = some bounds.2
  rw [hclamp]

/-! ## The bridge -/

/-- **`resolve_sample` of the bridge** gives the sample of an aircraft that is spawned. -/
theorem resolveSample_eq_some {playback : PlaybackSnapshot} {sample : TimestampedState} :
    resolveSample store playback id = some sample ↔
      resolveAircraftWith store playback id = some ⟨sample, true⟩ := by
  have hgate : ∀ (spawned : Bool) (found : Option TimestampedState),
      (if spawned then found else none) = some sample ↔
        (found.map fun sample => (⟨sample, spawned⟩ : ResolvedState)) = some ⟨sample, true⟩ := by
    intro spawned found
    rcases spawned with _ | _ <;> rcases found with _ | found <;> simp
  have hcursor : ∀ cursor : Option Secs,
      (cursor.bind fun cursor => if store.isSpawnedAt id (.finite cursor) then
        store.getStateAtOrBefore id (.finite cursor) else none) = some sample ↔
      ((cursor.bind fun cursor => store.getStateAtOrBefore id (.finite cursor)).map fun sample =>
        (⟨sample, cursor.any fun cursor => store.isSpawnedAt id (.finite cursor)⟩ :
          ResolvedState)) = some ⟨sample, true⟩ := by
    intro cursor
    rcases cursor with _ | cursor
    · simp
    · exact hgate _ _
  unfold resolveSample resolveAircraftWith Playback.resolveSample resolveSpawned
  rcases playback.mode with _ | _ | _
  · exact hgate _ _
  · exact hcursor _
  · exact hcursor _

/-- **Live and replay at the end are the same view**: no aircraft changes when a live controller is
paused or sought to the upper bound, and the bridge shows what the controller resolves as
spawned. -/
theorem live_eq_replayAtEnd (hbounds : store.activeTimeBounds = some bounds) :
    (∀ live replay : PlaybackSnapshot, live.mode = .live → replay.mode ≠ .live →
      replay.cursorSecs = some bounds.2 →
      ∀ id, resolveAircraftWith store replay id = resolveAircraftWith store live id) ∧
    (∀ (inner : PlaybackInner) (now : Instant), inner.mode = .live →
      (∃ paused, (inner.pause store now).2 = .ok paused ∧ ∀ id,
        resolveAircraftWith store paused id =
          resolveAircraftWith store (inner.snapshot store now).2 id) ∧
      ∃ sought, (inner.seek store (.finite bounds.2)).2 = .ok sought ∧ ∀ id,
        resolveAircraftWith store sought id =
          resolveAircraftWith store (inner.snapshot store now).2 id) ∧
    ∀ (playback : PlaybackSnapshot) (id : AircraftId) (sample : TimestampedState),
      resolveSample store playback id = some sample ↔
        resolveAircraftWith store playback id = some ⟨sample, true⟩ := by
  refine ⟨fun live replay => resolve_upper hbounds, fun inner now hmode => ⟨?_, ?_⟩,
    fun playback id sample => resolveSample_eq_some⟩
  · obtain ⟨paused, hpaused, hreplay, hcursor⟩ := pause_live hbounds hmode now
    refine ⟨paused, hpaused, resolve_upper hbounds (mode_snapshot_live hmode now) ?_ hcursor⟩
    rw [hreplay]
    decide
  · obtain ⟨sought, hsought, hreplay, hcursor⟩ := seek_upper hbounds inner
    refine ⟨sought, hsought, resolve_upper hbounds (mode_snapshot_live hmode now) ?_ hcursor⟩
    rw [hreplay]
    decide

/-- An aircraft that is spawned, has a state, and sends telemetry long after it. -/
def telemetryStore : TimeSeriesStore :=
  let schema : TelemetryStreamSchema := { streamId := "s", fields := [] }
  let store : TimeSeriesStore := ((({} : TimeSeriesStore).appendEvent "a" (.finite 1)
    (.spawn { telemetrySchemas := [schema] })).appendState "a" (.finite 2) {})
  store.apply (.telemetry "a" (.finite 9) ⟨"s", 0, []⟩)

theorem live_eq_replayAtEnd_telemetry :
    telemetryStore.activeTimeBounds = some (1, 9) ∧
      resolveAircraftWith telemetryStore ⟨.replayPaused, some 9, 1, some (1, 9), 0⟩ "a" =
        resolveAircraftWith telemetryStore ⟨.live, some 9, 1, some (1, 9), 0⟩ "a" := by
  have hbounds : telemetryStore.activeTimeBounds = some (1, 9) := by decide +kernel
  exact ⟨hbounds, (live_eq_replayAtEnd hbounds).1 _ _ rfl (by decide) rfl "a"⟩

end FlyRuler.Msfs
