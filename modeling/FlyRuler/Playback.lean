import FlyRuler.Store.Query

/-!
# The playback controller

`core/src/playback.rs`: the global timeline mode and cursor.  Every operation reads the time bounds
of the store and then changes the inner state; time arithmetic is exact.  A snapshot has a cursor if
and only if the store has timeline data (`IsSnapshot.cursor_isSome`).
-/

namespace FlyRuler.Playback

open FlyRuler.Pb FlyRuler.Store FlyRuler.Lib.TimeOrder

inductive PlaybackMode where
  | live
  | replayPaused
  | replayPlaying
  deriving DecidableEq

inductive PlaybackStepUnit where
  | sample
  | event
  deriving DecidableEq

inductive PlaybackStepDirection where
  | previous
  | next
  deriving DecidableEq

structure PlaybackSnapshot where
  mode : PlaybackMode
  cursorSecs : Option Secs
  speed : ℚ
  bounds : Option (Secs × Secs)
  revision : ℕ
  deriving DecidableEq

/-- A state selected for a snapshot, and whether the aircraft is spawned there. -/
structure ResolvedState where
  sample : TimestampedState
  spawned : Bool
  deriving DecidableEq

structure ReplayConfig where
  defaultSpeed : ℚ := 1
  minSpeed : ℚ := 1 / 10
  maxSpeed : ℚ := 16
  deriving DecidableEq

inductive PlaybackError where
  | emptyStore
  | invalidTimestamp
  | invalidSpeed (min max : ℚ)
  | invalidStepCount
  deriving DecidableEq

structure PlaybackInner where
  mode : PlaybackMode := .live
  cursorSecs : Option Secs := none
  speed : ℚ := 1
  anchor : Option Instant := none
  revision : ℕ := 0
  deriving DecidableEq

/-- `f64::clamp`. -/
def clamp (x lo hi : Secs) : Secs := min (max x lo) hi

/-- `wrapping_add(1)` on the revision. -/
def nextRevision (revision : ℕ) : ℕ := (revision + 1) % u64Size

def validateSpeed (config : ReplayConfig) (speed : F64) : Except PlaybackError ℚ :=
  match speed with
  | .finite speed =>
    if config.minSpeed ≤ speed ∧ speed ≤ config.maxSpeed then .ok speed
    else .error (.invalidSpeed config.minSpeed config.maxSpeed)
  | _ => .error (.invalidSpeed config.minSpeed config.maxSpeed)

/-! ## The operations -/

namespace PlaybackInner

/-- `update_effective_cursor`, at the time `now`. -/
def updateEffectiveCursor (inner : PlaybackInner) (bounds : Option (Secs × Secs)) (now : Instant) :
    PlaybackInner :=
  match bounds with
  | none =>
    let cleared := { inner with cursorSecs := none, anchor := none }
    if inner.mode = .live then cleared else { cleared with mode := .replayPaused }
  | some (start, stop) =>
    match inner.mode with
    | .live => { inner with cursorSecs := some stop, anchor := none }
    | .replayPaused =>
      { inner with cursorSecs := some (clamp (inner.cursorSecs.getD start) start stop)
                   anchor := none }
    | .replayPlaying =>
      let base := inner.cursorSecs.getD start
      let elapsed := (inner.anchor.map fun anchor => max (now - anchor) 0).getD 0
      let next := base + elapsed * inner.speed
      if stop ≤ next then
        { inner with
          cursorSecs := some stop
          mode := .replayPaused
          anchor := none
          revision := nextRevision inner.revision }
      else { inner with cursorSecs := some (max next start), anchor := some now }

def snapshotFromInner (inner : PlaybackInner) (bounds : Option (Secs × Secs)) : PlaybackSnapshot :=
  ⟨inner.mode, inner.cursorSecs, inner.speed, bounds, inner.revision⟩

variable (inner : PlaybackInner) (store : TimeSeriesStore) (now : Instant)

def snapshot : PlaybackInner × PlaybackSnapshot :=
  let bounds := store.activeTimeBounds
  let inner := inner.updateEffectiveCursor bounds now
  (inner, inner.snapshotFromInner bounds)

def live : PlaybackInner × PlaybackSnapshot :=
  let bounds := store.activeTimeBounds
  let inner := { inner with
    mode := .live
    cursorSecs := bounds.map Prod.snd
    anchor := none
    revision := nextRevision inner.revision }
  (inner, inner.snapshotFromInner bounds)

def pause : PlaybackInner × Except PlaybackError PlaybackSnapshot :=
  match store.activeTimeBounds with
  | none => (inner, .error .emptyStore)
  | some bounds =>
    let inner := inner.updateEffectiveCursor (some bounds) now
    let inner := { inner with
      mode := .replayPaused
      cursorSecs := some (inner.cursorSecs.getD bounds.2)
      anchor := none
      revision := nextRevision inner.revision }
    (inner, .ok (inner.snapshotFromInner (some bounds)))

def seek (timestamp : F64) : PlaybackInner × Except PlaybackError PlaybackSnapshot :=
  match timestamp.toFinite with
  | none => (inner, .error .invalidTimestamp)
  | some t =>
    match store.activeTimeBounds with
    | none => (inner, .error .emptyStore)
    | some bounds =>
      let inner := { inner with
        mode := .replayPaused
        cursorSecs := some (clamp t bounds.1 bounds.2)
        anchor := none
        revision := nextRevision inner.revision }
      (inner, .ok (inner.snapshotFromInner (some bounds)))

/-- The speed `play` asks for, checked. -/
def requestedSpeed (config : ReplayConfig) : Option F64 → Except PlaybackError (Option ℚ)
  | none => .ok none
  | some speed =>
    match validateSpeed config speed with
    | .ok speed => .ok (some speed)
    | .error e => .error e

def play (config : ReplayConfig) (speed : Option F64) :
    PlaybackInner × Except PlaybackError PlaybackSnapshot :=
  match requestedSpeed config speed, store.activeTimeBounds with
  | .error e, _ => (inner, .error e)
  | .ok _, none => (inner, .error .emptyStore)
  | .ok speed, some bounds =>
    let inner := inner.updateEffectiveCursor (some bounds) now
    let inner := { inner with
      speed := speed.getD inner.speed
      cursorSecs := some (clamp (inner.cursorSecs.getD bounds.1) bounds.1 bounds.2)
      mode := .replayPlaying
      anchor := some now
      revision := nextRevision inner.revision }
    let inner := inner.updateEffectiveCursor (some bounds) now
    (inner, .ok (inner.snapshotFromInner (some bounds)))

def setSpeed (config : ReplayConfig) (speed : F64) :
    PlaybackInner × Except PlaybackError PlaybackSnapshot :=
  match validateSpeed config speed with
  | .error e => (inner, .error e)
  | .ok speed =>
    let bounds := store.activeTimeBounds
    let inner := inner.updateEffectiveCursor bounds now
    let inner := { inner with
      speed := speed
      anchor := if inner.mode = .replayPlaying then some now else inner.anchor
      revision := nextRevision inner.revision }
    (inner, .ok (inner.snapshotFromInner bounds))

/-- Where `step` goes. -/
def stepTarget (cursor : Secs) (unit : PlaybackStepUnit) (direction : PlaybackStepDirection)
    (count : ℕ) : Option Secs :=
  store.adjacentGlobalTimestamp cursor count
    (match unit with
      | .sample => .state
      | .event => .event)
    (match direction with
      | .previous => false
      | .next => true)

def step (unit : PlaybackStepUnit) (direction : PlaybackStepDirection) (count : ℕ) :
    PlaybackInner × Except PlaybackError PlaybackSnapshot :=
  if ¬(1 ≤ count ∧ count ≤ 100) then (inner, .error .invalidStepCount)
  else
    match store.activeTimeBounds with
    | none => (inner, .error .emptyStore)
    | some bounds =>
      let inner := inner.updateEffectiveCursor (some bounds) now
      let cursor := inner.cursorSecs.getD bounds.2
      let target := stepTarget store cursor unit direction count
      let inner := { inner with
        mode := .replayPaused
        cursorSecs := some (clamp (target.getD cursor) bounds.1 bounds.2)
        anchor := none
        revision := nextRevision inner.revision }
      (inner, .ok (inner.snapshotFromInner (some bounds)))

def resetEmpty : PlaybackInner × PlaybackSnapshot :=
  let inner := { inner with
    mode := .replayPaused
    cursorSecs := none
    anchor := none
    revision := nextRevision inner.revision }
  (inner, inner.snapshotFromInner none)

def resetAfterLoad : PlaybackInner × PlaybackSnapshot :=
  let bounds := store.activeTimeBounds
  let inner := { inner with
    mode := .replayPaused
    cursorSecs := bounds.map Prod.fst
    anchor := none
    revision := nextRevision inner.revision }
  (inner, inner.snapshotFromInner bounds)

end PlaybackInner

/-! ## Resolving an aircraft -/

/-- The sample of an aircraft for a snapshot. -/
def resolveSample (store : TimeSeriesStore) (playback : PlaybackSnapshot) (id : AircraftId) :
    Option TimestampedState :=
  match playback.mode with
  | .live => store.getLatest id
  | _ => playback.cursorSecs.bind fun cursor => store.getStateAtOrBefore id (.finite cursor)

/-- Whether the aircraft is spawned for a snapshot. -/
def resolveSpawned (store : TimeSeriesStore) (playback : PlaybackSnapshot) (id : AircraftId) :
    Bool :=
  match playback.mode with
  | .live => store.isSpawnedAt id .posInf
  | _ => playback.cursorSecs.any fun cursor => store.isSpawnedAt id (.finite cursor)

def resolveAircraftWith (store : TimeSeriesStore) (playback : PlaybackSnapshot) (id : AircraftId) :
    Option ResolvedState :=
  (resolveSample store playback id).map fun sample =>
    ⟨sample, resolveSpawned store playback id⟩

/-! ## Snapshots of a store -/

/-- The snapshot is one the controller can give of this store. -/
def IsSnapshot (store : TimeSeriesStore) (playback : PlaybackSnapshot) : Prop :=
  ∃ (inner : PlaybackInner) (now : Instant), (inner.snapshot store now).2 = playback

theorem updateEffectiveCursor_cursor (inner : PlaybackInner) (bounds : Option (Secs × Secs))
    (now : Instant) :
    (inner.updateEffectiveCursor bounds now).cursorSecs.isSome = bounds.isSome := by
  unfold PlaybackInner.updateEffectiveCursor
  rcases bounds with _ | bounds
  · dsimp only
    split_ifs <;> rfl
  · cases inner.mode with
    | live => rfl
    | replayPaused => rfl
    | replayPlaying =>
      dsimp only
      split_ifs <;> rfl

/-- **There is a cursor if and only if there is timeline data.** -/
theorem IsSnapshot.cursor_isSome {store : TimeSeriesStore} {playback : PlaybackSnapshot}
    (h : IsSnapshot store playback) :
    playback.cursorSecs.isSome = store.activeTimeBounds.isSome := by
  obtain ⟨inner, now, rfl⟩ := h
  exact updateEffectiveCursor_cursor inner store.activeTimeBounds now

end FlyRuler.Playback
