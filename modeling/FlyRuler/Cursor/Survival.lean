import FlyRuler.Cursor.Identity
import FlyRuler.Cursor.Pacing
import FlyRuler.Lib.Run
import Mathlib.Data.Rat.Floor

/-!
# The publisher and its panics

The publisher of `core/src/cursor.rs` with everything in it that panics: `Duration::from_secs_f64`
on an interval of `2 ^ 64` seconds or more, `tokio::time::interval` on a period of no time, and
`hex_to_pb_uuid` on an aircraft id that it cannot cut.  Any of them ends the task for everybody.

* `serveChecked_spec`: a turn is the one of `serve` exactly if it is paced, and panics otherwise.
* `stepChecked_eq`: a tick that is paced is the one of `Room.tick`.
* `publisher_survives_iff`: when the publisher survives a run.
-/

namespace FlyRuler.Cursor

open FlyRuler.Pb FlyRuler.Store FlyRuler.Playback FlyRuler.Transport FlyRuler.Lib.Chunks
open FlyRuler.Lib.Fallible FlyRuler.Lib.Run

/-! ## Turns -/

/-- The conversion of the id does not panic. -/
def isConvertible (id : AircraftId) : Prop := (hexToPbUuid id).isSome

instance : DecidablePred isConvertible := fun id => by unfold isConvertible; infer_instance

namespace Refill

/-- The batch of a page, with the conversions of its events. -/
def batchAtChecked (env : Env) (r : Refill) (sequence pageIndex : ℕ) : Option CursorEventBatch :=
  ((chunk pageSize r.events pageIndex).zipIdx.mapM fun entry =>
    cursorEventChecked env (eventSequence sequence entry.2) entry.1).map fun events =>
      { r.batchAt env sequence pageIndex with events := events }

/-- The loop over the pages. -/
def queuePagesChecked (env : Env) (r : Refill) : ℕ → ℕ → SubscriberState → Option SubscriberState
  | 0, _, st => some st
  | remaining + 1, pageIndex, st => do
    let sequence := nextSequence st.nextEventSequence
    let st := { st with nextEventSequence := sequence }
    let batch ← r.batchAtChecked env sequence pageIndex
    if env.encodesBatch batch then
      let page := { r.page env sequence pageIndex with batch := batch }
      queuePagesChecked env r remaining (pageIndex + 1)
        { st with pending := st.pending ++ [⟨page, r.now, 0⟩] }
    else some { st with pending := [] }

/-- The loop over the pages comes to the page: all pages before it can be encoded. -/
def ComesTo (env : Env) (r : Refill) (next pageIndex : ℕ) : Prop :=
  ∀ i < pageIndex, env.encodesBatch (r.batchAt env (nextSequence^[i + 1] next) i)

/-- Every event of the pages that the loop comes to is of an aircraft whose id can be converted. -/
def Convertible (env : Env) (r : Refill) (next : ℕ) : Prop :=
  ∀ i < r.pageCount, r.ComesTo env next i →
    ∀ event ∈ chunk pageSize r.events i, isConvertible event.aircraftId

instance (env : Env) (r : Refill) (next pageIndex : ℕ) : Decidable (r.ComesTo env next pageIndex) :=
  by unfold ComesTo; infer_instance

instance (env : Env) (r : Refill) (next : ℕ) : Decidable (r.Convertible env next) := by
  unfold Convertible; infer_instance

end Refill

namespace SubscriberState

variable (st : SubscriberState) (env : Env) (store : TimeSeriesStore) (t : Tick)

def refillChecked : Option SubscriberState :=
  if st.pending.isEmpty then
    let r := st.refillOf store t
    if r.hasPages then r.queuePagesChecked env r.pageCount 0 st
    else
      some { st with lastRevision := some t.snapshot.revision, lastCursor := t.snapshot.cursorSecs }
  else some st

/-- Send a frame if one is due. -/
def sendFrameChecked (frameSequence ack : ℕ) (frameInterval : Duration) :
    Option (SubscriberState × List Payload) :=
  if st.lastFrameSent.any fun sent => t.now - sent < frameInterval then some (st, [])
  else do
    let frame ← assembleCursorFrameChecked env store t.now t.snapshot frameSequence
      (st.watermark ack) t.wallClock
    if env.encodesFrame frame then
      some ({ st with lastFrameSent := some t.now }, [.frame frame])
    else some (st, [])

/-- One subscriber's turn in a tick, with its panics. -/
def serveChecked (frameSequence : ℕ) (session : Session) : Served :=
  let ack := session.cursorEventAck
  let completed := st.completeFront ack
  match completed.refillChecked env store t with
  | none => ⟨.panicked, []⟩
  | some advanced =>
    let queued := (if completed.pending.isEmpty then advanced.queue else []).map Act.queue
    match advanced.retryFront env t.now with
    | none => ⟨.evicted, queued⟩
    | some (st, batches) =>
      let requestedHz := min session.cursorRequestedHz env.config.publishHz
      match durationFromSecs (1 / requestedHz) with
      | none => ⟨.panicked, queued ++ batches.map Act.send⟩
      | some frameInterval =>
        match st.sendFrameChecked env store t frameSequence ack frameInterval with
        | none => ⟨.panicked, queued ++ batches.map Act.send⟩
        | some (st, frames) =>
          ⟨.kept st, queued ++ batches.map Act.send ++ frames.map Act.send⟩

/-- The refill converts no id that panics. -/
def RefillConvertible : Prop :=
  st.pending = [] → (st.refillOf store t).hasPages →
    (st.refillOf store t).Convertible env st.nextEventSequence

instance : Decidable (st.RefillConvertible env store t) := by
  unfold RefillConvertible; infer_instance

/-- The turn ends the subscription, since the page at the front has been sent too often. -/
def givesUp (ack : ℕ) : Prop := (st.advance env store t ack).retryFront env t.now = none

instance (ack : ℕ) : Decidable (st.givesUp env store t ack) := by
  unfold givesUp; infer_instance

/-- The interval of the rate has passed since the last frame. -/
def frameDue (hz : ℚ) : Prop := ∀ sent ∈ st.lastFrameSent, 1 / hz ≤ t.now - sent

instance (hz : ℚ) : Decidable (st.frameDue t hz) := by unfold frameDue; infer_instance

end SubscriberState

/-- The interval between frames at a rate is one that a `Duration` can hold. -/
def fitsDuration (hz : ℚ) : Prop := 1 / hz < u64Size

instance : DecidablePred fitsDuration := fun hz => by unfold fitsDuration; infer_instance

/-- Every aircraft that is in the frame has an id that can be converted. -/
def ShownConvertible (store : TimeSeriesStore) (snapshot : PlaybackSnapshot) : Prop :=
  ∀ shown ∈ shownAircraft store snapshot, isConvertible shown.1

instance (store : TimeSeriesStore) (snapshot : PlaybackSnapshot) :
    Decidable (ShownConvertible store snapshot) := by unfold ShownConvertible; infer_instance

/-- **What a turn needs to end without a panic.**  The ids in the pages it builds can be converted;
and if it does not give the subscriber up, the interval between frames fits a `Duration`, and if a
frame is due, the ids in it can be converted. -/
structure SubscriberState.Paced (st : SubscriberState) (env : Env) (store : TimeSeriesStore)
    (t : Tick) (session : Session) : Prop where
  pages : (st.completeFront session.cursorEventAck).RefillConvertible env.withIds store t
  frame : st.givesUp env.withIds store t session.cursorEventAck ∨
    fitsDuration (min session.cursorRequestedHz env.config.publishHz) ∧
      (st.frameDue t (min session.cursorRequestedHz env.config.publishHz) →
        ShownConvertible store t.snapshot)

variable {env : Env} {store : TimeSeriesStore} {t : Tick} {st : SubscriberState}

theorem paced_iff {session : Session} : st.Paced env store t session ↔
    (st.completeFront session.cursorEventAck).RefillConvertible env.withIds store t ∧
      (st.givesUp env.withIds store t session.cursorEventAck ∨
        fitsDuration (min session.cursorRequestedHz env.config.publishHz) ∧
          (st.frameDue t (min session.cursorRequestedHz env.config.publishHz) →
            ShownConvertible store t.snapshot)) :=
  ⟨fun h => ⟨h.pages, h.frame⟩, fun h => ⟨h.1, h.2⟩⟩

instance (session : Session) : Decidable (st.Paced env store t session) :=
  decidable_of_iff _ paced_iff.symm

/-! ## The pages of a turn -/

theorem cursorEventChecked_eq {event : GlobalTimestampedEvent} (h : isConvertible event.aircraftId)
    (sequence : ℕ) :
    cursorEventChecked env sequence event = some (cursorEvent env.withIds sequence event) := by
  obtain ⟨wireId, hwire⟩ := Option.isSome_iff_exists.mp h
  unfold cursorEventChecked cursorEvent Env.withIds
  simp [hwire]

/-- **The batch of a page** is the one of `batchAt`, if no conversion panics. -/
theorem batchAtChecked_eq {r : Refill} {pageIndex : ℕ}
    (h : ∀ event ∈ chunk pageSize r.events pageIndex, isConvertible event.aircraftId)
    (sequence : ℕ) :
    r.batchAtChecked env sequence pageIndex = some (r.batchAt env.withIds sequence pageIndex) := by
  have hmapIdx : (r.batchAt env.withIds sequence pageIndex).events =
      (chunk pageSize r.events pageIndex).zipIdx.map fun entry =>
        cursorEvent env.withIds (eventSequence sequence entry.2) entry.1 :=
    List.mapIdx_eq_zipIdx_map
  unfold Refill.batchAtChecked
  rw [mapM_eq_some fun entry hentry =>
    cursorEventChecked_eq (h entry.1 (List.fst_mem_of_mem_zipIdx hentry)) _, ← hmapIdx]
  rfl

theorem batchAtChecked_none {r : Refill} {pageIndex : ℕ}
    (h : ¬∀ event ∈ chunk pageSize r.events pageIndex, isConvertible event.aircraftId)
    (sequence : ℕ) : r.batchAtChecked env sequence pageIndex = none := by
  unfold Refill.batchAtChecked
  rw [Option.map_eq_none_iff]
  rcases hevents : (chunk pageSize r.events pageIndex).zipIdx.mapM (fun entry =>
      cursorEventChecked env (eventSequence sequence entry.2) entry.1) with _ | events
  · exact hevents
  · refine absurd (fun event hevent => ?_) h
    obtain ⟨index, hindex⟩ := List.getElem?_of_mem hevent
    have hsome := isSome_of_mapM hevents (event, index) (List.mk_mem_zipIdx_iff_getElem?.mpr hindex)
    unfold cursorEventChecked at hsome
    unfold isConvertible
    rcases hwire : hexToPbUuid event.aircraftId with _ | wireId
    · rw [hwire] at hsome
      cases hsome
    · rfl

/-- The rest of the loop over the pages, from a page on, converts no id that panics. -/
def Refill.ConvertibleFrom (env : Env) (r : Refill) (n pageIndex next : ℕ) : Prop :=
  ∀ i < n, (∀ j < i, env.encodesBatch (r.batchAt env (nextSequence^[j + 1] next) (pageIndex + j))) →
    ∀ event ∈ chunk pageSize r.events (pageIndex + i), isConvertible event.aircraftId

/-- The page at hand, and what comes behind it. -/
theorem convertibleFrom_succ {r : Refill} {n pageIndex next : ℕ} :
    r.ConvertibleFrom env (n + 1) pageIndex next ↔
      (∀ event ∈ chunk pageSize r.events pageIndex, isConvertible event.aircraftId) ∧
        (env.encodesBatch (r.batchAt env (nextSequence next) pageIndex) →
          r.ConvertibleFrom env n (pageIndex + 1) (nextSequence next)) := by
  have hshift : ∀ j, pageIndex + (j + 1) = pageIndex + 1 + j := fun j => by omega
  constructor
  · refine fun h => ⟨h 0 (by omega) (fun j hj => absurd hj (by omega)), fun hfirst i hi hall => ?_⟩
    rw [← hshift]
    refine h (i + 1) (by omega) fun j hj => ?_
    rcases j with _ | j
    · exact hfirst
    · rw [hshift]
      exact hall j (by omega)
  · rintro ⟨hpage, hrest⟩ i hi hall
    rcases i with _ | i
    · exact hpage
    · rw [hshift]
      refine hrest (hall 0 (by omega)) i (by omega) fun j hj => ?_
      have hnext := hall (j + 1) (by omega)
      rw [hshift] at hnext
      exact hnext

/-- **The loop over the pages** is the one of `queuePages`, unless a conversion panics. -/
theorem queuePagesChecked_spec (env : Env) (r : Refill) :
    ∀ (n pageIndex : ℕ) (st : SubscriberState),
      (r.ConvertibleFrom env.withIds n pageIndex st.nextEventSequence ∧
        r.queuePagesChecked env n pageIndex st = some (r.queuePages env.withIds n pageIndex st)) ∨
      (¬r.ConvertibleFrom env.withIds n pageIndex st.nextEventSequence ∧
        r.queuePagesChecked env n pageIndex st = none)
  | 0, pageIndex, st => .inl ⟨fun i hi => absurd hi (by omega), rfl⟩
  | n + 1, pageIndex, st => by
    unfold Refill.queuePagesChecked Refill.queuePages
    rw [convertibleFrom_succ]
    dsimp only
    by_cases hpage : ∀ event ∈ chunk pageSize r.events pageIndex, isConvertible event.aircraftId
    · rw [batchAtChecked_eq hpage, and_iff_right hpage]
      have hencodes : env.encodesBatch = env.withIds.encodesBatch := rfl
      by_cases hfits : env.withIds.encodesBatch
          (r.batchAt env.withIds (nextSequence st.nextEventSequence) pageIndex)
      · have ih := queuePagesChecked_spec env r n (pageIndex + 1)
          { st with
            nextEventSequence := nextSequence st.nextEventSequence
            pending := st.pending ++
              [⟨r.page env.withIds (nextSequence st.nextEventSequence) pageIndex, r.now, 0⟩] }
        simp only [Option.bind_eq_bind, Option.bind_some, hencodes, hfits, if_true, forall_const]
        exact ih
      · simp only [Option.bind_eq_bind, Option.bind_some, hencodes, hfits]
        exact .inl ⟨fun h => absurd h (by simp), rfl⟩
    · rw [batchAtChecked_none hpage]
      exact .inr ⟨fun h => hpage h.1, rfl⟩

/-- **Filling the queue** is what `refill` does, unless a conversion panics. -/
theorem refillChecked_spec (st : SubscriberState) (env : Env) (store : TimeSeriesStore) (t : Tick) :
    (st.RefillConvertible env.withIds store t ∧
      st.refillChecked env store t = some (st.refill env.withIds store t)) ∨
    (¬st.RefillConvertible env.withIds store t ∧ st.refillChecked env store t = none) := by
  unfold SubscriberState.refillChecked SubscriberState.refill SubscriberState.RefillConvertible
  by_cases hempty : st.pending = []
  · by_cases hpages : (st.refillOf store t).hasPages
    · have hloop := queuePagesChecked_spec env (st.refillOf store t)
        (st.refillOf store t).pageCount 0 st
      have hfrom : (st.refillOf store t).ConvertibleFrom env.withIds
          (st.refillOf store t).pageCount 0 st.nextEventSequence ↔
            (st.refillOf store t).Convertible env.withIds st.nextEventSequence := by
        unfold Refill.ConvertibleFrom Refill.Convertible Refill.ComesTo
        simp only [Nat.zero_add]
      rw [hfrom] at hloop
      simp only [hempty, List.isEmpty_nil, if_true, hpages, forall_const]
      exact hloop
    · simp [hempty, hpages]
  · simp [hempty]

/-! ## The frame of a turn -/

@[simp] theorem completeFront_lastFrameSent (st : SubscriberState) (ack : ℕ) :
    (st.completeFront ack).lastFrameSent = st.lastFrameSent := by
  rcases completeFront_cases st ack with ⟨h, -⟩ | ⟨front, rest, -, -, h⟩ <;> rw [h]

theorem queuePages_lastFrameSent (env : Env) (r : Refill) :
    ∀ (n pageIndex : ℕ) (st : SubscriberState),
      (r.queuePages env n pageIndex st).lastFrameSent = st.lastFrameSent
  | 0, _, _ => rfl
  | n + 1, pageIndex, st => by
    unfold Refill.queuePages
    dsimp only
    split_ifs
    · exact queuePages_lastFrameSent env r n (pageIndex + 1) _
    · rfl

/-- Nothing before the frame touches the time of the last one. -/
theorem advance_lastFrameSent (st : SubscriberState) (env : Env) (store : TimeSeriesStore)
    (t : Tick) (ack : ℕ) : (st.advance env store t ack).lastFrameSent = st.lastFrameSent := by
  unfold SubscriberState.advance SubscriberState.refill
  dsimp only
  split_ifs
  · rw [queuePages_lastFrameSent, completeFront_lastFrameSent]
  · exact completeFront_lastFrameSent st ack
  · exact completeFront_lastFrameSent st ack

theorem retryFront_lastFrameSent {st' : SubscriberState} {now : Instant} {payloads : List Payload}
    (h : st.retryFront env now = some (st', payloads)) : st'.lastFrameSent = st.lastFrameSent := by
  unfold SubscriberState.retryFront at h
  split at h
  · cases h
    rfl
  · split_ifs at h <;> cases h <;> rfl

theorem assembleCursorFrameChecked_none {now : Instant} {snapshot : PlaybackSnapshot}
    (h : ¬ShownConvertible store snapshot) (frameSequence eventWatermark : ℕ)
    (generatedAt : Secs) : assembleCursorFrameChecked env store now snapshot frameSequence
      eventWatermark generatedAt = none := by
  by_contra hframe
  obtain ⟨frame, hframe⟩ := Option.ne_none_iff_exists'.mp hframe
  unfold assembleCursorFrameChecked at hframe
  dsimp only at hframe
  obtain ⟨aircraft, haircraft, -⟩ := Option.bind_eq_some_iff.mp hframe
  refine h fun shown hshown => ?_
  have hsome := isSome_of_mapM haircraft shown hshown
  unfold isConvertible
  rcases hwire : hexToPbUuid shown.1 with _ | wireId
  · rw [hwire] at hsome
    cases hsome
  · rfl

/-- **The frame** is the one of `sendFrame`, unless it is due and a conversion panics. -/
theorem sendFrameChecked_spec (st : SubscriberState) (env : Env) (store : TimeSeriesStore)
    (t : Tick) (frameSequence ack : ℕ) (hz : ℚ) :
    ((st.frameDue t hz → ShownConvertible store t.snapshot) ∧
      st.sendFrameChecked env store t frameSequence ack (1 / hz) =
        some (st.sendFrame env.withIds store t frameSequence ack (1 / hz))) ∨
    (¬(st.frameDue t hz → ShownConvertible store t.snapshot) ∧
      st.sendFrameChecked env store t frameSequence ack (1 / hz) = none) := by
  have hdue : st.frameDue t hz ↔
      ¬(st.lastFrameSent.any fun sent => decide (t.now - sent < 1 / hz)) = true := by
    unfold SubscriberState.frameDue
    rcases st.lastFrameSent with _ | sent <;> simp
  unfold SubscriberState.sendFrameChecked SubscriberState.sendFrame
  rw [hdue]
  by_cases hwait : (st.lastFrameSent.any fun sent => decide (t.now - sent < 1 / hz)) = true
  · refine .inl ⟨fun h => absurd hwait h, ?_⟩
    rw [if_pos hwait, if_pos hwait]
  · rw [if_neg hwait, if_neg hwait]
    by_cases hshown : ShownConvertible store t.snapshot
    · refine .inl ⟨fun _ => hshown, ?_⟩
      rw [assembleCursorFrameChecked_eq hshown]
      simp only [Option.bind_eq_bind, Option.bind_some]
      have hencodes : env.encodesFrame = env.withIds.encodesFrame := rfl
      rw [hencodes]
      unfold SubscriberState.frameOf
      split_ifs <;> rfl
    · refine .inr ⟨fun h => hshown (h hwait), ?_⟩
      rw [assembleCursorFrameChecked_none hshown]
      rfl

/-! ## The turn -/

/-- **A turn that is paced** is the one of `serve`, and does not panic; any other turn panics. -/
theorem serveChecked_spec (st : SubscriberState) (env : Env) (store : TimeSeriesStore) (t : Tick)
    (frameSequence : ℕ) {s : Session} (hpublish : 0 < env.config.publishHz)
    (hrate : 0 < s.cursorRequestedHz) :
    (st.Paced env store t s ∧
      st.serveChecked env store t frameSequence s = st.serve env.withIds store t frameSequence s ∧
      (st.serveChecked env store t frameSequence s).outcome ≠ .panicked) ∨
    (¬st.Paced env store t s ∧
      (st.serveChecked env store t frameSequence s).outcome = .panicked) := by
  have hpos : 0 ≤ 1 / min s.cursorRequestedHz env.config.publishHz :=
    one_div_nonneg.mpr (lt_min hrate hpublish).le
  rw [paced_iff]
  unfold SubscriberState.serveChecked SubscriberState.serve SubscriberState.givesUp
  have hnew : st.newPages env.withIds store t s.cursorEventAck =
      if (st.completeFront s.cursorEventAck).pending.isEmpty then
        ((st.completeFront s.cursorEventAck).refill env.withIds store t).queue else [] := rfl
  have hadvance : st.advance env.withIds store t s.cursorEventAck =
      (st.completeFront s.cursorEventAck).refill env.withIds store t := rfl
  have hsent := advance_lastFrameSent st env.withIds store t s.cursorEventAck
  dsimp only
  rw [hnew, hadvance]
  rw [hadvance] at hsent
  rcases refillChecked_spec (st.completeFront s.cursorEventAck) env store t with
    ⟨hconvertible, hrefill⟩ | ⟨hconvertible, hrefill⟩
  · rw [hrefill]
    dsimp only
    rw [and_iff_right hconvertible]
    have hretryFront : ∀ st : SubscriberState, st.retryFront env t.now =
        st.retryFront env.withIds t.now := fun _ => rfl
    rw [hretryFront]
    generalize (st.completeFront s.cursorEventAck).refill env.withIds store t = advanced at hsent ⊢
    rcases hretry : advanced.retryFront env.withIds t.now with _ | ⟨st', batches⟩
    · exact .inl ⟨.inl rfl, rfl, by simp⟩
    · have hdue : st.frameDue t (min s.cursorRequestedHz env.config.publishHz) ↔
          st'.frameDue t (min s.cursorRequestedHz env.config.publishHz) := by
        unfold SubscriberState.frameDue
        rw [retryFront_lastFrameSent hretry, hsent]
      simp only [reduceCtorEq, false_or]
      unfold fitsDuration durationFromSecs
      by_cases hfit : 1 / min s.cursorRequestedHz env.config.publishHz < u64Size
      · have hfits : env.withIds.config = env.config := rfl
        rw [hfits, if_pos ⟨hpos, hfit⟩, and_iff_right hfit, hdue]
        dsimp only
        rcases sendFrameChecked_spec st' env store t frameSequence s.cursorEventAck
          (min s.cursorRequestedHz env.config.publishHz) with ⟨hshown, hframe⟩ | ⟨hshown, hframe⟩
        · rw [hframe]
          exact .inl ⟨hshown, rfl, by simp⟩
        · rw [hframe]
          exact .inr ⟨hshown, rfl⟩
      · have hfits : env.withIds.config = env.config := rfl
        rw [hfits, if_neg fun h => hfit h.2]
        exact .inr ⟨fun h => hfit h.1, rfl⟩
  · rw [hrefill]
    exact .inr ⟨fun h => hconvertible h.1, rfl⟩

/-! ## The start -/

/-- A time in nanoseconds, rounded to the nearest whole number and to the even one of two. -/
def roundNanos (secs : ℚ) : ℤ :=
  let nanos : ℚ := secs * 10 ^ 9
  let below := ⌊nanos⌋
  if nanos - below < 1 / 2 then below
  else if 1 / 2 < nanos - below then below + 1
  else if below % 2 = 0 then below
  else below + 1

/-- **A time is not rounded to nothing** if it is more than half a nanosecond. -/
theorem roundNanos_pos_iff {secs : ℚ} (h : 0 ≤ secs) :
    0 < roundNanos secs ↔ 1 / (2 * 10 ^ 9) < secs := by
  have hnanos : 1 / (2 * 10 ^ 9) < secs ↔ (1 : ℚ) / 2 < secs * 10 ^ 9 := by
    constructor <;> intro h <;> linarith
  have hnonneg : 0 ≤ secs * 10 ^ 9 := by positivity
  rw [hnanos]
  unfold roundNanos
  dsimp only
  generalize secs * 10 ^ 9 = nanos at hnonneg ⊢
  have hfloor : 0 ≤ ⌊nanos⌋ := Int.floor_nonneg.mpr hnonneg
  have hle := Int.floor_le nanos
  have hlt := Int.lt_floor_add_one nanos
  rcases hfloor.lt_or_eq with hpos | hzero
  · -- at least a whole nanosecond
    have hone : (1 : ℚ) ≤ ⌊nanos⌋ := by exact_mod_cast hpos
    have hhalf : (1 : ℚ) / 2 < nanos := by linarith
    simp only [hhalf, iff_true]
    split_ifs <;> omega
  · rw [← hzero]
    simp only [Int.cast_zero, sub_zero]
    by_cases hhalf : (1 : ℚ) / 2 < nanos
    · rw [if_neg (by linarith), if_pos hhalf]
      simp only [hhalf, zero_add, zero_lt_one]
    · simp only [hhalf, if_false, iff_false, Int.zero_emod, if_true]
      split_ifs <;> exact lt_irrefl 0

/-- `CursorStreamRuntime::start`: the options are checked, and the task is started.  The task panics
if the period between two ticks is one that no `Duration` holds, or no time at all. -/
def Room.start (config : CursorStreamConfig) : Except TransportError Room :=
  if config.publishHz ≤ 0 then
    .error (.invalidMessage "cursor publish_hz must be finite and greater than zero")
  else if config.maxSubscribers = 0 then
    .error (.invalidMessage "cursor max_subscribers must be greater than zero")
  else
    .ok { running := (durationFromSecs (1 / config.publishHz)).any fun period =>
      decide (0 < roundNanos period) }

/-- **The task starts** if the rate is above one tick in `2 ^ 64` seconds and below one in half a
nanosecond. -/
theorem start_spec {config : CursorStreamConfig} {room : Room} (h : Room.start config = .ok room) :
    0 < config.publishHz ∧ PositiveRates room.sessions ∧
      (room.running ↔ fitsDuration config.publishHz ∧ config.publishHz < 2 * 10 ^ 9) := by
  unfold Room.start at h
  split_ifs at h with hpublish hmax
  cases h
  rw [not_le] at hpublish
  refine ⟨hpublish, fun a s hs => (by cases hs), ?_⟩
  have hpos : 0 ≤ 1 / config.publishHz := one_div_nonneg.mpr hpublish.le
  have hround : 0 < roundNanos (1 / config.publishHz) ↔ config.publishHz < 2 * 10 ^ 9 := by
    rw [roundNanos_pos_iff hpos]
    exact one_div_lt_one_div (by positivity) hpublish
  unfold durationFromSecs fitsDuration
  by_cases hfit : 1 / config.publishHz < u64Size
  · rw [if_pos ⟨hpos, hfit⟩, and_iff_right hfit, ← hround]
    simp
  · rw [if_neg fun h => hfit h.2]
    exact ⟨fun h => (by cases h), fun h => absurd h.1 hfit⟩

/-! ## Runs -/

namespace Room

/-- A tick with its panics. -/
def tickChecked (env : Env) (store : TimeSeriesStore) (t : Tick) (room : Room) : Room :=
  if room.running then
    (room.active env).foldl (serveBy env fun st => st.serveChecked env store t) (room.beginTick env)
  else room

def stepChecked (env : Env) (room : Room) : RoomEvent → Room
  | .session op => { room with sessions := room.sessions.apply op }
  | .tick store t => room.tickChecked env store t

/-- A tick ends without a panic, and every subscriber has had its turn. -/
def Survives (env : Env) (room : Room) : RoomEvent → Prop
  | .session _ => True
  | .tick store t => (room.tickChecked env store t).running ∧ ∀ e ∈ room.active env,
      (room.tickChecked env store t).historyAt e.1 = room.historyAt e.1 ++
        ((room.stateAt e.1).serveChecked env store t ((room.frameSequence + 1) % u64Size) e.2).acts

/-- Every turn of a tick is paced. -/
def Paced (env : Env) (room : Room) : RoomEvent → Prop
  | .session _ => True
  | .tick store t => ∀ e ∈ room.active env, (room.stateAt e.1).Paced env store t e.2

instance (env : Env) (room : Room) : DecidablePred (room.Paced env)
  | .session _ => isTrue trivial
  | .tick store t => by unfold Paced; infer_instance

instance (env : Env) (room : Room) : DecidablePred (room.Survives env)
  | .session _ => isTrue trivial
  | .tick store t => by unfold Survives; infer_instance

variable {room : Room}

/-- **A tick survives** if it is paced, while the publisher runs. -/
theorem survives_iff_paced (hpublish : 0 < env.config.publishHz) (hrun : room.running)
    (hrates : PositiveRates room.sessions) (event : RoomEvent) :
    room.Survives env event ↔ room.Paced env event := by
  rcases event with op | ⟨store, t⟩
  · exact Iff.rfl
  · have hbegin : (room.beginTick env).running := hrun
    have htick : room.tickChecked env store t = (room.active env).foldl
        (serveBy env fun st => st.serveChecked env store t) (room.beginTick env) := if_pos hrun
    have hpanic : (room.tickChecked env store t).running ↔ room.Paced env (.tick store t) := by
      rw [htick, foldl_running_iff (active_nodup env room) hbegin]
      refine forall₂_congr fun e he => ?_
      rw [(beginTick_active he).1]
      have hrate := hrates e.1 e.2 (active_session he)
      rcases serveChecked_spec (room.stateAt e.1) env store t (room.beginTick env).frameSequence
        hpublish hrate with ⟨hpaced, -, hout⟩ | ⟨hpaced, hout⟩
      · exact ⟨fun _ => hpaced, fun _ => hout⟩
      · exact ⟨fun h => absurd hout h, fun h => absurd h hpaced⟩
    refine ⟨fun h => hpanic.mp h.1, fun h => ⟨hpanic.mpr h, fun e he => ?_⟩⟩
    have hend := hpanic.mpr h
    rw [htick] at hend ⊢
    have hserved := foldl_served (active_nodup env room) hbegin
      (fun e he => (beginTick_active he).2) hend e he
    rw [hserved, (beginTick_active he).1]
    rfl

/-- Turns that are the same make the same rooms. -/
theorem foldl_serveBy_congr (env : Env) (turn turn' : SubscriberState → ℕ → Session → Served)
    {l : List (SocketAddr × Session)} (hnodup : (l.map Prod.fst).Nodup) (hrun : room.running)
    (h : ∀ e ∈ l, turn (room.stateAt e.1) room.frameSequence e.2 =
      turn' (room.stateAt e.1) room.frameSequence e.2) :
    l.foldl (serveBy env turn) room = l.foldl (serveBy env turn') room := by
  induction l generalizing room with
  | nil => rfl
  | cons e l ih =>
    rw [List.map_cons, List.nodup_cons] at hnodup
    rw [List.forall_mem_cons] at h
    have hfirst : room.serveBy env turn e = room.serveBy env turn' e := by
      unfold serveBy
      rw [if_pos hrun, if_pos hrun]
      exact congrArg (room.turned env e.1) h.1
    rw [List.foldl_cons, List.foldl_cons, ← hfirst]
    by_cases hstep : (room.serveBy env turn e).running
    · refine ih hnodup.2 hstep fun e' he' => ?_
      have hne : e'.1 ≠ e.1 := fun heq => hnodup.1 (heq ▸ List.mem_map_of_mem he')
      obtain ⟨hstate, -, -, hframe⟩ := serveBy_others hne hstep
      rw [hstate, hframe]
      exact h.2 e' he'
    · rw [foldl_not_running (by simpa using hstep), foldl_not_running (by simpa using hstep)]

/-- **A step that is paced** is the one of `step`. -/
theorem stepChecked_eq (hpublish : 0 < env.config.publishHz) (hrun : room.running)
    (hrates : PositiveRates room.sessions) {event : RoomEvent} (h : room.Paced env event) :
    room.stepChecked env event = room.step env.withIds event := by
  rcases event with op | ⟨store, t⟩
  · rfl
  · show room.tickChecked env store t = room.tick env.withIds store t
    unfold tickChecked tick
    rw [if_pos hrun, if_pos hrun]
    have hbegin : (room.beginTick env).running := hrun
    refine foldl_serveBy_congr env (fun st => st.serveChecked env store t)
      (fun st => st.serve env.withIds store t) (active_nodup env room) hbegin fun e he => ?_
    rw [(beginTick_active he).1]
    rcases serveChecked_spec (room.stateAt e.1) env store t (room.beginTick env).frameSequence
      hpublish (hrates e.1 e.2 (active_session he)) with ⟨-, hsame, -⟩ | ⟨hpaced, -⟩
    · exact hsame
    · exact absurd (h e he) hpaced

theorem positiveRates_stepChecked (h : PositiveRates room.sessions) {event : RoomEvent}
    (hevent : isServerEvent event) : PositiveRates (room.stepChecked env event).sessions := by
  rcases event with op | ⟨store, t⟩
  · exact h.apply hevent
  · show PositiveRates (room.tickChecked env store t).sessions
    unfold tickChecked
    split_ifs
    · exact positiveRates_foldl (positiveRates_beginTick h) _
    · exact h

/-- The publisher runs, and the rates are those that the server accepts. -/
def Serving (room : Room) : Prop := room.running ∧ PositiveRates room.sessions

theorem Serving.stepChecked (h : room.Serving) {event : RoomEvent} (hevent : isServerEvent event)
    (hsurvives : room.Survives env event) : (room.stepChecked env event).Serving := by
  refine ⟨?_, positiveRates_stepChecked h.2 hevent⟩
  rcases event with op | ⟨store, t⟩
  · exact h.1
  · exact hsurvives.1

end Room

/-- **When the publisher survives a run**: its own rate lies between one tick in `2 ^ 64` seconds
and one in half a nanosecond, and every tick is paced.  The events are ticks and what the server
does to the tables. -/
theorem publisher_survives_iff (env : Env) {room : Room} (hstart : Room.start env.config = .ok room)
    (events : List RoomEvent) (hevents : ∀ event ∈ events, isServerEvent event) :
    room.running ∧ Meets (Room.stepChecked env) (Room.Survives env) room events ↔
      (fitsDuration env.config.publishHz ∧ env.config.publishHz < 2 * 10 ^ 9) ∧
        Meets (Room.stepChecked env) (Room.Paced env) room events := by
  obtain ⟨hpublish, hrates, hrun⟩ := start_spec hstart
  rw [hrun]
  refine and_congr_right fun hrate => ?_
  have hserving : room.Serving := ⟨hrun.mpr hrate, hrates⟩
  clear hstart hrates hrun hrate
  induction events generalizing room with
  | nil => exact Iff.rfl
  | cons event events ih =>
    rw [List.forall_mem_cons] at hevents
    have hstep := Room.survives_iff_paced hpublish hserving.1 hserving.2 event
    show room.Survives env event ∧ _ ↔ room.Paced env event ∧ _
    rw [← hstep]
    exact and_congr_right fun hsurvives =>
      ih hevents.2 (hserving.stepChecked hevents.1 hsurvives)

/-- Two subscribers, of which the first asks for one frame in `10 ^ 20` seconds. -/
def slowSubscription : List RoomEvent :=
  [.session (.setSession 0 1 "a" .cursorSubscriber), .session (.subscribeCursor 1 (1 / 10 ^ 20)),
    .session (.setSession 0 2 "b" .cursorSubscriber), .session (.subscribeCursor 2 30),
    .tick {} ⟨emptySnapshot 0, 0, 0, .plain⟩]

/-- The same with a rate that can be served. -/
def plainSubscription : List RoomEvent :=
  [.session (.setSession 0 1 "a" .cursorSubscriber), .session (.subscribeCursor 1 10),
    .session (.setSession 0 2 "b" .cursorSubscriber), .session (.subscribeCursor 2 30),
    .tick {} ⟨emptySnapshot 0, 0, 0, .plain⟩]

theorem start_small : Room.start Env.small.config = .ok {} := by
  have hrun : ((durationFromSecs (1 / Env.small.config.publishHz)).any fun period =>
      decide (0 < roundNanos period)) = true := by decide +kernel
  unfold Room.start
  rw [if_neg (by decide +kernel), if_neg (by decide +kernel), hrun]

theorem publisher_survives_iff_plain :
    Room.start Env.small.config = .ok {} ∧ ({} : Room).running ∧
      Meets (Room.stepChecked Env.small) (Room.Survives Env.small) {} plainSubscription := by
  have hevents : ∀ event ∈ plainSubscription, isServerEvent event := by
    simp [plainSubscription, isServerEvent, isAccepted]
  refine ⟨start_small, ?_⟩
  exact (publisher_survives_iff Env.small start_small plainSubscription hevents).mpr
    (by decide +kernel)

/-- **One slow subscription stops the publisher for everybody**: the second subscriber is not
served any more. -/
theorem not_survives_slow :
    ¬ ∀ (env : Env) (room : Room) (events : List RoomEvent), Room.start env.config = .ok room →
      (∀ event ∈ events, isServerEvent event) →
      room.running ∧ Meets (Room.stepChecked env) (Room.Survives env) room events := by
  intro h
  have hevents : ∀ event ∈ slowSubscription, isServerEvent event := by
    simp [slowSubscription, isServerEvent, isAccepted]
  have hsurvives := h Env.small {} slowSubscription start_small hevents
  exact absurd hsurvives (by decide +kernel)

end FlyRuler.Cursor
