import FlyRuler.Cursor.Frame

/-!
# One subscriber's turn

What a tick of the publisher does for one subscriber (`core/src/cursor.rs`, the body of the loop
over `subscribers`): take the acknowledged batch off the queue, fill an empty queue, send or resend
the batch at its front, and send a frame if one is due.  The queue holds the payloads themselves in
place of their chunks.

* `completeFront_cases`, `refill_cases`: what the two parts of `advance` can do to the queue.
* `serve_spec`: the rest of a turn leaves the queue as it is, and sends its front page and the frame
  at most.
-/

namespace FlyRuler.Cursor

open FlyRuler.Pb FlyRuler.Store FlyRuler.Playback FlyRuler.Transport FlyRuler.Lib.Chunks

/-! ## State -/

/-- What the publisher sends. -/
inductive Payload where
  | frame (frame : CursorFrame)
  | eventBatch (batch : CursorEventBatch)
  | reset (reset : CursorReset)
  deriving DecidableEq

/-- One page of events, with the reset that goes before it. -/
structure Page where
  sequence : ℕ
  revision : ℕ
  cursor : Option Secs
  batch : CursorEventBatch
  reset : Option CursorReset
  finalPage : Bool
  deriving DecidableEq

/-- A page waiting for its acknowledgement. -/
structure PendingEvents extends Page where
  lastSent : Instant
  attempts : ℕ
  deriving DecidableEq

structure SubscriberState where
  lastRevision : Option ℕ := none
  lastCursor : Option Secs := none
  nextEventSequence : ℕ := 0
  pending : List PendingEvents := []
  lastFrameSent : Option Instant := none
  deriving DecidableEq

/-- What a tick of the publisher reads beside the store: the playback snapshot and the two clocks,
and the signs of the zeros among the timestamps in the store. -/
structure Tick where
  snapshot : PlaybackSnapshot
  now : Instant
  wallClock : Secs
  signs : ZeroSigns := .plain

/-- A snapshot of an empty store in live mode, for examples. -/
def emptySnapshot (revision : ℕ) : PlaybackSnapshot := ⟨.live, none, 1, none, revision⟩

/-- The pages in the queue. -/
def SubscriberState.queue (st : SubscriberState) : List Page := st.pending.map (·.toPage)

/-! ## The acknowledged page -/

/-- Take the front page off the queue if it is acknowledged.  The last page of a batch moves the
subscriber to the cursor of that batch. -/
def SubscriberState.completeFront (st : SubscriberState) (ack : ℕ) : SubscriberState :=
  match st.pending with
  | [] => st
  | completed :: rest =>
    if completed.sequence ≤ ack then
      if completed.finalPage then
        { st with
          pending := rest
          lastRevision := some completed.revision
          lastCursor := completed.cursor }
      else { st with pending := rest }
    else st

/-! ## Filling the queue -/

/-- Events per page. -/
def pageSize : ℕ := 32

/-- The events for a subscriber whose queue is empty, and what to send them as. -/
structure Refill where
  snapshot : PlaybackSnapshot
  now : Instant
  baseline : Bool
  initialSync : Bool
  events : List GlobalTimestampedEvent

/-- `wrapping_add(1).max(1)` on the batch sequence. -/
def nextSequence (sequence : ℕ) : ℕ := max ((sequence + 1) % u64Size) 1

/-- The sequence of an event in a batch. -/
def eventSequence (batchSequence index : ℕ) : ℕ := (batchSequence <<< 32) % u64Size ||| index

def Env.encodesBatch (env : Env) (batch : CursorEventBatch) : Bool :=
  (encodeCursorChunks env.epoch .eventBatch batch.eventSequence (env.encodeBatch batch)).isOk

namespace Refill

variable (env : Env) (r : Refill)

def pageCount : ℕ := divCeil (max r.events.length 1) pageSize

def batchAt (sequence pageIndex : ℕ) : CursorEventBatch where
  serverEpoch := env.serverEpoch
  eventSequence := sequence
  revision := r.snapshot.revision
  baseline := r.baseline && pageIndex == 0
  baselineComplete := pageIndex + 1 == r.pageCount
  events := (chunk pageSize r.events pageIndex).mapIdx fun index event =>
    cursorEvent env (eventSequence sequence index) event

def reset : CursorReset where
  serverEpoch := env.serverEpoch
  revision := r.snapshot.revision
  cursor := r.snapshot.cursorSecs
  reason := if r.initialSync then "initial_sync" else "timeline_revision"

/-- The reset before a page: the first page of a baseline has one, if it can be encoded. -/
def resetAt (sequence pageIndex : ℕ) : Option CursorReset :=
  if r.baseline && pageIndex == 0 then
    match encodeCursorChunks env.epoch .reset sequence (env.encodeReset (r.reset env)) with
    | .ok _ => some (r.reset env)
    | .error _ => none
  else none

def page (sequence pageIndex : ℕ) : Page where
  sequence := sequence
  revision := r.snapshot.revision
  cursor := r.snapshot.cursorSecs
  batch := r.batchAt env sequence pageIndex
  reset := r.resetAt env sequence pageIndex
  finalPage := pageIndex + 1 == r.pageCount

/-- The loop over the pages; a page that cannot be encoded clears the queue and ends it. -/
def queuePages : ℕ → ℕ → SubscriberState → SubscriberState
  | 0, _, st => st
  | remaining + 1, pageIndex, st =>
    let sequence := nextSequence st.nextEventSequence
    let st := { st with nextEventSequence := sequence }
    if env.encodesBatch (r.batchAt env sequence pageIndex) then
      queuePages remaining (pageIndex + 1)
        { st with pending := st.pending ++ [⟨r.page env sequence pageIndex, r.now, 0⟩] }
    else { st with pending := [] }

end Refill

/-- The snapshot is not a continuation of what the subscriber has. -/
def SubscriberState.needsBaseline (st : SubscriberState) (snapshot : PlaybackSnapshot) : Bool :=
  st.lastRevision.isNone || st.lastRevision != some snapshot.revision ||
    match st.lastCursor, snapshot.cursorSecs with
    | some previous, some current => decide (current < previous)
    | _, _ => false

/-- What an empty queue is to be filled with. -/
def SubscriberState.refillOf (st : SubscriberState) (store : TimeSeriesStore) (t : Tick) : Refill :=
  let baseline := st.needsBaseline t.snapshot
  { snapshot := t.snapshot
    now := t.now
    baseline := baseline
    initialSync := st.lastRevision.isNone
    events :=
      if baseline then baselineEvents store t.signs t.snapshot
      else deltaEvents store t.signs st.lastCursor t.snapshot.cursorSecs }

/-- There is something to queue. -/
def Refill.hasPages (r : Refill) : Bool := r.baseline || !r.events.isEmpty

/-- Fill an empty queue, or move to the snapshot if there is nothing to send. -/
def SubscriberState.refill (st : SubscriberState) (env : Env) (store : TimeSeriesStore) (t : Tick) :
    SubscriberState :=
  if st.pending.isEmpty then
    let r := st.refillOf store t
    if r.hasPages then r.queuePages env r.pageCount 0 st
    else { st with lastRevision := some t.snapshot.revision, lastCursor := t.snapshot.cursorSecs }
  else st

/-! ## Sending -/

/-- The payloads of a page, in the order they are sent. -/
def Page.payloads (p : Page) : List Payload :=
  (p.reset.map Payload.reset).toList ++ [.eventBatch p.batch]

/-- Send the front page if it is new or due again; `none` if it has been sent too often. -/
def SubscriberState.retryFront (st : SubscriberState) (env : Env) (now : Instant) :
    Option (SubscriberState × List Payload) :=
  match st.pending with
  | [] => some (st, [])
  | front :: rest =>
    if front.attempts = 0 ∨ env.config.eventRetryInterval ≤ now - front.lastSent then
      if env.config.eventRetryLimit ≤ front.attempts then none
      else
        some ({ st with
          pending := { front with attempts := front.attempts + 1, lastSent := now } :: rest },
          front.payloads)
    else some (st, [])

/-- `Duration::from_secs_f64`, which panics on a number of seconds that does not fit. -/
def durationFromSecs (secs : ℚ) : Option Duration :=
  if 0 ≤ secs ∧ secs < u64Size then some secs else none

/-- The batch up to which a client must be to be shown the frame. -/
def SubscriberState.watermark (st : SubscriberState) (ack : ℕ) : ℕ :=
  (st.pending.getLast?.map (·.sequence)).getD ack

def Env.encodesFrame (env : Env) (frame : CursorFrame) : Bool :=
  (encodeCursorChunks env.epoch .frame frame.frameSequence (env.encodeFrame frame)).isOk

/-- The frame for a subscriber. -/
def SubscriberState.frameOf (st : SubscriberState) (env : Env) (store : TimeSeriesStore) (t : Tick)
    (frameSequence ack : ℕ) : CursorFrame :=
  assembleCursorFrame env store t.now t.snapshot frameSequence (st.watermark ack) t.wallClock

/-- Send a frame if one is due. -/
def SubscriberState.sendFrame (st : SubscriberState) (env : Env) (store : TimeSeriesStore)
    (t : Tick) (frameSequence ack : ℕ) (frameInterval : Duration) :
    SubscriberState × List Payload :=
  if st.lastFrameSent.any fun sent => t.now - sent < frameInterval then (st, [])
  else
    let frame := st.frameOf env store t frameSequence ack
    if env.encodesFrame frame then
      ({ st with lastFrameSent := some t.now }, [.frame frame])
    else (st, [])

/-! ## The turn -/

/-- What becomes of the subscriber. -/
inductive Outcome where
  | kept (state : SubscriberState)
  | evicted
  | panicked
  deriving DecidableEq

/-- What a turn does, in order: pages put into the queue and payloads sent. -/
inductive Act where
  | queue (page : Page)
  | send (payload : Payload)
  deriving DecidableEq

/-- The pages among `acts`. -/
def pagesOf (acts : List Act) : List Page :=
  acts.filterMap fun
    | .queue page => some page
    | .send _ => none

/-- The payloads among `acts`. -/
def payloadsOf (acts : List Act) : List Payload :=
  acts.filterMap fun
    | .queue _ => none
    | .send payload => some payload

structure Served where
  outcome : Outcome
  acts : List Act
  deriving DecidableEq

/-- The queue part of a turn. -/
def SubscriberState.advance (st : SubscriberState) (env : Env) (store : TimeSeriesStore) (t : Tick)
    (ack : ℕ) : SubscriberState :=
  (st.completeFront ack).refill env store t

/-- The pages a turn puts into the queue. -/
def SubscriberState.newPages (st : SubscriberState) (env : Env) (store : TimeSeriesStore) (t : Tick)
    (ack : ℕ) : List Page :=
  if (st.completeFront ack).pending.isEmpty then (st.advance env store t ack).queue else []

/-- One subscriber's turn in a tick. -/
def SubscriberState.serve (st : SubscriberState) (env : Env) (store : TimeSeriesStore) (t : Tick)
    (frameSequence : ℕ) (session : Session) : Served :=
  let ack := session.cursorEventAck
  let queued := (st.newPages env store t ack).map Act.queue
  match (st.advance env store t ack).retryFront env t.now with
  | none => ⟨.evicted, queued⟩
  | some (st, batches) =>
    let requestedHz := min session.cursorRequestedHz env.config.publishHz
    match durationFromSecs (1 / requestedHz) with
    | none => ⟨.panicked, queued ++ batches.map Act.send⟩
    | some frameInterval =>
      let (st, frames) := st.sendFrame env store t frameSequence ack frameInterval
      ⟨.kept st, queued ++ batches.map Act.send ++ frames.map Act.send⟩

/-! ## The acknowledged page and the queue -/

variable {st st' : SubscriberState} {env : Env} {store : TimeSeriesStore} {t : Tick}

/-- **The acknowledged page**: either nothing happens, or the front page leaves the queue. -/
theorem completeFront_cases (st : SubscriberState) (ack : ℕ) :
    (st.completeFront ack = st ∧ ∀ front ∈ st.queue.head?, ack < front.sequence) ∨
      ∃ front rest, st.pending = front :: rest ∧ front.sequence ≤ ack ∧
        st.completeFront ack =
          { st with
            pending := rest
            lastRevision := if front.finalPage then some front.revision else st.lastRevision
            lastCursor := if front.finalPage then front.cursor else st.lastCursor } := by
  unfold SubscriberState.completeFront SubscriberState.queue
  rcases hp : st.pending with _ | ⟨front, rest⟩
  · exact Or.inl ⟨rfl, by simp⟩
  · simp only
    by_cases hack : front.sequence ≤ ack
    · refine Or.inr ⟨front, rest, rfl, hack, ?_⟩
      by_cases hfinal : front.finalPage <;> simp [hack, hfinal]
    · refine Or.inl ⟨if_neg hack, fun p hp => ?_⟩
      simp only [List.map_cons, List.head?_cons, Option.mem_def, Option.some.injEq] at hp
      rw [← hp]
      omega

/-- The pages of a refill that starts behind the sequence `next`. -/
def Refill.pages (env : Env) (r : Refill) (next : ℕ) : List Page :=
  (List.range r.pageCount).map fun i => r.page env (next + 1 + i) i

/-- Every page of the refill can be encoded. -/
def Refill.Fits (env : Env) (r : Refill) (next : ℕ) : Prop :=
  ∀ i < r.pageCount, env.encodesBatch (r.batchAt env (next + 1 + i) i)

instance (r : Refill) (next : ℕ) : Decidable (r.Fits env next) := by
  unfold Refill.Fits; infer_instance

theorem nextSequence_eq {sequence : ℕ} (h : sequence + 1 < u64Size) :
    nextSequence sequence = sequence + 1 := by
  unfold nextSequence
  rw [Nat.mod_eq_of_lt h]
  omega

/-- The loop over the pages: all of them are queued, or the queue is empty and some sequences have
been used up. -/
theorem queuePages_cases (env : Env) (r : Refill) : ∀ (n k : ℕ) (st : SubscriberState),
    st.nextEventSequence + n < u64Size →
      ((∀ i < n, env.encodesBatch (r.batchAt env (st.nextEventSequence + 1 + i) (k + i))) ∧
        r.queuePages env n k st =
          { st with
            nextEventSequence := st.nextEventSequence + n
            pending := st.pending ++ (List.range n).map fun i =>
              ⟨r.page env (st.nextEventSequence + 1 + i) (k + i), r.now, 0⟩ }) ∨
      ((¬∀ i < n, env.encodesBatch (r.batchAt env (st.nextEventSequence + 1 + i) (k + i))) ∧
        ∃ m, m ≤ n ∧ r.queuePages env n k st =
          { st with nextEventSequence := st.nextEventSequence + m, pending := [] })
  | 0, k, st, _ => Or.inl ⟨by simp, by simp [Refill.queuePages]⟩
  | n + 1, k, st, hn => by
    unfold Refill.queuePages
    simp only [nextSequence_eq (show st.nextEventSequence + 1 < u64Size by omega)]
    by_cases henc : env.encodesBatch (r.batchAt env (st.nextEventSequence + 1) k)
    · rw [if_pos henc]
      have hshift : ∀ i, st.nextEventSequence + 1 + 1 + i = st.nextEventSequence + 1 + (i + 1) :=
        fun i => by omega
      have hindex : ∀ i, k + 1 + i = k + (i + 1) := fun i => by omega
      have ih := queuePages_cases env r n (k + 1)
        { st with
          nextEventSequence := st.nextEventSequence + 1
          pending := st.pending ++ [⟨r.page env (st.nextEventSequence + 1) k, r.now, 0⟩] }
        (show st.nextEventSequence + 1 + n < u64Size by omega)
      simp only [hshift, hindex] at ih
      have hall : (∀ i < n + 1,
          env.encodesBatch (r.batchAt env (st.nextEventSequence + 1 + i) (k + i))) ↔
          ∀ i < n, env.encodesBatch
            (r.batchAt env (st.nextEventSequence + 1 + (i + 1)) (k + (i + 1))) :=
        ⟨fun h i hi => h (i + 1) (by omega), fun h i hi => by
          rcases i with _ | i
          · exact henc
          · exact h i (by omega)⟩
      rcases ih with ⟨hfits, hq⟩ | ⟨hfits, m, hm, hq⟩
      · refine Or.inl ⟨hall.mpr hfits, ?_⟩
        rw [hq, List.range_succ_eq_map]
        simp [Function.comp_def, Nat.add_assoc, Nat.add_comm 1 n]
      · refine Or.inr ⟨mt hall.mp hfits, m + 1, by omega, ?_⟩
        rw [hq]
        simp [Nat.add_assoc, Nat.add_comm 1 m]
    · rw [if_neg henc]
      exact Or.inr ⟨fun h => henc (h 0 (by omega)), 1, by omega, rfl⟩

theorem Refill.pageCount_pos (r : Refill) : 0 < r.pageCount :=
  divCeil_pos (by decide) (by omega)

/-- The sequences of the next refill do not wrap around. -/
def SubscriberState.SequencesFit (st : SubscriberState) (store : TimeSeriesStore) (t : Tick) :
    Prop :=
  st.pending = [] → st.nextEventSequence + (st.refillOf store t).pageCount < u64Size

instance : Decidable (st.SequencesFit store t) := by
  unfold SubscriberState.SequencesFit; infer_instance

/-- **A refill**: the queue is not empty, or all pages are queued, or they do not all fit, or there
are none. -/
theorem refill_cases (env : Env) (hseq : st.SequencesFit store t) :
    (st.pending ≠ [] ∧ st.refill env store t = st) ∨
      (st.pending = [] ∧ (st.refillOf store t).hasPages ∧
        (st.refillOf store t).Fits env st.nextEventSequence ∧
        ((st.refill env store t).queue = (st.refillOf store t).pages env st.nextEventSequence ∧
          (st.refill env store t).nextEventSequence =
            st.nextEventSequence + (st.refillOf store t).pageCount ∧
          (st.refill env store t).lastRevision = st.lastRevision ∧
          (st.refill env store t).lastCursor = st.lastCursor)) ∨
      (st.pending = [] ∧ (st.refillOf store t).hasPages ∧
        ¬(st.refillOf store t).Fits env st.nextEventSequence ∧
        ∃ m ≤ (st.refillOf store t).pageCount, st.refill env store t =
          { st with nextEventSequence := st.nextEventSequence + m }) ∨
      (st.pending = [] ∧ (st.refillOf store t).hasPages = false ∧ st.refill env store t =
        { st with lastRevision := some t.snapshot.revision, lastCursor := t.snapshot.cursorSecs })
    := by
  by_cases hp : st.pending = []
  · refine Or.inr ?_
    have hempty : st.pending.isEmpty = true := List.isEmpty_iff.mpr hp
    unfold SubscriberState.refill
    simp only [hempty, if_true]
    by_cases hpages : (st.refillOf store t).hasPages
    · rw [if_pos hpages]
      rcases queuePages_cases env (st.refillOf store t) _ 0 st (hseq hp) with
        ⟨hfits, hq⟩ | ⟨hfits, m, hm, hq⟩
      · simp only [Nat.zero_add] at hfits hq
        refine Or.inl ⟨hp, hpages, hfits, ?_⟩
        rw [hq]
        refine ⟨?_, rfl, rfl, rfl⟩
        simp [SubscriberState.queue, Refill.pages, hp]
      · simp only [Nat.zero_add] at hfits
        refine Or.inr (Or.inl ⟨hp, hpages, hfits, m, hm, ?_⟩)
        rw [hq, ← hp]
    · rw [if_neg hpages]
      exact Or.inr (Or.inr ⟨hp, by simpa using hpages, rfl⟩)
  · refine Or.inl ⟨hp, ?_⟩
    unfold SubscriberState.refill
    rw [if_neg (by simpa using hp)]

/-! ## The rest of a turn -/

/-- The same queue, and the same place in the stream. -/
structure SubscriberState.SameQueue (st st' : SubscriberState) : Prop where
  queue : st'.queue = st.queue
  nextEventSequence : st'.nextEventSequence = st.nextEventSequence
  lastRevision : st'.lastRevision = st.lastRevision
  lastCursor : st'.lastCursor = st.lastCursor

theorem SubscriberState.watermark_eq (st : SubscriberState) (ack : ℕ) :
    st.watermark ack = (st.queue.getLast?.map Page.sequence).getD ack := by
  unfold SubscriberState.watermark SubscriberState.queue
  rw [List.getLast?_map, Option.map_map]
  rfl

theorem SubscriberState.SameQueue.frameOf {st st' : SubscriberState} (h : st.SameQueue st')
    (frameSequence ack : ℕ) : st'.frameOf env store t frameSequence ack =
      st.frameOf env store t frameSequence ack := by
  unfold SubscriberState.frameOf
  rw [st.watermark_eq, st'.watermark_eq, h.queue]

theorem retryFront_spec {now : Instant} {payloads : List Payload}
    (h : st.retryFront env now = some (st', payloads)) :
    st.SameQueue st' ∧ ∀ p ∈ payloads, ∃ front ∈ st.queue.head?, p ∈ front.payloads := by
  unfold SubscriberState.retryFront at h
  rcases hp : st.pending with _ | ⟨front, rest⟩
  · simp only [hp, Option.some.injEq, Prod.mk.injEq] at h
    obtain ⟨rfl, rfl⟩ := h
    exact ⟨⟨rfl, rfl, rfl, rfl⟩, by simp⟩
  · simp only [hp] at h
    split_ifs at h <;> simp only [Option.some.injEq, Prod.mk.injEq] at h <;> obtain ⟨rfl, rfl⟩ := h
    · refine ⟨⟨?_, rfl, rfl, rfl⟩, fun p hp' => ⟨front.toPage, ?_, hp'⟩⟩ <;>
        simp [SubscriberState.queue, hp]
    · exact ⟨⟨rfl, rfl, rfl, rfl⟩, by simp⟩

theorem sendFrame_spec (st : SubscriberState) (env : Env) (store : TimeSeriesStore) (t : Tick)
    (frameSequence ack : ℕ) (frameInterval : Duration) :
    st.SameQueue (st.sendFrame env store t frameSequence ack frameInterval).1 ∧
      ∀ p ∈ (st.sendFrame env store t frameSequence ack frameInterval).2,
        p = .frame (st.frameOf env store t frameSequence ack) := by
  unfold SubscriberState.sendFrame
  dsimp only
  split_ifs <;> exact ⟨⟨rfl, rfl, rfl, rfl⟩, by simp⟩

@[simp] theorem pagesOf_append (acts acts' : List Act) :
    pagesOf (acts ++ acts') = pagesOf acts ++ pagesOf acts' := List.filterMap_append

@[simp] theorem payloadsOf_append (acts acts' : List Act) :
    payloadsOf (acts ++ acts') = payloadsOf acts ++ payloadsOf acts' := List.filterMap_append

@[simp] theorem pagesOf_queue (pages : List Page) : pagesOf (pages.map Act.queue) = pages := by
  unfold pagesOf
  simp [List.filterMap_map]

@[simp] theorem pagesOf_send (sends : List Payload) : pagesOf (sends.map Act.send) = [] := by
  unfold pagesOf
  simp [List.filterMap_map]

@[simp] theorem payloadsOf_queue (pages : List Page) : payloadsOf (pages.map Act.queue) = [] := by
  unfold payloadsOf
  simp [List.filterMap_map]

@[simp] theorem payloadsOf_send (sends : List Payload) :
    payloadsOf (sends.map Act.send) = sends := by
  unfold payloadsOf
  simp [List.filterMap_map]

/-- **The rest of a turn**: it leaves the queue as `advance` has it, and sends payloads of the front
page and the frame at most. -/
theorem serve_spec (st : SubscriberState) (env : Env) (store : TimeSeriesStore) (t : Tick)
    (frameSequence : ℕ) (session : Session) :
    ∃ sends : List Payload, (st.serve env store t frameSequence session).acts =
        (st.newPages env store t session.cursorEventAck).map Act.queue ++ sends.map Act.send ∧
      (∀ p ∈ sends,
        (∃ front ∈ (st.advance env store t session.cursorEventAck).queue.head?,
          p ∈ front.payloads) ∨
        p = .frame ((st.advance env store t session.cursorEventAck).frameOf env store t
          frameSequence session.cursorEventAck)) ∧
      ∀ st', (st.serve env store t frameSequence session).outcome = .kept st' →
        (st.advance env store t session.cursorEventAck).SameQueue st' := by
  unfold SubscriberState.serve
  dsimp only
  generalize st.advance env store t session.cursorEventAck = adv
  rcases hretry : adv.retryFront env t.now with _ | ⟨st1, batches⟩
  · exact ⟨[], by simp⟩
  · obtain ⟨hsame, hbatches⟩ := retryFront_spec hretry
    simp only
    rcases hsecs : durationFromSecs (1 / min session.cursorRequestedHz env.config.publishHz)
      with _ | frameInterval
    · exact ⟨batches, rfl, fun p hp => Or.inl (hbatches p hp), fun st' h => by simp at h⟩
    · obtain ⟨hsame', hframes⟩ := sendFrame_spec st1 env store t frameSequence
        session.cursorEventAck frameInterval
      refine ⟨batches ++ (st1.sendFrame env store t frameSequence session.cursorEventAck
        frameInterval).2, by simp, fun p hp => ?_, fun st' h => ?_⟩
      · rcases List.mem_append.mp hp with hp | hp
        · exact Or.inl (hbatches p hp)
        · rw [hframes p hp, hsame.frameOf]
          exact Or.inr rfl
      · simp only [Outcome.kept.injEq] at h
        subst h
        exact ⟨hsame'.queue.trans hsame.queue,
          hsame'.nextEventSequence.trans hsame.nextEventSequence,
          hsame'.lastRevision.trans hsame.lastRevision, hsame'.lastCursor.trans hsame.lastCursor⟩

/-- A subscriber that is kept has the queue that `advance` leaves. -/
theorem serve_kept {frameSequence : ℕ} {session : Session}
    (h : (st.serve env store t frameSequence session).outcome = .kept st') :
    (st.advance env store t session.cursorEventAck).SameQueue st' := by
  obtain ⟨-, -, -, hkept⟩ := serve_spec st env store t frameSequence session
  exact hkept st' h

end FlyRuler.Cursor
