import FlyRuler.Cursor.Queue

/-!
# Where a subscriber is in the stream

The queue holds the rest of one refill, and its last page carries the revision and the cursor of the
snapshot it was made for.  So there is a place the subscriber is on its way to: the one it will have
reached when the queue is empty (`settled`).  Only a refill moves it.

* `completeFront_settled`: taking a page off the queue does not.
* `advance_cases`: a turn leaves it where it is, or moves it to the snapshot.
* `advance_moves`: the same, even if the sequences wrap around.
* `wire_queued`: the pages of a refill carry its events.
-/

namespace FlyRuler.Cursor

open FlyRuler.Pb FlyRuler.Store FlyRuler.Playback FlyRuler.Transport FlyRuler.Lib.Chunks

variable {env : Env} {store : TimeSeriesStore} {t : Tick} {st st' : SubscriberState} {ack : ℕ}

/-! ## The settled state -/

/-- The subscriber as it will be when its queue is empty. -/
def SubscriberState.settled (st : SubscriberState) : SubscriberState :=
  match st.queue.getLast? with
  | none => st
  | some last =>
    { st with
      pending := []
      lastRevision := some last.revision
      lastCursor := last.cursor }

/-- **The pages are the rest of one refill**: the last of them, and no other, is a final one. -/
structure OneRefill (pages : List Page) : Prop where
  final : ∀ page ∈ pages.getLast?, page.finalPage
  inner : ∀ page ∈ pages.dropLast, page.finalPage = false

theorem oneRefill_nil : OneRefill [] := ⟨by simp, by simp⟩

theorem OneRefill.tail {front : Page} {rest : List Page} (h : OneRefill (front :: rest)) :
    OneRefill rest := by
  rcases rest with _ | ⟨next, rest⟩
  · exact oneRefill_nil
  · refine ⟨fun page hpage => h.final page ?_, fun page hpage => h.inner page ?_⟩
    · rw [List.getLast?_cons_cons]
      exact hpage
    · rw [List.dropLast_cons_cons]
      exact List.mem_cons_of_mem _ hpage

theorem oneRefill_pagesAt (env : Env) (r : Refill) (sequence : ℕ → ℕ) :
    OneRefill (r.pagesAt env sequence) := by
  obtain ⟨n, hn, hpages⟩ := pagesAt_concat env r sequence
  rw [hpages]
  refine ⟨fun page hpage => ?_, fun page hpage => ?_⟩
  · rw [List.getLast?_concat, Option.mem_def, Option.some.injEq] at hpage
    subst hpage
    show (n + 1 == r.pageCount) = true
    simp [hn]
  · rw [List.dropLast_concat] at hpage
    exact (not_last_page hn hpage).1

theorem oneRefill_pages (env : Env) (r : Refill) (next : ℕ) : OneRefill (r.pages env next) :=
  oneRefill_pagesAt env r fun i => next + 1 + i

namespace SubscriberState

theorem settled_of_nil (h : st.pending = []) : st.settled = st := by
  unfold settled queue
  rw [h]
  rfl

/-- **Taking a page off the queue** does not move the subscriber. -/
theorem completeFront_settled (h : OneRefill st.queue) (ack : ℕ) :
    (st.completeFront ack).settled = st.settled := by
  rcases completeFront_cases st ack with ⟨hsame, -⟩ | ⟨front, rest, hp, -, hnew⟩
  · rw [hsame]
  · have hq : st.queue = front.toPage :: rest.map (·.toPage) := by
      unfold queue
      rw [hp, List.map_cons]
    rcases rest with _ | ⟨next, rest⟩
    · -- the page was the last one
      have hfinal := h.final front.toPage (by rw [hq]; rfl)
      rw [hnew, if_pos hfinal, if_pos hfinal, settled_of_nil rfl]
      unfold settled
      rw [hq]
      rfl
    · have hinner := h.inner front.toPage (by rw [hq]; simp)
      rw [hnew, if_neg (by simp [hinner]), if_neg (by simp [hinner])]
      have hlast : ({ st with pending := next :: rest } : SubscriberState).queue.getLast? =
          st.queue.getLast? := by
        rw [hq]
        unfold queue
        simp
      unfold settled
      rw [hlast]
      rcases hgl : st.queue.getLast? with _ | last
      · rw [hq] at hgl
        simp at hgl
      · rfl

/-- The settled state depends on the queue and the place in the stream only. -/
theorem SameQueue.settled (h : st.SameQueue st') :
    st'.settled.lastRevision = st.settled.lastRevision ∧
      st'.settled.lastCursor = st.settled.lastCursor := by
  unfold SubscriberState.settled
  rw [h.queue]
  rcases st.queue.getLast? with _ | last
  · exact ⟨h.lastRevision, h.lastCursor⟩
  · exact ⟨rfl, rfl⟩

theorem oneRefill_completeFront (h : OneRefill st.queue) (ack : ℕ) :
    OneRefill (st.completeFront ack).queue := by
  rcases completeFront_queue st ack with ⟨hsame, -⟩ | ⟨front, hq, -⟩
  · rw [hsame]
    exact h
  · rw [hq] at h
    exact h.tail

end SubscriberState

/-! ## Refills -/

theorem events_refillOf_baseline (store : TimeSeriesStore)
    (h : st.needsBaseline t.snapshot = true) :
    (st.refillOf store t).events = baselineEvents store t.signs t.snapshot := by
  unfold SubscriberState.refillOf
  rw [h]
  rfl

theorem events_refillOf_delta (store : TimeSeriesStore)
    (h : st.needsBaseline t.snapshot = false) : (st.refillOf store t).events =
      deltaEvents store t.signs st.lastCursor t.snapshot.cursorSecs := by
  unfold SubscriberState.refillOf
  rw [h]
  rfl

/-- The pages that a refill queues, if they fit. -/
def Refill.queued (env : Env) (r : Refill) (next : ℕ) : List Page :=
  if r.hasPages then r.pages env next else []

/-- **The turn has moved the subscriber** to the snapshot, with `new` in the log. -/
structure Moved (env : Env) (store : TimeSeriesStore) (t : Tick) (st adv : SubscriberState)
    (new : List Page) : Prop where
  lastRevision : adv.settled.lastRevision = some t.snapshot.revision
  lastCursor : adv.settled.lastCursor = t.snapshot.cursorSecs
  new : new = (st.settled.refillOf store t).queued env st.nextEventSequence

/-- **A turn** leaves the subscriber where it is, or moves it to the snapshot. -/
theorem advance_cases (env : Env) (h : OneRefill st.queue)
    (hseq : (st.completeFront ack).SequencesFit store t) :
    OneRefill (st.advance env store t ack).queue ∧
      (((st.advance env store t ack).settled.lastRevision = st.settled.lastRevision ∧
          (st.advance env store t ack).settled.lastCursor = st.settled.lastCursor ∧
          st.newPages env store t ack = []) ∨
        Moved env store t st (st.advance env store t ack) (st.newPages env store t ack)) := by
  have hfront := SubscriberState.oneRefill_completeFront h ack
  have hsettled := SubscriberState.completeFront_settled h ack
  have hnext := st.completeFront_next ack
  unfold SubscriberState.newPages SubscriberState.advance
  generalize st.completeFront ack = st₁ at hseq hfront hsettled hnext ⊢
  rcases refill_cases env hseq with ⟨hp, hsame⟩ | ⟨hp, hpages, -, hq, -⟩ |
    ⟨hp, -, -, m, -, hsame⟩ | ⟨hp, hpages, hsame⟩
  · rw [hsame, if_neg (by simpa using hp), hsettled]
    exact ⟨hfront, Or.inl ⟨rfl, rfl, rfl⟩⟩
  · rw [SubscriberState.settled_of_nil hp] at hsettled
    rw [if_pos (List.isEmpty_iff.mpr hp), hq]
    obtain ⟨n, -, hconcat⟩ := pages_concat env (st₁.refillOf store t) st₁.nextEventSequence
    have hlast : (st₁.refill env store t).queue.getLast? =
        some ((st₁.refillOf store t).page env (st₁.nextEventSequence + 1 + n) n) := by
      rw [hq, hconcat, List.getLast?_concat]
    refine ⟨oneRefill_pages env _ _, Or.inr ⟨?_, ?_, ?_⟩⟩
    · unfold SubscriberState.settled
      rw [hlast]
      rfl
    · unfold SubscriberState.settled
      rw [hlast]
      rfl
    · unfold Refill.queued
      rw [← hsettled, if_pos hpages, hnext]
  · rw [SubscriberState.settled_of_nil hp] at hsettled
    have hnil : (st₁.refill env store t).pending = [] := by rw [hsame]; exact hp
    have hq := SubscriberState.queue_eq_nil.mpr hnil
    rw [if_pos (List.isEmpty_iff.mpr hp), SubscriberState.settled_of_nil hnil, hq, ← hsettled,
      hsame]
    exact ⟨oneRefill_nil, Or.inl ⟨rfl, rfl, rfl⟩⟩
  · rw [SubscriberState.settled_of_nil hp] at hsettled
    have hnil : (st₁.refill env store t).pending = [] := by rw [hsame]; exact hp
    have hq := SubscriberState.queue_eq_nil.mpr hnil
    rw [if_pos (List.isEmpty_iff.mpr hp), hq]
    refine ⟨oneRefill_nil, Or.inr ⟨?_, ?_, ?_⟩⟩
    · rw [SubscriberState.settled_of_nil hnil, hsame]
    · rw [SubscriberState.settled_of_nil hnil, hsame]
    · unfold Refill.queued
      rw [← hsettled, hpages]
      rfl

/-- **The baseline test**: a delta continues the revision of the subscriber, with a cursor that has
not gone back. -/
theorem needsBaseline_eq_false_iff {snapshot : PlaybackSnapshot} :
    st.needsBaseline snapshot = false ↔ st.lastRevision = some snapshot.revision ∧
      ∀ x ∈ st.lastCursor, ∀ y ∈ snapshot.cursorSecs, x ≤ y := by
  unfold SubscriberState.needsBaseline
  rcases st.lastRevision with _ | revision
  · simp
  · rcases st.lastCursor with _ | x <;> rcases snapshot.cursorSecs with _ | y <;> simp

/-! ## Any sequences -/

/-- The loop over the pages, even if the sequences wrap around: all pages are queued, or the queue
is empty. -/
theorem queuePages_pagesAt (env : Env) (r : Refill) : ∀ (n k : ℕ) (st : SubscriberState),
    ∃ sequence : ℕ → ℕ, (r.queuePages env n k st).lastRevision = st.lastRevision ∧
      (r.queuePages env n k st).lastCursor = st.lastCursor ∧
      ((r.queuePages env n k st).pending = [] ∨ (r.queuePages env n k st).queue =
        st.queue ++ (List.range n).map fun i => r.page env (sequence i) (k + i))
  | 0, k, st => ⟨id, rfl, rfl, .inr (by simp [Refill.queuePages])⟩
  | n + 1, k, st => by
    unfold Refill.queuePages
    dsimp only
    split_ifs with henc
    · obtain ⟨sequence, hrevision, hcursor, hcase⟩ := queuePages_pagesAt env r n (k + 1)
        { st with
          nextEventSequence := nextSequence st.nextEventSequence
          pending := st.pending ++
            [⟨r.page env (nextSequence st.nextEventSequence) k, r.now, 0⟩] }
      refine ⟨fun i => if i = 0 then nextSequence st.nextEventSequence else sequence (i - 1),
        hrevision, hcursor, hcase.imp_right fun hq => ?_⟩
      rw [hq, List.range_succ_eq_map]
      simp [SubscriberState.queue, Function.comp_def, Nat.add_assoc, Nat.add_comm 1]
    · exact ⟨id, rfl, rfl, .inl rfl⟩

/-- The queue is empty, but for one acknowledged page. -/
def SubscriberState.Drained (st : SubscriberState) (ack : ℕ) : Prop :=
  st.queue.length ≤ 1 ∧ ∀ page ∈ st.queue, page.sequence ≤ ack

instance : Decidable (st.Drained ack) := inferInstanceAs (Decidable (_ ∧ _))

theorem SubscriberState.drained_of_completeFront (h : (st.completeFront ack).pending = []) :
    st.Drained ack := by
  rw [← SubscriberState.queue_eq_nil] at h
  unfold SubscriberState.Drained
  rcases SubscriberState.completeFront_queue st ack with ⟨hsame, -⟩ | ⟨front, hq, hack⟩
  · rw [← hsame, h]
    exact ⟨Nat.zero_le 1, by simp⟩
  · rw [h] at hq
    refine ⟨by rw [hq, List.length_singleton], fun page hpage => ?_⟩
    rw [hq, List.mem_singleton] at hpage
    rw [hpage]
    exact hack

/-- The turn has refilled the queue and moved the subscriber to the snapshot. -/
structure Refilled (env : Env) (store : TimeSeriesStore) (t : Tick) (ack : ℕ)
    (st adv : SubscriberState) (new : List Page) : Prop where
  drained : st.Drained ack
  lastRevision : adv.settled.lastRevision = some t.snapshot.revision
  lastCursor : adv.settled.lastCursor = t.snapshot.cursorSecs
  new : (∃ sequence, new = (st.settled.refillOf store t).pagesAt env sequence) ∨
    (st.settled.refillOf store t).hasPages = false ∧ new = []

/-- **A turn, whatever the sequences**, leaves the subscriber where it is or refills the queue. -/
theorem advance_moves (env : Env) (store : TimeSeriesStore) (t : Tick) (h : OneRefill st.queue)
    (ack : ℕ) :
    OneRefill (st.advance env store t ack).queue ∧
      (((st.advance env store t ack).settled.lastRevision = st.settled.lastRevision ∧
          (st.advance env store t ack).settled.lastCursor = st.settled.lastCursor ∧
          st.newPages env store t ack = []) ∨
        Refilled env store t ack st (st.advance env store t ack)
          (st.newPages env store t ack)) := by
  have hfront := SubscriberState.oneRefill_completeFront h ack
  have hsettled := SubscriberState.completeFront_settled h ack
  have hdrained := @SubscriberState.drained_of_completeFront st ack
  unfold SubscriberState.newPages SubscriberState.advance
  generalize st.completeFront ack = st₁ at hfront hsettled hdrained ⊢
  by_cases hp : st₁.pending = []
  · have hempty : st₁.pending.isEmpty := List.isEmpty_iff.mpr hp
    rw [SubscriberState.settled_of_nil hp] at hsettled
    rw [if_pos hempty, ← hsettled]
    unfold SubscriberState.refill
    rw [if_pos hempty]
    dsimp only
    split_ifs with hpages
    · obtain ⟨sequence, hrevision, hcursor, hnil | hq⟩ :=
        queuePages_pagesAt env (st₁.refillOf store t) (st₁.refillOf store t).pageCount 0 st₁
      · rw [SubscriberState.settled_of_nil hnil, SubscriberState.queue_eq_nil.mpr hnil]
        exact ⟨oneRefill_nil, .inl ⟨hrevision, hcursor, rfl⟩⟩
      · simp only [SubscriberState.queue_eq_nil.mpr hp, List.nil_append, Nat.zero_add] at hq
        obtain ⟨n, -, hconcat⟩ := pagesAt_concat env (st₁.refillOf store t) sequence
        have hlast := hq.trans hconcat
        refine ⟨?_, .inr ⟨hdrained hp, ?_, ?_, .inl ⟨sequence, ?_⟩⟩⟩
        · rw [hq]
          exact oneRefill_pagesAt env _ sequence
        · unfold SubscriberState.settled
          rw [hlast, List.getLast?_concat]
          rfl
        · unfold SubscriberState.settled
          rw [hlast, List.getLast?_concat]
          rfl
        · rw [← hsettled]
          exact hq
    · have hnone : (st₁.refillOf store t).hasPages = false := by simpa using hpages
      have hmoved : (⟨some t.snapshot.revision, t.snapshot.cursorSecs, st₁.nextEventSequence,
          st₁.pending, st₁.lastFrameSent⟩ : SubscriberState).pending = [] := hp
      refine ⟨hfront, .inr ⟨hdrained hp, ?_, ?_,
        .inr ⟨hsettled ▸ hnone, SubscriberState.queue_eq_nil.mpr hmoved⟩⟩⟩
      · rw [SubscriberState.settled_of_nil hmoved]
      · rw [SubscriberState.settled_of_nil hmoved]
  · have hsame : st₁.refill env store t = st₁ := by
      unfold SubscriberState.refill
      rw [if_neg (by simpa using hp)]
    rw [hsame, if_neg (by simpa using hp), hsettled]
    exact ⟨hfront, .inl ⟨rfl, rfl, rfl⟩⟩

/-! ## The events of a refill -/

/-- An event without its sequence. -/
def unnumbered (event : CursorEvent) : CursorEvent := { event with sequence := 0 }

/-- The events on the pages, in order, without their sequences. -/
def wire (pages : List Page) : List CursorEvent :=
  pages.flatMap fun page => page.batch.events.map unnumbered

@[simp] theorem wire_append (pages pages' : List Page) :
    wire (pages ++ pages') = wire pages ++ wire pages' := List.flatMap_append

theorem events_page (r : Refill) (sequence i : ℕ) :
    (r.page env sequence i).batch.events.map unnumbered =
      (chunk pageSize r.events i).map (cursorEvent env 0) := by
  refine List.ext_getElem? fun k => ?_
  show (((chunk pageSize r.events i).mapIdx _).map unnumbered)[k]? = _
  rw [List.getElem?_map, List.getElem?_mapIdx, List.getElem?_map, Option.map_map]
  rfl

/-- **The pages of a refill carry its events.** -/
theorem wire_pagesAt (env : Env) (r : Refill) (sequence : ℕ → ℕ) :
    wire (r.pagesAt env sequence) = r.events.map (cursorEvent env 0) := by
  have hle : r.events.length ≤ r.pageCount * pageSize :=
    (le_max_left _ 1).trans (le_divCeil_mul (by decide) _)
  unfold wire Refill.pagesAt
  rw [List.flatMap_map]
  simp only [events_page]
  rw [← List.map_flatMap, flatMap_chunk, List.take_of_length_le hle]

theorem Refill.events_of_not_hasPages {r : Refill} (h : r.hasPages = false) :
    r.baseline = false ∧ r.events = [] := by
  unfold Refill.hasPages at h
  simpa using h

theorem wire_queued (env : Env) (r : Refill) (next : ℕ) :
    wire (r.queued env next) = r.events.map (cursorEvent env 0) := by
  unfold Refill.queued
  split_ifs with hpages
  · exact wire_pagesAt env r fun i => next + 1 + i
  · rw [(Refill.events_of_not_hasPages (by simpa using hpages)).2]
    rfl

end FlyRuler.Cursor
