import FlyRuler.Cursor.Subscriber
import Mathlib.Data.List.Nodup

/-!
# The queue of a subscriber

Pages leave the queue at the front and are added when it is empty, so the queue is a segment of the
pages that have ever been in it, and their sequences are consecutive.

* `isBaseline_pages`: the pages of a refill with a baseline are all pages of one.
* `advance_queue`: a turn drops the acknowledged page and adds the new ones.
* `newPages_cases`: the new pages are none, or all pages of a refill that fits.
* `Contiguous.advance`: the sequences stay consecutive and end at `next_event_sequence`.
-/

namespace FlyRuler.Cursor

open FlyRuler.Pb FlyRuler.Store FlyRuler.Playback FlyRuler.Transport FlyRuler.Lib.Chunks

variable {st : SubscriberState} {env : Env} {store : TimeSeriesStore} {t : Tick} {ack : ℕ}

/-! ## Pages -/

/-- **A page is what it says it is**: its batch and its reset carry its sequence, its revision and
the epoch, and its events are numbered after it. -/
structure Page.Labelled (env : Env) (page : Page) : Prop where
  sequence : page.batch.eventSequence = page.sequence
  pos : 0 < page.sequence
  revision : page.batch.revision = page.revision
  epoch : page.batch.serverEpoch = env.serverEpoch
  reset : ∀ r ∈ page.reset, r.serverEpoch = env.serverEpoch ∧ r.revision = page.revision
  size : page.batch.events.length ≤ pageSize
  numbered : page.batch.events.map CursorEvent.sequence =
    (List.range page.batch.events.length).map (eventSequence page.sequence)

theorem labelled_page (r : Refill) (sequence pageIndex : ℕ) (h : 0 < sequence) :
    (r.page env sequence pageIndex).Labelled env where
  sequence := rfl
  pos := h
  revision := rfl
  epoch := rfl
  reset := by
    intro reset hreset
    change reset ∈ r.resetAt env sequence pageIndex at hreset
    unfold Refill.resetAt at hreset
    split_ifs at hreset
    · split at hreset
      · cases hreset
        exact ⟨rfl, rfl⟩
      · cases hreset
    · cases hreset
  size := by
    show ((chunk pageSize r.events pageIndex).mapIdx _).length ≤ pageSize
    rw [List.length_mapIdx]
    exact List.length_take_le _ _
  numbered := by
    refine List.ext_getElem? fun i => ?_
    show (((chunk pageSize r.events pageIndex).mapIdx _).map CursorEvent.sequence)[i]? =
      ((List.range ((chunk pageSize r.events pageIndex).mapIdx _).length).map _)[i]?
    rw [List.length_mapIdx, List.getElem?_map, List.getElem?_mapIdx, List.getElem?_map]
    rcases Nat.lt_or_ge i (chunk pageSize r.events pageIndex).length with hlt | hge
    · rw [List.getElem?_range hlt, List.getElem?_eq_getElem hlt]
      rfl
    · rw [List.getElem?_eq_none hge, List.getElem?_eq_none (by simpa using hge)]
      rfl

theorem labelled_of_mem_pages {r : Refill} {next : ℕ} {page : Page} (h : page ∈ r.pages env next) :
    page.Labelled env := by
  obtain ⟨i, -, rfl⟩ := List.mem_map.mp h
  exact labelled_page r _ i (by omega)

/-- **All pages of one baseline**: the first is marked as a baseline and the last as complete. -/
structure IsBaseline (revision : ℕ) (pages : List Page) : Prop where
  first : ∃ page ∈ pages.head?, page.batch.baseline
  last : ∃ page ∈ pages.getLast?, page.batch.baselineComplete
  inner : ∀ page ∈ pages.dropLast, page.batch.baselineComplete = false
  revision : ∀ page ∈ pages, page.batch.revision = revision

/-- The pages of a refill, with any sequences. -/
def Refill.pagesAt (env : Env) (r : Refill) (sequence : ℕ → ℕ) : List Page :=
  (List.range r.pageCount).map fun i => r.page env (sequence i) i

/-- The pages of a refill, and the last of them. -/
theorem pagesAt_concat (env : Env) (r : Refill) (sequence : ℕ → ℕ) :
    ∃ n, r.pageCount = n + 1 ∧ r.pagesAt env sequence =
      (List.range n).map (fun i => r.page env (sequence i) i) ++ [r.page env (sequence n) n] := by
  have hpos := r.pageCount_pos
  obtain ⟨n, hn⟩ : ∃ n, r.pageCount = n + 1 := ⟨r.pageCount - 1, by omega⟩
  refine ⟨n, hn, ?_⟩
  unfold Refill.pagesAt
  rw [hn, List.range_succ, List.map_append, List.map_singleton]

theorem pages_concat (env : Env) (r : Refill) (next : ℕ) :
    ∃ n, r.pageCount = n + 1 ∧ r.pages env next =
      (List.range n).map (fun i => r.page env (next + 1 + i) i) ++
        [r.page env (next + 1 + n) n] :=
  pagesAt_concat env r fun i => next + 1 + i

/-- A page that is not the last one is not complete. -/
theorem not_last_page {r : Refill} {n : ℕ} (hn : r.pageCount = n + 1) {sequence : ℕ → ℕ}
    {page : Page} (h : page ∈ (List.range n).map fun i => r.page env (sequence i) i) :
    page.finalPage = false ∧ page.batch.baselineComplete = false := by
  obtain ⟨i, hi, rfl⟩ := List.mem_map.mp h
  have hlt := List.mem_range.mp hi
  have hne : (i + 1 == r.pageCount) = false := by
    rw [beq_eq_false_iff_ne]
    omega
  exact ⟨hne, hne⟩

/-- The pages of a refill with a baseline are one. -/
theorem isBaseline_pages {r : Refill} (h : r.baseline) (next : ℕ) :
    IsBaseline r.snapshot.revision (r.pages env next) := by
  obtain ⟨n, hn, hpages⟩ := pages_concat env r next
  refine ⟨⟨r.page env (next + 1) 0, ?_, ?_⟩, ⟨r.page env (next + 1 + n) n, ?_, ?_⟩,
    fun page hpage => ?_, fun page hpage => ?_⟩
  · unfold Refill.pages
    rw [hn, List.range_succ_eq_map]
    rfl
  · show (r.baseline && (0 == 0)) = true
    simp [h]
  · rw [hpages]
    simp
  · show (n + 1 == r.pageCount) = true
    simp [hn]
  · rw [hpages, List.dropLast_concat] at hpage
    exact (not_last_page hn hpage).2
  · obtain ⟨i, -, rfl⟩ := List.mem_map.mp hpage
    rfl

namespace SubscriberState

/-! ## What a turn does to the queue -/

theorem queue_eq_nil : st.queue = [] ↔ st.pending = [] := List.map_eq_nil_iff

/-- The page that a turn takes off the queue. -/
theorem completeFront_queue (st : SubscriberState) (ack : ℕ) :
    ((st.completeFront ack).queue = st.queue ∧ ∀ front ∈ st.queue.head?, ack < front.sequence) ∨
      ∃ front, st.queue = front :: (st.completeFront ack).queue ∧ front.sequence ≤ ack := by
  rcases completeFront_cases st ack with ⟨h, hack⟩ | ⟨front, rest, hp, hack, h⟩
  · exact Or.inl ⟨by rw [h], hack⟩
  · refine Or.inr ⟨front.toPage, ?_, hack⟩
    rw [h]
    unfold queue
    rw [hp]
    rfl

@[simp] theorem completeFront_next (st : SubscriberState) (ack : ℕ) :
    (st.completeFront ack).nextEventSequence = st.nextEventSequence := by
  rcases completeFront_cases st ack with ⟨h, -⟩ | ⟨front, rest, -, -, h⟩ <;> rw [h]

/-- **The queue after a turn**: what is left of it, and the new pages. -/
theorem advance_queue (st : SubscriberState) (env : Env) (store : TimeSeriesStore) (t : Tick)
    (ack : ℕ) : (st.advance env store t ack).queue =
      (st.completeFront ack).queue ++ st.newPages env store t ack := by
  unfold newPages
  by_cases hp : (st.completeFront ack).pending.isEmpty
  · rw [if_pos hp, queue_eq_nil.mpr (List.isEmpty_iff.mp hp), List.nil_append]
  · rw [if_neg hp, List.append_nil]
    unfold advance refill
    rw [if_neg hp]

/-- **The new pages** are none, or all pages of a refill that fits.  Only a refill that does not fit
uses up sequences for nothing. -/
theorem newPages_cases (env : Env) (hseq : (st.completeFront ack).SequencesFit store t) :
    (st.newPages env store t ack = [] ∧
        (st.advance env store t ack).nextEventSequence = st.nextEventSequence) ∨
      ((st.completeFront ack).pending = [] ∧
        ((st.completeFront ack).refillOf store t).hasPages ∧
        ¬((st.completeFront ack).refillOf store t).Fits env st.nextEventSequence ∧
        st.newPages env store t ack = [] ∧
        st.nextEventSequence ≤ (st.advance env store t ack).nextEventSequence) ∨
      ((st.completeFront ack).pending = [] ∧
        ((st.completeFront ack).refillOf store t).hasPages ∧
        ((st.completeFront ack).refillOf store t).Fits env st.nextEventSequence ∧
        st.newPages env store t ack =
          ((st.completeFront ack).refillOf store t).pages env st.nextEventSequence ∧
        (st.advance env store t ack).nextEventSequence =
          st.nextEventSequence + ((st.completeFront ack).refillOf store t).pageCount) := by
  unfold newPages advance
  rcases refill_cases env hseq with ⟨hp, h⟩ | ⟨hp, hpages, hfits, hq, hnext, -⟩ |
    ⟨hp, hpages, hfits, m, -, h⟩ | ⟨hp, hpages, h⟩
  · refine Or.inl ⟨if_neg (by simpa using hp), ?_⟩
    rw [h, completeFront_next]
  · rw [completeFront_next] at hfits hq hnext
    refine Or.inr (Or.inr ⟨hp, hpages, hfits, ?_, hnext⟩)
    rw [if_pos (List.isEmpty_iff.mpr hp), hq]
  · rw [completeFront_next] at hfits
    refine Or.inr (Or.inl ⟨hp, hpages, hfits, ?_, ?_⟩)
    · rw [if_pos (List.isEmpty_iff.mpr hp), h]
      exact queue_eq_nil.mpr hp
    · rw [h]
      simp
  · refine Or.inl ⟨?_, ?_⟩
    · rw [if_pos (List.isEmpty_iff.mpr hp), h]
      exact queue_eq_nil.mpr hp
    · rw [h]
      simp

/-! ## Consecutive sequences -/

/-- **The sequences in the queue are consecutive** and end at the last one handed out. -/
def Contiguous (st : SubscriberState) : Prop :=
  st.queue.length ≤ st.nextEventSequence ∧
    st.queue.map Page.sequence =
      List.range' (st.nextEventSequence + 1 - st.queue.length) st.queue.length

/-- The sequence at the front of the queue; of an empty queue, the one that comes next. -/
def frontSequence (st : SubscriberState) : ℕ :=
  (st.queue.head?.map Page.sequence).getD (st.nextEventSequence + 1)

theorem sequences_pages (r : Refill) (next : ℕ) :
    (r.pages env next).map Page.sequence = List.range' (next + 1) r.pageCount := by
  unfold Refill.pages
  rw [List.map_map, List.range'_eq_map_range]
  rfl

@[simp] theorem length_pages (r : Refill) (next : ℕ) :
    (r.pages env next).length = r.pageCount := by
  unfold Refill.pages
  simp

theorem Contiguous.frontSequence_eq (h : st.Contiguous) :
    st.frontSequence = st.nextEventSequence + 1 - st.queue.length := by
  unfold frontSequence
  rcases hq : st.queue with _ | ⟨front, rest⟩
  · simp
  · have hseq := h.2
    rw [hq, List.length_cons, List.range'_succ, List.map_cons, List.cons.injEq] at hseq
    simpa using hseq.1

theorem Contiguous.completeFront (h : st.Contiguous) (ack : ℕ) :
    (st.completeFront ack).Contiguous := by
  unfold Contiguous
  rw [completeFront_next]
  rcases completeFront_queue st ack with ⟨hq, -⟩ | ⟨front, hq, -⟩
  · rw [hq]
    exact h
  · obtain ⟨hlen, hseq⟩ := h
    rw [hq, List.length_cons] at hlen hseq
    rw [List.range'_succ, List.map_cons, List.cons.injEq] at hseq
    refine ⟨by omega, ?_⟩
    rw [hseq.2]
    congr 1
    omega

/-- **A turn keeps the sequences consecutive**, even if a page is rejected. -/
theorem Contiguous.advance (env : Env) (h : st.Contiguous)
    (hseq : (st.completeFront ack).SequencesFit store t) :
    (st.advance env store t ack).Contiguous := by
  have hfront := h.completeFront ack
  unfold Contiguous at hfront ⊢
  rw [completeFront_next] at hfront
  rw [advance_queue]
  rcases newPages_cases env hseq with ⟨hnew, hnext⟩ | ⟨hp, -, -, hnew, -⟩ |
    ⟨hp, -, -, hnew, hnext⟩
  · rw [hnew, hnext, List.append_nil]
    exact hfront
  · rw [hnew, queue_eq_nil.mpr hp]
    simp
  · rw [hnew, hnext, queue_eq_nil.mpr hp, List.nil_append, sequences_pages, length_pages]
    exact ⟨by omega, by congr 1; omega⟩

theorem Contiguous.of_sameQueue {st' : SubscriberState} (h : st.Contiguous)
    (hsame : st.SameQueue st') : st'.Contiguous := by
  unfold Contiguous at h ⊢
  rw [hsame.queue, hsame.nextEventSequence]
  exact h

theorem contiguous_empty : ({} : SubscriberState).Contiguous := ⟨le_refl 0, rfl⟩

end SubscriberState

end FlyRuler.Cursor
