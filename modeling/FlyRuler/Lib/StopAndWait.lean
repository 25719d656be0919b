import Mathlib.Data.List.Basic
import Mathlib.Order.Lattice

/-!
# A stop-and-wait link

The sender has a queue of items and transmits the one at its front, any number of times, until it
knows that the receiver has seen it; the network may lose, repeat and reorder what is transmitted.
`Link.Sound` is what the operations keep: everything taken off the queue has been seen, and
everything transmitted has been taken off the queue or is at its front.

* `Sound.confirm`, `Sound.offer`, `Sound.transmit`, `Sound.receive`: the four operations.
* `Sound.first`: what arrives for the first time is the item at the front of the queue.
* `Sound.lt_of_new`: if the items are in increasing order, that item is greater than everything
  seen.
* `Sound.seen_of_le`: an item up to one that has been seen has been seen.
* `Sound.seen_or_le`: any item has been seen or is not greater than the last one in the queue.
-/

namespace FlyRuler.Lib.StopAndWait

variable {α : Type}

/-- The items taken off the queue, the queue, everything transmitted, and what the receiver has
seen. -/
structure Link (α : Type) where
  done : List α := []
  queue : List α := []
  sent : List α := []
  seen : List α := []

namespace Link

variable (link : Link α)

/-- All items there have been, in order. -/
def log : List α := link.done ++ link.queue

/-- Take `x` off the front of the queue. -/
def confirm (x : α) (rest : List α) : Link α :=
  { link with done := link.done ++ [x], queue := rest }

/-- Put items into the queue. -/
def offer (xs : List α) : Link α := { link with queue := link.queue ++ xs }

/-- Transmit copies. -/
def transmit (xs : List α) : Link α := { link with sent := link.sent ++ xs }

/-- A copy arrives and is seen. -/
def receive (x : α) : Link α := { link with seen := link.seen ++ [x] }

/-- **Everything taken off the queue has been seen, and everything transmitted has been taken off
the queue or is at its front.** -/
structure Sound : Prop where
  done : ∀ x ∈ link.done, x ∈ link.seen
  sent : ∀ x ∈ link.sent, x ∈ link.done ∨ x ∈ link.queue.head?
  seen : ∀ x ∈ link.seen, x ∈ link.sent

variable {link} {x y : α} {rest xs : List α}

theorem sound_empty : ({} : Link α).Sound := ⟨by simp, by simp, by simp⟩

@[simp] theorem log_confirm (h : link.queue = x :: rest) :
    (link.confirm x rest).log = link.log := by
  unfold log confirm
  simp [h]

@[simp] theorem log_offer : (link.offer xs).log = link.log ++ xs := by
  unfold log offer
  simp

/-! ## The operations -/

theorem Sound.confirm (h : link.Sound) (hq : link.queue = x :: rest) (hx : x ∈ link.seen) :
    (link.confirm x rest).Sound where
  done y hy := by
    rcases List.mem_append.mp hy with hy | hy
    · exact h.done y hy
    · rw [List.mem_singleton.mp hy]
      exact hx
  sent y hy := by
    rcases h.sent y hy with hdone | hfront
    · exact Or.inl (List.mem_append_left _ hdone)
    · rw [hq] at hfront
      refine Or.inl (List.mem_append_right _ ?_)
      simpa [eq_comm] using hfront
  seen := h.seen

theorem Sound.offer (h : link.Sound) (xs : List α) : (link.offer xs).Sound where
  done := h.done
  sent y hy := by
    refine (h.sent y hy).imp_right fun hfront => ?_
    unfold Link.offer
    rcases hq : link.queue with _ | ⟨z, rest⟩
    · rw [hq] at hfront
      cases hfront
    · rw [hq] at hfront
      exact hfront
  seen := h.seen

theorem Sound.transmit (h : link.Sound) (hxs : ∀ x ∈ xs, x ∈ link.queue.head?) :
    (link.transmit xs).Sound where
  done := h.done
  sent y hy := by
    rcases List.mem_append.mp hy with hy | hy
    · exact h.sent y hy
    · exact Or.inr (hxs y hy)
  seen y hy := List.mem_append_left _ (h.seen y hy)

theorem Sound.receive (h : link.Sound) (hx : x ∈ link.sent) : (link.receive x).Sound where
  done y hy := List.mem_append_left _ (h.done y hy)
  sent := h.sent
  seen y hy := by
    rcases List.mem_append.mp hy with hy | hy
    · exact h.seen y hy
    · rw [List.mem_singleton.mp hy]
      exact hx

/-! ## The order of arrivals -/

theorem Sound.mem_log (h : link.Sound) (hx : x ∈ link.sent) : x ∈ link.log := by
  rcases h.sent x hx with hdone | hfront
  · exact List.mem_append_left _ hdone
  · exact List.mem_append_right _ (List.mem_of_mem_head? hfront)

/-- **What arrives for the first time is at the front of the queue.** -/
theorem Sound.first (h : link.Sound) (hx : x ∈ link.sent) (hnew : x ∉ link.seen) :
    x ∈ link.queue.head? :=
  (h.sent x hx).resolve_left fun hdone => hnew (h.done x hdone)

section Order
variable {β : Type} [LinearOrder β] {key : α → β}

/-- In an increasing log, the item at the front comes behind everything taken off. -/
theorem lt_front (hinc : (link.log.map key).Pairwise (· < ·)) (hx : x ∈ link.queue.head?)
    (hy : y ∈ link.done) : key y < key x := by
  unfold log at hinc
  rw [List.map_append, List.pairwise_append] at hinc
  exact hinc.2.2 _ (List.mem_map_of_mem hy) _ (List.mem_map_of_mem (List.mem_of_mem_head? hx))

/-- **What arrives for the first time is greater than everything seen.** -/
theorem Sound.lt_of_new (h : link.Sound) (hinc : (link.log.map key).Pairwise (· < ·))
    (hx : x ∈ link.sent) (hnew : x ∉ link.seen) : ∀ y ∈ link.seen, key y < key x := by
  intro y hy
  have hfront := h.first hx hnew
  rcases h.sent y (h.seen y hy) with hdone | hfront'
  · exact lt_front hinc hfront hdone
  · rw [Option.mem_unique hfront hfront'] at hnew
    exact absurd hy hnew

/-- **Whatever is not greater than something seen has been seen.** -/
theorem Sound.seen_of_le (h : link.Sound) (hinc : (link.log.map key).Pairwise (· < ·))
    (hx : x ∈ link.log) (hy : y ∈ link.seen) (hle : key x ≤ key y) : x ∈ link.seen := by
  rcases List.mem_append.mp hx with hdone | hqueue
  · exact h.done x hdone
  · rcases h.sent y (h.seen y hy) with hdone' | hfront
    · -- `y` has been taken off the queue, so it comes before `x`
      unfold log at hinc
      rw [List.map_append, List.pairwise_append] at hinc
      have hlt := hinc.2.2 _ (List.mem_map_of_mem hdone') _ (List.mem_map_of_mem hqueue)
      exact absurd hle (not_le.mpr hlt)
    · rcases hq : link.queue with _ | ⟨z, rest⟩
      · rw [hq] at hqueue
        cases hqueue
      · rw [hq, List.head?_cons, Option.mem_def, Option.some.injEq] at hfront
        subst hfront
        rw [hq, List.mem_cons] at hqueue
        rcases hqueue with rfl | hrest
        · exact hy
        · unfold log at hinc
          rw [hq, List.map_append, List.pairwise_append, List.map_cons, List.pairwise_cons] at hinc
          have hlt := hinc.2.1.1 _ (List.mem_map_of_mem hrest)
          exact absurd hle (not_le.mpr hlt)

/-- In an increasing log, nothing in the queue is greater than its last item. -/
theorem le_last (hinc : (link.log.map key).Pairwise (· < ·)) (hx : x ∈ link.queue)
    (hy : y ∈ link.queue.getLast?) : key x ≤ key y := by
  unfold log at hinc
  rw [List.map_append, List.pairwise_append] at hinc
  obtain ⟨init, hinit⟩ := List.getLast?_eq_some_iff.mp hy
  rw [hinit, List.map_append, List.pairwise_append] at hinc
  rw [hinit, List.mem_append, List.mem_singleton] at hx
  rcases hx with hx | rfl
  · exact (hinc.2.1.2.2 _ (List.mem_map_of_mem hx) _ (by simp)).le
  · exact le_refl _

/-- **Any item** has been seen or is not greater than the last one in the queue. -/
theorem Sound.seen_or_le (h : link.Sound) (hinc : (link.log.map key).Pairwise (· < ·))
    (hx : x ∈ link.log) (b : β) :
    x ∈ link.seen ∨ key x ≤ (link.queue.getLast?.map key).getD b := by
  rcases List.mem_append.mp hx with hdone | hqueue
  · exact Or.inl (h.done x hdone)
  · obtain ⟨y, hy⟩ : ∃ y, y ∈ link.queue.getLast? :=
      ⟨_, List.getLast?_eq_some_getLast (List.ne_nil_of_mem hqueue)⟩
    refine Or.inr ?_
    rw [Option.mem_def.mp hy]
    exact le_last hinc hqueue hy

end Order

end Link

end FlyRuler.Lib.StopAndWait
