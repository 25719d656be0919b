import Mathlib.Data.Set.Basic
import Mathlib.Order.RelClasses

/-!
# Walks along a strict order

A walk goes from a position to the nearest element of a set behind it, and so on until the number of
steps is used up or nothing is left.  On the list of the set in order it takes the elements behind
the position one after the other (`steps_eq_take`), and two walks one after the other are one
(`walk_add`).
-/

namespace FlyRuler.Lib.Walk

variable {α : Type}

/-- The elements a walk of at most `n` steps comes to. -/
def steps (next : α → Option α) : ℕ → α → List α
  | 0, _ => []
  | n + 1, x =>
    match next x with
    | some y => y :: steps next n y
    | none => []

/-- Where a walk of at most `n` steps ends. -/
def walk (next : α → Option α) (n : ℕ) (x : α) : α := (steps next n x).getLast?.getD x

/-- The nearest element of `s` behind `x`, if there is any behind `x`. -/
def Nearest (r : α → α → Prop) (s : Set α) (x : α) : Option α → Prop
  | none => ∀ z ∈ s, ¬r x z
  | some y => y ∈ s ∧ r x y ∧ ∀ z ∈ s, r x z → z = y ∨ r y z

/-! ## Walks one after the other -/

section Composition
variable {next : α → Option α}

theorem walk_succ_of_some {x y : α} (h : next x = some y) (n : ℕ) :
    walk next (n + 1) x = walk next n y := by
  unfold walk
  rw [steps, h]
  show (y :: steps next n y).getLast?.getD x = _
  rw [List.getLast?_cons, Option.getD_some]

theorem walk_of_none {x : α} (h : next x = none) : ∀ n, walk next n x = x
  | 0 => rfl
  | n + 1 => by
    unfold walk
    rw [steps, h]
    rfl

/-- **Two walks are one.** -/
theorem walk_add (m n : ℕ) (x : α) : walk next n (walk next m x) = walk next (m + n) x := by
  induction m generalizing x with
  | zero => rw [Nat.zero_add]; rfl
  | succ m ih =>
    rw [show m + 1 + n = m + n + 1 by omega]
    rcases h : next x with _ | y
    · rw [walk_of_none h, walk_of_none h, walk_of_none h]
    · rw [walk_succ_of_some h, walk_succ_of_some h, ih]

/-- A walk that goes from element to element of a set ends in it, unless it stays where it is. -/
theorem walk_eq_or_mem {s : Set α} (hnext : ∀ x, next x = none ∨ ∃ y ∈ s, next x = some y) (n : ℕ)
    (x : α) : walk next n x = x ∨ walk next n x ∈ s := by
  induction n generalizing x with
  | zero => exact .inl rfl
  | succ n ih =>
    rcases hnext x with h | ⟨y, hy, h⟩
    · exact .inl (walk_of_none h _)
    · rw [walk_succ_of_some h]
      rcases ih y with heq | hmem
      · rw [heq]
        exact .inr hy
      · exact .inr hmem

end Composition

/-! ## Walks on a list in order -/

section Ordered
variable {r : α → α → Prop} [DecidableRel r] [IsStrictOrder α r] {l : List α}

/-- The element nearest to `x` is the first of the list behind `x`. -/
theorem head?_filter_of_nearest (hl : l.Pairwise r) {x : α} {o : Option α}
    (h : Nearest r {y | y ∈ l} x o) : (l.filter fun y => decide (r x y)).head? = o := by
  rcases hfilter : l.filter (fun y => decide (r x y)) with _ | ⟨z, rest⟩
  · cases o with
    | none => rfl
    | some y =>
      have hy : y ∈ l.filter fun y => decide (r x y) :=
        List.mem_filter.mpr ⟨h.1, decide_eq_true h.2.1⟩
      rw [hfilter] at hy
      exact absurd hy List.not_mem_nil
  · have hz : z ∈ l.filter fun y => decide (r x y) := by rw [hfilter]; exact List.mem_cons_self
    have hxz : r x z := of_decide_eq_true (List.mem_filter.mp hz).2
    cases o with
    | none => exact absurd hxz (h z (List.mem_filter.mp hz).1)
    | some y =>
      rcases h.2.2 z (List.mem_filter.mp hz).1 hxz with rfl | hyz
      · rfl
      · -- `y` would stand behind `z` in the list
        have hy : y ∈ z :: rest := by
          rw [← hfilter]
          exact List.mem_filter.mpr ⟨h.1, decide_eq_true h.2.1⟩
        rcases List.mem_cons.mp hy with rfl | hrest
        · rfl
        · have hsorted : (z :: rest).Pairwise r := by rw [← hfilter]; exact hl.filter _
          exact absurd (trans_of r hyz (List.rel_of_pairwise_cons hsorted hrest)) (irrefl_of r y)

/-- What is behind the first element behind `x` is the rest. -/
theorem filter_of_filter_eq_cons (hl : l.Pairwise r) {x y : α} {rest : List α}
    (h : (l.filter fun z => decide (r x z)) = y :: rest) :
    (l.filter fun z => decide (r y z)) = rest := by
  have hxy : r x y := by
    have hy : y ∈ l.filter fun z => decide (r x z) := by rw [h]; exact List.mem_cons_self
    exact of_decide_eq_true (List.mem_filter.mp hy).2
  have hsub : (l.filter fun z => decide (r y z)) = (y :: rest).filter fun z => decide (r y z) := by
    rw [← h, List.filter_filter]
    refine List.filter_congr fun z _ => ?_
    by_cases hyz : r y z
    · simp [hyz, trans_of r hxy hyz]
    · simp [hyz]
  have hsorted : (y :: rest).Pairwise r := by rw [← h]; exact hl.filter _
  rw [hsub, List.filter_cons_of_neg (by simp [irrefl_of r y]), List.filter_eq_self]
  exact fun z hz => decide_eq_true (List.rel_of_pairwise_cons hsorted hz)

/-- **A walk takes the elements behind `x` in order.** -/
theorem steps_eq_take {next : α → Option α} (hl : l.Pairwise r)
    (hnext : ∀ x, Nearest r {y | y ∈ l} x (next x)) (n : ℕ) (x : α) :
    steps next n x = (l.filter fun y => decide (r x y)).take n := by
  induction n generalizing x with
  | zero => rfl
  | succ n ih =>
    have hhead := head?_filter_of_nearest hl (hnext x)
    rw [steps]
    rcases hfilter : l.filter (fun y => decide (r x y)) with _ | ⟨y, rest⟩
    · rw [hfilter] at hhead
      rw [← hhead]
      rfl
    · rw [hfilter] at hhead
      rw [← hhead, List.take_succ_cons]
      show y :: steps next n y = y :: rest.take n
      rw [ih, filter_of_filter_eq_cons hl hfilter]

end Ordered

end FlyRuler.Lib.Walk
