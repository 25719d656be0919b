import Mathlib.Data.List.Basic
import Mathlib.Data.List.Range
import Mathlib.Logic.Function.Basic

/-!
# Cutting a list into chunks and filling a row of slots

`chunks n l` cuts `l` into pieces of `n` elements, the last one possibly shorter; there are
`divCeil l.length n` of them, and joined they are `l` again (`flatten_chunks`).  `slots` is the row
of those pieces of which a set of indices has arrived; one more arrival fills one slot
(`slots_set`), and a row without a hole is the whole list (`flatten_slots`).
-/

namespace FlyRuler.Lib.Chunks

variable {α : Type}

/-- Division rounding up. -/
def divCeil (a b : ℕ) : ℕ := (a + b - 1) / b

/-- The `i`-th piece of `n` elements. -/
def chunk (n : ℕ) (l : List α) (i : ℕ) : List α := (l.drop (i * n)).take n

/-- All pieces of `n` elements. -/
def chunks (n : ℕ) (l : List α) : List (List α) :=
  (List.range (divCeil l.length n)).map (chunk n l)

theorem le_divCeil_mul {n : ℕ} (hn : 0 < n) (a : ℕ) : a ≤ divCeil a n * n := by
  unfold divCeil
  have h := Nat.div_add_mod (a + n - 1) n
  have hmod := Nat.mod_lt (a + n - 1) hn
  rw [Nat.mul_comm] at h
  omega

theorem divCeil_pos {n a : ℕ} (hn : 0 < n) (ha : 0 < a) : 0 < divCeil a n := by
  have h := le_divCeil_mul hn a
  by_contra h0
  rw [Nat.eq_zero_of_not_pos h0, Nat.zero_mul] at h
  omega

theorem divCeil_le_divCeil {a b : ℕ} (h : a ≤ b) (n : ℕ) : divCeil a n ≤ divCeil b n :=
  Nat.div_le_div_right (by omega)

theorem flatMap_chunk (n : ℕ) (l : List α) (k : ℕ) :
    (List.range k).flatMap (chunk n l) = l.take (k * n) := by
  induction k with
  | zero => simp
  | succ k ih =>
    rw [List.range_succ, List.flatMap_append, ih, List.flatMap_singleton, Nat.succ_mul,
      List.take_add]
    rfl

/-- **Joined, the pieces are the list.** -/
theorem flatten_chunks {n : ℕ} (hn : 0 < n) (l : List α) : (chunks n l).flatten = l := by
  unfold chunks
  rw [← List.flatMap_def, flatMap_chunk, List.take_of_length_le (le_divCeil_mul hn l.length)]

/-! ## Slots -/

/-- The first `k` values of `f`, of which those at the indices satisfying `seen` are there. -/
def slots {β : Type} (f : ℕ → β) (k : ℕ) (seen : ℕ → Bool) : List (Option β) :=
  (List.range k).map fun i => if seen i then some (f i) else none

variable {β : Type} {f : ℕ → β} {k : ℕ} {seen : ℕ → Bool}

@[simp] theorem length_slots : (slots f k seen).length = k := by simp [slots]

theorem slots_none (f : ℕ → β) (k : ℕ) :
    slots f k (fun _ => false) = List.replicate k none := by
  simp [slots, List.map_const']

/-- **One more arrival fills one slot.** -/
theorem slots_set {j : ℕ} :
    (slots f k seen).set j (some (f j)) = slots f k (fun i => decide (i = j) || seen i) := by
  refine List.ext_getElem? fun i => ?_
  unfold slots
  rw [List.getElem?_set, List.getElem?_map, List.getElem?_map, List.length_map, List.length_range]
  by_cases hij : j = i
  · subst hij
    by_cases hj : j < k
    · simp [hj]
    · simp [hj]
  · have hji : i ≠ j := Ne.symm hij
    rw [if_neg hij]
    by_cases hi : i < k
    · simp [hi, hji]
    · simp [hi]

theorem any_isNone_slots :
    (slots f k seen).any Option.isNone = false ↔ ∀ i < k, seen i = true := by
  unfold slots
  simp only [List.any_map, List.any_eq_false, List.mem_range, Function.comp_apply]
  refine forall₂_congr fun i _ => ?_
  cases seen i <;> simp

/-- **A row without a hole is the whole.** -/
theorem flatMap_slots {f : ℕ → List α} (h : ∀ i < k, seen i = true) :
    (slots f k seen).flatMap (fun o => o.getD []) = (List.range k).flatMap f := by
  unfold slots
  rw [List.flatMap_map]
  refine List.flatMap_congr fun i hi => ?_
  rw [h i (List.mem_range.mp hi)]
  rfl

end FlyRuler.Lib.Chunks
