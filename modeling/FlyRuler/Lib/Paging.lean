import FlyRuler.Lib.Chunks
import FlyRuler.Lib.TimeOrder

/-!
# Slices and pages of a list

A slice of a list fails when its ends are out of order or out of the list (`slice`).  Between two
partition points it is what one predicate leaves of the other (`slice_partitionPoint`), and the
pages of one size, side by side, are the whole list (`flatMap_page`).
-/

namespace FlyRuler.Lib.Paging

open FlyRuler.Lib.Chunks FlyRuler.Lib.TimeOrder

variable {α : Type}

/-- The elements from `first` to before `last`, which must lie in the list in this order. -/
def slice (items : List α) (first last : ℕ) : Option (List α) :=
  if first ≤ last ∧ last ≤ items.length then some ((items.take last).drop first) else none

/-- Addition that stops at `top`. -/
def saturatingAdd (top a b : ℕ) : ℕ := min (a + b) top

/-- The page of a list at an offset. -/
def page (items : List α) (offset limit : ℕ) : List α := (items.drop offset).take limit

/-- **Between two partition points** stands what satisfies the second predicate only. -/
theorem slice_partitionPoint {p q : α → Bool} {items : List α} (hp : Partitioned p items)
    (hq : Partitioned q items) (hpq : ∀ a, p a = true → q a = true) :
    slice items (partitionPoint p items) (partitionPoint q items) =
      some (items.filter fun a => !p a && q a) := by
  have hle : partitionPoint p items ≤ partitionPoint q items := by
    rw [partitionPoint_eq hp, partitionPoint_eq hq]
    exact List.countP_mono_left fun a _ => hpq a
  have hlen : partitionPoint q items ≤ items.length := by
    rw [partitionPoint_eq hq]
    exact List.countP_le_length
  have hpart : partitionPoint p items = partitionPoint p (items.filter q) := by
    rw [partitionPoint_eq hp, partitionPoint_eq (hp.filter _), List.countP_filter]
    refine List.countP_congr fun a _ => ?_
    rw [Bool.and_eq_true]
    exact ⟨fun ha => ⟨ha, hpq a ha⟩, And.left⟩
  unfold slice
  rw [if_pos ⟨hle, hlen⟩, take_partitionPoint hq, hpart, drop_partitionPoint (hp.filter _),
    List.filter_filter]

/-- **A slice cut with saturation** is the page, if the list is not longer than the top. -/
theorem slice_saturatingAdd {items : List α} {top : ℕ} (htop : items.length ≤ top)
    (offset limit : ℕ) :
    slice items (min offset items.length)
      (min (saturatingAdd top (min offset items.length) limit) items.length) =
        some (page items offset limit) := by
  have hstop : min (saturatingAdd top (min offset items.length) limit) items.length =
      min (min offset items.length + limit) items.length := by
    unfold saturatingAdd
    omega
  have hle : min offset items.length ≤ min (min offset items.length + limit) items.length := by
    omega
  unfold slice page
  rw [hstop, if_pos ⟨hle, min_le_right _ _⟩]
  refine congrArg some ?_
  rcases le_total offset items.length with hoffset | hoffset
  · rw [min_eq_left hoffset, ← List.take_take, List.take_length]
    rw [List.take_drop]
  · rw [min_eq_right hoffset, List.drop_eq_nil_of_le hoffset, List.take_nil]
    exact List.drop_eq_nil_of_le ((List.length_take_le _ _).trans (min_le_right _ _))

/-- **The pages of one size are the whole list.** -/
theorem flatMap_page {limit : ℕ} (hlimit : 0 < limit) (items : List α) :
    ((List.range (divCeil items.length limit)).flatMap fun k => page items (k * limit) limit) =
      items := by
  have hchunks := flatten_chunks hlimit items
  unfold chunks at hchunks
  rw [← List.flatMap_def] at hchunks
  exact hchunks

end FlyRuler.Lib.Paging
