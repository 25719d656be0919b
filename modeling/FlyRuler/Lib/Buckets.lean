import Mathlib.Algebra.Order.Floor.Semiring
import Mathlib.Algebra.Order.Ring.Rat
import Mathlib.Data.List.Range
import Mathlib.Data.Rat.Floor
import Mathlib.Order.Interval.Set.Union

/-!
# Buckets and the first maximum of a scan

The multiples of a ratio that is at least one have increasing floors, so that the intervals between
them are non-empty, disjoint and cover everything between the first and the last.  A scan that
replaces its incumbent only by something larger ends at the first maximum.

* `floor_mul_lt`: the floors of consecutive multiples differ.
* `exists_bucket`: the buckets cover what lies between their ends.
* `scan_firstMax`: the scan finds the first maximum.
-/

namespace FlyRuler.Lib.Buckets

/-! ## Floors of multiples -/

theorem floor_mul_mono {ratio : ℚ} (h : 0 ≤ ratio) : Monotone fun i : ℕ => ⌊(i : ℚ) * ratio⌋₊ := by
  intro i j hij
  have hcast : (i : ℚ) ≤ (j : ℚ) := by exact_mod_cast hij
  exact Nat.floor_mono (mul_le_mul_of_nonneg_right hcast h)

theorem floor_mul_lt {ratio : ℚ} (h : 1 ≤ ratio) (i : ℕ) :
    ⌊(i : ℚ) * ratio⌋₊ < ⌊((i : ℚ) + 1) * ratio⌋₊ := by
  have hpos : (0 : ℚ) ≤ (i : ℚ) * ratio := by positivity
  have hle : (i : ℚ) * ratio + 1 ≤ ((i : ℚ) + 1) * ratio := by linarith
  have hfloor : ⌊(i : ℚ) * ratio⌋₊ + 1 ≤ ⌊((i : ℚ) + 1) * ratio⌋₊ := by
    rw [← Nat.floor_add_one hpos]
    exact Nat.floor_mono hle
  omega

/-! ## Intervals between boundaries -/

section Intervals

variable {bound : ℕ → ℕ}

theorem exists_bucket {k j : ℕ} (hlo : bound 0 ≤ j) (hhi : j < bound k) :
    ∃ i < k, bound i ≤ j ∧ j < bound (i + 1) := by
  have hmem := Ico_subset_biUnion_Ico k bound ⟨hlo, hhi⟩
  simp only [Set.mem_iUnion, Finset.mem_range, Set.mem_Ico] at hmem
  obtain ⟨i, hi, hij⟩ := hmem
  exact ⟨i, hi, hij⟩

theorem bucket_unique (hmono : Monotone bound) {i i' j : ℕ} (h : bound i ≤ j ∧ j < bound (i + 1))
    (h' : bound i' ≤ j ∧ j < bound (i' + 1)) : i = i' := by
  by_contra hne
  rcases lt_or_gt_of_ne hne with hlt | hlt
  · have := hmono (show i + 1 ≤ i' by omega)
    omega
  · have := hmono (show i' + 1 ≤ i by omega)
    omega

end Intervals

/-! ## The first maximum -/

/-- `j` is the first place of `[lo, hi)` at which `f` is largest. -/
structure FirstMax (f : ℕ → ℚ) (lo hi j : ℕ) : Prop where
  lower : lo ≤ j
  upper : j < hi
  before : ∀ k, lo ≤ k → k < j → f k < f j
  after : ∀ k, j ≤ k → k < hi → f k ≤ f j

theorem FirstMax.le {f : ℕ → ℚ} {lo hi j k : ℕ} (h : FirstMax f lo hi j) (hlo : lo ≤ k)
    (hhi : k < hi) : f k ≤ f j := by
  rcases lt_or_ge k j with hlt | hge
  · exact (h.before k hlo hlt).le
  · exact h.after k hge hhi

/-- One more place, which wins or is skipped. -/
theorem FirstMax.extend {f : ℕ → ℚ} {lo hi j : ℕ} (h : FirstMax f lo hi j) :
    FirstMax f lo (hi + 1) (if f j < f hi then hi else j) := by
  have hlower := h.lower
  have hupper := h.upper
  split_ifs with hlt
  · refine ⟨by omega, by omega, fun k hlo hk => ?_, fun k hk hhi => ?_⟩
    · exact lt_of_le_of_lt (h.le hlo hk) hlt
    · rw [show k = hi by omega]
  · refine ⟨hlower, by omega, h.before, fun k hk hhi => ?_⟩
    rcases Nat.lt_succ_iff_lt_or_eq.mp hhi with hk' | rfl
    · exact h.after k hk hk'
    · exact not_lt.mp hlt

/-- One step of a scan: the incumbent and its value. -/
def scanStep (f : ℕ → ℚ) (best : ℕ × ℚ) (k : ℕ) : ℕ × ℚ := if best.2 < f k then (k, f k) else best

theorem scan_firstMax {f : ℕ → ℚ} {least : ℚ} (hleast : ∀ k, least < f k) (lo other count : ℕ) :
    FirstMax f lo (lo + (count + 1))
      ((List.range' lo (count + 1)).foldl (scanStep f) (other, least)).1 := by
  -- after the first place the incumbent carries its own value
  have hscan : ∃ j, (List.range' lo (count + 1)).foldl (scanStep f) (other, least) = (j, f j) ∧
      FirstMax f lo (lo + (count + 1)) j := by
    induction count with
    | zero =>
      refine ⟨lo, ?_, ⟨le_rfl, by omega, fun k hlo hk => by omega, fun k hk hhi => ?_⟩⟩
      · simp [scanStep, hleast lo]
      · rw [show k = lo by omega]
    | succ count ih =>
      obtain ⟨j, hj, hfirst⟩ := ih
      refine ⟨if f j < f (lo + (count + 1)) then lo + (count + 1) else j, ?_, hfirst.extend⟩
      rw [List.range'_concat, List.foldl_append, hj, one_mul]
      simp only [List.foldl_cons, List.foldl_nil, scanStep]
      split_ifs <;> rfl
  obtain ⟨j, hj, hfirst⟩ := hscan
  rw [hj]
  exact hfirst

end FlyRuler.Lib.Buckets
