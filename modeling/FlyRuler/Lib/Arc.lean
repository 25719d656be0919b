import Mathlib.Algebra.Order.Round
import Mathlib.Tactic.Linarith
import Mathlib.Tactic.LinearCombination
import Mathlib.Tactic.Ring

/-!
# The shorter way round

Numbers that differ by a multiple of the period are the same point of a circle.  A straight motion
from `a` to `b` may go the longer way, or round several times.  Coming backward from `b` it is on
the shorter arc as long as the distance covered is at most what `|b - a|` exceeds a multiple of the
period by (`onShorterArc_back`), and otherwise it leaves it somewhere (`exists_off_arc`).
-/

namespace FlyRuler.Lib.Arc

variable {K : Type} [Field K] [LinearOrder K]

/-- The point `x` lies on a shorter arc between `a` and `b`. -/
def OnShorterArc (period a b x : K) : Prop :=
  ∃ m n : ℤ, |b - a + m * period| ≤ period / 2 ∧
    ∃ s, 0 ≤ s ∧ s ≤ 1 ∧ x = a + s * (b - a + m * period) + n * period

variable {period a b : K}

/-- The mirror image. -/
theorem OnShorterArc.neg {x : K} (h : OnShorterArc period a b x) :
    OnShorterArc period (-a) (-b) (-x) := by
  obtain ⟨m, n, hm, s, hs, hs', hx⟩ := h
  have hmirror : -b - -a + ((-m : ℤ) : K) * period = -(b - a + m * period) := by
    push_cast
    ring
  refine ⟨-m, -n, ?_, s, hs, hs', ?_⟩
  · rw [hmirror, abs_neg]
    exact hm
  · rw [hmirror, hx]
    push_cast
    ring

theorem onShorterArc_neg_iff {x : K} :
    OnShorterArc period (-a) (-b) (-x) ↔ OnShorterArc period a b x := by
  refine ⟨fun h => ?_, OnShorterArc.neg⟩
  have := h.neg
  rwa [neg_neg, neg_neg, neg_neg] at this

variable [IsStrictOrderedRing K]

/-- The end itself. -/
theorem onShorterArc_right [FloorRing K] (hperiod : 0 < period) (a b : K) :
    OnShorterArc period a b b := by
  have hround := abs_sub_round ((b - a) / period)
  refine ⟨-round ((b - a) / period), round ((b - a) / period), ?_, 1, zero_le_one, le_refl _, ?_⟩
  · have hscale : b - a + ((-round ((b - a) / period) : ℤ) : K) * period =
        ((b - a) / period - round ((b - a) / period)) * period := by
      rw [sub_mul, div_mul_cancel₀ _ hperiod.ne']
      push_cast
      ring
    rw [hscale, abs_mul, abs_of_pos hperiod]
    linarith [mul_le_mul_of_nonneg_right hround hperiod.le]
  · push_cast
    ring

/-- **A short way back** stays on the shorter arc. -/
theorem onShorterArc_back {u : K} {k : ℤ} (hu : 0 ≤ u)
    (hcover : u * |b - a| ≤ |b - a| - k * period)
    (hshort : |b - a| - k * period ≤ period / 2) :
    OnShorterArc period a b (b - u * (b - a)) := by
  -- the mirror image turns a motion downward into one upward
  have hup : ∀ a b : K, 0 ≤ b - a → u * (b - a) ≤ b - a - k * period →
      b - a - k * period ≤ period / 2 → OnShorterArc period a b (b - u * (b - a)) := by
    intro a b hab hcover hshort
    have hback : 0 ≤ u * (b - a) := mul_nonneg hu hab
    have hrest : b - a + ((-k : ℤ) : K) * period = b - a - k * period := by
      push_cast
      ring
    rcases eq_or_ne (b - a - k * period) 0 with hzero | hne
    · refine ⟨-k, k, ?_, 0, le_refl _, zero_le_one, ?_⟩
      · rw [hrest, abs_of_nonneg (hback.trans hcover)]
        exact hshort
      · have hnone : u * (b - a) = 0 := le_antisymm (hzero ▸ hcover) hback
        rw [hnone]
        linear_combination hzero
    · have hpos : 0 < b - a - k * period := lt_of_le_of_ne (hback.trans hcover) (Ne.symm hne)
      refine ⟨-k, k, ?_, 1 - u * (b - a) / (b - a - k * period), ?_, ?_, ?_⟩
      · rw [hrest, abs_of_pos hpos]
        exact hshort
      · rw [sub_nonneg, div_le_one hpos]
        exact hcover
      · rw [sub_le_self_iff]
        exact div_nonneg hback hpos.le
      · rw [hrest, sub_mul, div_mul_cancel₀ _ hne]
        ring
  rcases le_total 0 (b - a) with hab | hab
  · rw [abs_of_nonneg hab] at hcover hshort
    exact hup a b hab hcover hshort
  · rw [abs_of_nonpos hab] at hcover hshort
    have hmirror := hup (-a) (-b) (by linarith) (by linarith) (by linarith)
    rw [← onShorterArc_neg_iff]
    have heq : -b - u * (-b - -a) = -(b - u * (b - a)) := by ring
    rwa [heq] at hmirror

/-- Farther back than the shorter arc reaches. -/
theorem not_onShorterArc (k : ℤ) (hlow : -(period / 2) < b - a - k * period) {v : K}
    (hzero : 0 < v) (hv : b - a - k * period < v) (hhalf : v < period / 2) :
    ¬OnShorterArc period a b (b - v) := by
  rintro ⟨m, n, hm, s, hs, hs', hx⟩
  have hperiod : 0 < period := by linarith
  obtain ⟨hm, hm'⟩ := abs_le.mp hm
  -- both are the one representative of the difference in the half period around zero
  have hmk : m = -k := by
    have hlt : ((m + k : ℤ) : K) < 1 := by
      push_cast
      by_contra hge
      have := mul_le_mul_of_nonneg_right (not_lt.mp hge) hperiod.le
      linarith
    have hgt : (-1 : K) < ((m + k : ℤ) : K) := by
      push_cast
      by_contra hle
      have := mul_le_mul_of_nonneg_right (not_lt.mp hle) hperiod.le
      linarith
    have hlt : m + k < 1 := by exact_mod_cast hlt
    have hgt : -1 < m + k := by exact_mod_cast hgt
    omega
  subst hmk
  have hv' : v = (1 - s) * (b - a - k * period) + ((k - n : ℤ) : K) * period := by
    push_cast at hx ⊢
    linear_combination -hx
  have hturns : 1 ≤ k - n := by
    have hpos : 0 < ((k - n : ℤ) : K) := by
      by_contra hle
      have hnone := mul_nonpos_of_nonpos_of_nonneg (not_lt.mp hle) hperiod.le
      rcases le_total 0 (b - a - k * period) with hrest | hrest
      · have := mul_le_of_le_one_left hrest (by linarith : 1 - s ≤ 1)
        linarith
      · have := mul_nonpos_of_nonneg_of_nonpos (by linarith : 0 ≤ 1 - s) hrest
        linarith
    have hpos : 0 < k - n := by exact_mod_cast hpos
    omega
  have hturn : period ≤ ((k - n : ℤ) : K) * period := by
    have hone : (1 : K) ≤ ((k - n : ℤ) : K) := by exact_mod_cast hturns
    have := mul_le_mul_of_nonneg_right hone hperiod.le
    linarith
  rcases le_total 0 (b - a - k * period) with hrest | hrest
  · have := mul_nonneg (by linarith : 0 ≤ 1 - s) hrest
    linarith
  · have := mul_le_mul_of_nonpos_right (by linarith : 1 - s ≤ 1) hrest
    linarith

/-- **Too long a way back** leaves the shorter arc, between two distances from `b`. -/
theorem exists_off_arc [FloorRing K] (hperiod : 0 < period) {reach : K} (hreach : 0 < reach)
    (hlong : ∀ k : ℤ, |b - a| - k * period ≤ period / 2 → ¬reach ≤ |b - a| - k * period)
    (hopposite : ∀ k : ℤ, |b - a| - k * period ≠ period / 2) :
    ∃ near far, 0 ≤ near ∧ near < far ∧ far ≤ reach ∧ ∀ u, near < u * |b - a| → u * |b - a| < far →
      ¬OnShorterArc period a b (b - u * (b - a)) := by
  have hlow : (|b - a| - period / 2) / period ≤ ⌈(|b - a| - period / 2) / period⌉ := Int.le_ceil _
  have hhigh := Int.ceil_lt_add_one ((|b - a| - period / 2) / period)
  generalize ⌈(|b - a| - period / 2) / period⌉ = k at hlow hhigh
  rw [div_le_iff₀ hperiod] at hlow
  rw [← sub_lt_iff_lt_add, lt_div_iff₀ hperiod, sub_mul] at hhigh
  have hle : |b - a| - k * period ≤ period / 2 := by linarith
  have hlt : |b - a| - k * period < period / 2 := lt_of_le_of_ne hle (hopposite k)
  have hgt : -(period / 2) < |b - a| - k * period := by linarith
  have hshort := not_le.mp (hlong k hle)
  refine ⟨max (|b - a| - k * period) 0, min reach (period / 2), le_max_right _ _, ?_,
    min_le_left _ _, fun u hnear hfar => ?_⟩
  · exact max_lt (lt_min hshort hlt) (lt_min hreach (by linarith))
  · obtain ⟨hrest, hzero⟩ := max_lt_iff.mp hnear
    obtain ⟨-, hhalf⟩ := lt_min_iff.mp hfar
    rcases le_total 0 (b - a) with hab | hab
    · rw [abs_of_nonneg hab] at hgt hrest hzero hhalf
      exact not_onShorterArc k hgt hzero hrest hhalf
    · rw [abs_of_nonpos hab] at hgt hrest hzero hhalf
      rw [← onShorterArc_neg_iff]
      have heq : -(b - u * (b - a)) = -b - u * -(b - a) := by ring
      rw [heq]
      exact not_onShorterArc k (by linarith) hzero (by linarith) hhalf

end FlyRuler.Lib.Arc
