import Mathlib.Data.BitVec

/-!
# Linear feedback shift registers

A register of `w` bits moves down by one place and takes up the generator when a bit falls out
(`step`).  Symbols of `n` bits are fed into it: exclusive or, then `n` steps (`feed`).  If the top
bit of the generator is set, a step can be undone: a small register comes from one that is twice as
large (`toNat_of_step_lt`).

* `feed_injective`: equal symbols keep different registers apart.
* `foldl_feed_eq`: two rows of symbols that fit the register together leave the same register only
  if they are equal.
* `foldl_burst`: the same with anything before and after them.
-/

namespace FlyRuler.Lib.ShiftRegister

variable {w n : ℕ}

/-- One step: down by one place, with the generator if a bit falls out. -/
def step (generator c : BitVec w) : BitVec w :=
  (c >>> 1) ^^^ if c.getLsbD 0 then generator else 0#w

/-- Feed one symbol. -/
def feed (generator : BitVec w) (n : ℕ) (c : BitVec w) (symbol : BitVec n) : BitVec w :=
  (step generator)^[n] (c ^^^ symbol.setWidth w)

variable (generator : BitVec w)

/-- **A step is linear.** -/
theorem step_xor (c d : BitVec w) :
    step generator (c ^^^ d) = step generator c ^^^ step generator d := by
  unfold step
  rw [BitVec.ushiftRight_xor_distrib, BitVec.getLsbD_xor]
  cases c.getLsbD 0 <;> cases d.getLsbD 0
  · simp
  · simp [BitVec.xor_assoc]
  · simp only [Bool.xor_false, if_true, Bool.false_eq_true, if_false, BitVec.xor_zero]
    rw [BitVec.xor_assoc, BitVec.xor_comm (d >>> 1), ← BitVec.xor_assoc]
  · simp only [Bool.xor_self, Bool.false_eq_true, if_false, if_true, BitVec.xor_zero]
    rw [BitVec.xor_assoc, BitVec.xor_comm (d >>> 1) generator, ← BitVec.xor_assoc generator,
      BitVec.xor_self, BitVec.zero_xor]

theorem iterate_step_xor (k : ℕ) (c d : BitVec w) :
    (step generator)^[k] (c ^^^ d) = (step generator)^[k] c ^^^ (step generator)^[k] d := by
  induction k generalizing c d with
  | zero => rfl
  | succ k ih => rw [Function.iterate_succ_apply, Function.iterate_succ_apply,
      Function.iterate_succ_apply, step_xor, ih]

variable {generator}

/-- **A step undone**: what is small after the step was half as large before it. -/
theorem toNat_of_step_lt (htop : generator.msb = true) {c : BitVec w} {m : ℕ} (hm : m < w)
    (h : (step generator c).toNat < 2 ^ m) : c.toNat = 2 * (step generator c).toNat := by
  have hw : 0 < w := by omega
  -- the top bit after the step is the bit that falls out
  have hmsb : (step generator c).msb = c.getLsbD 0 := by
    have hshift : (c >>> 1).msb = false := by simp [BitVec.msb_ushiftRight]
    unfold step
    rw [BitVec.msb_xor, hshift, Bool.false_xor]
    split_ifs with hbit
    · rw [htop, hbit]
    · rw [BitVec.msb_zero, Bool.eq_false_iff.mpr hbit]
  have hlow : c.getLsbD 0 = false := by
    rw [← hmsb, BitVec.msb_eq_false_iff_two_mul_lt]
    have hpow : 2 ^ m * 2 ≤ 2 ^ w := by
      rw [← pow_succ]
      exact Nat.pow_le_pow_right (by decide) hm
    omega
  have hstep : (step generator c).toNat = c.toNat / 2 := by
    unfold step
    rw [hlow, if_neg (by decide), BitVec.xor_zero, BitVec.toNat_ushiftRight, Nat.shiftRight_one]
  have heven : c.toNat % 2 = 0 := by
    rw [BitVec.getLsbD, Nat.testBit_zero, decide_eq_false_iff_not] at hlow
    omega
  omega

/-- **Several steps undone.** -/
theorem toNat_of_iterate_lt (htop : generator.msb = true) (k : ℕ) {c : BitVec w} {m : ℕ}
    (hm : m + k ≤ w) (h : ((step generator)^[k] c).toNat < 2 ^ m) :
    c.toNat = 2 ^ k * ((step generator)^[k] c).toNat := by
  induction k generalizing c with
  | zero => simp
  | succ k ih =>
    rw [Function.iterate_succ_apply] at h ⊢
    have hone := ih (by omega) h
    have hsmall : (step generator c).toNat < 2 ^ (m + k) := by
      rw [hone, pow_add, Nat.mul_comm]
      exact Nat.mul_lt_mul_of_pos_right h (Nat.two_pow_pos k)
    rw [toNat_of_step_lt htop (by omega) hsmall, hone, pow_succ', Nat.mul_assoc]

theorem feed_xor (c d : BitVec w) (a b : BitVec n) :
    feed generator n c a ^^^ feed generator n d b =
      (step generator)^[n] ((c ^^^ d) ^^^ (a ^^^ b).setWidth w) := by
  unfold feed
  rw [← iterate_step_xor, BitVec.setWidth_xor]
  congr 1
  rw [BitVec.xor_assoc, BitVec.xor_assoc, ← BitVec.xor_assoc (a.setWidth w),
    ← BitVec.xor_assoc d, BitVec.xor_comm (a.setWidth w)]

/-- **Equal symbols keep different registers apart.** -/
theorem feed_injective (htop : generator.msb = true) (hn : n ≤ w) {c d : BitVec w}
    {symbol : BitVec n} (h : feed generator n c symbol = feed generator n d symbol) : c = d := by
  have hzero := @feed_xor _ _ generator c d symbol symbol
  rw [h, BitVec.xor_self, BitVec.xor_self, BitVec.setWidth_zero, BitVec.xor_zero] at hzero
  have hnat := toNat_of_iterate_lt htop n (m := 0) (by omega) (c := c ^^^ d)
    (by rw [← hzero]; simp)
  rw [← hzero, BitVec.toNat_zero, Nat.mul_zero] at hnat
  exact BitVec.xor_eq_zero_iff.mp (BitVec.eq_of_toNat_eq hnat)

theorem foldl_feed_injective (htop : generator.msb = true) (hn : n ≤ w) {c d : BitVec w}
    {symbols : List (BitVec n)}
    (h : symbols.foldl (feed generator n) c = symbols.foldl (feed generator n) d) : c = d := by
  induction symbols generalizing c d with
  | nil => exact h
  | cons symbol symbols ih => exact feed_injective htop hn (ih h)

/-- **Two rows of symbols that fit the register**: if they leave the same register, the registers
before them differ only in as many places, and not at all only for equal rows. -/
theorem foldl_feed_eq (htop : generator.msb = true) {as bs : List (BitVec n)}
    (hlen : as.length = bs.length) (hfits : as.length * n ≤ w) {c d : BitVec w}
    (h : as.foldl (feed generator n) c = bs.foldl (feed generator n) d) :
    (c ^^^ d).toNat < 2 ^ (as.length * n) ∧ (c = d → as = bs) := by
  induction as generalizing bs c d with
  | nil =>
    obtain rfl := List.length_eq_zero_iff.mp hlen.symm
    obtain rfl : c = d := h
    simp
  | cons a as ih =>
    obtain ⟨b, bs, rfl⟩ := List.exists_cons_of_length_pos (by rw [← hlen]; simp : 0 < bs.length)
    rw [List.length_cons, Nat.succ_mul] at hfits
    rw [List.length_cons, List.length_cons, Nat.add_right_cancel_iff] at hlen
    rw [List.foldl_cons, List.foldl_cons] at h
    obtain ⟨hsmall, hrows⟩ := ih hlen (by omega) h
    rw [feed_xor] at hsmall
    -- the difference of the registers, with that of the symbols, is a multiple of `2 ^ n`
    have hundone := toNat_of_iterate_lt htop n hfits hsmall
    have hwide : ((c ^^^ d) ^^^ (a ^^^ b).setWidth w).toNat < 2 ^ (as.length * n + n) := by
      rw [hundone, pow_add, Nat.mul_comm]
      exact Nat.mul_lt_mul_of_pos_right hsmall (Nat.two_pow_pos n)
    have hsymbol : ((a ^^^ b).setWidth w).toNat < 2 ^ n := by
      rw [BitVec.toNat_setWidth]
      exact (Nat.mod_le _ _).trans_lt (a ^^^ b).isLt
    constructor
    · have hback : (c ^^^ d) = ((c ^^^ d) ^^^ (a ^^^ b).setWidth w) ^^^ (a ^^^ b).setWidth w := by
        rw [BitVec.xor_assoc, BitVec.xor_self, BitVec.xor_zero]
      rw [List.length_cons, Nat.succ_mul, hback, BitVec.toNat_xor]
      exact Nat.xor_lt_two_pow hwide
        (hsymbol.trans_le (Nat.pow_le_pow_right (by decide) (by omega)))
    · rintro rfl
      rw [BitVec.xor_self, BitVec.zero_xor] at hundone hsmall
      have hrest : ((step generator)^[n] ((a ^^^ b).setWidth w)).toNat = 0 := by
        by_contra hne
        have hle := Nat.le_mul_of_pos_right (2 ^ n) (Nat.pos_of_ne_zero hne)
        omega
      have hzero : (a ^^^ b).setWidth w = 0#w := by
        rw [hrest, Nat.mul_zero] at hundone
        exact BitVec.eq_of_toNat_eq hundone
      have hab : a = b := by
        refine BitVec.xor_eq_zero_iff.mp (BitVec.eq_of_toNat_eq ?_)
        have hnat := congrArg BitVec.toNat hzero
        rw [BitVec.toNat_setWidth_of_le (by omega)] at hnat
        exact hnat
      subst hab
      rw [hrows rfl]

/-- **A burst is detected**: rows that differ only within a window that fits the register leave
different registers. -/
theorem foldl_burst (htop : generator.msb = true) (hn : n ≤ w) {as bs : List (BitVec n)}
    (hlen : as.length = bs.length) (hfits : as.length * n ≤ w) {before after : List (BitVec n)}
    {c : BitVec w}
    (h : (before ++ as ++ after).foldl (feed generator n) c =
      (before ++ bs ++ after).foldl (feed generator n) c) : as = bs := by
  rw [List.foldl_append, List.foldl_append, List.foldl_append, List.foldl_append] at h
  exact (foldl_feed_eq htop hlen hfits (foldl_feed_injective htop hn h)).2 rfl

end FlyRuler.Lib.ShiftRegister
