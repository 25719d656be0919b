import Mathlib.Data.List.Basic

/-!
# Words joined by a separator

When two lists that are joined with a separator are equal though their parts may contain the
separator: one first part runs on into the other second part (`joined_eq_iff`), also when the
separator stands twice (`doubled_eq_iff`).  If the second parts have no separator, the parts are
equal (`joined_last`), and so they are if the first parts have none (`joined_first`).
-/

namespace FlyRuler.Lib.Separated

variable {α : Type} {c : α} {a a' b b' : List α}

/-- **Two joined lists.** -/
theorem joined_eq_iff : a ++ c :: b = a' ++ c :: b' ↔
    (a = a' ∧ b = b') ∨ (∃ w, a' = a ++ c :: w ∧ b = w ++ c :: b') ∨
      ∃ w, a = a' ++ c :: w ∧ b' = w ++ c :: b := by
  rw [List.append_eq_append_iff]
  constructor
  · rintro (⟨w, ha, hb⟩ | ⟨w, ha, hb⟩)
    · rcases w with _ | ⟨d, w⟩
      · exact .inl ⟨by rw [ha, List.append_nil], (List.cons.inj hb).2⟩
      · obtain ⟨rfl, htail⟩ := List.cons.inj hb
        exact .inr (.inl ⟨w, ha, htail⟩)
    · rcases w with _ | ⟨d, w⟩
      · exact .inl ⟨by rw [ha, List.append_nil], (List.cons.inj hb).2.symm⟩
      · obtain ⟨rfl, htail⟩ := List.cons.inj hb
        exact .inr (.inr ⟨w, ha, htail⟩)
  · rintro (⟨rfl, rfl⟩ | ⟨w, rfl, rfl⟩ | ⟨w, rfl, rfl⟩)
    · exact .inl ⟨[], by simp, by simp⟩
    · exact .inl ⟨c :: w, rfl, rfl⟩
    · exact .inr ⟨c :: w, rfl, rfl⟩

/-- **The last separator** splits in one way. -/
theorem joined_last (hb : c ∉ b) (hb' : c ∉ b') :
    a ++ c :: b = a' ++ c :: b' ↔ a = a' ∧ b = b' := by
  rw [joined_eq_iff]
  refine or_iff_left ?_
  rintro (⟨w, -, rfl⟩ | ⟨w, -, rfl⟩)
  · exact hb (by simp)
  · exact hb' (by simp)

/-- **The first separator** splits in one way. -/
theorem joined_first (ha : c ∉ a) (ha' : c ∉ a') :
    a ++ c :: b = a' ++ c :: b' ↔ a = a' ∧ b = b' := by
  rw [joined_eq_iff]
  refine or_iff_left ?_
  rintro (⟨w, rfl, -⟩ | ⟨w, rfl, -⟩)
  · exact ha' (by simp)
  · exact ha (by simp)

/-- A first part without the separator. -/
theorem joined_eq_doubled_iff (ha : c ∉ a) : a ++ c :: b = a' ++ c :: c :: b' ↔
    (a' = a ∧ b = c :: b') ∨ ∃ w, a' = a ++ c :: w ∧ b = w ++ c :: c :: b' := by
  rw [joined_eq_iff]
  constructor
  · rintro (⟨rfl, hb⟩ | h | ⟨w, rfl, -⟩)
    · exact .inl ⟨rfl, hb⟩
    · exact .inr h
    · exact absurd (by simp) ha
  · rintro (⟨rfl, hb⟩ | h)
    · exact .inl ⟨rfl, hb⟩
    · exact .inr (.inl h)

/-- **Two lists joined with the separator twice**, whose second parts do not start with it. -/
theorem doubled_eq_iff (hb : b.head? ≠ some c) (hb' : b'.head? ≠ some c) :
    a ++ c :: c :: b = a' ++ c :: c :: b' ↔
      (a = a' ∧ b = b') ∨ (∃ w, a' = a ++ c :: c :: w ∧ b = w ++ c :: c :: b') ∨
        ∃ w, a = a' ++ c :: c :: w ∧ b' = w ++ c :: c :: b := by
  -- what follows a first separator must start with the second
  have hnext : ∀ {b b' w : List α}, b.head? ≠ some c → c :: b = w ++ c :: c :: b' →
      ∃ v, w = c :: v ∧ b = v ++ c :: c :: b' := by
    intro b b' w hhead h
    rcases w with _ | ⟨d, v⟩
    · obtain rfl := (List.cons.inj h).2
      exact absurd rfl hhead
    · obtain ⟨rfl, htail⟩ := List.cons.inj h
      exact ⟨v, rfl, htail⟩
  rw [joined_eq_iff]
  constructor
  · rintro (⟨ha, h⟩ | ⟨w, ha, h⟩ | ⟨w, ha, h⟩)
    · exact .inl ⟨ha, (List.cons.inj h).2⟩
    · obtain ⟨v, rfl, htail⟩ := hnext hb h
      exact .inr (.inl ⟨v, ha, htail⟩)
    · obtain ⟨v, rfl, htail⟩ := hnext hb' h
      exact .inr (.inr ⟨v, ha, htail⟩)
  · rintro (⟨ha, h⟩ | ⟨w, ha, h⟩ | ⟨w, ha, h⟩)
    · exact .inl ⟨ha, congrArg (c :: ·) h⟩
    · exact .inr (.inl ⟨c :: w, ha, congrArg (c :: ·) h⟩)
    · exact .inr (.inr ⟨c :: w, ha, congrArg (c :: ·) h⟩)

end FlyRuler.Lib.Separated
