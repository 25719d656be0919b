import Mathlib.Data.List.Destutter

/-!
# Leaving out repeats

A filter that carries the element it let through last and stops every repeat of it.  Over several
lists one after the other it does the same as over the whole (`retainChanges_append`), and together
with the element carried at the beginning this is `List.destutter` (`destutter_eq`).
-/

namespace FlyRuler.Lib.Repeats

variable {α : Type} [DecidableEq α]

/-- What is let through, and the last element let through; `last` is the one before. -/
def retainChanges : Option α → List α → List α × Option α
  | last, [] => ([], last)
  | last, a :: rest =>
    if last = some a then retainChanges last rest
    else (a :: (retainChanges (some a) rest).1, (retainChanges (some a) rest).2)

theorem retainChanges_append (last : Option α) (l m : List α) :
    (retainChanges last (l ++ m)).1 =
      (retainChanges last l).1 ++ (retainChanges (retainChanges last l).2 m).1 := by
  induction l generalizing last with
  | nil => rfl
  | cons a l ih =>
    rw [List.cons_append, retainChanges, retainChanges]
    split_ifs with h
    · exact ih last
    · rw [ih]
      rfl

/-- What is carried is the last element there was. -/
theorem retainChanges_snd (last : Option α) (l : List α) :
    (retainChanges last l).2 = (last.toList ++ l).getLast? := by
  induction l generalizing last with
  | nil => cases last <;> rfl
  | cons a l ih =>
    rw [retainChanges]
    split_ifs with h
    · rw [ih, h, List.getLast?_append, List.getLast?_append, List.getLast?_cons]
      cases l.getLast? <;> rfl
    · rw [ih, List.getLast?_append, List.getLast?_append, List.getLast?_cons]
      cases l.getLast? <;> rfl

/-- What is carried is the last element let through. -/
theorem retainChanges_fst_getLast? (last : Option α) (l : List α) :
    (retainChanges last l).1.getLast?.or last = (retainChanges last l).2 := by
  induction l generalizing last with
  | nil => rfl
  | cons a l ih =>
    rw [retainChanges]
    split_ifs with h
    · exact ih last
    · rw [← ih, List.getLast?_cons]
      cases (retainChanges (some a) l).1.getLast? <;> rfl

theorem destutter'_eq (a : α) (l : List α) :
    l.destutter' (· ≠ ·) a = a :: (retainChanges (some a) l).1 := by
  induction l generalizing a with
  | nil => rfl
  | cons b l ih =>
    rw [retainChanges]
    by_cases h : a = b
    · rw [List.destutter'_cons_neg _ (not_not_intro h), if_pos (congrArg some h), ih]
    · rw [List.destutter'_cons_pos _ h, if_neg fun heq => h (Option.some.inj heq), ih]

/-- **The filter leaves out consecutive repeats.** -/
theorem destutter_eq (last : Option α) (l : List α) :
    (last.toList ++ l).destutter (· ≠ ·) = last.toList ++ (retainChanges last l).1 := by
  cases last with
  | some a => exact destutter'_eq a l
  | none =>
    cases l with
    | nil => rfl
    | cons a l =>
      rw [retainChanges, if_neg (by simp)]
      exact destutter'_eq a l

end FlyRuler.Lib.Repeats
