import Mathlib.Data.List.Basic

/-!
# Loops that may fail

A loop that applies a function to each element of a list and fails where the function fails
succeeds exactly if the function does everywhere (`mapM_eq_some_iff`).
-/

namespace FlyRuler.Lib.Fallible

variable {α β : Type} {f : α → Option β}

/-- **The loop succeeds** with the values of the function. -/
theorem mapM_eq_some_iff {l : List α} {bs : List β} :
    l.mapM f = some bs ↔ l.map f = bs.map some := by
  induction l generalizing bs with
  | nil => rcases bs with _ | ⟨b, bs⟩ <;> simp
  | cons a l ih =>
    rw [List.mapM_cons]
    constructor
    · intro h
      obtain ⟨b, hb, h⟩ := Option.bind_eq_some_iff.mp h
      obtain ⟨rest, hrest, h⟩ := Option.bind_eq_some_iff.mp h
      cases h
      rw [List.map_cons, hb, ih.mp hrest]
      rfl
    · intro h
      rcases bs with _ | ⟨b, rest⟩
      · exact absurd h (by simp)
      · rw [List.map_cons, List.map_cons, List.cons.injEq] at h
        rw [h.1, ih.mpr h.2]
        rfl

theorem mapM_eq_some {g : α → β} {l : List α} (h : ∀ x ∈ l, f x = some (g x)) :
    l.mapM f = some (l.map g) := by
  rw [mapM_eq_some_iff, List.map_map]
  exact List.map_congr_left h

theorem exists_of_mapM {l : List α} {bs : List β} (h : l.mapM f = some bs) (b : β)
    (hb : b ∈ bs) : ∃ a ∈ l, f a = some b := by
  have hmem : some b ∈ l.map f := by
    rw [mapM_eq_some_iff.mp h]
    exact List.mem_map_of_mem hb
  exact List.mem_map.mp hmem

/-- A loop that succeeds has no element on which the function fails. -/
theorem isSome_of_mapM {l : List α} {bs : List β} (h : l.mapM f = some bs) (a : α) (ha : a ∈ l) :
    (f a).isSome := by
  have hmem : f a ∈ bs.map some := by
    rw [← mapM_eq_some_iff.mp h]
    exact List.mem_map_of_mem ha
  obtain ⟨b, -, hb⟩ := List.mem_map.mp hmem
  rw [← hb]
  rfl

end FlyRuler.Lib.Fallible
