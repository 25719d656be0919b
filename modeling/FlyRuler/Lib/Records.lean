import Mathlib.Data.List.Nodup
import Mathlib.Data.List.Sort

/-!
# Lists of records with a key

A list of records in which no key occurs twice is a table: `entryOf` looks a record up, and a search
for the key with a change in place (`entryOf_modify`) or a new record at the end (`entryOf_concat`)
changes what is found at that key only.  Sorted by key, the keys increase (`pairwise_lt_sort`).
-/

namespace FlyRuler.Lib.Records

variable {α κ : Type} [DecidableEq κ] (key : α → κ)

/-- The first record with a key. -/
def entryOf (k : κ) (l : List α) : Option α := l.find? fun x => key x == k

variable {key} {k : κ} {l : List α} {x : α}

theorem key_of_entryOf (h : entryOf key k l = some x) : key x = k := by
  simpa using List.find?_some (p := fun x => key x == k) h

theorem mem_of_entryOf (h : entryOf key k l = some x) : x ∈ l := List.mem_of_find?_eq_some h

theorem entryOf_eq_none_iff : entryOf key k l = none ↔ k ∉ l.map key := by
  unfold entryOf
  simp only [List.find?_eq_none, List.mem_map, beq_iff_eq, not_exists, not_and]

theorem exists_entryOf (h : k ∈ l.map key) : ∃ x, entryOf key k l = some x := by
  rw [← Option.isSome_iff_exists, Option.isSome_iff_ne_none]
  exact fun hnone => entryOf_eq_none_iff.mp hnone h

theorem entryOf_cons (y : α) :
    entryOf key k (y :: l) = if key y = k then some y else entryOf key k l := by
  unfold entryOf
  by_cases hy : key y = k
  · rw [if_pos hy, List.find?_cons_of_pos (by simpa using hy)]
  · rw [if_neg hy, List.find?_cons_of_neg (by simpa using hy)]

/-- **A record is found under its key**, which no other record has. -/
theorem entryOf_eq_some_iff (hnodup : (l.map key).Nodup) :
    entryOf key k l = some x ↔ x ∈ l ∧ key x = k := by
  constructor
  · exact fun h => ⟨mem_of_entryOf h, key_of_entryOf h⟩
  · rintro ⟨hx, rfl⟩
    obtain ⟨y, hy⟩ := exists_entryOf (List.mem_map_of_mem (f := key) hx)
    rw [hy, List.inj_on_of_nodup_map hnodup (mem_of_entryOf hy) hx (key_of_entryOf hy)]

theorem entryOf_concat (h : key x ∉ l.map key) :
    entryOf key k (l ++ [x]) = if k = key x then some x else entryOf key k l := by
  unfold entryOf
  rw [List.find?_append]
  by_cases hk : k = key x
  · subst hk
    rw [if_pos rfl]
    have hnone : l.find? (fun y => key y == key x) = none := entryOf_eq_none_iff.mpr h
    rw [hnone, Option.none_or, List.find?_singleton, beq_self_eq_true]
    rfl
  · rw [if_neg hk, List.find?_singleton, if_neg (by simpa using Ne.symm hk), Option.or_none]

/-! ## A change in place -/

theorem keys_modify {α κ : Type} {key : α → κ} {f : α → α} (hf : ∀ y, key (f y) = key y)
    (l : List α) (i : ℕ) : (l.modify i f).map key = l.map key := by
  induction l generalizing i with
  | nil => rw [List.modify_nil]
  | cons y l ih =>
    rcases i with _ | i
    · rw [List.modify_zero_cons, List.map_cons, hf, List.map_cons]
    · rw [List.modify_succ_cons, List.map_cons, ih, List.map_cons]

/-- **A change of the first record with a key** is seen at this key only. -/
theorem entryOf_modify {f : α → α} (hf : ∀ y, key (f y) = key y) (j : κ) :
    entryOf key k (l.modify (l.findIdx fun y => key y == j) f) =
      if k = j then (entryOf key k l).map f else entryOf key k l := by
  induction l with
  | nil => split_ifs <;> rfl
  | cons y l ih =>
    rw [List.findIdx_cons]
    by_cases hy : key y = j
    · -- the change is made here
      rw [beq_iff_eq.mpr hy, cond_true, List.modify_zero_cons, entryOf_cons, entryOf_cons, hf, hy]
      split_ifs with hj hk hk
      · rfl
      · exact absurd hj.symm hk
      · exact absurd hk.symm hj
      · rfl
    · have hne : (key y == j) = false := beq_eq_false_iff_ne.mpr hy
      rw [hne, cond_false, List.modify_succ_cons, entryOf_cons, entryOf_cons, ih]
      by_cases hk : key y = k
      · rw [if_pos hk, if_pos hk, if_neg (fun h => hy (hk.trans h))]
      · rw [if_neg hk, if_neg hk]

/-! ## Sorting -/

/-- **Sorted by key, the keys increase.** -/
theorem pairwise_lt_sort {α κ : Type} [LinearOrder κ] {key : α → κ} {l : List α}
    (hnodup : (l.map key).Nodup) :
    (l.insertionSort fun a b => key a ≤ key b).Pairwise fun a b => key a < key b := by
  have hsorted : (l.insertionSort fun a b => key a ≤ key b).Pairwise fun a b => key a ≤ key b :=
    List.pairwise_insertionSort (fun a b => key a ≤ key b) l
  have hkeys : ((l.insertionSort fun a b => key a ≤ key b).map key).Nodup :=
    ((List.perm_insertionSort _ l).map key).nodup_iff.mpr hnodup
  rw [List.Nodup, List.pairwise_map] at hkeys
  exact (hsorted.and hkeys).imp fun hle => lt_of_le_of_ne hle.1 hle.2

end FlyRuler.Lib.Records
