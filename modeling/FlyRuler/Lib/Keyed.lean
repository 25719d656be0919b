import Mathlib.Data.List.AList

/-!
# Tables with one value per key

A hash map whose iteration order carries no meaning is an association list without repeated keys
(`AList`).  On top of Mathlib's `insert`, `erase` and `lookup` this file has the three other ways
in which such a map is changed: in place at one key (`adjust`), by a predicate on the entries
(`retain`), and by removing a list of keys (`eraseAll`), each with its `lookup` equation.
-/

namespace FlyRuler.Lib.Keyed

/-- A table with at most one value per key. -/
abbrev Table (κ α : Type) := AList fun _ : κ => α

variable {κ α : Type} [DecidableEq κ]

/-- Change the value at `k` in place, if there is one. -/
def adjust (f : α → α) (k : κ) (m : Table κ α) : Table κ α :=
  ⟨m.entries.map fun e => ⟨e.1, if e.1 = k then f e.2 else e.2⟩, by
    rw [List.NodupKeys, List.keys, List.map_map]; exact m.nodupKeys⟩

/-- Keep the entries that satisfy `p`. -/
def retain (p : κ → α → Bool) (m : Table κ α) : Table κ α :=
  ⟨m.entries.filter fun e => p e.1 e.2, m.nodupKeys.sublist List.filter_sublist⟩

/-- Remove all keys of a list. -/
def eraseAll (ks : List κ) (m : Table κ α) : Table κ α := ks.foldl (fun m k => m.erase k) m

/-- The entries as pairs. -/
def toPairs (m : Table κ α) : List (κ × α) := m.entries.map fun e => (e.1, e.2)

/-! ## Lookups -/

theorem lookup_insert (m : Table κ α) (k j : κ) (v : α) :
    (m.insert k v).lookup j = if j = k then some v else m.lookup j := by
  by_cases h : j = k
  · subst h; simp
  · rw [AList.lookup_insert_ne h, if_neg h]

theorem lookup_erase (m : Table κ α) (k j : κ) :
    (m.erase k).lookup j = if j = k then none else m.lookup j := by
  by_cases h : j = k
  · subst h; simp
  · rw [AList.lookup_erase_ne h, if_neg h]

theorem lookup_adjust (f : α → α) (m : Table κ α) (k j : κ) :
    (adjust f k m).lookup j = if j = k then (m.lookup k).map f else m.lookup j := by
  have hlist : ∀ l : List (Sigma fun _ : κ => α),
      (l.map fun e => (⟨e.1, if e.1 = k then f e.2 else e.2⟩ : Sigma fun _ : κ => α)).dlookup j =
        if j = k then (l.dlookup k).map f else l.dlookup j := by
    intro l
    induction l with
    | nil => simp
    | cons e l ih =>
      obtain ⟨i, v⟩ := e
      by_cases hij : i = j
      · subst hij
        by_cases hik : i = k
        · subst hik; simp
        · simp [hik]
      · have hji : j ≠ i := Ne.symm hij
        rw [List.map_cons, List.dlookup_cons_ne _ _ hji, ih]
        by_cases hjk : j = k
        · subst hjk
          rw [if_pos rfl, if_pos rfl, List.dlookup_cons_ne _ _ hji]
        · rw [if_neg hjk, if_neg hjk, List.dlookup_cons_ne _ _ hji]
  exact hlist m.entries

/-- A change that changes nothing. -/
theorem adjust_eq_self {f : α → α} {m : Table κ α} {k : κ}
    (h : ∀ v, m.lookup k = some v → f v = v) : adjust f k m = m := by
  have hid : m.entries.map (fun e => (⟨e.1, if e.1 = k then f e.2 else e.2⟩ : Sigma fun _ => α)) =
      m.entries.map id := by
    refine List.map_congr_left fun ⟨i, v⟩ he => ?_
    by_cases hik : i = k
    · subst hik
      simp [h v (AList.mem_lookup_iff.mpr he)]
    · simp [hik]
  rw [List.map_id] at hid
  exact AList.ext hid

/-- A change that only some values admit. -/
theorem lookup_ite_adjust (p : α → Bool) (f : α → α) (m : Table κ α) (k j : κ) :
    (if (m.lookup k).any p then adjust f k m else m).lookup j =
      if j = k then (m.lookup k).map fun v => if p v then f v else v else m.lookup j := by
  by_cases hj : j = k
  · subst hj
    rw [if_pos rfl]
    cases hv : m.lookup j with
    | none => simpa using hv
    | some v => by_cases hp : p v <;> simp [hp, hv, lookup_adjust]
  · rw [if_neg hj]
    split_ifs
    · rw [lookup_adjust, if_neg hj]
    · rfl

theorem mem_toPairs {m : Table κ α} {k : κ} {v : α} : (k, v) ∈ toPairs m ↔ m.lookup k = some v := by
  rw [← Option.mem_def, AList.mem_lookup_iff]
  simp only [toPairs, List.mem_map, Prod.mk.injEq]
  constructor
  · rintro ⟨⟨k', v'⟩, he, rfl, rfl⟩; exact he
  · intro h; exact ⟨⟨k, v⟩, h, rfl, rfl⟩

omit [DecidableEq κ] in
theorem keys_toPairs (m : Table κ α) : (toPairs m).map Prod.fst = m.keys := by
  simp [toPairs, AList.keys, List.keys, Function.comp_def]

omit [DecidableEq κ] in
theorem nodup_keys_toPairs (m : Table κ α) : ((toPairs m).map Prod.fst).Nodup := by
  rw [keys_toPairs]; exact m.keys_nodup

theorem mem_keys_iff {m : Table κ α} {k : κ} : k ∈ m.keys ↔ ∃ v, m.lookup k = some v := by
  rw [← AList.mem_keys, ← AList.lookup_isSome, Option.isSome_iff_exists]

theorem notMem_keys_iff {m : Table κ α} {k : κ} : k ∉ m.keys ↔ m.lookup k = none := by
  rw [← AList.mem_keys, ← AList.lookup_isSome, Option.not_isSome_iff_eq_none]

theorem lookup_retain (p : κ → α → Bool) (m : Table κ α) (k : κ) :
    (retain p m).lookup k = (m.lookup k).filter (p k) := by
  refine Option.ext fun v => ?_
  rw [Option.filter_eq_some_iff, ← Option.mem_def, AList.mem_lookup_iff, ← Option.mem_def,
    AList.mem_lookup_iff]
  simp [retain]

theorem lookup_eraseAll (k : κ) : ∀ (ks : List κ) (m : Table κ α),
    (eraseAll ks m).lookup k = if k ∈ ks then none else m.lookup k
  | [], m => by simp [eraseAll]
  | j :: ks, m => by
    have ih := lookup_eraseAll k ks (m.erase j)
    simp only [eraseAll, List.foldl_cons] at ih ⊢
    rw [ih, lookup_erase]
    by_cases h1 : k ∈ ks
    · simp [h1]
    · by_cases h2 : k = j <;> simp [h1, h2]

@[simp] theorem lookup_empty (k : κ) : (∅ : Table κ α).lookup k = none := AList.lookup_empty k

end FlyRuler.Lib.Keyed
