import Mathlib.Data.List.Sort

/-!
# Lists kept in time order

A `Timeline` is a list of stamped items together with the fact that the stamps do not decrease.
Entries are added by `append`: at the end when the last stamp is not later, and otherwise at the
partition point, behind all entries with the same stamp.

* On a list whose elements satisfying `p` come first, the part before the partition point is
  `filter p` and the part behind it is the rest (`take_partitionPoint`, `drop_partitionPoint`).
* One `append` puts the new entry behind everything not later than it (`entries_append`); adding the
  entries of a timeline one by one to the empty one gives the timeline back (`replay_entries`).
* Appending one by one in the order of arrival is a stable sort (`StableSort.append`).
* A stable sort commutes with `filter` (`filter_insertionSort`), and a list in order splits at any
  bound into two windows (`filter_split`).
-/

namespace FlyRuler.Lib.TimeOrder

/-- An item with its time stamp. -/
structure Stamped (τ α : Type) where
  stamp : τ
  item : α
  deriving DecidableEq, Repr

/-! ## Partitioned lists -/

section Partition
variable {α : Type} {p : α → Bool} {l : List α}

/-- The number of leading elements that satisfy `p`. -/
def partitionPoint (p : α → Bool) (l : List α) : ℕ := (l.takeWhile p).length

/-- The elements that satisfy `p` come first. -/
def Partitioned (p : α → Bool) (l : List α) : Prop := l.Pairwise fun a b => p b → p a

theorem partitionPoint_eq (h : Partitioned p l) : partitionPoint p l = l.countP p := by
  induction l with
  | nil => rfl
  | cons a l ih =>
    rw [Partitioned, List.pairwise_cons] at h
    unfold partitionPoint at ih ⊢
    by_cases ha : p a
    · rw [List.takeWhile_cons_of_pos ha, List.countP_cons_of_pos ha, List.length_cons, ih h.2]
    · rw [List.takeWhile_cons_of_neg ha, List.countP_cons_of_neg ha]
      exact (List.countP_eq_zero.mpr fun b hb hpb => ha (h.1 b hb hpb)).symm

theorem take_partitionPoint (h : Partitioned p l) : l.take (partitionPoint p l) = l.filter p := by
  induction l with
  | nil => rfl
  | cons a l ih =>
    rw [Partitioned, List.pairwise_cons] at h
    unfold partitionPoint at ih ⊢
    by_cases ha : p a
    · rw [List.takeWhile_cons_of_pos ha, List.filter_cons_of_pos ha, List.length_cons,
        List.take_succ_cons, ih h.2]
    · rw [List.takeWhile_cons_of_neg ha, List.filter_cons_of_neg ha]
      exact (List.filter_eq_nil_iff.mpr fun b hb hpb => ha (h.1 b hb hpb)).symm

theorem drop_partitionPoint (h : Partitioned p l) :
    l.drop (partitionPoint p l) = l.filter fun a => !p a := by
  induction l with
  | nil => rfl
  | cons a l ih =>
    rw [Partitioned, List.pairwise_cons] at h
    unfold partitionPoint at ih ⊢
    by_cases ha : p a
    · rw [List.takeWhile_cons_of_pos ha, List.filter_cons_of_neg (by simp [ha]), List.length_cons,
        List.drop_succ_cons, ih h.2]
    · rw [List.takeWhile_cons_of_neg ha]
      refine (List.filter_eq_self.mpr fun b hb => ?_).symm
      rcases List.mem_cons.mp hb with rfl | hb
      · simp [ha]
      · simpa using fun hpb => ha (h.1 b hb hpb)

/-- **A partitioned list is its two parts.** -/
theorem filter_append_filter_not (h : Partitioned p l) :
    l.filter p ++ l.filter (fun a => !p a) = l := by
  rw [← take_partitionPoint h, ← drop_partitionPoint h, List.take_append_drop]

end Partition

/-! ## Timelines -/

/-- **A list of stamped items in time order.** -/
structure Timeline (τ α : Type) [LinearOrder τ] where
  entries : List (Stamped τ α)
  sorted : entries.Pairwise fun a b => a.stamp ≤ b.stamp

variable {τ α : Type} [LinearOrder τ]

/-- Add `x` behind the last entry that is not later than `x`. -/
def insertSorted (l : List (Stamped τ α)) (x : Stamped τ α) : List (Stamped τ α) :=
  if l.getLast?.all fun last => last.stamp ≤ x.stamp then l ++ [x]
  else
    let insertAt := partitionPoint (fun e => decide (e.stamp ≤ x.stamp)) l
    l.take insertAt ++ x :: l.drop insertAt

theorem partitioned_le {l : List (Stamped τ α)} (h : l.Pairwise fun a b => a.stamp ≤ b.stamp)
    (t : τ) : Partitioned (fun e : Stamped τ α => decide (e.stamp ≤ t)) l :=
  h.imp fun hab hb => by
    simp only [decide_eq_true_eq] at hb ⊢
    exact hab.trans hb

theorem partitioned_lt {l : List (Stamped τ α)} (h : l.Pairwise fun a b => a.stamp ≤ b.stamp)
    (t : τ) : Partitioned (fun e : Stamped τ α => decide (e.stamp < t)) l :=
  h.imp fun hab hb => by
    simp only [decide_eq_true_eq] at hb ⊢
    exact hab.trans_lt hb

/-- In a list in time order, nothing is later than the last entry. -/
theorem le_of_getLast? {l : List (Stamped τ α)} (h : l.Pairwise fun a b => a.stamp ≤ b.stamp)
    {t : τ} (ht : l.getLast?.all fun last => decide (last.stamp ≤ t)) : ∀ e ∈ l, e.stamp ≤ t := by
  intro e he
  obtain ⟨l', last, rfl⟩ := List.eq_nil_or_concat l |>.resolve_left (List.ne_nil_of_mem he)
  simp only [List.concat_eq_append, List.getLast?_append, List.getLast?_singleton, Option.some_or,
    Option.all_some, decide_eq_true_eq, List.pairwise_append, List.mem_append,
    List.mem_singleton] at h ht he
  rcases he with he | rfl
  · exact (h.2.2 e he last rfl).trans ht
  · exact ht

/-- **What one insertion does**: the new entry stands behind everything not later than it. -/
theorem insertSorted_eq {l : List (Stamped τ α)} (h : l.Pairwise fun a b => a.stamp ≤ b.stamp)
    (x : Stamped τ α) :
    insertSorted l x = (l.filter fun e => decide (e.stamp ≤ x.stamp)) ++
      x :: l.filter fun e => !decide (e.stamp ≤ x.stamp) := by
  unfold insertSorted
  split_ifs with hlast
  · have hle := le_of_getLast? h hlast
    rw [List.filter_eq_self.mpr fun e he => by simpa using hle e he,
      List.filter_eq_nil_iff.mpr fun e he => by simpa using hle e he]
  · simp only [take_partitionPoint (partitioned_le h x.stamp),
      drop_partitionPoint (partitioned_le h x.stamp)]

theorem pairwise_insertSorted {l : List (Stamped τ α)}
    (h : l.Pairwise fun a b => a.stamp ≤ b.stamp) (x : Stamped τ α) :
    (insertSorted l x).Pairwise fun a b => a.stamp ≤ b.stamp := by
  rw [insertSorted_eq h, List.pairwise_append, List.pairwise_cons]
  refine ⟨h.filter _, ⟨fun b hb => ?_, h.filter _⟩, fun a ha b hb => ?_⟩
  · have := (List.mem_filter.mp hb).2
    simp only [Bool.not_eq_eq_eq_not, Bool.not_true, decide_eq_false_iff_not, not_le] at this
    exact this.le
  · have h1 : a.stamp ≤ x.stamp := by simpa using (List.mem_filter.mp ha).2
    rcases List.mem_cons.mp hb with rfl | hb
    · exact h1
    · have h2 := (List.mem_filter.mp hb).2
      simp only [Bool.not_eq_eq_eq_not, Bool.not_true, decide_eq_false_iff_not, not_le] at h2
      exact h1.trans h2.le

namespace Timeline

/-- No entries. -/
def empty : Timeline τ α := ⟨[], List.Pairwise.nil⟩

instance : Inhabited (Timeline τ α) := ⟨empty⟩

@[ext] theorem ext {t u : Timeline τ α} (h : t.entries = u.entries) : t = u := by
  cases t; cases u; cases h; rfl

instance [DecidableEq τ] [DecidableEq α] : DecidableEq (Timeline τ α) := fun t u =>
  decidable_of_iff (t.entries = u.entries) ⟨ext, fun h => by rw [h]⟩

/-- Add one entry. -/
def append (t : Timeline τ α) (x : Stamped τ α) : Timeline τ α :=
  ⟨insertSorted t.entries x, pairwise_insertSorted t.sorted x⟩

/-- The entries stamped at most `b`, by binary search. -/
def upTo (t : Timeline τ α) (b : τ) : List (Stamped τ α) :=
  t.entries.take (partitionPoint (fun e => decide (e.stamp ≤ b)) t.entries)

/-- The entries stamped from `a` to `b`, by binary search. -/
def window (t : Timeline τ α) (a b : τ) : List (Stamped τ α) :=
  (t.upTo b).drop (partitionPoint (fun e => decide (e.stamp < a)) t.entries)

@[simp] theorem entries_empty : (empty : Timeline τ α).entries = [] := rfl

theorem entries_append (t : Timeline τ α) (x : Stamped τ α) :
    (t.append x).entries = (t.entries.filter fun e => decide (e.stamp ≤ x.stamp)) ++
      x :: t.entries.filter fun e => !decide (e.stamp ≤ x.stamp) :=
  insertSorted_eq t.sorted x

theorem upTo_eq (t : Timeline τ α) (b : τ) :
    t.upTo b = t.entries.filter fun e => decide (e.stamp ≤ b) :=
  take_partitionPoint (partitioned_le t.sorted b)

theorem window_eq (t : Timeline τ α) {a b : τ} (hab : a ≤ b) :
    t.window a b = t.entries.filter fun e => decide (a ≤ e.stamp) && decide (e.stamp ≤ b) := by
  have hpt : partitionPoint (fun e => decide (e.stamp < a)) t.entries =
      partitionPoint (fun e => decide (e.stamp < a)) (t.upTo b) := by
    rw [upTo_eq, partitionPoint_eq (partitioned_lt t.sorted a),
      partitionPoint_eq (partitioned_lt (t.sorted.filter _) a), List.countP_filter]
    refine List.countP_congr fun e _ => ?_
    simp only [decide_eq_true_eq, Bool.and_eq_true]
    exact ⟨fun he => ⟨he, he.le.trans hab⟩, And.left⟩
  unfold window
  rw [hpt, upTo_eq, drop_partitionPoint (partitioned_lt (t.sorted.filter _) a), List.filter_filter]
  refine List.filter_congr fun e _ => ?_
  rw [← decide_not, decide_eq_decide.mpr not_lt]

/-- Appending behind everything else. -/
theorem entries_append_of_le {t : Timeline τ α} {x : Stamped τ α}
    (h : ∀ e ∈ t.entries, e.stamp ≤ x.stamp) : (t.append x).entries = t.entries ++ [x] := by
  rw [entries_append, List.filter_eq_self.mpr fun e he => by simpa using h e he,
    List.filter_eq_nil_iff.mpr fun e he => by simpa using h e he]

/-- **Replay**: appending the entries of a timeline in order rebuilds it. -/
theorem replay_entries (t : Timeline τ α) : t.entries.foldl append empty = t := by
  suffices h : ∀ (l : List (Stamped τ α)) (u : Timeline τ α),
      (u.entries ++ l).Pairwise (fun a b => a.stamp ≤ b.stamp) →
        (l.foldl append u).entries = u.entries ++ l by
    exact ext (by simpa using h t.entries empty (by simpa using t.sorted))
  intro l
  induction l with
  | nil => intro u _; simp
  | cons x l ih =>
    intro u hu
    have hx : (u.append x).entries = u.entries ++ [x] :=
      entries_append_of_le fun e he => (List.pairwise_append.mp hu).2.2 e he x (by simp)
    rw [List.foldl_cons, ih (u.append x) (by rw [hx]; simpa using hu), hx]
    simp

theorem mem_append {t : Timeline τ α} {x e : Stamped τ α} :
    e ∈ (t.append x).entries ↔ e = x ∨ e ∈ t.entries := by
  rw [entries_append]
  simp only [List.mem_append, List.mem_cons, List.mem_filter, decide_eq_true_eq,
    Bool.not_eq_eq_eq_not, Bool.not_true, decide_eq_false_iff_not]
  tauto

/-- Appending keeps the entries there are, in their order. -/
theorem sublist_append (t : Timeline τ α) (x : Stamped τ α) :
    t.entries.Sublist (t.append x).entries := by
  have hsplit := filter_append_filter_not (partitioned_le t.sorted x.stamp)
  rw [entries_append]
  nth_rewrite 1 [← hsplit]
  exact (List.Sublist.refl _).append (List.sublist_cons_self x _)

/-- The entries up to a later bound, split at an earlier one. -/
theorem upTo_append (t : Timeline τ α) {a b : τ} (hab : a ≤ b) :
    t.upTo b = t.upTo a ++
      t.entries.filter fun e => decide (a < e.stamp) && decide (e.stamp ≤ b) := by
  rw [upTo_eq, upTo_eq, ← filter_append_filter_not (partitioned_le (t.sorted.filter _) a),
    List.filter_filter, List.filter_filter]
  congr 1
  · refine List.filter_congr fun e _ => ?_
    by_cases he : e.stamp ≤ a
    · simp [he, he.trans hab]
    · simp [he]
  · refine List.filter_congr fun e _ => ?_
    rw [← decide_not, decide_eq_decide.mpr not_le]

/-- Entries stamped before the new one keep their place: a window that ends before it is the same
as before. -/
theorem filter_append_of_not {t : Timeline τ α} {x : Stamped τ α} {p : Stamped τ α → Bool}
    (hx : p x = false) : (t.append x).entries.filter p = t.entries.filter p := by
  rw [entries_append, List.filter_append, List.filter_cons_of_neg (by simp [hx]),
    ← List.filter_append, filter_append_filter_not (partitioned_le t.sorted x.stamp)]

end Timeline

/-! ## Stable sorting -/

/-- **The list is the stable sort of what has arrived**: the same entries in time order, those with
the same stamp in the order of arrival. -/
structure StableSort (arrived entries : List (Stamped τ α)) : Prop where
  perm : entries.Perm arrived
  sorted : entries.Pairwise fun a b => a.stamp ≤ b.stamp
  stable : ∀ t, (entries.filter fun e => decide (e.stamp = t)) =
    arrived.filter fun e => decide (e.stamp = t)

theorem stableSort_nil : StableSort ([] : List (Stamped τ α)) [] where
  perm := List.Perm.refl _
  sorted := List.Pairwise.nil
  stable _ := rfl

/-- **Appending a new arrival** to its timeline. -/
theorem StableSort.append {arrived : List (Stamped τ α)} {t : Timeline τ α}
    (h : StableSort arrived t.entries) (x : Stamped τ α) :
    StableSort (arrived ++ [x]) (t.append x).entries := by
  have hsplit := filter_append_filter_not (partitioned_le t.sorted x.stamp)
  refine ⟨?_, (t.append x).sorted, fun u => ?_⟩
  · rw [Timeline.entries_append]
    refine List.perm_middle.trans ?_
    rw [hsplit]
    exact (h.perm.cons x).trans (List.perm_append_singleton x arrived).symm
  · rw [List.filter_append, ← h.stable u]
    by_cases hx : x.stamp = u
    · -- behind everything with this stamp
      have hbehind : ((t.entries.filter fun e => !decide (e.stamp ≤ x.stamp)).filter fun e =>
          decide (e.stamp = u)) = [] := by
        refine List.filter_eq_nil_iff.mpr fun e he heq => ?_
        have hlate := (List.mem_filter.mp he).2
        rw [decide_eq_true_eq] at heq
        simp [heq, hx] at hlate
      have hbefore : ((t.entries.filter fun e => decide (e.stamp ≤ x.stamp)).filter fun e =>
          decide (e.stamp = u)) = t.entries.filter fun e => decide (e.stamp = u) := by
        conv_rhs => rw [← hsplit, List.filter_append, hbehind, List.append_nil]
      rw [Timeline.entries_append, List.filter_append, List.filter_cons_of_pos (by simpa using hx),
        hbehind, hbefore]
      simp [hx]
    · rw [Timeline.filter_append_of_not (by simpa using hx)]
      simp [hx]

section StableSort
variable {β : Type} {r : β → β → Prop} [DecidableRel r]

theorem filter_orderedInsert (htr : ∀ a b c, r a b → r b c → r a c) (p : β → Bool) (a : β) :
    ∀ {l : List β}, l.Pairwise r → (l.orderedInsert r a).filter p =
      if p a then (l.filter p).orderedInsert r a else l.filter p
  | [], _ => by by_cases ha : p a <;> simp [ha]
  | b :: l, h => by
    rw [List.pairwise_cons] at h
    have ih := filter_orderedInsert htr p a h.2
    by_cases hab : r a b
    · rw [List.orderedInsert_cons_of_le _ _ hab]
      by_cases ha : p a
      · rw [List.filter_cons_of_pos ha, if_pos ha]
        -- `a` goes before `b`, hence before everything that is left of `b :: l`
        cases hf : (b :: l).filter p with
        | nil => rfl
        | cons c l' =>
          have hc : c ∈ b :: l := List.mem_of_mem_filter (hf ▸ List.mem_cons_self)
          have hac : r a c := by
            rcases List.mem_cons.mp hc with rfl | hc
            · exact hab
            · exact htr a b c hab (h.1 c hc)
          rw [List.orderedInsert_cons_of_le _ _ hac]
      · rw [List.filter_cons_of_neg ha, if_neg ha]
    · rw [List.orderedInsert_of_not_le _ _ hab]
      by_cases hb : p b
      · rw [List.filter_cons_of_pos hb, List.filter_cons_of_pos hb, ih]
        by_cases ha : p a
        · rw [if_pos ha, if_pos ha, List.orderedInsert_of_not_le _ _ hab]
        · rw [if_neg ha, if_neg ha]
      · rw [List.filter_cons_of_neg hb, List.filter_cons_of_neg hb, ih]

/-- **Sorting a part is taking the part of the sorted list.** -/
theorem filter_insertionSort (htot : ∀ a b, r a b ∨ r b a)
    (htr : ∀ a b c, r a b → r b c → r a c) (p : β → Bool) (l : List β) :
    (l.insertionSort r).filter p = (l.filter p).insertionSort r := by
  have : IsTrans β r := ⟨htr⟩
  have : Std.Total r := ⟨htot⟩
  induction l with
  | nil => rfl
  | cons a l ih =>
    rw [List.insertionSort_cons, filter_orderedInsert htr p a (List.pairwise_insertionSort r l), ih]
    by_cases ha : p a
    · rw [if_pos ha, List.filter_cons_of_pos ha, List.insertionSort_cons]
    · rw [if_neg ha, List.filter_cons_of_neg ha]

end StableSort

/-- **A list in order splits at `b`** into the window up to `b` and the window after it. -/
theorem filter_split {β : Type} {l : List β} {key : β → τ}
    (h : l.Pairwise fun x y => key x ≤ key y) {a b c : τ} (hab : a ≤ b) (hbc : b ≤ c) :
    l.filter (fun x => decide (a < key x) && decide (key x ≤ c)) =
      l.filter (fun x => decide (a < key x) && decide (key x ≤ b)) ++
        l.filter (fun x => decide (b < key x) && decide (key x ≤ c)) := by
  have hp : Partitioned (fun x => decide (key x ≤ b))
      (l.filter fun x => decide (a < key x) && decide (key x ≤ c)) :=
    (h.filter _).imp fun hxy hy => by
      simp only [decide_eq_true_eq] at hy ⊢
      exact hxy.trans hy
  rw [← filter_append_filter_not hp, List.filter_filter, List.filter_filter]
  congr 1
  · refine List.filter_congr fun x _ => ?_
    by_cases hx : key x ≤ b
    · simp [hx, hx.trans hbc]
    · simp [hx]
  · refine List.filter_congr fun x _ => ?_
    by_cases hx : key x ≤ b
    · simp [hx]
    · simp [hx, not_le.mp hx, hab.trans_lt (not_le.mp hx)]

end FlyRuler.Lib.TimeOrder
