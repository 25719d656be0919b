import Mathlib.Data.List.Induction
import Mathlib.Order.Lattice

/-!
# Merging two sorted lists

Two lists in the order of their keys are merged in three ways at once: an element whose key comes
first is taken, and of two elements with one key a function picks one.  `Interleaves` is the trace
of such a merge.  At each key it pairs the elements of both sides up and goes on with the rest of
the longer side (`Interleaves.withKey_eq`), so the last element is that of the longer side
(`getLast?_paired`).  Keeping the last element of each key makes the keys of a sorted list increase
(`kept_keepLast`).
-/

namespace FlyRuler.Lib.Merge

/-- Elements paired up, and then the rest of the longer list. -/
def paired {α : Type} (pick : α → α → α) : List α → List α → List α
  | [], bs => bs
  | as, [] => as
  | a :: as, b :: bs => pick a b :: paired pick as bs

section Paired
variable {α : Type} {pick : α → α → α}

@[simp] theorem paired_nil_right (as : List α) : paired pick as [] = as := by
  cases as <;> rfl

/-- **The last element** is that of the longer list, or picked from the last two. -/
theorem getLast?_paired : ∀ (as bs : List α), (paired pick as bs).getLast? =
    if as.length < bs.length then bs.getLast?
    else if bs.length < as.length then as.getLast?
    else as.getLast?.bind fun a => bs.getLast?.map (pick a)
  | [], [] => rfl
  | [], b :: bs => rfl
  | a :: as, [] => rfl
  | [a], [b] => rfl
  | [a], b :: b' :: bs => by simp [paired]
  | a :: a' :: as, [b] => by simp [paired]
  | a :: a' :: as, b :: b' :: bs => by
    have ih := getLast?_paired (a' :: as) (b' :: bs)
    simp only [paired, List.getLast?_cons_cons, List.length_cons, Nat.add_lt_add_iff_right] at ih ⊢
    exact ih

end Paired

variable {α κ : Type} [LinearOrder κ] (key : α → κ) (pick : α → α → α)

/-- **A merge** of two lists: what is taken, in order. -/
inductive Interleaves : List α → List α → List α → Prop where
  | nil : Interleaves [] [] []
  | left {a : α} {as bs out : List α} (h : ∀ b, bs.head? = some b → key a < key b)
    (rest : Interleaves as bs out) : Interleaves (a :: as) bs (a :: out)
  | right {b : α} {as bs out : List α} (h : ∀ a, as.head? = some a → key b < key a)
    (rest : Interleaves as bs out) : Interleaves as (b :: bs) (b :: out)
  | both {a b : α} {as bs out : List α} (h : key a = key b) (rest : Interleaves as bs out) :
    Interleaves (a :: as) (b :: bs) (pick a b :: out)

/-- In the order of the keys. -/
def Sorted (l : List α) : Prop := l.Pairwise fun x y => key x ≤ key y

variable {key pick} {as bs out : List α}

theorem Sorted.tail {a : α} {l : List α} (h : Sorted key (a :: l)) : Sorted key l :=
  (List.pairwise_cons.mp h).2

theorem Sorted.head_le {a x : α} {l : List α} (h : Sorted key (a :: l)) (hx : x ∈ l) :
    key a ≤ key x :=
  (List.pairwise_cons.mp h).1 x hx

/-- A key before the first of a sorted list. -/
theorem Sorted.lt_of_lt_head {l : List α} (h : Sorted key l) {k : κ}
    (hhead : ∀ b, l.head? = some b → k < key b) : ∀ x ∈ l, k < key x := by
  intro x hx
  rcases l with _ | ⟨b, l⟩
  · exact absurd hx List.not_mem_nil
  · have hb : k < key b := hhead b rfl
    rcases List.mem_cons.mp hx with rfl | hx
    · exact hb
    · exact hb.trans_le (h.head_le hx)

/-- The keys taken are keys of one of the lists. -/
theorem Interleaves.exists_key (h : Interleaves key pick as bs out)
    (hpick : ∀ a b, key a = key b → key (pick a b) = key a) :
    ∀ x ∈ out, ∃ y, (y ∈ as ∨ y ∈ bs) ∧ key y = key x := by
  induction h with
  | nil => exact fun x hx => absurd hx List.not_mem_nil
  | left _ _ ih =>
    intro x hx
    rcases List.mem_cons.mp hx with rfl | hx
    · exact ⟨x, .inl List.mem_cons_self, rfl⟩
    · obtain ⟨y, hy, hkey⟩ := ih x hx
      exact ⟨y, hy.imp_left (List.mem_cons_of_mem _), hkey⟩
  | right _ _ ih =>
    intro x hx
    rcases List.mem_cons.mp hx with rfl | hx
    · exact ⟨x, .inr List.mem_cons_self, rfl⟩
    · obtain ⟨y, hy, hkey⟩ := ih x hx
      exact ⟨y, hy.imp_right (List.mem_cons_of_mem _), hkey⟩
  | @both a b _ _ _ hab _ ih =>
    intro x hx
    rcases List.mem_cons.mp hx with rfl | hx
    · exact ⟨a, .inl List.mem_cons_self, (hpick a b hab).symm⟩
    · obtain ⟨y, hy, hkey⟩ := ih x hx
      exact ⟨y, hy.imp (List.mem_cons_of_mem _) (List.mem_cons_of_mem _), hkey⟩

/-- **A merge of sorted lists is sorted.** -/
theorem Interleaves.sorted (h : Interleaves key pick as bs out)
    (hpick : ∀ a b, key a = key b → key (pick a b) = key a) (has : Sorted key as)
    (hbs : Sorted key bs) : Sorted key out := by
  induction h with
  | nil => exact List.Pairwise.nil
  | left hlt rest ih =>
    refine List.pairwise_cons.mpr ⟨fun x hx => ?_, ih has.tail hbs⟩
    obtain ⟨y, hy, hkey⟩ := rest.exists_key hpick x hx
    rw [← hkey]
    rcases hy with hy | hy
    · exact has.head_le hy
    · exact (hbs.lt_of_lt_head hlt y hy).le
  | right hlt rest ih =>
    refine List.pairwise_cons.mpr ⟨fun x hx => ?_, ih has hbs.tail⟩
    obtain ⟨y, hy, hkey⟩ := rest.exists_key hpick x hx
    rw [← hkey]
    rcases hy with hy | hy
    · exact (has.lt_of_lt_head hlt y hy).le
    · exact hbs.head_le hy
  | both hab rest ih =>
    refine List.pairwise_cons.mpr ⟨fun x hx => ?_, ih has.tail hbs.tail⟩
    obtain ⟨y, hy, hkey⟩ := rest.exists_key hpick x hx
    rw [← hkey, hpick _ _ hab]
    rcases hy with hy | hy
    · exact has.head_le hy
    · rw [hab]
      exact hbs.head_le hy

/-- The elements with a key. -/
def withKey (key : α → κ) (k : κ) (l : List α) : List α := l.filter fun x => decide (key x = k)

theorem withKey_cons (k : κ) (a : α) (l : List α) :
    withKey key k (a :: l) = if key a = k then a :: withKey key k l else withKey key k l := by
  unfold withKey
  by_cases h : key a = k
  · rw [if_pos h, List.filter_cons_of_pos (by simpa using h)]
  · rw [if_neg h, List.filter_cons_of_neg (by simpa using h)]

theorem withKey_concat (k : κ) (l : List α) (x : α) :
    withKey key k (l ++ [x]) = withKey key k l ++ if key x = k then [x] else [] := by
  unfold withKey
  rw [List.filter_append]
  congr 1
  split_ifs with h <;> simp [h]

theorem mem_withKey {k : κ} {l : List α} {x : α} : x ∈ withKey key k l ↔ x ∈ l ∧ key x = k := by
  unfold withKey
  rw [List.mem_filter, decide_eq_true_iff]

theorem withKey_eq_nil {k : κ} {l : List α} (h : ∀ x ∈ l, key x ≠ k) : withKey key k l = [] := by
  unfold withKey
  rw [List.filter_eq_nil_iff]
  intro x hx
  simpa using h x hx

/-- **At each key** a merge of sorted lists pairs up the elements of both. -/
theorem Interleaves.withKey_eq (h : Interleaves key pick as bs out)
    (hpick : ∀ a b, key a = key b → key (pick a b) = key a) (has : Sorted key as)
    (hbs : Sorted key bs) (k : κ) :
    withKey key k out = paired pick (withKey key k as) (withKey key k bs) := by
  induction h with
  | nil => rfl
  | @left a as bs out hlt _ ih =>
    rw [withKey_cons, withKey_cons, ih has.tail hbs]
    split_ifs with hk
    · -- no element of the other list has this key
      have hnone : withKey key k bs = [] := withKey_eq_nil fun y hy =>
        hk ▸ (hbs.lt_of_lt_head hlt y hy).ne'
      rw [hnone, paired_nil_right, paired_nil_right]
    · rfl
  | @right b as bs out hlt _ ih =>
    rw [withKey_cons, withKey_cons, ih has hbs.tail]
    split_ifs with hk
    · have hnone : withKey key k as = [] := withKey_eq_nil fun y hy =>
        hk ▸ (has.lt_of_lt_head hlt y hy).ne'
      rw [hnone]
      rfl
    · rfl
  | @both a b as bs out hab _ ih =>
    rw [withKey_cons, withKey_cons, withKey_cons, ih has.tail hbs.tail, hpick a b hab, ← hab]
    split_ifs <;> rfl

/-! ## Keeping the last element of each key -/

/-- Put an element at the end, in the place of one with its key. -/
def pushLast (key : α → κ) (l : List α) (x : α) : List α :=
  match l.getLast? with
  | some y => if key y = key x then l.dropLast ++ [x] else l ++ [x]
  | none => l ++ [x]

def keepLast (key : α → κ) (l : List α) : List α := l.foldl (pushLast key) []

/-- The keys increase. -/
def Increasing (key : α → κ) (l : List α) : Prop := l.Pairwise fun x y => key x < key y

/-- What is kept of a list: at each key the last element. -/
structure Kept (key : α → κ) (l kept : List α) : Prop where
  increasing : Increasing key kept
  withKey_eq : ∀ k, withKey key k kept = (withKey key k l).getLast?.toList

theorem Kept.subset {l kept : List α} (h : Kept key l kept) {x : α} (hx : x ∈ kept) : x ∈ l := by
  have hmem : x ∈ withKey key (key x) kept := mem_withKey.mpr ⟨hx, rfl⟩
  rw [h.withKey_eq, Option.mem_toList] at hmem
  exact (mem_withKey.mp (List.mem_of_getLast? hmem)).1

/-- **One more element**, whose key is not before the others. -/
theorem Kept.push {l kept : List α} (h : Kept key l kept) {x : α}
    (hx : ∀ y ∈ l, key y ≤ key x) : Kept key (l ++ [x]) (pushLast key kept x) := by
  -- all that is left of the elements before has smaller keys
  obtain ⟨before, hpush, hbefore, hsame⟩ : ∃ before, pushLast key kept x = before ++ [x] ∧
      (Increasing key before ∧ ∀ y ∈ before, key y < key x) ∧
      ∀ k, k ≠ key x → withKey key k before = withKey key k kept := by
    unfold pushLast
    rcases List.eq_nil_or_concat kept with rfl | ⟨before, last, rfl⟩
    · exact ⟨[], rfl, ⟨List.Pairwise.nil, fun y hy => absurd hy List.not_mem_nil⟩, fun _ _ => rfl⟩
    · rw [List.concat_eq_append] at h ⊢
      obtain ⟨hincreasing, -, hlast⟩ := List.pairwise_append.mp h.increasing
      have hle : key last ≤ key x :=
        hx last (h.subset (List.mem_append_right _ (List.mem_singleton_self last)))
      have hlt : ∀ y ∈ before, key y < key x := fun y hy =>
        (hlast y hy last (List.mem_singleton_self last)).trans_le hle
      rw [List.getLast?_concat]
      dsimp only
      split_ifs with hkey
      · refine ⟨before, by rw [List.dropLast_concat], ⟨hincreasing, hlt⟩, fun k hk => ?_⟩
        have hne : ¬key last = k := fun h => hk (h.symm.trans hkey)
        rw [withKey_concat, if_neg hne, List.append_nil]
      · refine ⟨before ++ [last], rfl, ⟨h.increasing, fun y hy => ?_⟩, fun k hk => rfl⟩
        rcases List.mem_append.mp hy with hy | hy
        · exact hlt y hy
        · rw [List.mem_singleton.mp hy]
          exact lt_of_le_of_ne hle hkey
  rw [hpush]
  refine ⟨List.pairwise_append.mpr ⟨hbefore.1, List.pairwise_singleton _ _, ?_⟩, fun k => ?_⟩
  · intro y hy z hz
    rw [List.mem_singleton.mp hz]
    exact hbefore.2 y hy
  · rw [withKey_concat, withKey_concat]
    split_ifs with hk
    · rw [withKey_eq_nil fun y hy => hk ▸ (hbefore.2 y hy).ne, List.getLast?_concat]
      rfl
    · rw [List.append_nil, List.append_nil, hsame k (Ne.symm hk), h.withKey_eq]

/-- **Of a sorted list** the last element of each key is kept. -/
theorem kept_keepLast {l : List α} (h : Sorted key l) : Kept key l (keepLast key l) := by
  induction l using List.reverseRecOn with
  | nil => exact ⟨List.Pairwise.nil, fun k => rfl⟩
  | append_singleton l x ih =>
    obtain ⟨hl, -, hx⟩ := List.pairwise_append.mp h
    unfold keepLast
    rw [List.foldl_append]
    exact (ih hl).push fun y hy => hx y hy x (List.mem_singleton_self x)

end FlyRuler.Lib.Merge
