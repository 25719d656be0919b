import Mathlib.Data.List.Dedup
import Mathlib.Data.List.Induction
import Mathlib.Data.List.Sort
import Mathlib.Order.Basic

/-!
# Slots and groups

Three loops over lists with indices.

* `eachSlot` changes the slot of every element (`eachSlot_map`); a loop of such loops fills each
  slot for itself (`foldl_eachSlot`).
* `grouped` collects values under their keys; the groups stand in the order of the keys, and in a
  group the values stand in the order of the entries (`grouped_eq`).
* `scatter` writes values back to their indices; in whatever order they come, they make the list
  they were taken from (`scatter_replicate`).
-/

namespace FlyRuler.Lib.Slots

variable {α β γ κ : Type}

/-! ## Filling slots -/

/-- For every element of a list, in order, change the slot with its index. -/
def eachSlot (step : α → β → β) (items : List α) (slots : List β) : List β :=
  items.zipIdx.foldl (fun slots entry => slots.modify entry.2 (step entry.1)) slots

theorem eachSlot_from (step : α → β → β) (init : α → β) (items : List α) (pre : List β) :
    (items.zipIdx pre.length).foldl (fun slots entry => slots.modify entry.2 (step entry.1))
      (pre ++ items.map init) = pre ++ items.map fun a => step a (init a) := by
  induction items generalizing pre with
  | nil => rfl
  | cons a items ih =>
    have hmodify : (pre ++ (a :: items).map init).modify pre.length (step a) =
        (pre ++ [step a (init a)]) ++ items.map init := by
      rw [List.modify_eq_take_drop]
      simp
    have hlen : pre.length + 1 = (pre ++ [step a (init a)]).length := by simp
    rw [List.zipIdx_cons, List.foldl_cons]
    dsimp only
    rw [hmodify, hlen, ih]
    simp

/-- **Each slot is changed once.** -/
theorem eachSlot_map (step : α → β → β) (init : α → β) (items : List α) :
    eachSlot step items (items.map init) = items.map fun a => step a (init a) :=
  eachSlot_from step init items []

/-- **A loop of loops over the slots** is one loop for each slot. -/
theorem foldl_eachSlot (step : γ → α → β → β) (init : α → β) (items : List α) (samples : List γ) :
    samples.foldl (fun slots c => eachSlot (step c) items slots) (items.map init) =
      items.map fun a => samples.foldl (fun slot c => step c a slot) (init a) := by
  induction samples generalizing init with
  | nil => rfl
  | cons c samples ih =>
    rw [List.foldl_cons, eachSlot_map, ih]
    rfl

theorem foldl_append_toList (f : γ → Option β) (acc : List β) (samples : List γ) :
    samples.foldl (fun acc c => acc ++ (f c).toList) acc = acc ++ samples.filterMap f := by
  induction samples generalizing acc with
  | nil => simp
  | cons c samples ih =>
    rw [List.foldl_cons, ih]
    rcases hc : f c with _ | b
    · simp [hc]
    · simp [hc]

/-! ## Groups -/

section Groups

variable [LinearOrder κ]

/-- Add a value to the group of its key, which is made at its place in the order if there is
none. -/
def pushGroup (key : κ) (a : α) : List (κ × List α) → List (κ × List α)
  | [] => [(key, [a])]
  | group :: groups =>
    if key < group.1 then (key, [a]) :: group :: groups
    else if key = group.1 then (group.1, group.2 ++ [a]) :: groups
    else group :: pushGroup key a groups

/-- Entries collected under their keys. -/
def grouped (entries : List (κ × α)) : List (κ × List α) :=
  entries.foldl (fun groups entry => pushGroup entry.1 entry.2 groups) []

/-- The values of one key. -/
def members (entries : List (κ × α)) (key : κ) : List α :=
  (entries.filter fun entry => decide (entry.1 = key)).map Prod.snd

theorem mem_keys_pushGroup {key : κ} {a : α} {groups : List (κ × List α)} {k : κ} :
    k ∈ (pushGroup key a groups).map Prod.fst ↔ k = key ∨ k ∈ groups.map Prod.fst := by
  induction groups with
  | nil => simp [pushGroup]
  | cons group groups ih =>
    unfold pushGroup
    split_ifs with hlt heq
    · simp
    · simp [heq]
    · simp only [List.map_cons, List.mem_cons, ih]
      tauto

theorem sorted_pushGroup {key : κ} {a : α} {groups : List (κ × List α)}
    (h : (groups.map Prod.fst).Pairwise (· < ·)) :
    ((pushGroup key a groups).map Prod.fst).Pairwise (· < ·) := by
  induction groups with
  | nil => simp [pushGroup]
  | cons group groups ih =>
    have hcons := List.pairwise_cons.mp h
    unfold pushGroup
    split_ifs with hlt heq
    · refine List.pairwise_cons.mpr ⟨fun k hk => ?_, h⟩
      rcases List.mem_cons.mp hk with rfl | hk
      · exact hlt
      · exact hlt.trans (hcons.1 k hk)
    · exact h
    · refine List.pairwise_cons.mpr ⟨fun k hk => ?_, ih hcons.2⟩
      rcases mem_keys_pushGroup.mp hk with rfl | hk
      · exact lt_of_le_of_ne (not_lt.mp hlt) (Ne.symm heq)
      · exact hcons.1 k hk

/-- In sorted groups that hold the values of `f`, a value added lands behind those of its key. -/
theorem values_pushGroup {f : κ → List α} {key : κ} {a : α} {groups : List (κ × List α)}
    (hsorted : (groups.map Prod.fst).Pairwise (· < ·)) (hvalues : ∀ g ∈ groups, g.2 = f g.1)
    (hnew : key ∉ groups.map Prod.fst → f key = []) {g : κ × List α}
    (hg : g ∈ pushGroup key a groups) :
    g.2 = f g.1 ++ if g.1 = key then [a] else [] := by
  induction groups with
  | nil =>
    obtain rfl : g = (key, [a]) := by simpa [pushGroup] using hg
    simp [hnew]
  | cons group groups ih =>
    have hcons := List.pairwise_cons.mp hsorted
    -- a group already there whose key is another one
    have hother : ∀ g ∈ group :: groups, g.1 ≠ key →
        g.2 = f g.1 ++ if g.1 = key then [a] else [] := by
      intro g hg hne
      rw [if_neg hne, List.append_nil]
      exact hvalues g hg
    unfold pushGroup at hg
    split_ifs at hg with hlt heq
    · have hlater : ∀ g ∈ group :: groups, key < g.1 := by
        intro g hg
        rcases List.mem_cons.mp hg with rfl | hg
        · exact hlt
        · exact hlt.trans (hcons.1 _ (List.mem_map_of_mem hg))
      rcases List.mem_cons.mp hg with rfl | hg
      · have hfresh : key ∉ (group :: groups).map Prod.fst := by
          intro hmem
          obtain ⟨g, hg, hkey⟩ := List.mem_map.mp hmem
          exact (hlater g hg).ne hkey.symm
        simp [hnew hfresh]
      · exact hother g hg (hlater g hg).ne'
    · rcases List.mem_cons.mp hg with rfl | hg
      · rw [if_pos heq.symm]
        exact congrArg (· ++ [a]) (hvalues group List.mem_cons_self)
      · refine hother g (List.mem_cons_of_mem _ hg) ?_
        rw [heq]
        exact (hcons.1 _ (List.mem_map_of_mem hg)).ne'
    · rcases List.mem_cons.mp hg with rfl | hg
      · exact hother g List.mem_cons_self (Ne.symm heq)
      · refine ih hcons.2 (fun g hg => hvalues g (List.mem_cons_of_mem _ hg)) (fun hkey => ?_) hg
        refine hnew fun hmem => ?_
        rcases List.mem_cons.mp hmem with hfirst | hmem
        · exact heq hfirst
        · exact hkey hmem

/-- What is true of the groups of entries. -/
structure Grouping (entries : List (κ × α)) (groups : List (κ × List α)) : Prop where
  sorted : (groups.map Prod.fst).Pairwise (· < ·)
  mem : ∀ k, k ∈ groups.map Prod.fst ↔ k ∈ entries.map Prod.fst
  values : ∀ g ∈ groups, g.2 = members entries g.1

theorem Grouping.push {entries : List (κ × α)} {groups : List (κ × List α)}
    (h : Grouping entries groups) (entry : κ × α) :
    Grouping (entries ++ [entry]) (pushGroup entry.1 entry.2 groups) := by
  refine ⟨sorted_pushGroup h.sorted, fun k => ?_, fun g hg => ?_⟩
  · rw [mem_keys_pushGroup, h.mem k]
    simp only [List.map_append, List.map_cons, List.map_nil, List.mem_append, List.mem_singleton]
    tauto
  · have hnew : entry.1 ∉ groups.map Prod.fst → members entries entry.1 = [] := by
      intro hkey
      rw [h.mem] at hkey
      unfold members
      rw [List.map_eq_nil_iff, List.filter_eq_nil_iff]
      intro e he heq
      exact hkey (List.mem_map.mpr ⟨e, he, of_decide_eq_true heq⟩)
    rw [values_pushGroup h.sorted h.values hnew hg]
    unfold members
    rw [List.filter_append, List.map_append]
    by_cases hkey : g.1 = entry.1
    · simp [hkey]
    · simp [hkey, Ne.symm hkey]

theorem grouping_grouped (entries : List (κ × α)) : Grouping entries (grouped entries) := by
  induction entries using List.reverseRecOn with
  | nil => exact ⟨List.Pairwise.nil, fun _ => Iff.rfl, fun _ hg => absurd hg List.not_mem_nil⟩
  | append_singleton entries entry ih =>
    unfold grouped
    rw [List.foldl_append]
    exact ih.push entry

/-- **The groups**, in the order of their keys. -/
theorem grouped_eq (entries : List (κ × α)) :
    grouped entries = ((entries.map Prod.fst).dedup.insertionSort (· ≤ ·)).map fun key =>
      (key, members entries key) := by
  have h := grouping_grouped entries
  have hkeys : (grouped entries).map Prod.fst =
      (entries.map Prod.fst).dedup.insertionSort (· ≤ ·) := by
    refine List.Perm.eq_of_pairwise (fun a b _ _ hab hba => le_antisymm hab hba)
      (h.sorted.imp le_of_lt) (List.pairwise_insertionSort _ _) ?_
    refine ((List.perm_ext_iff_of_nodup (h.sorted.imp ne_of_lt) (List.nodup_dedup _)).mpr
      fun k => ?_).trans (List.perm_insertionSort _ _).symm
    rw [h.mem k, List.mem_dedup]
  rw [← hkeys, List.map_map]
  refine (List.map_congr_left fun g hg => ?_).trans (List.map_id _) |>.symm
  exact Prod.ext rfl (h.values g hg).symm

theorem mem_members {entries : List (κ × α)} {key : κ} {a : α} :
    a ∈ members entries key ↔ (key, a) ∈ entries := by
  unfold members
  simp only [List.mem_map, List.mem_filter, decide_eq_true_eq]
  constructor
  · rintro ⟨entry, ⟨hentry, rfl⟩, rfl⟩
    exact hentry
  · intro h
    exact ⟨(key, a), ⟨h, rfl⟩, rfl⟩

/-- Every entry stands in one of the groups, and nothing else does. -/
theorem mem_grouped {entries : List (κ × α)} {key : κ} {a : α} :
    (∃ group ∈ grouped entries, group.1 = key ∧ a ∈ group.2) ↔ (key, a) ∈ entries := by
  have h := grouping_grouped entries
  constructor
  · rintro ⟨group, hgroup, rfl, ha⟩
    rw [h.values group hgroup] at ha
    exact mem_members.mp ha
  · intro hentry
    obtain ⟨group, hgroup, hkey⟩ :=
      List.mem_map.mp ((h.mem key).mpr (List.mem_map_of_mem (f := Prod.fst) hentry))
    refine ⟨group, hgroup, hkey, ?_⟩
    rw [h.values group hgroup, hkey]
    exact mem_members.mpr hentry

end Groups

/-! ## Writing back -/

/-- Write every value to its index. -/
def scatter (writes : List (ℕ × β)) (output : List (Option β)) : List (Option β) :=
  writes.foldl (fun output write => output.set write.1 (some write.2)) output

theorem scatter_append (first second : List (ℕ × β)) (output : List (Option β)) :
    scatter (first ++ second) output = scatter second (scatter first output) :=
  List.foldl_append

theorem scatter_getElem? {target : List β} {writes : List (ℕ × β)}
    (hvalues : ∀ w ∈ writes, target[w.1]? = some w.2) {output : List (Option β)}
    (hlen : output.length = target.length) {i : ℕ} {b : β} (hi : target[i]? = some b)
    (hwritten : output[i]? = some (some b) ∨ ∃ w ∈ writes, w.1 = i) :
    (scatter writes output)[i]? = some (some b) := by
  induction writes generalizing output with
  | nil =>
    rcases hwritten with h | ⟨w, hw, -⟩
    · exact h
    · exact absurd hw List.not_mem_nil
  | cons write writes ih =>
    have hlt : i < output.length := hlen ▸ (List.getElem?_eq_some_iff.mp hi).1
    refine ih (fun w hw => hvalues w (List.mem_cons_of_mem _ hw))
      ((List.length_set).trans hlen) ?_
    by_cases hindex : write.1 = i
    · left
      have hvalue : write.2 = b := by
        have hwrite := hvalues write List.mem_cons_self
        rw [hindex, hi] at hwrite
        exact (Option.some.inj hwrite).symm
      dsimp only
      rw [hindex, hvalue, List.getElem?_set_self hlt]
    · rcases hwritten with h | ⟨w, hw, hwi⟩
      · left
        rw [List.getElem?_set_ne hindex]
        exact h
      · rcases List.mem_cons.mp hw with rfl | hw
        · exact absurd hwi hindex
        · exact .inr ⟨w, hw, hwi⟩

theorem length_scatter (writes : List (ℕ × β)) (output : List (Option β)) :
    (scatter writes output).length = output.length := by
  induction writes generalizing output with
  | nil => rfl
  | cons write writes ih => exact (ih _).trans List.length_set

/-- **Values written back** to empty slots make the list that they were taken from. -/
theorem scatter_replicate {target : List β} {writes : List (ℕ × β)}
    (hvalues : ∀ w ∈ writes, target[w.1]? = some w.2)
    (hall : ∀ i < target.length, ∃ w ∈ writes, w.1 = i) :
    scatter writes (List.replicate target.length none) = target.map some := by
  have hlen : (scatter writes (List.replicate target.length none)).length =
      (target.map some).length := by
    rw [length_scatter, List.length_replicate, List.length_map]
  refine List.ext_getElem? fun i => ?_
  rcases hi : target[i]? with _ | b
  · have hout : target.length ≤ i := List.getElem?_eq_none_iff.mp hi
    rw [List.getElem?_eq_none (by rw [hlen, List.length_map]; exact hout), List.getElem?_map, hi]
    rfl
  · rw [scatter_getElem? hvalues List.length_replicate hi
      (.inr (hall i (List.getElem?_eq_some_iff.mp hi).1)), List.getElem?_map, hi]
    rfl

end FlyRuler.Lib.Slots
