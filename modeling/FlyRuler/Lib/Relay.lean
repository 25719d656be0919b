import Mathlib.Data.List.Forall2

/-!
# Relays

A relay takes items from one queue, turns each into a message and passes the messages on, through
as many queues as there are.  `Relayed R due pending passed` says that the items due so far are
those still pending behind those passed, each of which `R` relates to its message.

* `Relayed.push`, `Relayed.forward`: a new item, and an item that is passed on.
* `Relayed.not_mem`, `Relayed.exists_passed`: only what is due is passed, and in the end all of it.
* `Relayed.of_marker`: if the last item due is a marker that only it is turned into, then once the
  marker is passed nothing is pending, and nothing is passed behind it.
* `countP_of_forall₂`: the items of a kind are as many as the messages of the kind.
-/

namespace FlyRuler.Lib.Relay

variable {α β : Type} {R : α → β → Prop}

def Relayed (R : α → β → Prop) (due pending : List α) (passed : List β) : Prop :=
  ∃ front, due = front ++ pending ∧ List.Forall₂ R front passed

variable {due pending : List α} {passed : List β}

theorem Relayed.start (due : List α) : Relayed R due due [] := ⟨[], rfl, .nil⟩

theorem Relayed.push (h : Relayed R due pending passed) (a : α) :
    Relayed R (due ++ [a]) (pending ++ [a]) passed := by
  obtain ⟨front, rfl, hpassed⟩ := h
  exact ⟨front, List.append_assoc _ _ _, hpassed⟩

theorem Relayed.forward {a : α} {b : β} (h : Relayed R due (a :: pending) passed) (hab : R a b) :
    Relayed R due pending (passed ++ [b]) := by
  obtain ⟨front, rfl, hpassed⟩ := h
  refine ⟨front ++ [a], by simp, ?_⟩
  exact List.rel_append hpassed (.cons hab .nil)

theorem exists_of_mem_right {l : List α} {l' : List β} (h : List.Forall₂ R l l') {b : β}
    (hb : b ∈ l') : ∃ a ∈ l, R a b := by
  induction h with
  | nil => exact absurd hb List.not_mem_nil
  | cons hab _ ih =>
    rcases List.mem_cons.mp hb with rfl | hb
    · exact ⟨_, List.mem_cons_self, hab⟩
    · obtain ⟨a, ha, hab⟩ := ih hb
      exact ⟨a, List.mem_cons_of_mem _ ha, hab⟩

theorem forall₂_concat_left {l : List α} {a : α} {l' : List β} (h : List.Forall₂ R (l ++ [a]) l') :
    ∃ front b, l' = front ++ [b] ∧ List.Forall₂ R l front ∧ R a b := by
  rw [← List.forall₂_reverse_iff, List.reverse_append, List.reverse_singleton,
    List.singleton_append, List.forall₂_cons_left_iff] at h
  obtain ⟨b, front, hab, hfront, hl'⟩ := h
  refine ⟨front.reverse, b, ?_, ?_, hab⟩
  · rw [← List.reverse_reverse l', hl', List.reverse_cons]
  · rw [← List.forall₂_reverse_iff, List.reverse_reverse]
    exact hfront

/-- What is not due is not passed. -/
theorem Relayed.not_mem {stop : α} {b : β} (h : Relayed R due pending passed) (hstop : stop ∉ due)
    (honly : ∀ a, R a b → a = stop) : b ∉ passed := by
  obtain ⟨front, rfl, hpassed⟩ := h
  intro hb
  obtain ⟨a, ha, hab⟩ := exists_of_mem_right hpassed hb
  exact hstop (honly a hab ▸ List.mem_append_left _ ha)

/-- When nothing is pending, all that is due is passed. -/
theorem Relayed.exists_passed (h : Relayed R due [] passed) {a : α} (ha : a ∈ due) :
    ∃ b ∈ passed, R a b := by
  obtain ⟨front, rfl, hpassed⟩ := h
  rw [List.append_nil] at ha
  exact exists_of_mem_right (R := flip R) (List.Forall₂.flip hpassed) ha

/-- **Behind the marker.** -/
theorem Relayed.of_marker {stop : α} {b : β} (h : Relayed R (due ++ [stop]) pending passed)
    (hstop : stop ∉ due) (honly : ∀ a, R a b → a = stop) (hb : b ∈ passed) :
    pending = [] ∧ ∃ front, passed = front ++ [b] ∧ List.Forall₂ R due front ∧ b ∉ front := by
  obtain ⟨front, hdue, hpassed⟩ := h
  obtain ⟨a, ha, hab⟩ := exists_of_mem_right hpassed hb
  obtain rfl := honly a hab
  have hpending : pending = [] := by
    rcases List.eq_nil_or_concat pending with hnil | ⟨rest, x, rfl⟩
    · exact hnil
    · rw [List.concat_eq_append, ← List.append_assoc] at hdue
      obtain ⟨rfl, -⟩ := List.append_inj' hdue rfl
      exact absurd (List.mem_append_left _ ha) hstop
  subst hpending
  rw [List.append_nil] at hdue
  subst hdue
  refine ⟨rfl, ?_⟩
  obtain ⟨front, c, rfl, hfront, -⟩ := forall₂_concat_left hpassed
  have hmem : b ∉ front := by
    intro hb
    obtain ⟨a, ha, hab⟩ := exists_of_mem_right hfront hb
    exact hstop (honly a hab ▸ ha)
  have hlast : b = c := by
    rcases List.mem_append.mp hb with hb | hb
    · exact absurd hb hmem
    · exact List.mem_singleton.mp hb
  exact ⟨front, by rw [hlast], hfront, hmem⟩

/-- **Kinds of items and kinds of messages.** -/
theorem countP_of_forall₂ {p : α → Bool} {q : β → Bool} (hpq : ∀ a b, R a b → p a = q b)
    {l : List α} {l' : List β} (h : List.Forall₂ R l l') : l.countP p = l'.countP q := by
  induction h with
  | nil => rfl
  | cons hab _ ih => rw [List.countP_cons, List.countP_cons, ih, hpq _ _ hab]

end FlyRuler.Lib.Relay
