import Mathlib.Data.List.Basic

/-!
# Runs of a machine

A machine is a total `step : σ → ι → σ`; the run of a list of inputs is `is.foldl step s`.
`Meets step ok s is` says that every step of the run satisfies the condition `ok` in the state it is
taken in.  The two rules are: an invariant that every `ok` step keeps holds at the end of every run
that meets `ok` (`Meets.inv`), hence after every prefix (`Meets.inv_prefix`); and meeting a
condition is a property of the prefixes (`meets_iff`).  `Meets.length_le` bounds runs whose steps
lower a measure.  `Meets.of_late` and `meets_iff_of_late` are the rules for a condition that is
exact for a run and what may follow it.  `loopWhile_inv` is the rule for a loop that may stop
early.
-/

namespace FlyRuler.Lib.Run

variable {σ ι : Type} {step : σ → ι → σ} {ok : σ → ι → Prop}

/-- **Every step of the run satisfies `ok`** in the state it is taken in. -/
def Meets (step : σ → ι → σ) (ok : σ → ι → Prop) : σ → List ι → Prop
  | _, [] => True
  | s, i :: is => ok s i ∧ Meets step ok (step s i) is

instance Meets.decidable [∀ s i, Decidable (ok s i)] :
    ∀ (s : σ) (is : List ι), Decidable (Meets step ok s is)
  | _, [] => isTrue trivial
  | s, i :: is =>
    have := Meets.decidable (step s i) is
    inferInstanceAs (Decidable (ok s i ∧ Meets step ok (step s i) is))

theorem meets_append {s : σ} {is js : List ι} :
    Meets step ok s (is ++ js) ↔ Meets step ok s is ∧ Meets step ok (is.foldl step s) js := by
  induction is generalizing s with
  | nil => simp [Meets]
  | cons i is ih => simp only [List.cons_append, Meets, ih, List.foldl_cons, and_assoc]

theorem meets_iff {s : σ} {is : List ι} :
    Meets step ok s is ↔ ∀ pre i, pre ++ [i] <+: is → ok (pre.foldl step s) i := by
  constructor
  · rintro h pre i ⟨post, rfl⟩
    rw [meets_append, meets_append] at h
    exact h.1.2.1
  · intro h
    induction is generalizing s with
    | nil => trivial
    | cons i is ih =>
      refine ⟨h [] i ⟨is, rfl⟩, ih fun pre j hp => ?_⟩
      have hpre : (i :: pre) ++ [j] <+: i :: is := by
        rw [List.cons_append]; exact List.prefix_cons_inj i |>.mpr hp
      exact h (i :: pre) j hpre

/-- A step of a run is the first one or one of the rest. -/
theorem exists_step_cons {P : List ι → ι → Prop} {i : ι} {is : List ι} :
    (∃ pre j, pre ++ [j] <+: i :: is ∧ P pre j) ↔
      P [] i ∨ ∃ pre j, pre ++ [j] <+: is ∧ P (i :: pre) j := by
  constructor
  · rintro ⟨_ | ⟨first, pre⟩, j, hprefix, hP⟩
    · obtain ⟨rfl, -⟩ := List.cons_prefix_cons.mp hprefix
      exact .inl hP
    · obtain ⟨rfl, hrest⟩ := List.cons_prefix_cons.mp hprefix
      exact .inr ⟨pre, j, hrest, hP⟩
  · rintro (hP | ⟨pre, j, hprefix, hP⟩)
    · exact ⟨[], i, ⟨is, rfl⟩, hP⟩
    · exact ⟨i :: pre, j, (List.prefix_cons_inj i).mpr hprefix, hP⟩

theorem not_exists_step_nil {P : List ι → ι → Prop} :
    ¬∃ pre j, pre ++ [j] <+: [] ∧ P pre j := by
  rintro ⟨pre, j, hprefix, -⟩
  exact absurd (List.prefix_nil.mp hprefix) (by simp)

/-- **The invariant rule.** -/
theorem Meets.inv {I : σ → Prop} (hstep : ∀ s i, I s → ok s i → I (step s i)) {s : σ}
    {is : List ι} (h0 : I s) (h : Meets step ok s is) : I (is.foldl step s) := by
  induction is generalizing s with
  | nil => exact h0
  | cons i is ih => exact ih (hstep s i h0 h.1) h.2

theorem Meets.of_prefix {s : σ} {pre is : List ι} (h : Meets step ok s is) (hp : pre <+: is) :
    Meets step ok s pre := by
  obtain ⟨post, rfl⟩ := hp
  exact (meets_append.mp h).1

/-- The invariant rule, at every state the run reaches. -/
theorem Meets.inv_prefix {I : σ → Prop} (hstep : ∀ s i, I s → ok s i → I (step s i)) {s : σ}
    {pre is : List ι} (h0 : I s) (h : Meets step ok s is) (hp : pre <+: is) :
    I (pre.foldl step s) :=
  (h.of_prefix hp).inv hstep h0

/-- What every `ok` step does in a state of the invariant, every step of the run does. -/
theorem Meets.of_inv {I : σ → Prop} {good : σ → ι → Prop}
    (hstep : ∀ s i, I s → ok s i → good s i ∧ I (step s i)) {s : σ} {is : List ι} (h0 : I s)
    (h : Meets step ok s is) : Meets step good s is := by
  induction is generalizing s with
  | nil => trivial
  | cons i is ih =>
    obtain ⟨hgood, hinv⟩ := hstep s i h0 h.1
    exact ⟨hgood, ih hinv h.2⟩

/-- **The rule for ends**: a run all of whose steps lower a measure is no longer than it. -/
theorem Meets.length_le {I : σ → Prop} {measure : σ → ℕ}
    (hstep : ∀ s i, I s → ok s i → I (step s i) ∧ measure (step s i) < measure s) {s : σ}
    {is : List ι} (h0 : I s) (h : Meets step ok s is) : is.length ≤ measure s := by
  induction is generalizing s with
  | nil => exact Nat.zero_le _
  | cons i is ih =>
    obtain ⟨hinv, hlt⟩ := hstep s i h0 h.1
    exact Nat.lt_of_le_of_lt (ih hinv h.2) hlt

section Late
variable {I : σ → Prop} {good : σ → ι → Prop} {late : ι → Prop}

/-- **A condition that cannot be weakened**: inputs that `late` allows may follow any prefix of the
run.  If after every step that is not `ok` some of them reach a step that is not good, then a run
all of whose continuations are good meets `ok`. -/
theorem Meets.of_late (hstep : ∀ s i, I s → ok s i → I (step s i))
    (hbad : ∀ s i, I s → ¬ok s i → ∃ js, (∀ j ∈ js, late j) ∧ ¬Meets step good s (i :: js))
    {s : σ} (h0 : I s) {is : List ι}
    (h : ∀ pre js, pre <+: is → (∀ j ∈ js, late j) → Meets step good s (pre ++ js)) :
    Meets step ok s is := by
  induction is generalizing s with
  | nil => trivial
  | cons i is ih =>
    have hok : ok s i := by
      by_contra hnot
      obtain ⟨js, hjs, hmeets⟩ := hbad s i h0 hnot
      exact hmeets (h [i] js ⟨is, rfl⟩ hjs)
    refine ⟨hok, ih (hstep s i h0 hok) fun pre js hpre hjs => ?_⟩
    exact (h (i :: pre) js (List.prefix_cons_inj i |>.mpr hpre) hjs).2

/-- **An exact condition**: if moreover `ok` steps are good and late inputs are `ok`, all such
continuations are good just when the run meets `ok`. -/
theorem meets_iff_of_late (hstep : ∀ s i, I s → ok s i → good s i ∧ I (step s i))
    (hlate : ∀ s i, late i → ok s i)
    (hbad : ∀ s i, I s → ¬ok s i → ∃ js, (∀ j ∈ js, late j) ∧ ¬Meets step good s (i :: js))
    {s : σ} (h0 : I s) {is : List ι} :
    (∀ pre js, pre <+: is → (∀ j ∈ js, late j) → Meets step good s (pre ++ js)) ↔
      Meets step ok s is := by
  refine ⟨Meets.of_late (fun s i hI hok => (hstep s i hI hok).2) hbad h0, ?_⟩
  intro h pre js hpre hjs
  refine Meets.of_inv hstep h0 (meets_append.mpr ⟨h.of_prefix hpre, ?_⟩)
  exact meets_iff.mpr fun before j hbefore =>
    hlate _ j (hjs j (hbefore.subset (List.mem_append_right _ (List.mem_singleton_self j))))

end Late

/-! ## Loops -/

/-- A loop over a list that goes on as long as its body says so. -/
def loopWhile (body : σ → ι → σ × Bool) : σ → List ι → σ × Bool
  | s, [] => (s, true)
  | s, i :: is =>
    match body s i with
    | (s', true) => loopWhile body s' is
    | (s', false) => (s', false)

/-- What every turn keeps, whether it goes on or not, the loop keeps. -/
theorem loopWhile_inv {body : σ → ι → σ × Bool} {I : σ → Prop} {is : List ι}
    (hbody : ∀ s, ∀ i ∈ is, I s → I (body s i).1) {s : σ} (h : I s) :
    I (loopWhile body s is).1 := by
  induction is generalizing s with
  | nil => exact h
  | cons i is ih =>
    have hturn := hbody s i List.mem_cons_self h
    have hrest := fun s j hj => hbody s j (List.mem_cons_of_mem i hj)
    rw [loopWhile]
    split
    · next s' hs' => exact ih hrest (by rwa [hs'] at hturn)
    · next s' hs' => rwa [hs'] at hturn

/-- What every turn of a loop keeps that stops at an error, the loop keeps if it does not stop. -/
theorem foldlM_inv {ε : Type} {body : σ → ι → Except ε σ} {I : σ → Prop} {is : List ι}
    (hbody : ∀ s s', ∀ i ∈ is, I s → body s i = .ok s' → I s') {s s' : σ} (h : I s)
    (hrun : is.foldlM body s = .ok s') : I s' := by
  induction is generalizing s with
  | nil =>
    cases hrun
    exact h
  | cons i is ih =>
    rw [List.foldlM_cons] at hrun
    rcases hturn : body s i with e | next
    · rw [hturn] at hrun
      exact nomatch hrun
    · rw [hturn] at hrun
      exact ih (fun s s' j hj => hbody s s' j (List.mem_cons_of_mem i hj))
        (hbody s next i List.mem_cons_self h hturn) hrun

end FlyRuler.Lib.Run
