import Mathlib.Algebra.GroupWithZero.Nat
import Mathlib.Data.List.Perm.Basic

/-!
# Interleaved threads

A `Machine` says where a call starts and how a thread goes on: one atomic step on the shared state,
or `none` while it has to wait.  A `Pool` is the shared state with the threads of all calls so far,
the finished ones included, and a run is any interleaving of new calls and steps of threads.

What a lock or a counter says about the threads is an equation between its state and the number of
threads in certain places.  `Machine.run_inv` is the rule for invariants of a run; `countP_set_add`
is what a step does to such a number; and what a lock excludes follows from `true_of_countP`,
`countP_lt` and `eq_of_countP_le_one`.
-/

namespace FlyRuler.Lib.Threads

variable {σ τ κ ι : Type}

/-- The threads' program: `κ` are the kinds of calls, `ι` is what a step takes from outside. -/
structure Machine (σ τ κ ι : Type) where
  start : κ → τ
  advance : ι → σ → τ → Option (σ × τ)

structure Pool (σ τ : Type) where
  shared : σ
  threads : List τ

/-- A new call, or a step of the thread with this number. -/
inductive Action (κ ι : Type) where
  | call (kind : κ)
  | step (thread : ℕ) (input : ι)

namespace Machine

variable (m : Machine σ τ κ ι)

/-- One action; a thread that has to wait stays where it is. -/
def next (p : Pool σ τ) : Action κ ι → Pool σ τ
  | .call kind => { p with threads := p.threads ++ [m.start kind] }
  | .step i input =>
    match p.threads[i]? with
    | none => p
    | some t =>
      match m.advance input p.shared t with
      | none => p
      | some (shared, t') => ⟨shared, p.threads.set i t'⟩

def run (p : Pool σ τ) (actions : List (Action κ ι)) : Pool σ τ := actions.foldl m.next p

variable {m}

/-- The rule for one action: it is a new call, a step of a thread, or nothing. -/
theorem next_inv {I : Pool σ τ → Prop} {p : Pool σ τ} (h : I p) (action : Action κ ι)
    (hcall : ∀ kind, action = .call kind → I (m.next p (.call kind)))
    (hstep : ∀ i input t s t', action = .step i input → p.threads[i]? = some t →
      m.advance input p.shared t = some (s, t') → I ⟨s, p.threads.set i t'⟩) :
    I (m.next p action) := by
  rcases action with kind | ⟨i, input⟩
  · exact hcall kind rfl
  · unfold next
    dsimp only
    split
    · exact h
    · next t ht =>
      split
      · exact h
      · next s t' hadvance => exact hstep i input t s t' rfl ht hadvance

/-- **The rule for runs**: what every new call and every step of a thread keeps holds after every
interleaving. -/
theorem run_inv {I : Pool σ τ → Prop} (hcall : ∀ p kind, I p → I (m.next p (.call kind)))
    (hstep : ∀ p i input t s t', I p → p.threads[i]? = some t →
      m.advance input p.shared t = some (s, t') → I ⟨s, p.threads.set i t'⟩)
    {p : Pool σ τ} (h : I p) (actions : List (Action κ ι)) : I (m.run p actions) := by
  induction actions generalizing p with
  | nil => exact h
  | cons action actions ih =>
    refine ih (next_inv h action (fun kind _ => hcall p kind h) ?_)
    rintro i input t s t' - ht hadvance
    exact hstep p i input t s t' h ht hadvance

theorem run_append (p : Pool σ τ) (actions actions' : List (Action κ ι)) :
    m.run p (actions ++ actions') = m.run (m.run p actions) actions' :=
  List.foldl_append

/-- A step of a thread that does not have to wait. -/
theorem next_step {p : Pool σ τ} {i : ℕ} {input : ι} {t t' : τ} {s : σ}
    (ht : p.threads[i]? = some t) (hadvance : m.advance input p.shared t = some (s, t')) :
    m.next p (.step i input) = ⟨s, p.threads.set i t'⟩ := by
  unfold next
  simp only [ht, hadvance]

/-- Runs of one thread, one after the other. -/
theorem exists_run_trans {p q r : Pool σ τ} {action : Action κ ι}
    (h : ∃ n, m.run p (List.replicate n action) = q)
    (h' : ∃ n, m.run q (List.replicate n action) = r) :
    ∃ n, m.run p (List.replicate n action) = r := by
  obtain ⟨n, rfl⟩ := h
  obtain ⟨n', rfl⟩ := h'
  exact ⟨n + n', by rw [List.replicate_add, run_append]⟩

/-- One more step in front of a run of one thread. -/
theorem exists_run_of_step {p q : Pool σ τ} {i : ℕ} {input : ι} {t t' : τ} {s : σ}
    (ht : p.threads[i]? = some t) (hadvance : m.advance input p.shared t = some (s, t'))
    (h : ∃ n, m.run ⟨s, p.threads.set i t'⟩ (List.replicate n (.step i input)) = q) :
    ∃ n, m.run p (List.replicate n (.step i input)) = q := by
  refine exists_run_trans ⟨1, ?_⟩ h
  rw [← next_step ht hadvance]
  rfl

end Machine

/-! ## The list of threads -/

variable {l : List τ} {i : ℕ} {t : τ}

/-- A step of one thread leaves the others. -/
theorem mem_set_of_ne (ht : l[i]? = some t) (t' : τ) {u : τ} (hu : u ∈ l) (hne : u ≠ t) :
    u ∈ l.set i t' := by
  obtain ⟨j, hj⟩ := List.mem_iff_getElem?.mp hu
  refine List.mem_iff_getElem?.mpr ⟨j, ?_⟩
  have hij : i ≠ j := by
    rintro rfl
    exact hne (Option.some.inj (hj.symm.trans ht))
  rw [List.getElem?_set_ne hij]
  exact hj

/-- After a step of one thread there are this one and the others. -/
theorem mem_set_cases {t' u : τ} (hu : u ∈ l.set i t') : u = t' ∨ ∃ j, j ≠ i ∧ l[j]? = some u := by
  obtain ⟨j, hj⟩ := List.mem_iff_getElem?.mp hu
  by_cases hij : i = j
  · subst hij
    obtain ⟨hlt, heq⟩ := List.getElem?_eq_some_iff.mp hj
    rw [List.getElem_set_self] at heq
    exact .inl heq.symm
  · rw [List.getElem?_set_ne hij] at hj
    exact .inr ⟨j, Ne.symm hij, hj⟩

theorem perm_eraseIdx (ht : l[i]? = some t) : l.Perm (t :: l.eraseIdx i) := by
  obtain ⟨hi, rfl⟩ := List.getElem?_eq_some_iff.mp ht
  exact (List.getElem_cons_eraseIdx_perm hi).symm

/-- What a step of one thread does to a list of what the threads have to show. -/
theorem filterMap_set_perm {β : Type} (f : τ → Option β) (ht : l[i]? = some t) (t' : τ) :
    ((l.set i t').filterMap f ++ (f t).toList).Perm (l.filterMap f ++ (f t').toList) := by
  obtain ⟨hi, -⟩ := List.getElem?_eq_some_iff.mp ht
  have hold := (perm_eraseIdx ht).filterMap f
  have hnew := (List.set_perm_cons_eraseIdx hi t').filterMap f
  have hcons : ∀ (u : τ) (rest : List τ),
      (u :: rest).filterMap f = (f u).toList ++ rest.filterMap f := by
    intro u rest
    rw [List.filterMap_cons]
    rcases f u with _ | b <;> rfl
  rw [hcons] at hold hnew
  have hlast := List.perm_append_comm.trans (hnew.append_left (f t).toList)
  have hfirst := List.perm_append_comm.trans (hold.append_left (f t').toList)
  refine hlast.trans (List.Perm.trans ?_ hfirst.symm)
  rw [← List.append_assoc, ← List.append_assoc]
  exact List.perm_append_comm.append_right _

/-! ## Counting threads -/

variable (f : τ → Bool)

/-- What a step does to the number of threads in certain places. -/
theorem countP_set_add (h : l[i]? = some t) (t' : τ) :
    (l.set i t').countP f + (f t).toNat = l.countP f + (f t').toNat := by
  obtain ⟨hi, rfl⟩ := List.getElem?_eq_some_iff.mp h
  rw [List.countP_set hi]
  have hpos : (f l[i]).toNat ≤ l.countP f := by
    rcases hf : f l[i] with _ | _
    · exact Nat.zero_le _
    · exact List.countP_pos_iff.mpr ⟨l[i], List.getElem_mem hi, hf⟩
  have hite : ∀ b : Bool, (if b = true then 1 else 0) = b.toNat := by decide
  rw [hite, hite]
  omega

/-- What a step does to a sum over the threads. -/
theorem sum_map_set_add (m : τ → ℕ) (h : l[i]? = some t) (t' : τ) :
    ((l.set i t').map m).sum + m t = (l.map m).sum + m t' := by
  obtain ⟨hi, -⟩ := List.getElem?_eq_some_iff.mp h
  have hold := ((perm_eraseIdx h).map m).sum_nat
  have hnew := ((List.set_perm_cons_eraseIdx hi t').map m).sum_nat
  rw [List.map_cons, List.sum_cons] at hold hnew
  omega

/-- A new thread counts if it starts in one of the places. -/
theorem countP_concat (t : τ) : (l ++ [t]).countP f = l.countP f + (f t).toNat := by
  rw [List.countP_append, List.countP_singleton]
  rcases f t with _ | _ <;> rfl

variable {f}

/-- A thread that is in one of the places counts. -/
theorem countP_pos_of_getElem? (h : l[i]? = some t) (hf : f t = true) : 0 < l.countP f :=
  List.countP_pos_iff.mpr ⟨t, List.mem_of_getElem? h, hf⟩

theorem true_of_toNat_pos {b : Bool} (h : 0 < b.toNat) : b = true := by
  rcases b with _ | _
  · exact absurd h (Nat.lt_irrefl 0)
  · rfl

/-- A flag that stands for the threads in certain places is set if one of them is there. -/
theorem true_of_countP {b : Bool} (h : l.countP f = b.toNat) (ht : l[i]? = some t)
    (hf : f t = true) : b = true := by
  have hpos := countP_pos_of_getElem? ht hf
  exact true_of_toNat_pos (h ▸ hpos)

/-- There are fewer threads in fewer places, if one of them is in the difference. -/
theorem countP_lt {g : τ → Bool} (hfg : ∀ u, f u = true → g u = true) (h : l[i]? = some t)
    (hg : g t = true) (hf : f t = false) : l.countP f < l.countP g := by
  obtain ⟨hi, rfl⟩ := List.getElem?_eq_some_iff.mp h
  clear h
  induction l generalizing i with
  | nil => exact absurd hi (Nat.not_lt_zero _)
  | cons u l ih =>
    have hle : l.countP f ≤ l.countP g := List.countP_mono_left fun x _ => hfg x
    cases i with
    | zero =>
      rw [List.getElem_cons_zero] at hf hg
      rw [List.countP_cons_of_neg (by simp [hf]), List.countP_cons_of_pos hg]
      omega
    | succ i =>
      rw [List.getElem_cons_succ] at hf hg
      have hlt := ih (by rwa [List.length_cons, Nat.add_lt_add_iff_right] at hi) hg hf
      by_cases hu : f u = true
      · rw [List.countP_cons_of_pos hu, List.countP_cons_of_pos (hfg u hu)]
        omega
      · rw [List.countP_cons_of_neg hu, List.countP_cons]
        omega

/-- Where there is room for one, the other threads are elsewhere. -/
theorem false_of_countP_le_one (h : l.countP f ≤ 1) (ht : l[i]? = some t) (hft : f t = true)
    {j : ℕ} (hj : j ≠ i) {u : τ} (hu : l[j]? = some u) : f u = false := by
  refine eq_false_of_ne_true fun hfu => ?_
  have hmem : u ∈ l.eraseIdx i := by
    rw [List.mem_eraseIdx_iff_getElem?]
    exact ⟨j, hj, hu⟩
  have hpos : 0 < (l.eraseIdx i).countP f := List.countP_pos_iff.mpr ⟨u, hmem, hfu⟩
  rw [(perm_eraseIdx ht).countP_eq, List.countP_cons_of_pos hft] at h
  omega

/-- Where there is room for one, two threads in the place are the same one. -/
theorem eq_of_countP_le_one (h : l.countP f ≤ 1) {u : τ} (ht : t ∈ l) (hft : f t = true)
    (hu : u ∈ l) (hfu : f u = true) : u = t := by
  rw [List.countP_eq_length_filter] at h
  have htf : t ∈ l.filter f := List.mem_filter.mpr ⟨ht, hft⟩
  have huf : u ∈ l.filter f := List.mem_filter.mpr ⟨hu, hfu⟩
  rcases hl : l.filter f with _ | ⟨x, _ | ⟨y, rest⟩⟩
  · rw [hl] at htf
    exact absurd htf List.not_mem_nil
  · rw [hl] at htf huf
    rw [List.mem_singleton.mp htf, List.mem_singleton.mp huf]
  · rw [hl, List.length_cons, List.length_cons] at h
    omega

end FlyRuler.Lib.Threads
