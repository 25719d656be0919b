import Mathlib.Logic.Basic

/-!
# Programs of calls that can fail

A `Prog` asks about the state of a device and issues calls that either succeed or not, and goes on
by the answer; every call stands at a site of the text.  A plan says of every site whether its call
works, fails or is the last thing before a crash.  A call that fails or is cut off leaves one of the
states in `torn`; one that is meant to work but cannot (`does` is `none`) fails without effect.

* `exec_bind_iff`: an execution of two programs, one after the other.
* `exec_steps`: a sequence of calls that stops at the first failure ends after a prefix.
* `Exec.inv`: what every call of a program keeps holds however the program ends.
* `exec_run`: some execution follows a plan from every state.
* `Always`, with one rule for each construct: what holds however a program ends.
-/

namespace FlyRuler.Lib.Faults

variable {κ ι σ ρ τ : Type}

inductive Fault where
  | works
  | fails
  | crashes
  deriving DecidableEq

inductive Prog (κ ι σ ρ : Type) where
  | ret (result : ρ)
  | ask (query : σ → Bool) (next : Bool → Prog κ ι σ ρ)
  | call (site : κ) (op : ι) (next : Bool → Prog κ ι σ ρ)

namespace Prog

def bind : Prog κ ι σ ρ → (ρ → Prog κ ι σ τ) → Prog κ ι σ τ
  | ret result, k => k result
  | ask query next, k => ask query fun b => (next b).bind k
  | call site op next, k => call site op fun b => (next b).bind k

instance : Monad (Prog κ ι σ) where
  pure := ret
  bind := bind

/-- A question about the state. -/
def test (query : σ → Bool) : Prog κ ι σ Bool := ask query ret

/-- One call; the result is whether it succeeded. -/
def attempt (site : κ) (op : ι) : Prog κ ι σ Bool := call site op ret

/-- The calls one after the other, until one fails. -/
def steps (error : τ) : List (κ × ι) → Prog κ ι σ (Except τ Unit)
  | [] => return .ok ()
  | (site, op) :: rest => do
    if ← attempt site op then steps error rest else return .error error

/-- All calls of the program are of this kind. -/
def Uses (P : ι → Prop) : Prog κ ι σ ρ → Prop
  | ret _ => True
  | ask _ next => ∀ b, (next b).Uses P
  | call _ op next => P op ∧ ∀ b, (next b).Uses P

theorem Uses.bind {P : ι → Prop} {p : Prog κ ι σ ρ} {k : ρ → Prog κ ι σ τ} (hp : p.Uses P)
    (hk : ∀ result, (k result).Uses P) : (p >>= k).Uses P := by
  change (p.bind k).Uses P
  induction p with
  | ret result => exact hk result
  | ask query next ih => exact fun b => ih b (hp b)
  | call site op next ih => exact ⟨hp.1, fun b => ih b (hp.2 b)⟩

theorem Uses.pure {P : ι → Prop} (result : ρ) :
    (Pure.pure result : Prog κ ι σ ρ).Uses P := trivial

theorem Uses.test {P : ι → Prop} (query : σ → Bool) :
    (Prog.test query : Prog κ ι σ Bool).Uses P := fun _ => trivial

theorem Uses.attempt {P : ι → Prop} (site : κ) {op : ι} (h : P op) :
    (Prog.attempt site op : Prog κ ι σ Bool).Uses P := ⟨h, fun _ => trivial⟩

theorem Uses.steps {P : ι → Prop} (error : τ) {calls : List (κ × ι)}
    (h : ∀ call ∈ calls, P call.2) :
    (Prog.steps error calls : Prog κ ι σ (Except τ Unit)).Uses P := by
  induction calls with
  | nil => trivial
  | cons call calls ih =>
    rw [List.forall_mem_cons] at h
    refine (Uses.attempt call.1 h.1).bind fun b => ?_
    split
    · exact ih h.2
    · trivial

end Prog

/-- What calls do to the state. -/
structure Device (ι σ : Type) where
  does : ι → σ → Option σ
  torn : ι → σ → σ → Prop
  torn_refl : ∀ op s, torn op s s

/-- What a call answers (`none` is a crash) and leaves. -/
inductive Device.Answers (dev : Device ι σ) (op : ι) (s : σ) : Fault → Option Bool → σ → Prop where
  | works {s' : σ} (h : dev.does op s = some s') : Answers dev op s .works (some true) s'
  | cannot (h : dev.does op s = none) : Answers dev op s .works (some false) s
  | fails {s' : σ} (h : dev.torn op s s') : Answers dev op s .fails (some false) s'
  | crashes {s' : σ} (h : dev.torn op s s') : Answers dev op s .crashes none s'

/-- How an execution ends. -/
inductive Ending (σ ρ : Type) where
  | returned (result : ρ) (state : σ)
  | crashed (state : σ)
  deriving DecidableEq

def Ending.state : Ending σ ρ → σ
  | returned _ state => state
  | crashed state => state

inductive Exec (dev : Device ι σ) (plan : κ → Fault) :
    Prog κ ι σ ρ → σ → Ending σ ρ → Prop where
  | ret (result : ρ) (s : σ) : Exec dev plan (.ret result) s (.returned result s)
  | ask {query : σ → Bool} {next : Bool → Prog κ ι σ ρ} {s : σ} {ending : Ending σ ρ}
      (h : Exec dev plan (next (query s)) s ending) : Exec dev plan (.ask query next) s ending
  | call {site : κ} {op : ι} {next : Bool → Prog κ ι σ ρ} {s s' : σ} {b : Bool}
      {ending : Ending σ ρ} (answers : dev.Answers op s (plan site) (some b) s')
      (h : Exec dev plan (next b) s' ending) : Exec dev plan (.call site op next) s ending
  | crash {site : κ} {op : ι} {next : Bool → Prog κ ι σ ρ} {s s' : σ}
      (answers : dev.Answers op s (plan site) none s') :
      Exec dev plan (.call site op next) s (.crashed s')

variable {dev : Device ι σ} {plan : κ → Fault}

/-! ## One call -/

theorem answers_works_iff {op : ι} {s s' : σ} {a : Option Bool} :
    dev.Answers op s .works a s' ↔
      (∃ t, dev.does op s = some t ∧ a = some true ∧ s' = t) ∨
        dev.does op s = none ∧ a = some false ∧ s' = s := by
  constructor
  · rintro (h | h)
    · exact .inl ⟨_, h, rfl, rfl⟩
    · exact .inr ⟨h, rfl, rfl⟩
  · rintro (⟨t, h, rfl, rfl⟩ | ⟨h, rfl, rfl⟩)
    · exact .works h
    · exact .cannot h

theorem answers_fails_iff {op : ι} {s s' : σ} {a : Option Bool} :
    dev.Answers op s .fails a s' ↔ a = some false ∧ dev.torn op s s' := by
  constructor
  · intro h
    cases h with
    | fails h => exact ⟨rfl, h⟩
  · rintro ⟨rfl, h⟩
    exact .fails h

theorem answers_crashes_iff {op : ι} {s s' : σ} {a : Option Bool} :
    dev.Answers op s .crashes a s' ↔ a = none ∧ dev.torn op s s' := by
  constructor
  · intro h
    cases h with
    | crashes h => exact ⟨rfl, h⟩
  · rintro ⟨rfl, h⟩
    exact .crashes h

/-- A call succeeds only by doing what it should, and otherwise leaves one of its torn states. -/
theorem Device.Answers.effect {op : ι} {s s' : σ} {f : Fault} {a : Option Bool}
    (h : dev.Answers op s f a s') :
    a = some true ∧ f = .works ∧ dev.does op s = some s' ∨ a ≠ some true ∧ dev.torn op s s' := by
  rcases h with h | h | h | h
  · exact .inl ⟨rfl, rfl, h⟩
  · exact .inr ⟨by simp, dev.torn_refl op s⟩
  · exact .inr ⟨by simp, h⟩
  · exact .inr ⟨by simp, h⟩

/-! ## Programs -/

@[simp] theorem exec_pure_iff {result : ρ} {s : σ} {ending : Ending σ ρ} :
    Exec dev plan (pure result) s ending ↔ ending = .returned result s := by
  constructor
  · rintro ⟨⟩
    rfl
  · rintro rfl
    exact .ret _ _

/-- An execution that begins with a call. -/
theorem exec_attempt_bind {site : κ} {op : ι} {k : Bool → Prog κ ι σ ρ} {s : σ}
    {ending : Ending σ ρ} :
    Exec dev plan (Prog.attempt site op >>= k) s ending ↔
      (∃ b s', dev.Answers op s (plan site) (some b) s' ∧ Exec dev plan (k b) s' ending) ∨
        ∃ s', dev.Answers op s (plan site) none s' ∧ ending = .crashed s' := by
  constructor
  · rintro (_ | _ | ⟨answers, h⟩ | answers)
    · exact .inl ⟨_, _, answers, h⟩
    · exact .inr ⟨_, answers, rfl⟩
  · rintro (⟨b, s', answers, h⟩ | ⟨s', answers, rfl⟩)
    · exact .call answers h
    · exact .crash answers

/-- **One program after the other.** -/
theorem exec_bind_iff {p : Prog κ ι σ ρ} {k : ρ → Prog κ ι σ τ} {s : σ} {ending : Ending σ τ} :
    Exec dev plan (p >>= k) s ending ↔
      (∃ result s', Exec dev plan p s (.returned result s') ∧
        Exec dev plan (k result) s' ending) ∨
      ∃ s', Exec dev plan p s (.crashed s') ∧ ending = .crashed s' := by
  change Exec dev plan (p.bind k) s ending ↔ _
  constructor
  · intro h
    induction p generalizing s with
    | ret result => exact .inl ⟨result, s, .ret result s, h⟩
    | ask query next ih =>
      rcases h with _ | h
      rcases ih _ h with ⟨result, s', hp, hk⟩ | ⟨s', hp, rfl⟩
      · exact .inl ⟨result, s', .ask hp, hk⟩
      · exact .inr ⟨s', .ask hp, rfl⟩
    | call site op next ih =>
      rcases h with _ | _ | ⟨answers, h⟩ | answers
      · rcases ih _ h with ⟨result, s', hp, hk⟩ | ⟨s', hp, rfl⟩
        · exact .inl ⟨result, s', .call answers hp, hk⟩
        · exact .inr ⟨s', .call answers hp, rfl⟩
      · exact .inr ⟨_, .crash answers, rfl⟩
  · intro h
    induction p generalizing s with
    | ret result =>
      rcases h with ⟨_, _, ⟨⟩, hk⟩ | ⟨_, ⟨⟩, -⟩
      exact hk
    | ask query next ih =>
      rcases h with ⟨result, s', _ | hp, hk⟩ | ⟨s', _ | hp, rfl⟩
      · exact .ask (ih _ (.inl ⟨result, s', hp, hk⟩))
      · exact .ask (ih _ (.inr ⟨s', hp, rfl⟩))
    | call site op next ih =>
      rcases h with ⟨result, s', _ | _ | ⟨answers, hp⟩, hk⟩ |
        ⟨s', _ | _ | ⟨answers, hp⟩ | answers, rfl⟩
      · exact .call answers (ih _ (.inl ⟨result, s', hp, hk⟩))
      · exact .call answers (ih _ (.inr ⟨s', hp, rfl⟩))
      · exact .crash answers

/-- What the calls do when all of them work. -/
def Device.doesAll (dev : Device ι σ) (calls : List (κ × ι)) (s : σ) : Option σ :=
  calls.foldlM (fun s call => dev.does call.2 s) s

theorem Device.doesAll_cons (dev : Device ι σ) (call : κ × ι) (calls : List (κ × ι)) (s : σ) :
    dev.doesAll (call :: calls) s = (dev.does call.2 s).bind (dev.doesAll calls) := rfl

/-- **A sequence of calls** ends after all of them, or a prefix of them works and the next call
leaves one of its torn states. -/
theorem exec_steps {error : τ} {calls : List (κ × ι)} {s : σ}
    {ending : Ending σ (Except τ Unit)} (h : Exec dev plan (Prog.steps error calls) s ending) :
    (∃ s', dev.doesAll calls s = some s' ∧ (∀ call ∈ calls, plan call.1 = .works) ∧
        ending = .returned (.ok ()) s') ∨
      ∃ pre site op post s' s'', calls = pre ++ (site, op) :: post ∧
        dev.doesAll pre s = some s' ∧ (plan site = .works → dev.does op s' = none) ∧
        dev.torn op s' s'' ∧ (ending = .returned (.error error) s'' ∨ ending = .crashed s'') := by
  induction calls generalizing s with
  | nil => exact .inl ⟨s, rfl, by simp, exec_pure_iff.mp h⟩
  | cons call calls ih =>
    obtain ⟨site, op⟩ := call
    rcases exec_attempt_bind.mp h with ⟨b, s₁, answers, h⟩ | ⟨s₁, answers, rfl⟩
    · rcases b with _ | _
      · have htorn : dev.torn op s s₁ ∧ (plan site = .works → dev.does op s = none) := by
          generalize plan site = fault at answers
          rcases answers with _ | hnone | htorn | _
          · exact ⟨dev.torn_refl op s, fun _ => hnone⟩
          · exact ⟨htorn, by simp⟩
        exact .inr ⟨[], site, op, calls, s, s₁, rfl, rfl, htorn.2, htorn.1,
          .inl (exec_pure_iff.mp h)⟩
      · have hdoes : plan site = .works ∧ dev.does op s = some s₁ := by
          generalize plan site = fault at answers
          rcases answers with h | _ | _ | _
          exact ⟨rfl, h⟩
        rcases ih h with ⟨s', hall, hworks, rfl⟩ | ⟨pre, site', op', post, s', s'', rfl, hpre, hend⟩
        · refine .inl ⟨s', ?_, ?_, rfl⟩
          · rw [Device.doesAll_cons, hdoes.2, Option.bind_some, hall]
          · exact List.forall_mem_cons.mpr ⟨hdoes.1, hworks⟩
        · refine .inr ⟨(site, op) :: pre, site', op', post, s', s'', rfl, ?_, hend⟩
          rw [Device.doesAll_cons, hdoes.2, Option.bind_some, hpre]
    · have htorn : dev.torn op s s₁ ∧ plan site ≠ .works := by
        generalize plan site = fault at answers
        rcases answers with _ | _ | _ | htorn
        exact ⟨htorn, by simp⟩
      exact .inr ⟨[], site, op, calls, s, s₁, rfl, rfl, fun hworks => absurd hworks htorn.2,
        htorn.1, .inr rfl⟩

/-- A plan that lets every call work runs the sequence to its end. -/
theorem exec_steps_works {error : τ} {calls : List (κ × ι)} {s s' : σ}
    {ending : Ending σ (Except τ Unit)} (hall : dev.doesAll calls s = some s')
    (hworks : ∀ call ∈ calls, plan call.1 = .works) :
    Exec dev plan (Prog.steps error calls) s ending ↔ ending = .returned (.ok ()) s' := by
  induction calls generalizing s with
  | nil =>
    cases hall
    exact exec_pure_iff
  | cons call calls ih =>
    obtain ⟨site, op⟩ := call
    rw [List.forall_mem_cons] at hworks
    rw [Device.doesAll_cons] at hall
    obtain ⟨s₁, hdoes, hall⟩ := Option.bind_eq_some_iff.mp hall
    rw [← ih hall hworks.2]
    refine exec_attempt_bind.trans ?_
    rw [hworks.1]
    simp only [answers_works_iff, hdoes]
    simp

/-- A crash after a prefix of a sequence of calls. -/
theorem exec_steps_crash {error : τ} {pre post : List (κ × ι)} {site : κ} {op : ι} {s s' : σ}
    (hpre : dev.doesAll pre s = some s') (hworks : ∀ call ∈ pre, plan call.1 = .works)
    (hcrash : plan site = .crashes) :
    Exec dev plan (Prog.steps error (pre ++ (site, op) :: post) : Prog κ ι σ (Except τ Unit)) s
      (.crashed s') := by
  induction pre generalizing s with
  | nil =>
    cases hpre
    exact exec_attempt_bind.mpr (.inr ⟨_, hcrash ▸ .crashes (dev.torn_refl op _), rfl⟩)
  | cons call pre ih =>
    rw [List.forall_mem_cons] at hworks
    rw [Device.doesAll_cons] at hpre
    obtain ⟨s₁, hdoes, hpre⟩ := Option.bind_eq_some_iff.mp hpre
    exact exec_attempt_bind.mpr (.inl ⟨true, s₁, hworks.1.symm ▸ .works hdoes, ih hpre hworks.2⟩)

/-- **The frame and invariant rule.** -/
theorem Exec.inv {P : ι → Prop} {I : σ → Prop} (hdoes : ∀ op s s', P op → I s →
      dev.does op s = some s' → I s')
    (htorn : ∀ op s s', P op → I s → dev.torn op s s' → I s') {p : Prog κ ι σ ρ} {s : σ}
    {ending : Ending σ ρ} (h : Exec dev plan p s ending) (hp : p.Uses P) (hs : I s) :
    I ending.state := by
  have hanswers : ∀ {op s s' f a}, P op → I s → dev.Answers op s f a s' → I s' := by
    intro op s s' f a hop hI answers
    rcases answers.effect with ⟨-, -, hd⟩ | ⟨-, ht⟩
    · exact hdoes op s s' hop hI hd
    · exact htorn op s s' hop hI ht
  induction h with
  | ret result s => exact hs
  | ask _ ih => exact ih (hp _) hs
  | call answers _ ih => exact ih (hp.2 _) (hanswers hp.1 hs answers)
  | crash answers => exact hanswers hp.1 hs answers

/-- The execution in which a call that does not work has no effect. -/
def Prog.run (dev : Device ι σ) (plan : κ → Fault) : Prog κ ι σ ρ → σ → Ending σ ρ
  | ret result, s => .returned result s
  | ask query next, s => (next (query s)).run dev plan s
  | call site op next, s =>
    match plan site with
    | .works =>
      match dev.does op s with
      | some s' => (next true).run dev plan s'
      | none => (next false).run dev plan s
    | .fails => (next false).run dev plan s
    | .crashes => .crashed s

theorem exec_run (dev : Device ι σ) (plan : κ → Fault) (p : Prog κ ι σ ρ) (s : σ) :
    Exec dev plan p s (p.run dev plan s) := by
  induction p generalizing s with
  | ret result => exact .ret result s
  | ask query next ih => exact .ask (ih (query s) s)
  | call site op next ih =>
    rw [Prog.run]
    split
    · next hplan =>
      split
      · next s' hdoes => exact .call (hplan ▸ .works hdoes) (ih true s')
      · next hdoes => exact .call (hplan ▸ .cannot hdoes) (ih false s)
    · next hplan => exact .call (hplan ▸ .fails (dev.torn_refl op s)) (ih false s)
    · next hplan => exact .crash (hplan ▸ .crashes (dev.torn_refl op s))

/-! ## What holds however a program ends -/

/-- Every ending of the program satisfies `Q`. -/
def Always (dev : Device ι σ) (plan : κ → Fault) (p : Prog κ ι σ ρ) (s : σ)
    (Q : Ending σ ρ → Prop) : Prop :=
  ∀ ending, Exec dev plan p s ending → Q ending

variable {Q : Ending σ ρ → Prop} {s : σ}

@[simp] theorem always_pure {result : ρ} :
    Always dev plan (pure result) s Q ↔ Q (.returned result s) := by
  simp [Always]

@[simp] theorem always_test {query : σ → Bool} {Q : Ending σ Bool → Prop} :
    Always dev plan (Prog.test query) s Q ↔ Q (.returned (query s) s) := by
  constructor
  · intro h
    exact h _ (.ask (.ret _ _))
  · rintro h ending (_ | ⟨⟨⟩⟩)
    exact h

section

variable {site : κ} {op : ι} {Q : Ending σ Bool → Prop}

theorem always_attempt :
    Always dev plan (Prog.attempt site op) s Q ↔
      (∀ b s', dev.Answers op s (plan site) (some b) s' → Q (.returned b s')) ∧
        ∀ s', dev.Answers op s (plan site) none s' → Q (.crashed s') := by
  constructor
  · intro h
    exact ⟨fun b s' answers => h _ (.call answers (.ret _ _)),
      fun s' answers => h _ (.crash answers)⟩
  · rintro h ending (_ | _ | ⟨answers, ⟨⟩⟩ | answers)
    · exact h.1 _ _ answers
    · exact h.2 _ answers

theorem always_attempt_works {s' : σ} (hplan : plan site = .works)
    (hdoes : dev.does op s = some s') :
    Always dev plan (Prog.attempt site op) s Q ↔ Q (.returned true s') := by
  rw [always_attempt, hplan]
  simp only [answers_works_iff, hdoes]
  simp

theorem always_attempt_cannot (hplan : plan site = .works) (hdoes : dev.does op s = none) :
    Always dev plan (Prog.attempt site op) s Q ↔ Q (.returned false s) := by
  rw [always_attempt, hplan]
  simp only [answers_works_iff, hdoes]
  simp

theorem always_attempt_fails (hplan : plan site = .fails) :
    Always dev plan (Prog.attempt site op) s Q ↔
      ∀ s', dev.torn op s s' → Q (.returned false s') := by
  rw [always_attempt, hplan]
  simp only [answers_fails_iff]
  simp

theorem always_attempt_crashes (hplan : plan site = .crashes) :
    Always dev plan (Prog.attempt site op) s Q ↔ ∀ s', dev.torn op s s' → Q (.crashed s') := by
  rw [always_attempt, hplan]
  simp only [answers_crashes_iff]
  simp

end

/-- What a first program has to end in for `Q` to hold after a second one. -/
def Ending.Before (Q : Ending σ ρ → Prop) (R : τ → σ → Prop) : Ending σ τ → Prop
  | returned result state => R result state
  | crashed state => Q (.crashed state)

@[simp] theorem before_returned {R : τ → σ → Prop} {result : τ} :
    Ending.Before Q R (.returned result s) ↔ R result s := Iff.rfl

@[simp] theorem before_crashed {R : τ → σ → Prop} :
    Ending.Before Q R (.crashed s) ↔ Q (.crashed s) := Iff.rfl

theorem always_bind {p : Prog κ ι σ τ} {k : τ → Prog κ ι σ ρ} :
    Always dev plan (p >>= k) s Q ↔
      Always dev plan p s (Ending.Before Q fun result s' => Always dev plan (k result) s' Q) := by
  constructor
  · rintro h (⟨result, s'⟩ | s') hexec
    · exact fun ending hk => h ending (exec_bind_iff.mpr (.inl ⟨result, s', hexec, hk⟩))
    · exact h _ (exec_bind_iff.mpr (.inr ⟨s', hexec, rfl⟩))
  · intro h ending hexec
    rcases exec_bind_iff.mp hexec with ⟨result, s', hp, hk⟩ | ⟨s', hp, rfl⟩
    · exact h _ hp ending hk
    · exact h _ hp

theorem Always.mono {p : Prog κ ι σ ρ} {Q' : Ending σ ρ → Prop} (h : Always dev plan p s Q)
    (hQ : ∀ ending, Q ending → Q' ending) : Always dev plan p s Q' :=
  fun ending hexec => hQ ending (h ending hexec)

/-- What no ending satisfies is not always so. -/
theorem not_always {p : Prog κ ι σ ρ} (h : Always dev plan p s fun ending => ¬Q ending) :
    ¬Always dev plan p s Q := by
  intro hQ
  exact h _ (exec_run dev plan p s) (hQ _ (exec_run dev plan p s))

end FlyRuler.Lib.Faults
