import FlyRuler.Web.SeriesStore

/-!
# The loading status of series

`isLoading` and `errorFor` of `web/src/stores/series.ts` look up the signature of the curves, while
`loadCurves` writes under that signature with the range and the points asked for behind it.  The
texts differ (`requestSignature_ne`), so a request that is in flight does not show.

* `Idle.step`: what is there before the first request.
* `truthful_run_iff`: in which runs the status tells what goes on.
-/

namespace FlyRuler.Web

open FlyRuler.Pb FlyRuler.Store FlyRuler.Management FlyRuler.Management.Web FlyRuler.Lib.Keyed

/-! ## What the status is to tell -/

/-- The keys of curves, in no order. -/
def curveSet (curves : List SeriesSelection) : Finset String := (curves.map curveKey).toFinset

/-- The request is for this set of curves. -/
def IsFor (sent : Sent) (curves : List SeriesSelection) : Prop :=
  curveSet sent.request.query.selections = curveSet curves

instance (sent : Sent) (curves : List SeriesSelection) : Decidable (IsFor sent curves) :=
  inferInstanceAs (Decidable (_ = _))

/-- A request for these curves, sent since the last `clear()`, is in flight. -/
def Loading (s : SeriesClient) (curves : List SeriesSelection) : Prop :=
  ∃ number, ∃ sent ∈ s.sent[number]?, sent.clears = s.clears ∧ s.InFlight number ∧
    IsFor sent curves

/-- The message of the latest answer to a request for these curves. -/
def latestError (s : SeriesClient) (curves : List SeriesSelection) : Option String :=
  (s.answered.find? fun answer => (s.sent[answer.1]?).any fun sent => IsFor sent curves).bind
    Prod.snd

/-- **The status tells what goes on.** -/
structure Truthful (s : SeriesClient) : Prop where
  isLoading : ∀ curves, s.store.isLoading curves = true ↔ Loading s curves
  errorFor : ∀ curves, s.store.errorFor curves = latestError s curves

/-! ## Before the first request -/

/-- Nothing was sent yet. -/
structure Idle (s : SeriesClient) : Prop where
  store : s.store = {}
  sent : s.sent = []
  answered : s.answered = []

/-- A call of `loadCurves` without curves, or another call. -/
def LoadsNothing : SeriesEvent → Prop
  | .loadCurves curves _ _ _ => curves = []
  | _ => True

theorem Idle.init : Idle {} := ⟨rfl, rfl, rfl⟩

theorem Idle.truthful {s : SeriesClient} (h : Idle s) : Truthful s where
  isLoading curves := by
    rw [h.store]
    refine iff_of_false Bool.false_ne_true ?_
    rintro ⟨number, sent, hsent, -⟩
    rw [h.sent] at hsent
    exact nomatch hsent
  errorFor curves := by
    unfold latestError
    rw [h.store, h.answered]
    rfl

/-- There is nothing that an answer could be to. -/
theorem Idle.answer {s : SeriesClient} (h : Idle s) (number : ℕ) (message : Option String)
    (take : SeriesStore → Request → SeriesStore) : s.answer number message take = s := by
  unfold SeriesClient.answer
  rw [h.sent]
  rfl

theorem Idle.step {numberText : F64 → String} {s : SeriesClient} (h : Idle s) {event : SeriesEvent}
    (hevent : LoadsNothing event) : Idle (s.step numberText event) := by
  rcases event with ⟨curves, range, maxPoints, append⟩ | _ | ⟨number, response⟩ | ⟨number, message⟩
  · cases hevent
    exact h
  · exact ⟨rfl, h.sent, h.answered⟩
  · rw [SeriesClient.step_respond, h.answer]
    exact h
  · rw [SeriesClient.step_fail, h.answer]
    exact h

/-! ## The first request -/

theorem setEntry_ne_nil {α : Type} (key : String) (value : α) (entries : List (String × α)) :
    setEntry key value entries ≠ [] := by
  cases entries with
  | nil => exact List.cons_ne_nil _ _
  | cons entry entries =>
    unfold setEntry
    split_ifs <;> exact List.cons_ne_nil _ _

theorem uniqueCurves_ne_nil {curves : List SeriesSelection} (h : curves ≠ []) :
    uniqueCurves curves ≠ [] := by
  obtain ⟨before, last, rfl⟩ := (List.eq_nil_or_concat curves).resolve_left h
  unfold uniqueCurves
  rw [List.concat_eq_append, List.foldl_append]
  exact fun heq => setEntry_ne_nil _ _ _ (List.map_eq_nil_iff.mp heq)

/-- The key of a request is longer than the signature of its curves. -/
theorem requestSignature_ne (numberText : F64 → String) (unique : List SeriesSelection)
    (range : Option SeriesTimeRange) (maxPoints : Option ℕ) :
    curveSignature unique ≠ requestSignature numberText unique range maxPoints := by
  intro h
  have hlength := congrArg String.length h
  unfold requestSignature at hlength
  simp only [String.length_append] at hlength
  have hbar : "|".length = 1 := rfl
  omega

theorem loadCurves_first (numberText : F64 → String) {curves : List SeriesSelection}
    (h : curves ≠ []) (range : Option SeriesTimeRange) (maxPoints : Option ℕ) (append : Bool) :
    ∃ store request, SeriesStore.loadCurves {} numberText curves range maxPoints append =
        (store, some request) ∧
      request.query.selections = uniqueCurves curves ∧
      store.loadingSignatures = (∅ : Table String Bool).insert
        (requestSignature numberText (uniqueCurves curves) range maxPoints) true := by
  unfold SeriesStore.loadCurves
  rw [if_neg (uniqueCurves_ne_nil h)]
  exact ⟨_, _, rfl, rfl, rfl⟩

/-- **The first request does not show.** -/
theorem Idle.not_truthful {s : SeriesClient} (h : Idle s) (numberText : F64 → String)
    {curves : List SeriesSelection} (hcurves : curves ≠ []) (range : Option SeriesTimeRange)
    (maxPoints : Option ℕ) (append : Bool) :
    ¬Truthful (s.step numberText (.loadCurves curves range maxPoints append)) := by
  intro htruthful
  obtain ⟨store, request, hcall, hselections, hsignatures⟩ :=
    loadCurves_first numberText hcurves range maxPoints append
  have hstep : s.step numberText (.loadCurves curves range maxPoints append) =
      { s with store := store, sent := [⟨request, s.clears⟩] } := by
    unfold SeriesClient.step
    dsimp only
    rw [h.store, hcall, h.sent]
    rfl
  rw [hstep] at htruthful
  have hloading : Loading { s with store := store, sent := [⟨request, s.clears⟩] }
      (uniqueCurves curves) := by
    refine ⟨0, ⟨request, s.clears⟩, rfl, rfl, ?_, congrArg curveSet hselections⟩
    unfold SeriesClient.InFlight
    rw [h.answered]
    exact List.not_mem_nil
  have hshown := (htruthful.isLoading (uniqueCurves curves)).mpr hloading
  unfold SeriesStore.isLoading at hshown
  rw [hsignatures, lookup_insert, if_neg (requestSignature_ne numberText _ range maxPoints)]
    at hshown
  exact absurd hshown Bool.false_ne_true

/-! ## Runs -/

/-- **The status tells what goes on** in the runs in which no curves are loaded. -/
theorem truthful_run_iff (numberText : F64 → String) (events : List SeriesEvent) :
    (∀ pre, pre <+: events → Truthful (SeriesClient.run numberText pre)) ↔
      ∀ event ∈ events, LoadsNothing event := by
  suffices hrun : ∀ s, Idle s →
      ((∀ pre, pre <+: events → Truthful (pre.foldl (SeriesClient.step numberText) s)) ↔
        ∀ event ∈ events, LoadsNothing event) from hrun {} Idle.init
  induction events with
  | nil =>
    intro s h
    refine iff_of_true (fun pre hpre => ?_) fun event hevent => absurd hevent List.not_mem_nil
    rw [List.prefix_nil.mp hpre]
    exact h.truthful
  | cons event events ih =>
    intro s h
    rw [List.forall_mem_cons]
    constructor
    · intro htruthful
      -- the first call with curves would not show
      have hnothing : LoadsNothing event := by
        rcases event with ⟨curves, range, maxPoints, append⟩ | _ | _ | _
        · by_contra hcurves
          exact h.not_truthful numberText hcurves range maxPoints append
            (htruthful [_] ⟨events, rfl⟩)
        · trivial
        · trivial
        · trivial
      refine ⟨hnothing, (ih (s.step numberText event) (h.step hnothing)).mp fun pre hpre => ?_⟩
      exact htruthful (event :: pre) (List.prefix_cons_inj event |>.mpr hpre)
    · rintro ⟨hnothing, hrest⟩ pre hpre
      rcases List.prefix_cons_iff.mp hpre with rfl | ⟨steps, rfl, hsteps⟩
      · exact h.truthful
      · exact (ih (s.step numberText event) (h.step hnothing)).mpr hrest steps hsteps

/-- A request for one curve does not show while it is in flight. -/
theorem not_truthful_loading :
    ¬Truthful (SeriesClient.run (fun _ => "0")
      [.loadCurves [⟨"a", .standard "position.x"⟩] none none false]) := by
  unfold SeriesClient.run
  rw [List.foldl_cons, List.foldl_nil]
  exact Idle.init.not_truthful (fun _ => "0") (List.cons_ne_nil _ _) none none false

end FlyRuler.Web
