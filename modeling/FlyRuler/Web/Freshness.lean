import FlyRuler.Web.SeriesStore

/-!
# Stale answers to the series store

A request is numbered among the requests of its signature since the last `clear()` (`Numbered`),
and only an answer with the last number of its signature is taken.  The number does not say which
`clear()` came before it: an answer to a request from before the last one is taken if there are as
many requests of its signature since then (`Reissued`).

* `numbered_run`: the numbers, in every run.
* `Numbered.isCurrent_iff`: which answers are taken.
* `untouched_run`: the runs in which no stale answer is taken.
-/

namespace FlyRuler.Web

open FlyRuler.Pb FlyRuler.Store FlyRuler.Management FlyRuler.Management.Web FlyRuler.Lib.Keyed
open FlyRuler.Lib.Run

variable {numberText : F64 → String}

/-! ## What the calls of the store do -/

/-- What `loadCurves` does if it sends a request. -/
structure Sends (store store' : SeriesStore) (request : Request) : Prop where
  generation : request.generation =
    (store.requestGenerations.lookup request.signature).getD 0 + 1
  requestGenerations : store'.requestGenerations =
    store.requestGenerations.insert request.signature request.generation

/-- `loadCurves` changes nothing, or sends a request. -/
theorem loadCurves_cases (numberText : F64 → String) (store : SeriesStore)
    (curves : List SeriesSelection) (range : Option SeriesTimeRange) (maxPoints : Option ℕ)
    (append : Bool) :
    store.loadCurves numberText curves range maxPoints append = (store, none) ∨
      ∃ store' request, store.loadCurves numberText curves range maxPoints append =
        (store', some request) ∧ Sends store store' request := by
  unfold SeriesStore.loadCurves
  dsimp only
  split_ifs
  · exact .inl rfl
  · exact .inl rfl
  · exact .inr ⟨_, _, rfl, rfl, rfl⟩

section Answers
variable {store : SeriesStore} {request : Request}

/-- An answer to a request whose number is gone changes nothing. -/
theorem settle_of_not_isCurrent (h : ¬store.IsCurrent request)
    (write : SeriesStore → SeriesStore) : store.settle request write = store :=
  (if_neg h).trans (if_neg h)

theorem finish_requestGenerations (store : SeriesStore) (request : Request) :
    (store.finish request).requestGenerations = store.requestGenerations := by
  unfold SeriesStore.finish
  split_ifs <;> rfl

theorem settle_requestGenerations {write : SeriesStore → SeriesStore}
    (h : (write store).requestGenerations = store.requestGenerations) :
    (store.settle request write).requestGenerations = store.requestGenerations := by
  unfold SeriesStore.settle
  split_ifs
  · exact (finish_requestGenerations _ request).trans h
  · exact finish_requestGenerations store request

end Answers

/-! ## The numbers of the requests -/

/-- The signature of a request and the calls of `clear()` before it. -/
def Sent.key (sent : Sent) : String × ℕ := (sent.request.signature, sent.clears)

def SeriesClient.keys (s : SeriesClient) : List (String × ℕ) := s.sent.map Sent.key

/-- **The numbers**: that of a signature counts its requests since the last `clear()`, and that of a
request those of its signature up to it, since the `clear()` before it. -/
structure Numbered (s : SeriesClient) : Prop where
  count : ∀ signature, (s.store.requestGenerations.lookup signature).getD 0 =
    s.keys.count (signature, s.clears)
  generation : ∀ number sent, s.sent[number]? = some sent →
    sent.request.generation = (s.keys.take (number + 1)).count sent.key
  clears_le : ∀ sent ∈ s.sent, sent.clears ≤ s.clears
  ordered : s.sent.Pairwise fun sent later => sent.clears ≤ later.clears

theorem Numbered.init : Numbered {} :=
  ⟨fun _ => rfl, fun _ _ h => (nomatch h), fun _ h => (nomatch h), List.Pairwise.nil⟩

section Steps
variable {s : SeriesClient}

/-- The key behind those of the requests so far is new to them. -/
theorem Numbered.send (h : Numbered s) {store : SeriesStore} {request : Request}
    (hsends : Sends s.store store request) :
    Numbered { s with store := store, sent := s.sent ++ [⟨request, s.clears⟩] } := by
  have hkeys : SeriesClient.keys { s with
      store := store, sent := s.sent ++ [⟨request, s.clears⟩] } =
        s.keys ++ [(request.signature, s.clears)] := List.map_append
  have hnumber : request.generation = s.keys.count (request.signature, s.clears) + 1 := by
    rw [hsends.generation, h.count]
  refine ⟨fun signature => ?_, fun number sent hsent => ?_, fun sent hsent => ?_, ?_⟩
  · rw [hkeys, hsends.requestGenerations, lookup_insert, List.count_append]
    by_cases hsignature : signature = request.signature
    · rw [if_pos hsignature, hsignature, hnumber, List.count_singleton_self]
      rfl
    · have hne : (request.signature, s.clears) ≠ (signature, s.clears) := fun heq =>
        hsignature (Prod.mk.inj heq).1.symm
      rw [if_neg hsignature, h.count, List.count_cons_of_ne hne, List.count_nil, add_zero]
  · rw [hkeys]
    have hlength : s.keys.length = s.sent.length := List.length_map _
    rcases Nat.lt_trichotomy number s.sent.length with hlt | rfl | hgt
    · rw [List.getElem?_append_left hlt] at hsent
      rw [List.take_append_of_le_length (by omega)]
      exact h.generation number sent hsent
    · rw [List.getElem?_concat_length] at hsent
      cases hsent
      rw [List.take_of_length_le (by simp [hlength]), List.count_append]
      exact hnumber.trans (congrArg _ List.count_singleton_self.symm)
    · rw [List.getElem?_eq_none (by simp; omega)] at hsent
      exact nomatch hsent
  · rcases List.mem_append.mp hsent with hsent | hsent
    · exact h.clears_le sent hsent
    · rw [List.mem_singleton.mp hsent]
  · refine List.pairwise_append.mpr ⟨h.ordered, List.pairwise_singleton _ _, ?_⟩
    intro sent hsent later hlater
    rw [List.mem_singleton.mp hlater]
    exact h.clears_le sent hsent

/-- An answer gives no number. -/
theorem Numbered.answer (h : Numbered s) (number : ℕ) (message : Option String)
    (take : SeriesStore → Request → SeriesStore)
    (htake : ∀ store request, (take store request).requestGenerations = store.requestGenerations) :
    Numbered (s.answer number message take) := by
  unfold SeriesClient.answer
  rcases s.sent[number]? with _ | sent
  · exact h
  · dsimp only
    split_ifs
    · refine ⟨fun signature => ?_, h.generation, h.clears_le, h.ordered⟩
      dsimp only
      rw [htake]
      exact h.count signature
    · exact h

/-- No request is behind the next `clear()` yet. -/
theorem Numbered.clear (h : Numbered s) :
    Numbered { s with store := SeriesStore.clear, clears := s.clears + 1 } where
  count signature := by
    refine (List.count_eq_zero.mpr fun hmem => ?_).symm
    obtain ⟨sent, hsent, hkey⟩ := List.mem_map.mp hmem
    have hclears : sent.clears = s.clears + 1 := (Prod.mk.inj hkey).2
    have hle := h.clears_le sent hsent
    omega
  generation := h.generation
  clears_le sent hsent := (h.clears_le sent hsent).trans (Nat.le_succ _)
  ordered := h.ordered

theorem Numbered.step (h : Numbered s) (event : SeriesEvent) :
    Numbered (s.step numberText event) := by
  rcases event with ⟨curves, range, maxPoints, append⟩ | _ | ⟨number, response⟩ | ⟨number, message⟩
  · unfold SeriesClient.step
    dsimp only
    rcases loadCurves_cases numberText s.store curves range maxPoints append with
      hcall | ⟨store, request, hcall, hsends⟩
    · rw [hcall]
      exact h
    · rw [hcall]
      exact h.send hsends
  · exact h.clear
  · exact h.answer number none (fun store request => store.respond request response)
      fun store request => settle_requestGenerations rfl
  · exact h.answer number (some message) (fun store request => store.fail request message)
      fun store request => settle_requestGenerations rfl

/-- **The numbers in every run.** -/
theorem numbered_run (numberText : F64 → String) (events : List SeriesEvent) :
    Numbered (SeriesClient.run numberText events) :=
  (List.foldlRecOn events (SeriesClient.step numberText) Numbered.init
    fun _ h event _ => h.step event : Numbered _)

/-- **The answers that are taken**: to the last of as many requests of the signature as there are
since the last `clear()`. -/
theorem Numbered.isCurrent_iff (h : Numbered s) {number : ℕ} {sent : Sent}
    (hsent : s.sent[number]? = some sent) :
    s.store.IsCurrent sent.request ↔
      s.keys.count (sent.request.signature, s.clears) =
        (s.keys.take (number + 1)).count sent.key := by
  have hkey : s.keys[number]? = some sent.key := by
    unfold SeriesClient.keys
    rw [List.getElem?_map, hsent]
    rfl
  have hmem : sent.key ∈ s.keys.take (number + 1) :=
    List.mem_of_getElem? ((List.getElem?_take_of_succ).trans hkey)
  have hpos : 0 < (s.keys.take (number + 1)).count sent.key := List.count_pos_iff.mpr hmem
  rw [← h.count, ← h.generation number sent hsent]
  rw [← h.generation number sent hsent] at hpos
  unfold SeriesStore.IsCurrent
  rcases s.store.requestGenerations.lookup sent.request.signature with _ | generation
  · simp only [Option.getD_none]
    exact iff_of_false nofun hpos.ne
  · simp only [Option.getD_some, Option.some.injEq]

/-! ## Stale answers -/

/-- The request was sent before the last `clear()`, or before another one of its signature. -/
def Stale (s : SeriesClient) (number : ℕ) : Prop :=
  ∃ sent ∈ s.sent[number]?, sent.clears < s.clears ∨
    ∃ later > number, ∃ next ∈ s.sent[later]?, next.request.signature = sent.request.signature

/-- An answer is still to come to a request that was sent before the last `clear()`, and there are
as many requests of its signature since then as there were up to it, since the `clear()` before
it. -/
def Reissued (s : SeriesClient) (number : ℕ) : Prop :=
  s.InFlight number ∧ ∃ sent ∈ s.sent[number]?, sent.clears < s.clears ∧
    s.keys.count (sent.request.signature, s.clears) =
      (s.keys.take (number + 1)).count sent.key

instance (s : SeriesClient) (number : ℕ) : Decidable (Reissued s number) :=
  inferInstanceAs (Decidable (_ ∧ ∃ sent ∈ s.sent[number]?, _))

/-- An element behind the first ones is one of the others. -/
theorem mem_drop_of_getElem? {α : Type} {l : List α} {i j : ℕ} {a : α} (h : l[j]? = some a)
    (hij : i ≤ j) : a ∈ l.drop i := by
  refine List.mem_of_getElem? (?_ : (l.drop i)[j - i]? = some a)
  rw [List.getElem?_drop, Nat.add_sub_cancel' hij]
  exact h

/-- A request that was sent later has no fewer calls of `clear()` before it. -/
theorem Numbered.clears_le_later (h : Numbered s) {number later : ℕ} {sent next : Sent}
    (hsent : s.sent[number]? = some sent) (hnext : s.sent[later]? = some next)
    (hlater : number < later) : sent.clears ≤ next.clears := by
  obtain ⟨hnumber, rfl⟩ := List.getElem?_eq_some_iff.mp hsent
  obtain ⟨hlength, rfl⟩ := List.getElem?_eq_some_iff.mp hnext
  exact List.pairwise_iff_getElem.mp h.ordered number later hnumber hlength hlater

/-- **A stale answer is not taken**, unless its request was sent again. -/
theorem Numbered.not_isCurrent (h : Numbered s) {number : ℕ} {sent : Sent}
    (hsent : s.sent[number]? = some sent) (hinFlight : s.InFlight number)
    (hstale : Stale s number) (hok : ¬Reissued s number) : ¬s.store.IsCurrent sent.request := by
  intro hcurrent
  have hcount := (h.isCurrent_iff hsent).mp hcurrent
  rcases (h.clears_le sent (List.mem_of_getElem? hsent)).lt_or_eq with hclears | hclears
  · exact hok ⟨hinFlight, sent, hsent, hclears, hcount⟩
  · obtain ⟨sent', hsent', hcleared | ⟨later, hlater, next, hnext, hsignature⟩⟩ := hstale
    · rw [Option.some.inj (hsent.symm.trans hsent')] at hclears
      exact hcleared.ne hclears
    · cases hsent.symm.trans hsent'
      -- the later request has the same key, and is counted too
      have hnextClears : next.clears = s.clears :=
        le_antisymm (h.clears_le next (List.mem_of_getElem? hnext))
          (hclears ▸ h.clears_le_later hsent hnext hlater)
      have hkey : s.keys[later]? = some (sent.request.signature, s.clears) := by
        unfold SeriesClient.keys
        rw [List.getElem?_map, hnext, ← hsignature, ← hnextClears]
        rfl
      have hmem := mem_drop_of_getElem? hkey (show number + 1 ≤ later from hlater)
      have hsplit := congrArg (List.count (sent.request.signature, s.clears))
        (List.take_append_drop (number + 1) s.keys)
      rw [List.count_append] at hsplit
      have hsentKey : sent.key = (sent.request.signature, s.clears) := by
        rw [← hclears]
        rfl
      rw [hsentKey] at hcount
      have hpos := List.count_pos_iff.mpr hmem
      omega

end Steps

/-! ## Runs -/

/-- The request that an answer is to. -/
def SeriesEvent.number : SeriesEvent → Option ℕ
  | .respond number _ => some number
  | .fail number _ => some number
  | _ => none

/-- No answer is to a request that was sent again since the last `clear()`. -/
def AnswersFresh (s : SeriesClient) (event : SeriesEvent) : Prop :=
  ∀ number ∈ event.number, ¬Reissued s number

instance (s : SeriesClient) (event : SeriesEvent) : Decidable (AnswersFresh s event) :=
  inferInstanceAs (Decidable (∀ number ∈ event.number, ¬Reissued s number))

/-- The data and the errors are as before. -/
structure Untouched (store store' : SeriesStore) : Prop where
  data : store'.data = store.data
  errors : store'.errors = store.errors
  error : store'.error = store.error

theorem answer_store {s : SeriesClient} {number : ℕ} {message : Option String}
    {take : SeriesStore → Request → SeriesStore}
    (h : ∀ sent ∈ s.sent[number]?, s.InFlight number → take s.store sent.request = s.store) :
    (s.answer number message take).store = s.store := by
  unfold SeriesClient.answer
  rcases hsent : s.sent[number]? with _ | sent
  · rfl
  · dsimp only
    split_ifs with hinFlight
    · exact h sent hsent hinFlight
    · rfl

/-- **Stale answers** leave the store as it is, unless their request was sent again. -/
theorem Numbered.step_store (numberText : F64 → String) {s : SeriesClient} (h : Numbered s)
    {number : ℕ} (hstale : Stale s number) (hok : ¬Reissued s number) {event : SeriesEvent}
    (hnumber : event.number = some number) : (s.step numberText event).store = s.store := by
  have hold : ∀ sent ∈ s.sent[number]?, s.InFlight number → ¬s.store.IsCurrent sent.request :=
    fun sent hsent hinFlight => h.not_isCurrent hsent hinFlight hstale hok
  rcases event with ⟨curves, range, maxPoints, append⟩ | _ | ⟨number, response⟩ | ⟨number, message⟩
  · exact nomatch hnumber
  · exact nomatch hnumber
  · cases hnumber
    exact answer_store fun sent hsent hinFlight =>
      settle_of_not_isCurrent (hold sent hsent hinFlight) _
  · cases hnumber
    exact answer_store fun sent hsent hinFlight =>
      settle_of_not_isCurrent (hold sent hsent hinFlight) _

/-- A failure of a request that was sent again is written. -/
theorem Numbered.fail_error (numberText : F64 → String) {s : SeriesClient} (h : Numbered s)
    {number : ℕ} (hreissued : Reissued s number) (message : String) :
    (s.step numberText (.fail number message)).store.error = some message := by
  obtain ⟨hinFlight, sent, hsent, -, hcount⟩ := hreissued
  have hcurrent : s.store.IsCurrent sent.request := (h.isCurrent_iff hsent).mpr hcount
  have hanswer : s.step numberText (.fail number message) =
      { s with
        store := s.store.fail sent.request message
        answered := (number, some message) :: s.answered } := by
    rw [SeriesClient.step_fail]
    unfold SeriesClient.answer
    rw [Option.mem_def.mp hsent]
    exact if_pos hinFlight
  rw [hanswer]
  unfold SeriesStore.fail SeriesStore.settle
  rw [if_pos hcurrent]
  unfold SeriesStore.finish
  split_ifs <;> rfl

/-- **The condition is exact**: some answer to a stale request is written if it was sent again. -/
theorem Numbered.untouched_iff (numberText : F64 → String) {s : SeriesClient} (h : Numbered s)
    {number : ℕ} (hstale : Stale s number) :
    (∀ event : SeriesEvent, event.number = some number →
        Untouched s.store (s.step numberText event).store) ↔ ¬Reissued s number := by
  constructor
  · intro huntouched hreissued
    have herror : ∀ message, some message = s.store.error := fun message =>
      (h.fail_error numberText hreissued message).symm.trans
        (huntouched (.fail number message) rfl).error
    exact absurd ((herror "0").trans (herror "1").symm) (by decide)
  · intro hok event hnumber
    have hstore := h.step_store numberText hstale hok hnumber
    exact ⟨congrArg _ hstore, congrArg _ hstore, congrArg _ hstore⟩

/-- **Stale answers do not reach the store** in a run in which no answer is to a request that was
sent again. -/
theorem untouched_run (numberText : F64 → String) {events : List SeriesEvent}
    (h : Meets (SeriesClient.step numberText) AnswersFresh {} events) {pre : List SeriesEvent}
    {event : SeriesEvent} (hpre : pre ++ [event] <+: events) {number : ℕ}
    (hnumber : event.number = some number)
    (hstale : Stale (SeriesClient.run numberText pre) number) :
    Untouched (SeriesClient.run numberText pre).store
      (SeriesClient.run numberText (pre ++ [event])).store := by
  have hok := meets_iff.mp h pre event hpre number hnumber
  rw [SeriesClient.run_concat]
  exact ((numbered_run numberText pre).untouched_iff numberText hstale).mpr hok event hnumber

/-! ## A request that is sent again -/

def positionX : SeriesSelection := ⟨"a", .standard "position.x"⟩

def positionSeries : SeriesData :=
  { key := "a::standard:position.x"
    aircraftId := "a"
    selector := .standard "position.x"
    points := [(0, 1)]
    totalPoints := 1
    returnedPoints := 1
    stats := none }

/-- A request and a `clear()`. -/
def clearedRun : List SeriesEvent := [.loadCurves [positionX] none none false, .clear]

theorem untouched_run_cleared :
    Untouched (SeriesClient.run (fun _ => "0") clearedRun).store
      (SeriesClient.run (fun _ => "0") (clearedRun ++ [.respond 0 [positionSeries]])).store :=
  untouched_run (fun _ => "0") (by decide +kernel) List.prefix_rfl rfl
    ⟨_, rfl, .inl (by decide +kernel)⟩

/-- The same request again behind the `clear()`. -/
def reissuedRun : List SeriesEvent := clearedRun ++ [.loadCurves [positionX] none none false]

/-- **A stale answer that is taken.** -/
theorem stale_respond_taken :
    Stale (SeriesClient.run (fun _ => "0") reissuedRun) 0 ∧
      ¬Untouched (SeriesClient.run (fun _ => "0") reissuedRun).store
        (SeriesClient.run (fun _ => "0") (reissuedRun ++ [.respond 0 [positionSeries]])).store := by
  refine ⟨⟨_, rfl, .inl (by decide +kernel)⟩, fun h => ?_⟩
  have hdata := congrArg (fun data => (data.lookup "a::standard:position.x").isSome) h.data
  exact absurd hdata (by decide +kernel)

end FlyRuler.Web
