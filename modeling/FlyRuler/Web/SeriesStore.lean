import FlyRuler.Lib.Keyed
import FlyRuler.Lib.Run
import FlyRuler.Management.SeriesKeys
import FlyRuler.Web.Merge

/-!
# The series store of the web client

`useSeriesStore` of `web/src/stores/series.ts`.  A call of `loadCurves` that sends a request is
numbered among the calls of its signature by `requestGenerations`; its response is taken only if
this number is still there.  `clear()` drops everything, the numbers too.

The code between two `await`s runs at once, so a run is a list of calls of the store and of answers
to its requests, in any order (`SeriesClient.step`).
-/

namespace FlyRuler.Web

open FlyRuler.Pb FlyRuler.Store FlyRuler.Management FlyRuler.Management.Web FlyRuler.Lib.Keyed

/-! ## Signatures -/

/-- The UTF-16 code units of a character. -/
def charUnits (c : Char) : List ℕ :=
  if c.toNat < 0x10000 then [c.toNat]
  else [0xD800 + (c.toNat - 0x10000) / 0x400, 0xDC00 + (c.toNat - 0x10000) % 0x400]

/-- `sort()` compares texts by their code units. -/
def codeUnits (text : String) : List ℕ := text.toList.flatMap charUnits

def curveSignature (curves : List SeriesSelection) : String :=
  "|".intercalate ((curves.map curveKey).dedup.insertionSort fun a b => codeUnits a ≤ codeUnits b)

/-- The key under which `loadCurves` keeps a request.  The text of a number is that of the
language. -/
def requestSignature (numberText : F64 → String) (unique : List SeriesSelection)
    (range : Option SeriesTimeRange) (maxPoints : Option ℕ) : String :=
  curveSignature unique ++ "|" ++
    ((range.map fun range => numberText range.start).getD "all" ++ ":" ++
      (range.map fun range => numberText range.stop).getD "all") ++ "|" ++
    (maxPoints.map fun maxPoints => numberText (.finite maxPoints)).getD "null"

/-! ## Downsampling -/

/-- `lttb` of the client; no index is out of range in it. -/
def lttbPoints (points : List Point) (threshold : ℕ) : List Point :=
  (lttbWeb points threshold).getD points

def downsampleSeriesData (series : SeriesData) (maxPoints : ℕ) : SeriesData :=
  if series.points.length ≤ maxPoints then series
  else
    let points := lttbPoints series.points maxPoints
    { series with points := points, returnedPoints := points.length, stats := computeStats points }

/-! ## The store -/

structure SeriesStore where
  data : Table String SeriesData := ∅
  loadingSignatures : Table String Bool := ∅
  errors : Table String (Option String) := ∅
  error : Option String := none
  requestGenerations : Table String ℕ := ∅

/-- What a call of `loadCurves` holds while it waits for the response. -/
structure Request where
  query : SeriesQueryRequest
  append : Bool
  signature : String
  generation : ℕ

namespace SeriesStore

variable (store : SeriesStore)

/-- `loadCurves` up to its request. -/
def loadCurves (numberText : F64 → String) (curves : List SeriesSelection)
    (range : Option SeriesTimeRange) (maxPoints : Option ℕ) (append : Bool) :
    SeriesStore × Option Request :=
  let unique := uniqueCurves curves
  if unique = [] then (store, none)
  else
    let signature := requestSignature numberText unique range maxPoints
    if (store.loadingSignatures.lookup signature).getD false then (store, none)
    else
      let generation := (store.requestGenerations.lookup signature).getD 0 + 1
      ({ store with
        requestGenerations := store.requestGenerations.insert signature generation
        loadingSignatures := store.loadingSignatures.insert signature true
        errors := store.errors.insert signature none
        error := none },
      some
        { query := { selections := unique, timeRange := range, maxPoints := maxPoints }
          append := append
          signature := signature
          generation := generation })

/-- The number of the request is still that of its signature. -/
def IsCurrent (request : Request) : Prop :=
  store.requestGenerations.lookup request.signature = some request.generation

instance (request : Request) : Decidable (store.IsCurrent request) :=
  inferInstanceAs (Decidable (_ = _))

/-- The `finally` of `loadCurves`. -/
def finish (request : Request) : SeriesStore :=
  if store.IsCurrent request then
    { store with loadingSignatures := store.loadingSignatures.insert request.signature false }
  else store

/-- One series of a response. -/
def takeSeries (request : Request) (data : Table String SeriesData) (series : SeriesData) :
    Table String SeriesData :=
  let next := if request.append then mergeSeriesData .existing (data.lookup series.key) series
    else series
  data.insert series.key (match request.query.maxPoints with
    | none => next
    | some maxPoints => downsampleSeriesData next maxPoints)

/-- An answer to the request: what is written if its number is still there, and the `finally`. -/
def settle (request : Request) (write : SeriesStore → SeriesStore) : SeriesStore :=
  if store.IsCurrent request then (write store).finish request else store.finish request

/-- `loadCurves` from its response on. -/
def respond (request : Request) (response : List SeriesData) : SeriesStore :=
  store.settle request fun store =>
    { store with data := response.foldl (takeSeries request) store.data }

/-- `loadCurves` from a failure of its request on. -/
def fail (request : Request) (message : String) : SeriesStore :=
  store.settle request fun store =>
    { store with
      error := some message
      errors := store.errors.insert request.signature (some message) }

def isLoading (curves : List SeriesSelection) : Bool :=
  (store.loadingSignatures.lookup (curveSignature curves)).getD false

def errorFor (curves : List SeriesSelection) : Option String :=
  (store.errors.lookup (curveSignature curves)).getD none

/-- `clear()` leaves nothing of the store. -/
def clear : SeriesStore := {}

end SeriesStore

/-! ## Runs -/

/-- A request that was sent, and how many calls of `clear()` there were before. -/
structure Sent where
  request : Request
  clears : ℕ

inductive SeriesEvent where
  | loadCurves (curves : List SeriesSelection) (range : Option SeriesTimeRange)
    (maxPoints : Option ℕ) (append : Bool)
  | clear
  | respond (number : ℕ) (response : List SeriesData)
  | fail (number : ℕ) (message : String)

/-- The store and the record of the run: the requests in the order in which they were sent, and the
answers, the latest first, each with the number of its request and its message if it is a
failure. -/
structure SeriesClient where
  store : SeriesStore := {}
  clears : ℕ := 0
  sent : List Sent := []
  answered : List (ℕ × Option String) := []

namespace SeriesClient

/-- No answer to the request has arrived. -/
def InFlight (s : SeriesClient) (number : ℕ) : Prop := number ∉ s.answered.map Prod.fst

instance (s : SeriesClient) (number : ℕ) : Decidable (s.InFlight number) :=
  inferInstanceAs (Decidable (_ ∉ _))

/-- An answer arrives, if one is still to come. -/
def answer (s : SeriesClient) (number : ℕ) (message : Option String)
    (take : SeriesStore → Request → SeriesStore) : SeriesClient :=
  match s.sent[number]? with
  | none => s
  | some sent =>
    if s.InFlight number then
      { s with store := take s.store sent.request, answered := (number, message) :: s.answered }
    else s

def step (numberText : F64 → String) (s : SeriesClient) : SeriesEvent → SeriesClient
  | .loadCurves curves range maxPoints append =>
    match s.store.loadCurves numberText curves range maxPoints append with
    | (store, none) => { s with store := store }
    | (store, some request) =>
      { s with store := store, sent := s.sent ++ [⟨request, s.clears⟩] }
  | .clear => { s with store := SeriesStore.clear, clears := s.clears + 1 }
  | .respond number response =>
    s.answer number none fun store request => store.respond request response
  | .fail number message =>
    s.answer number (some message) fun store request => store.fail request message

/-- The client after a run. -/
def run (numberText : F64 → String) (events : List SeriesEvent) : SeriesClient :=
  events.foldl (step numberText) {}

theorem run_concat (numberText : F64 → String) (events : List SeriesEvent) (event : SeriesEvent) :
    run numberText (events ++ [event]) = (run numberText events).step numberText event := by
  unfold run
  rw [List.foldl_append]
  rfl

theorem step_respond (numberText : F64 → String) (s : SeriesClient) (number : ℕ)
    (response : List SeriesData) : s.step numberText (.respond number response) =
      s.answer number none fun store request => store.respond request response :=
  rfl

theorem step_fail (numberText : F64 → String) (s : SeriesClient) (number : ℕ) (message : String) :
    s.step numberText (.fail number message) =
      s.answer number (some message) fun store request => store.fail request message :=
  rfl

end SeriesClient

end FlyRuler.Web
