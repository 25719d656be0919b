import FlyRuler.Lib.Slots
import FlyRuler.Management.Series
import FlyRuler.Store.Pages

/-!
# Queries over several aircraft

The loops of `query` in `core/src/management/series.rs`: the selections are grouped by aircraft with
their index in the request, the points of a group are filled into one slot a selection, by a visit
of the states and a visit of the telemetry, and the results are written back to the indices of the
request.  The outer `none` is a panic.

* `queryGrouped_eq`: the loops compute what `query` says of each selection for itself.
* `query_batched`: a query of several selections is the list of the queries of one selection.
-/

namespace FlyRuler.Management

open FlyRuler.Pb FlyRuler.Store FlyRuler.Lib.TimeOrder FlyRuler.Lib.Slots

/-! ## The loops -/

section Loops

variable (euler : Quaternion → Option Vector3) (store : TimeSeriesStore)

/-- The selectors for one aircraft, each with its index in the request. -/
abbrev Group := AircraftId × List (ℕ × SeriesSelector)

/-- What the visit of the states puts into the slots. -/
def visitStates (selections : List (ℕ × SeriesSelector)) (points : List (List Point))
    (states : List TimestampedState) : List (List Point) :=
  states.foldl (fun points sample =>
    eachSlot (fun selection slot =>
      slot ++ (finitePoint sample.stamp (extractValue euler sample.item selection.2)).toList)
      selections points) points

/-- What the frames of a range put into the slot of a telemetry field. -/
def pushFrames (schema : TelemetryStreamSchema) (index : ℕ)
    (frames : List TimestampedTelemetryFrame) (slot : List Point) : List Point :=
  frames.foldl (fun slot sample =>
    if sample.item.streamId ≠ schema.streamId then slot
    else
      match (sample.item.values[index]?).bind telemetryNumeric with
      | none => slot
      | some value => slot ++ (finitePoint sample.stamp (some value)).toList) slot

/-- What the visit of the telemetry puts into the slots. -/
def visitTelemetry (schemas : List TelemetryStreamSchema) (selections : List (ℕ × SeriesSelector))
    (points : List (List Point)) (frames : List TimestampedTelemetryFrame) : List (List Point) :=
  eachSlot (fun selection slot =>
    match selection.2 with
    | .telemetry streamId fieldId =>
      match telemetryField schemas streamId fieldId with
      | none => slot
      | some (schema, index) => pushFrames schema index frames slot
    | _ => slot) selections points

/-- A telemetry selector must be a registered field. -/
def unknownField (schemas : List TelemetryStreamSchema) : SeriesSelector → Option SeriesError
  | .telemetry streamId fieldId =>
    match telemetryField schemas streamId fieldId with
    | none => some (.unknownTelemetryField streamId fieldId)
    | some _ => none
  | _ => none

/-- The result for a selector from the points in its slot. -/
def dataOf (aircraftId : AircraftId) (selector : SeriesSelector) (maxPoints : ℕ)
    (full : List Point) : SeriesData :=
  let sampled := lttb full maxPoints
  { key := aircraftId ++ "::" ++ selector.key
    aircraftId := aircraftId
    selector := selector
    points := sampled
    totalPoints := full.length
    returnedPoints := sampled.length
    stats := stats full }

/-- The results of a group, each with its index in the request. -/
def groupWrites (group : Group) (maxPoints : ℕ) (points : List (List Point)) :
    List (ℕ × SeriesData) :=
  (group.2.zip points).map fun entry =>
    (entry.1.1, dataOf group.1 entry.1.2 maxPoints entry.2)

/-- The body of the loop over the groups. -/
def queryGroup (start stop : F64) (maxPoints : ℕ) (group : Group)
    (output : List (Option SeriesData)) : Option (Except SeriesError (List (Option SeriesData))) :=
  let points := group.2.map fun _ => []
  match store.visitStatesRange group.1 start stop (visitStates euler group.2 points) with
  | none => none
  | some none => some (.error (.aircraftNotFound group.1))
  | some (some points) =>
    match store.getTelemetrySchemas group.1 with
    | none => some (.error (.aircraftNotFound group.1))
    | some schemas =>
      match group.2.findSome? fun selection => unknownField schemas selection.2 with
      | some e => some (.error e)
      | none =>
        match store.visitTelemetryRange group.1 start stop
            (visitTelemetry schemas group.2 points) with
        | none => none
        | some visited =>
          some (.ok (scatter (groupWrites group maxPoints (visited.getD points)) output))

/-- The loop over the groups. -/
def queryGroups (start stop : F64) (maxPoints : ℕ) :
    List Group → List (Option SeriesData) →
      Option (Except SeriesError (List (Option SeriesData)))
  | [], output => some (.ok output)
  | group :: groups, output =>
    match queryGroup euler store start stop maxPoints group output with
    | some (.ok output) => queryGroups start stop maxPoints groups output
    | failed => failed

/-- The selectors with their indices, under their aircraft. -/
def indexed (selections : List SeriesSelection) : List (AircraftId × (ℕ × SeriesSelector)) :=
  selections.zipIdx.map fun entry => (entry.1.aircraftId, (entry.2, entry.1.selector))

/-- `query`, with its loops. -/
def queryGrouped (request : SeriesQueryRequest) :
    Option (Except SeriesError (List SeriesData)) :=
  if request.selections = [] ∨ maxSelections < request.selections.length then
    some (.error .invalidSelectionCount)
  else
    let maxPoints := request.maxPoints.getD defaultMaxPoints
    if ¬(minMaxPoints ≤ maxPoints ∧ maxPoints ≤ maxMaxPoints) then
      some (.error .invalidMaxPoints)
    else
      let range := (request.timeRange.map fun range => (range.start, range.stop)).getD
        (.negInf, .posInf)
      if range.1 = .nan ∨ range.2 = .nan ∨ F64.lt range.2 range.1 then
        some (.error .invalidTimeRange)
      else
        match request.selections.findSome? fun selection => selectorError selection.selector with
        | some e => some (.error e)
        | none =>
          let output := List.replicate request.selections.length none
          (queryGroups euler store range.1 range.2 maxPoints (grouped (indexed request.selections))
            output).map fun result => result.map fun output => output.filterMap id

end Loops

/-! ## What the loops compute -/

section Results

variable {euler : Quaternion → Option Vector3} {store : TimeSeriesStore} {start stop : F64}

/-- **The visit of the states** takes each slot for itself. -/
theorem visitStates_eq (selections : List (ℕ × SeriesSelector)) (s : AircraftTimeSeries) :
    visitStates euler selections (selections.map fun _ => [])
      (s.states.entries.filter (inSpan start stop)) =
        selections.map fun selection => statePoints euler s start stop selection.2 := by
  unfold visitStates
  rw [foldl_eachSlot]
  refine List.map_congr_left fun selection _ => ?_
  rw [foldl_append_toList, List.nil_append]
  rfl

theorem pushFrames_eq (schema : TelemetryStreamSchema) (index : ℕ)
    (frames : List TimestampedTelemetryFrame) (slot : List Point) :
    pushFrames schema index frames slot = slot ++ frames.filterMap fun sample =>
      if sample.item.streamId ≠ schema.streamId then none
      else finitePoint sample.stamp ((sample.item.values[index]?).bind telemetryNumeric) := by
  rw [← foldl_append_toList]
  unfold pushFrames
  congr 1
  funext slot sample
  split_ifs with hstream
  · simp
  · rcases (sample.item.values[index]?).bind telemetryNumeric with _ | value
    · simp [finitePoint]
    · rfl

/-- **The visit of the telemetry** adds the points of a field to its slot. -/
theorem visitTelemetry_eq (selections : List (ℕ × SeriesSelector)) (s : AircraftTimeSeries)
    (init : ℕ × SeriesSelector → List Point) :
    visitTelemetry (TimeSeriesStore.schemas s) selections (selections.map init)
      (s.telemetry.entries.filter (inSpan start stop)) =
        selections.map fun selection =>
          init selection ++ telemetryPoints s start stop selection.2 := by
  unfold visitTelemetry
  rw [eachSlot_map]
  refine List.map_congr_left fun selection _ => ?_
  unfold telemetryPoints
  rcases selection.2 with path | ⟨propulsorId, field⟩ | ⟨streamId, fieldId⟩
  · simp
  · simp
  · dsimp only
    rcases telemetryField (TimeSeriesStore.schemas s) streamId fieldId with _ | ⟨schema, index⟩
    · simp
    · exact pushFrames_eq schema index _ _

/-- What stops the loop at a group. -/
def groupFailure (store : TimeSeriesStore) (group : Group) : Option SeriesError :=
  match store.data.lookup group.1 with
  | none => some (.aircraftNotFound group.1)
  | some s => group.2.findSome? fun selection =>
      unknownField (TimeSeriesStore.schemas s) selection.2

/-- What a group writes when nothing stops it. -/
def groupResults (euler : Quaternion → Option Vector3) (store : TimeSeriesStore)
    (start stop : F64) (maxPoints : ℕ) (group : Group) : List (ℕ × SeriesData) :=
  group.2.map fun selection =>
    (selection.1, seriesData euler store start stop maxPoints ⟨group.1, selection.2⟩)

/-- The result of writing, unless something has stopped it. -/
def finish {α : Type} (failure : Option SeriesError) (result : α) :
    Option (Except SeriesError α) :=
  some (match failure with
    | some e => .error e
    | none => .ok result)

/-- **One group** is stopped or writes the series of its selections. -/
theorem queryGroup_eq (hrange : F64.le start stop = true) (maxPoints : ℕ) (group : Group)
    (output : List (Option SeriesData)) :
    queryGroup euler store start stop maxPoints group output =
      finish (groupFailure store group)
        (scatter (groupResults euler store start stop maxPoints group) output) := by
  obtain ⟨id, selections⟩ := group
  unfold queryGroup groupFailure TimeSeriesStore.getTelemetrySchemas
  dsimp only
  rw [TimeSeriesStore.visitStatesRange_eq hrange]
  rcases hs : store.data.lookup id with _ | s
  · rfl
  simp only [Option.map_some]
  rcases hfail : selections.findSome? (fun selection =>
    unknownField (TimeSeriesStore.schemas s) selection.2) with _ | e
  · rw [hfail]
    dsimp only
    rw [visitStates_eq, TimeSeriesStore.visitTelemetryRange_eq hrange, hs]
    simp only [Option.map_some, Option.getD_some]
    rw [visitTelemetry_eq]
    unfold finish groupWrites groupResults
    rw [← List.map_prod_left_eq_zip, List.map_map]
    refine congrArg (fun writes => some (Except.ok (scatter writes output))) ?_
    refine List.map_congr_left fun selection _ => ?_
    unfold seriesData
    rw [TimeSeriesStore.series_of_lookup hs]
    rfl
  · rw [hfail]
    rfl

/-- **All groups.** -/
theorem queryGroups_eq (hrange : F64.le start stop = true) (maxPoints : ℕ) (groups : List Group)
    (output : List (Option SeriesData)) :
    queryGroups euler store start stop maxPoints groups output =
      finish (groups.findSome? (groupFailure store))
        (scatter (groups.flatMap (groupResults euler store start stop maxPoints)) output) := by
  induction groups generalizing output with
  | nil => rfl
  | cons group groups ih =>
    unfold queryGroups
    rw [queryGroup_eq hrange, List.findSome?_cons, List.flatMap_cons, scatter_append]
    rcases groupFailure store group with _ | e
    · exact ih _
    · rfl

/-! ## Back in the order of the request -/

theorem mem_indexed {selections : List SeriesSelection} {id : AircraftId} {i : ℕ}
    {selector : SeriesSelector} :
    (id, (i, selector)) ∈ indexed selections ↔ selections[i]? = some ⟨id, selector⟩ := by
  unfold indexed
  simp only [List.mem_map, List.mem_zipIdx_iff_getElem?, Prod.mk.injEq]
  constructor
  · rintro ⟨⟨selection, index⟩, hget, rfl, rfl, rfl⟩
    exact hget
  · intro hget
    exact ⟨(⟨id, selector⟩, i), hget, rfl, rfl, rfl⟩

/-- **Every group writes to the indices of its own selections**, and every selection is in a
group. -/
theorem scatter_groupResults (selections : List SeriesSelection) (maxPoints : ℕ) :
    scatter ((grouped (indexed selections)).flatMap
      (groupResults euler store start stop maxPoints)) (List.replicate selections.length none) =
        (selections.map (seriesData euler store start stop maxPoints)).map some := by
  have hlen : (selections.map (seriesData euler store start stop maxPoints)).length =
      selections.length := List.length_map _
  rw [← hlen]
  refine scatter_replicate (fun w hw => ?_) fun i hi => ?_
  · obtain ⟨group, hgroup, hw⟩ := List.mem_flatMap.mp hw
    obtain ⟨⟨i, selector⟩, hselection, rfl⟩ := List.mem_map.mp hw
    have hget := mem_indexed.mp (mem_grouped.mp ⟨group, hgroup, rfl, hselection⟩)
    rw [List.getElem?_map, hget]
    rfl
  · rw [hlen] at hi
    obtain ⟨group, hgroup, hid, hselection⟩ :=
      mem_grouped.mpr (mem_indexed.mpr (List.getElem?_eq_getElem hi))
    exact ⟨_, List.mem_flatMap.mpr ⟨group, hgroup, List.mem_map_of_mem hselection⟩, rfl⟩

/-- What stops a group is what is wrong with the selections of its aircraft. -/
theorem groupFailure_members (selections : List SeriesSelection) (id : AircraftId) :
    groupFailure store (id, members (indexed selections) id) = groupError store selections id := by
  unfold groupFailure groupError members indexed
  dsimp only
  rcases store.data.lookup id with _ | s
  · rfl
  dsimp only
  generalize 0 = first
  induction selections generalizing first with
  | nil => rfl
  | cons selection selections ih =>
    rw [List.zipIdx_cons, List.map_cons, List.filter_cons, List.findSome?_cons]
    dsimp only
    by_cases hid : selection.aircraftId = id
    · rw [if_pos (decide_eq_true hid), List.map_cons, List.findSome?_cons, ih, decide_eq_true hid]
      rcases selection.selector with path | ⟨propulsorId, field⟩ | ⟨streamId, fieldId⟩
      · rfl
      · rfl
      · rfl
    · rw [if_neg (by simpa using hid), ih, decide_eq_false hid]

/-- The groups stand in the order in which `query` looks at the aircraft. -/
theorem findSome?_groups (selections : List SeriesSelection) :
    (grouped (indexed selections)).findSome? (groupFailure store) =
      ((selections.map SeriesSelection.aircraftId).dedup.insertionSort (· ≤ ·)).findSome?
        (groupError store selections) := by
  have hkeys : (indexed selections).map Prod.fst =
      selections.map SeriesSelection.aircraftId := by
    unfold indexed
    calc (selections.zipIdx.map fun entry =>
          (entry.1.aircraftId, (entry.2, entry.1.selector))).map Prod.fst
        = (selections.zipIdx.map Prod.fst).map SeriesSelection.aircraftId := by
          rw [List.map_map, List.map_map]
          rfl
      _ = selections.map SeriesSelection.aircraftId := by rw [List.zipIdx_map_fst]
  rw [grouped_eq, hkeys, List.findSome?_map]
  refine congrArg (fun f => List.findSome? f _) (funext fun id => ?_)
  exact groupFailure_members selections id

theorem invalidRange_iff {start stop : F64} :
    (start = .nan ∨ stop = .nan ∨ F64.lt stop start) ↔ F64.le start stop = false := by
  rcases start with s | _ | _ | _ <;> rcases stop with e | _ | _ | _ <;> simp [F64.lt, F64.le]

/-- **The loops compute the query.** -/
theorem queryGrouped_eq (request : SeriesQueryRequest) :
    queryGrouped euler store request = some (query euler store request) := by
  unfold queryGrouped query
  dsimp only
  by_cases hcount : request.selections = [] ∨ maxSelections < request.selections.length
  · rw [if_pos hcount, if_pos hcount]
  rw [if_neg hcount, if_neg hcount]
  generalize request.maxPoints.getD defaultMaxPoints = maxPoints
  by_cases hmax : minMaxPoints ≤ maxPoints ∧ maxPoints ≤ maxMaxPoints
  · rw [if_neg (not_not.mpr hmax), if_neg (not_not.mpr hmax)]
    generalize (request.timeRange.map fun range => (range.start, range.stop)).getD
      (F64.negInf, F64.posInf) = range
    rcases hrange : F64.le range.1 range.2 with _ | _
    · rw [if_pos (invalidRange_iff.mpr hrange), if_pos rfl]
    · have hvalid : ¬(range.1 = .nan ∨ range.2 = .nan ∨ F64.lt range.2 range.1) := by
        rw [invalidRange_iff, hrange]
        decide
      rw [if_neg hvalid, if_neg (by decide)]
      rcases hselector : request.selections.findSome? (fun selection =>
        selectorError selection.selector) with _ | e
      · rw [hselector]
        dsimp only
        rw [queryGroups_eq hrange, findSome?_groups, scatter_groupResults]
        rcases ((request.selections.map SeriesSelection.aircraftId).dedup.insertionSort
          (· ≤ ·)).findSome? (groupError store request.selections) with _ | e
        · simp [finish, Except.map]
        · rfl
      · rw [hselector]
  · rw [if_pos hmax, if_pos hmax]

end Results

/-! ## Single queries -/

/-- The query of one selection over the same range and with the same sampling. -/
def SeriesQueryRequest.single (request : SeriesQueryRequest) (selection : SeriesSelection) :
    SeriesQueryRequest :=
  { request with selections := [selection] }

/-- A selection that nothing is wrong with. -/
structure Admissible (store : TimeSeriesStore) (selection : SeriesSelection) : Prop where
  selector : selectorError selection.selector = none
  group : groupError store [selection] selection.aircraftId = none

section Batched

variable {euler : Quaternion → Option Vector3} {store : TimeSeriesStore}

/-- The selections of an aircraft are fine together if each is fine alone. -/
theorem groupError_eq_none_iff {selections : List SeriesSelection} {id : AircraftId}
    (hid : id ∈ selections.map SeriesSelection.aircraftId) :
    groupError store selections id = none ↔
      ∀ selection ∈ selections, selection.aircraftId = id →
        groupError store [selection] id = none := by
  unfold groupError
  rcases store.data.lookup id with _ | s
  · obtain ⟨selection, hselection, hid⟩ := List.mem_map.mp hid
    refine ⟨fun h => absurd h (Option.some_ne_none _), fun h => ?_⟩
    exact absurd (h selection hselection hid) (Option.some_ne_none _)
  · dsimp only
    rw [List.findSome?_eq_none_iff]
    refine forall₂_congr fun selection _ => ?_
    rw [List.findSome?_singleton]
    by_cases hown : selection.aircraftId = id
    · exact ⟨fun h _ => h, fun h => h hown⟩
    · rw [decide_eq_false hown]
      exact ⟨fun _ h => absurd h hown, fun _ => rfl⟩

/-- The aircraft of a request are fine if each selection is fine alone. -/
theorem findSome?_ids_eq_none_iff {selections : List SeriesSelection} :
    ((selections.map SeriesSelection.aircraftId).dedup.insertionSort (· ≤ ·)).findSome?
        (groupError store selections) = none ↔
      ∀ selection ∈ selections, groupError store [selection] selection.aircraftId = none := by
  rw [List.findSome?_eq_none_iff]
  constructor
  · intro h selection hselection
    have hid := List.mem_map_of_mem (f := SeriesSelection.aircraftId) hselection
    have hgroup := h _ ((List.mem_insertionSort _).mpr (List.mem_dedup.mpr hid))
    exact (groupError_eq_none_iff hid).mp hgroup selection hselection rfl
  · intro h id hid
    have hmem := List.mem_dedup.mp ((List.mem_insertionSort _).mp hid)
    refine (groupError_eq_none_iff hmem).mpr fun selection hselection hown => ?_
    rw [← hown]
    exact h selection hselection

/-- The ends and the sampling that a request asks for are valid. -/
def ValidWindow (request : SeriesQueryRequest) : Prop :=
  (minMaxPoints ≤ request.maxPoints.getD defaultMaxPoints ∧
    request.maxPoints.getD defaultMaxPoints ≤ maxMaxPoints) ∧
  F64.le ((request.timeRange.map fun range => (range.start, range.stop)).getD
      (.negInf, .posInf)).1
    ((request.timeRange.map fun range => (range.start, range.stop)).getD
      (.negInf, .posInf)).2 = true

/-- The series of one selection of a request. -/
def selectionData (euler : Quaternion → Option Vector3) (store : TimeSeriesStore)
    (request : SeriesQueryRequest) : SeriesSelection → SeriesData :=
  seriesData euler store
    ((request.timeRange.map fun range => (range.start, range.stop)).getD (.negInf, .posInf)).1
    ((request.timeRange.map fun range => (range.start, range.stop)).getD (.negInf, .posInf)).2
    (request.maxPoints.getD defaultMaxPoints)

/-- **A query succeeds** if its window is valid and each selection is fine alone. -/
theorem query_eq_ok_iff {request : SeriesQueryRequest} {response : List SeriesData}
    (hcount : 1 ≤ request.selections.length ∧ request.selections.length ≤ maxSelections) :
    query euler store request = .ok response ↔
      (ValidWindow request ∧ ∀ selection ∈ request.selections, Admissible store selection) ∧
        response = request.selections.map (selectionData euler store request) := by
  have hbound : ¬(request.selections = [] ∨ maxSelections < request.selections.length) := by
    rintro (hempty | hlong)
    · rw [hempty] at hcount
      exact absurd hcount.1 (by decide)
    · omega
  unfold query ValidWindow selectionData
  dsimp only
  rw [if_neg hbound]
  generalize request.maxPoints.getD defaultMaxPoints = maxPoints
  generalize (request.timeRange.map fun range => (range.start, range.stop)).getD
    (F64.negInf, F64.posInf) = range
  by_cases hmax : minMaxPoints ≤ maxPoints ∧ maxPoints ≤ maxMaxPoints
  · rw [if_neg (not_not.mpr hmax)]
    rcases hrange : F64.le range.1 range.2 with _ | _
    · simp
    · rw [if_neg (by decide)]
      rcases hselector : request.selections.findSome? (fun selection =>
        selectorError selection.selector) with _ | e
      · rw [hselector]
        rw [List.findSome?_eq_none_iff] at hselector
        rcases hgroup : ((request.selections.map SeriesSelection.aircraftId).dedup.insertionSort
          (· ≤ ·)).findSome? (groupError store request.selections) with _ | e
        · have hfine := findSome?_ids_eq_none_iff.mp hgroup
          simp only [Except.ok.injEq]
          refine ⟨fun h => ⟨⟨⟨hmax, trivial⟩, fun selection hselection => ?_⟩, h.symm⟩,
            fun h => h.2.symm⟩
          exact ⟨hselector selection hselection, hfine selection hselection⟩
        · refine ⟨fun h => absurd h (by simp), fun h => ?_⟩
          rw [findSome?_ids_eq_none_iff.mpr fun selection hselection =>
            (h.1.2 selection hselection).group] at hgroup
          exact absurd hgroup (by simp)
      · rw [hselector]
        refine ⟨fun h => absurd h (by simp), fun h => ?_⟩
        rw [List.findSome?_eq_none_iff.mpr fun selection hselection =>
          (h.1.2 selection hselection).selector] at hselector
        exact absurd hselector (by simp)
  · rw [if_pos hmax]
    exact ⟨fun h => absurd h (by simp), fun h => absurd h.1.1.1 hmax⟩

theorem query_single_eq_ok_iff {request : SeriesQueryRequest} {selection : SeriesSelection}
    {response : List SeriesData} :
    query euler store (request.single selection) = .ok response ↔
      (ValidWindow request ∧ Admissible store selection) ∧
        response = [selectionData euler store request selection] := by
  have hcount : 1 ≤ (request.single selection).selections.length ∧
      (request.single selection).selections.length ≤ maxSelections :=
    ⟨le_refl 1, show 1 ≤ 64 by decide⟩
  rw [query_eq_ok_iff hcount]
  unfold SeriesQueryRequest.single
  simp only [List.mem_singleton, forall_eq, List.map_cons, List.map_nil]
  rfl

end Batched

/-- **A query of several selections is the list of the queries of one selection**: it never panics,
it succeeds exactly when each of them does, and then each position has the series that the query of
its selection gives. -/
theorem query_batched (euler : Quaternion → Option Vector3) (store : TimeSeriesStore)
    (request : SeriesQueryRequest)
    (hcount : 1 ≤ request.selections.length ∧ request.selections.length ≤ maxSelections) :
    queryGrouped euler store request ≠ none ∧
    ((∃ response, queryGrouped euler store request = some (.ok response)) ↔
      ∀ selection ∈ request.selections,
        ∃ response, queryGrouped euler store (request.single selection) = some (.ok response)) ∧
    ∀ response, queryGrouped euler store request = some (.ok response) →
      response.length = request.selections.length ∧
      ∀ (i : ℕ) (selection : SeriesSelection), request.selections[i]? = some selection →
        ∃ data, response[i]? = some data ∧ data.aircraftId = selection.aircraftId ∧
          data.selector = selection.selector ∧
          queryGrouped euler store (request.single selection) = some (.ok [data]) := by
  simp only [queryGrouped_eq, Option.some.injEq]
  refine ⟨Option.some_ne_none _, ⟨?_, fun h => ?_⟩, fun response h => ?_⟩
  · rintro ⟨response, h⟩ selection hselection
    obtain ⟨⟨hwindow, hfine⟩, -⟩ := (query_eq_ok_iff hcount).mp h
    exact ⟨_, query_single_eq_ok_iff.mpr ⟨⟨hwindow, hfine selection hselection⟩, rfl⟩⟩
  · have hone : ∀ selection ∈ request.selections,
        ValidWindow request ∧ Admissible store selection := by
      intro selection hselection
      obtain ⟨response, hresponse⟩ := h selection hselection
      exact (query_single_eq_ok_iff.mp hresponse).1
    -- the window is valid as there is a selection
    obtain ⟨first, hfirst⟩ := List.exists_mem_of_length_pos hcount.1
    exact ⟨_, (query_eq_ok_iff hcount).mpr
      ⟨⟨(hone first hfirst).1, fun selection hselection => (hone selection hselection).2⟩, rfl⟩⟩
  · obtain ⟨⟨hwindow, hfine⟩, rfl⟩ := (query_eq_ok_iff hcount).mp h
    refine ⟨List.length_map _, fun i selection hselection => ?_⟩
    refine ⟨selectionData euler store request selection, ?_, rfl, rfl, ?_⟩
    · rw [List.getElem?_map, hselection]
      rfl
    · exact query_single_eq_ok_iff.mpr
        ⟨⟨hwindow, hfine selection (List.mem_of_getElem? hselection)⟩, rfl⟩

/-- Two aircraft with a state each. -/
def batchStore : TimeSeriesStore :=
  (({} : TimeSeriesStore).appendState "b" (.finite 1)
    { position := some ⟨.finite 3, .finite 4, .finite 5⟩ }).appendState "a" (.finite 2) {}

/-- Selections of both aircraft, one of them twice. -/
def batchRequest : SeriesQueryRequest where
  selections := [⟨"b", .standard "position.x"⟩, ⟨"a", .propulsor "left" .rpm⟩,
    ⟨"b", .standard "position.x"⟩]

theorem query_batched_mixed :
    ∃ response, queryGrouped (fun _ => none) batchStore batchRequest = some (.ok response) ∧
      response.length = 3 ∧ ∃ data, response[2]? = some data ∧ data.aircraftId = "b" ∧
        data.selector = .standard "position.x" ∧
        queryGrouped (fun _ => none) batchStore
          (batchRequest.single ⟨"b", .standard "position.x"⟩) = some (.ok [data]) := by
  obtain ⟨-, -, hpositions⟩ := query_batched (fun _ => none) batchStore batchRequest (by decide)
  have hsucceeds : ((queryGrouped (fun _ => none) batchStore batchRequest).any fun result =>
      result.isOk) = true := by decide +kernel
  rcases hquery : queryGrouped (fun _ => none) batchStore batchRequest with _ | error | response
  · rw [hquery] at hsucceeds
    cases hsucceeds
  · rw [hquery] at hsucceeds
    cases hsucceeds
  · obtain ⟨hlength, hdata⟩ := hpositions response hquery
    exact ⟨response, rfl, hlength, hdata 2 ⟨"b", .standard "position.x"⟩ rfl⟩

end FlyRuler.Management
