import FlyRuler.Lib.Separated
import FlyRuler.Management.Batch

/-!
# Keys of series

The key of a series is its aircraft and its selector, joined with colons: `query` of
`core/src/management/series.rs` gives it in the response, `curveKey` of `web/src/utils.ts` computes
it again, and the stores of the client index and de-duplicate curves by it.  The ids may contain
colons.

* `keys_of_query`: the keys of a response; `responseKey_eq_iff`: which selections have one key.
* `keys_spec`: when the keys identify the series, in both implementations and for the curves that
  the client asks for.
-/

namespace FlyRuler.Management

open FlyRuler.Pb FlyRuler.Store FlyRuler.Lib.Separated

/-! ## The two keys -/

/-- The key of a series in a response. -/
def responseKey (selection : SeriesSelection) : String :=
  selection.aircraftId ++ "::" ++ selection.selector.key

/-- The keys of a response are those of the selections. -/
theorem keys_of_query {euler : Quaternion → Option Vector3} {store : TimeSeriesStore}
    {request : SeriesQueryRequest} {response : List SeriesData}
    (h : queryGrouped euler store request = some (.ok response)) :
    response.map SeriesData.key = request.selections.map responseKey := by
  rw [queryGrouped_eq, Option.some.injEq] at h
  have hcount : ¬(request.selections = [] ∨
      maxSelections < request.selections.length) := by
    intro hbad
    unfold query at h
    dsimp only at h
    rw [if_pos hbad] at h
    exact nomatch h
  rw [not_or, not_lt] at hcount
  obtain ⟨-, rfl⟩ :=
    (query_eq_ok_iff ⟨List.length_pos_iff.mpr hcount.1, hcount.2⟩).mp h
  rw [List.map_map]
  rfl

namespace Web

/-- The name of a field in a selector of the client. -/
def fieldName : PropulsorField → String
  | .throttleRatio => "throttle_ratio"
  | .rpm => "rpm"
  | .bladePitchRad => "blade_pitch_rad"
  | .thrustNewton => "thrust_newton"
  | .torqueNewtonMeter => "torque_newton_meter"

def selectorKey : SeriesSelector → String
  | .standard path => "standard:" ++ path
  | .propulsor propulsorId field => "propulsor:" ++ propulsorId ++ ":" ++ fieldName field
  | .telemetry streamId fieldId => "telemetry:" ++ streamId ++ ":" ++ fieldId

def curveKey (curve : SeriesSelection) : String :=
  curve.aircraftId ++ "::" ++ selectorKey curve.selector

/-- `set` of a map that keeps its entries in the order of their first insertion. -/
def setEntry {α : Type} (key : String) (value : α) : List (String × α) → List (String × α)
  | [] => [(key, value)]
  | entry :: entries =>
    if entry.1 = key then (key, value) :: entries else entry :: setEntry key value entries

/-- The curves that `loadCurves` asks for: `new Map(..).values()`. -/
def uniqueCurves (curves : List SeriesSelection) : List SeriesSelection :=
  (curves.foldl (fun entries curve => setEntry (curveKey curve) curve entries) []).map Prod.snd

/-- **Both sides compute one key.** -/
theorem curveKey_eq (curve : SeriesSelection) : curveKey curve = responseKey curve := by
  obtain ⟨aircraftId, selector⟩ := curve
  rcases selector with path | ⟨propulsorId, field⟩ | ⟨streamId, fieldId⟩
  · rfl
  · rcases field with _ | _ | _ | _ | _ <;> rfl
  · rfl

end Web

/-! ## Equal keys -/

def SeriesSelector.kind : SeriesSelector → String
  | .standard _ => "standard"
  | .propulsor _ _ => "propulsor"
  | .telemetry _ _ => "telemetry"

/-- What stands behind the kind: the ids with a colon between them. -/
def SeriesSelector.body : SeriesSelector → String
  | .standard path => path
  | .propulsor propulsorId field => propulsorId ++ ":" ++ field.key
  | .telemetry streamId fieldId => streamId ++ ":" ++ fieldId

/-- A word at the start of the field id of one telemetry selector stands at the end of the stream
id of the other. -/
def Moved (s s' : SeriesSelector) : Prop :=
  ∃ streamId word fieldId, s = .telemetry streamId (word ++ ":" ++ fieldId) ∧
    s' = .telemetry (streamId ++ ":" ++ word) fieldId

/-- The aircraft id of `y` is that of `x` and a part of the selector of `x`, behind which the
selector of `y` stands in the ids of `x`. -/
def RunsInto (x y : SeriesSelection) : Prop :=
  (y.aircraftId = x.aircraftId ++ "::" ++ x.selector.kind ∧
    x.selector.body = ":" ++ y.selector.kind ++ ":" ++ y.selector.body) ∨
  ∃ part, y.aircraftId = x.aircraftId ++ "::" ++ x.selector.kind ++ ":" ++ part ∧
    x.selector.body = part ++ "::" ++ y.selector.kind ++ ":" ++ y.selector.body

/-- **The ids of two selections clash.** -/
def Clash (x y : SeriesSelection) : Prop :=
  (x.aircraftId = y.aircraftId ∧ (Moved x.selector y.selector ∨ Moved y.selector x.selector)) ∨
    RunsInto x y ∨ RunsInto y x

theorem key_eq (selector : SeriesSelector) :
    selector.key.toList = selector.kind.toList ++ ':' :: selector.body.toList := by
  rcases selector with path | ⟨propulsorId, field⟩ | ⟨streamId, fieldId⟩
  · simp [SeriesSelector.key, SeriesSelector.kind, SeriesSelector.body, String.toList_append]
  · simp [SeriesSelector.key, SeriesSelector.kind, SeriesSelector.body, String.toList_append]
  · simp [SeriesSelector.key, SeriesSelector.kind, SeriesSelector.body, String.toList_append]

theorem colon_notMem_kind (selector : SeriesSelector) : ':' ∉ selector.kind.toList := by
  rcases selector with _ | _ | _ <;> simp [SeriesSelector.kind]

theorem colon_notMem_fieldKey (field : PropulsorField) : ':' ∉ field.key.toList := by
  rcases field with _ | _ | _ | _ | _ <;> decide

theorem fieldKey_injective : Function.Injective PropulsorField.key := by
  intro field field' h
  rcases field with _ | _ | _ | _ | _ <;> rcases field' with _ | _ | _ | _ | _ <;>
    first | rfl | exact absurd h (by decide)

/-- A key does not start with a colon. -/
theorem head_key_ne (selector : SeriesSelector) : selector.key.toList.head? ≠ some ':' := by
  rw [key_eq]
  rcases selector with _ | _ | _ <;> simp [SeriesSelector.kind]

theorem toList_surjective : Function.Surjective String.toList :=
  fun l => ⟨String.ofList l, String.toList_ofList⟩

theorem toList_joined (a b : String) : (a ++ ":" ++ b).toList = a.toList ++ ':' :: b.toList := by
  simp [String.toList_append]

/-- Two texts that are joined with a colon. -/
theorem colon_joined_iff {a a' b b' : String} : a ++ ":" ++ b = a' ++ ":" ++ b' ↔
    (a = a' ∧ b = b') ∨ (∃ w, a' = a ++ ":" ++ w ∧ b = w ++ ":" ++ b') ∨
      ∃ w, a = a' ++ ":" ++ w ∧ b' = w ++ ":" ++ b := by
  simp only [← String.toList_inj, toList_joined]
  rw [joined_eq_iff, toList_surjective.exists, toList_surjective.exists]

theorem body_propulsor_iff {propulsorId propulsorId' : String} {field field' : PropulsorField} :
    propulsorId ++ ":" ++ field.key = propulsorId' ++ ":" ++ field'.key ↔
      propulsorId = propulsorId' ∧ field = field' := by
  rw [← String.toList_inj, toList_joined, toList_joined,
    joined_last (colon_notMem_fieldKey field) (colon_notMem_fieldKey field'), String.toList_inj,
    String.toList_inj, fieldKey_injective.eq_iff]

/-- **Selectors with equal keys.** -/
theorem key_eq_key_iff {s s' : SeriesSelector} :
    s.key = s'.key ↔ s = s' ∨ Moved s s' ∨ Moved s' s := by
  have hkey : s.key = s'.key ↔ s.kind = s'.kind ∧ s.body = s'.body := by
    rw [← String.toList_inj, key_eq, key_eq,
      joined_first (colon_notMem_kind s) (colon_notMem_kind s'), String.toList_inj,
      String.toList_inj]
  rw [hkey]
  constructor
  · rintro ⟨hkind, hbody⟩
    rcases s with path | ⟨propulsorId, field⟩ | ⟨streamId, fieldId⟩
    · rcases s' with path' | _ | _
      · exact .inl (congrArg _ hbody)
      · exact absurd hkind (by simp [SeriesSelector.kind])
      · exact absurd hkind (by simp [SeriesSelector.kind])
    · rcases s' with _ | ⟨propulsorId', field'⟩ | _
      · exact absurd hkind (by simp [SeriesSelector.kind])
      · obtain ⟨rfl, rfl⟩ := body_propulsor_iff.mp hbody
        exact .inl rfl
      · exact absurd hkind (by simp [SeriesSelector.kind])
    · rcases s' with _ | _ | ⟨streamId', fieldId'⟩
      · exact absurd hkind (by simp [SeriesSelector.kind])
      · exact absurd hkind (by simp [SeriesSelector.kind])
      · rcases colon_joined_iff.mp hbody with ⟨rfl, rfl⟩ | ⟨word, rfl, rfl⟩ | ⟨word, rfl, rfl⟩
        · exact .inl rfl
        · exact .inr (.inl ⟨streamId, word, fieldId', rfl, rfl⟩)
        · exact .inr (.inr ⟨streamId', word, fieldId, rfl, rfl⟩)
  · rintro (rfl | ⟨streamId, word, fieldId, rfl, rfl⟩ | ⟨streamId, word, fieldId, rfl, rfl⟩)
    · exact ⟨rfl, rfl⟩
    · exact ⟨rfl, colon_joined_iff.mpr (.inr (.inl ⟨word, rfl, rfl⟩))⟩
    · exact ⟨rfl, colon_joined_iff.mpr (.inr (.inr ⟨word, rfl, rfl⟩))⟩

theorem key_eq_joined (selector : SeriesSelector) :
    selector.key = selector.kind ++ ":" ++ selector.body := by
  rw [← String.toList_inj, key_eq, toList_joined]

/-- An aircraft id that goes on into the selector of another one. -/
theorem runsInto_iff {x y : SeriesSelection} : RunsInto x y ↔
    ∃ w, y.aircraftId.toList = x.aircraftId.toList ++ ':' :: ':' :: w ∧
      x.selector.key.toList = w ++ ':' :: ':' :: y.selector.key.toList := by
  unfold RunsInto
  constructor
  · rintro (⟨hid, hbody⟩ | ⟨part, hid, hbody⟩)
    · refine ⟨x.selector.kind.toList, ?_, ?_⟩
      · simp [hid, String.toList_append]
      · rw [key_eq, hbody, key_eq_joined y.selector]
        simp [String.toList_append]
    · refine ⟨x.selector.kind.toList ++ ':' :: part.toList, ?_, ?_⟩
      · simp [hid, String.toList_append]
      · rw [key_eq, hbody, key_eq_joined y.selector]
        simp [String.toList_append]
  · rintro ⟨w, hid, hkey⟩
    rw [key_eq, joined_eq_doubled_iff (colon_notMem_kind x.selector)] at hkey
    rcases hkey with ⟨rfl, hbody⟩ | ⟨v, rfl, hbody⟩
    · refine .inl ⟨String.toList_inj.mp ?_, String.toList_inj.mp ?_⟩
      · rw [hid]
        simp [String.toList_append]
      · rw [hbody, key_eq]
        simp [String.toList_append]
    · refine .inr ⟨String.ofList v, String.toList_inj.mp ?_, String.toList_inj.mp ?_⟩
      · rw [hid]
        simp [String.toList_append]
      · rw [hbody, key_eq]
        simp [String.toList_append]

theorem responseKey_toList (x : SeriesSelection) :
    (responseKey x).toList = x.aircraftId.toList ++ ':' :: ':' :: x.selector.key.toList := by
  simp [responseKey, String.toList_append]

/-- **Equal keys.** -/
theorem responseKey_eq_iff {x y : SeriesSelection} :
    responseKey x = responseKey y ↔ x = y ∨ Clash x y := by
  have hsame : x = y ↔ x.aircraftId = y.aircraftId ∧ x.selector = y.selector := by
    obtain ⟨id, selector⟩ := x
    obtain ⟨id', selector'⟩ := y
    exact SeriesSelection.mk.injEq .. ▸ Iff.rfl
  rw [← String.toList_inj, responseKey_toList, responseKey_toList,
    doubled_eq_iff (head_key_ne _) (head_key_ne _), ← runsInto_iff, ← runsInto_iff,
    String.toList_inj, String.toList_inj, key_eq_key_iff, and_or_left, or_assoc, hsame]
  rfl

theorem not_moved_self (s : SeriesSelector) : ¬Moved s s := by
  rintro ⟨streamId, word, fieldId, rfl, h⟩
  have hlen := congrArg String.length (SeriesSelector.telemetry.inj h).1
  rw [String.length_append, String.length_append, show ":".length = 1 from rfl] at hlen
  omega

theorem not_runsInto_self (x : SeriesSelection) : ¬RunsInto x x := by
  rw [runsInto_iff]
  rintro ⟨w, hid, -⟩
  have hlen := congrArg List.length hid
  rw [List.length_append, List.length_cons] at hlen
  omega

/-- **The key identifies a series** among two if their ids do not clash. -/
theorem responseKey_inj_iff {x y : SeriesSelection} :
    (responseKey x = responseKey y → x = y) ↔ ¬Clash x y := by
  rw [responseKey_eq_iff]
  constructor
  · intro h hclash
    obtain rfl := h (.inr hclash)
    rcases hclash with ⟨-, h | h⟩ | h | h
    · exact not_moved_self _ h
    · exact not_moved_self _ h
    · exact not_runsInto_self _ h
    · exact not_runsInto_self _ h
  · rintro hclash (h | h)
    · exact h
    · exact absurd h hclash

/-- Ids without colons do not clash: those of aircraft and of streams. -/
theorem not_clash_of_colonless {x y : SeriesSelection} (hx : ':' ∉ x.aircraftId.toList)
    (hy : ':' ∉ y.aircraftId.toList)
    (hstream : ∀ streamId fieldId, x.selector = .telemetry streamId fieldId ∨
      y.selector = .telemetry streamId fieldId → ':' ∉ streamId.toList) : ¬Clash x y := by
  have hmoved : ∀ {s s' : SeriesSelector}, Moved s s' →
      ∃ streamId fieldId, s' = .telemetry streamId fieldId ∧ ':' ∈ streamId.toList := by
    rintro s s' ⟨streamId, word, fieldId, -, rfl⟩
    exact ⟨_, _, rfl, by simp [String.toList_append]⟩
  rintro (⟨-, h | h⟩ | h | h)
  · obtain ⟨streamId, fieldId, hselector, hcolon⟩ := hmoved h
    exact hstream streamId fieldId (.inr hselector) hcolon
  · obtain ⟨streamId, fieldId, hselector, hcolon⟩ := hmoved h
    exact hstream streamId fieldId (.inl hselector) hcolon
  · obtain ⟨w, hid, -⟩ := runsInto_iff.mp h
    exact hy (hid ▸ List.mem_append_right _ List.mem_cons_self)
  · obtain ⟨w, hid, -⟩ := runsInto_iff.mp h
    exact hx (hid ▸ List.mem_append_right _ List.mem_cons_self)

/-! ## The curves of the client -/

namespace Web

/-- What is true of the entries of the map for the curves. -/
structure Entries (curves : List SeriesSelection) (entries : List (String × SeriesSelection)) :
    Prop where
  key : ∀ entry ∈ entries, entry.1 = curveKey entry.2
  nodup : (entries.map Prod.fst).Nodup
  sub : ∀ entry ∈ entries, entry.2 ∈ curves
  all : ∀ curve ∈ curves, curveKey curve ∈ entries.map Prod.fst

theorem mem_setEntry {α : Type} {key : String} {value : α} {entries : List (String × α)}
    {entry : String × α} (h : entry ∈ setEntry key value entries) :
    entry = (key, value) ∨ entry ∈ entries := by
  induction entries with
  | nil => exact .inl (List.mem_singleton.mp h)
  | cons first entries ih =>
    unfold setEntry at h
    split_ifs at h
    · rcases List.mem_cons.mp h with rfl | h
      · exact .inl rfl
      · exact .inr (List.mem_cons_of_mem _ h)
    · rcases List.mem_cons.mp h with rfl | h
      · exact .inr List.mem_cons_self
      · exact (ih h).imp_right (List.mem_cons_of_mem _)

theorem keys_setEntry {α : Type} (key : String) (value : α) (entries : List (String × α)) :
    (setEntry key value entries).map Prod.fst =
      if key ∈ entries.map Prod.fst then entries.map Prod.fst
      else entries.map Prod.fst ++ [key] := by
  induction entries with
  | nil => rfl
  | cons first entries ih =>
    unfold setEntry
    by_cases hkey : first.1 = key
    · rw [if_pos hkey, if_pos (by rw [← hkey]; exact List.mem_map_of_mem List.mem_cons_self)]
      rw [List.map_cons, List.map_cons, hkey]
    · rw [if_neg hkey, List.map_cons, ih]
      have hmem : key ∈ (first :: entries).map Prod.fst ↔ key ∈ entries.map Prod.fst := by
        rw [List.map_cons, List.mem_cons]
        exact or_iff_right fun h => hkey h.symm
      by_cases hold : key ∈ entries.map Prod.fst
      · rw [if_pos hold, if_pos (hmem.mpr hold), List.map_cons]
      · rw [if_neg hold, if_neg (mt hmem.mp hold), List.map_cons, List.cons_append]

theorem Entries.set {curves : List SeriesSelection} {entries : List (String × SeriesSelection)}
    (h : Entries curves entries) (curve : SeriesSelection) :
    Entries (curves ++ [curve]) (setEntry (curveKey curve) curve entries) := by
  refine ⟨fun entry hentry => ?_, ?_, fun entry hentry => ?_, fun other hother => ?_⟩
  · rcases mem_setEntry hentry with rfl | hold
    · rfl
    · exact h.key entry hold
  · rw [keys_setEntry]
    split_ifs with hkey
    · exact h.nodup
    · exact List.nodup_append.mpr ⟨h.nodup, List.nodup_singleton _, by
        intro a ha b hb heq
        rw [List.mem_singleton.mp hb] at heq
        exact hkey (heq ▸ ha)⟩
  · rcases mem_setEntry hentry with rfl | hold
    · exact List.mem_append_right _ (List.mem_singleton.mpr rfl)
    · exact List.mem_append_left _ (h.sub entry hold)
  · have hmem : curveKey other ∈ entries.map Prod.fst ∨ other = curve := by
      rcases List.mem_append.mp hother with hold | hnew
      · exact .inl (h.all other hold)
      · exact .inr (List.mem_singleton.mp hnew)
    rw [keys_setEntry]
    split_ifs with hkey
    · rcases hmem with hmem | rfl
      · exact hmem
      · exact hkey
    · rcases hmem with hmem | rfl
      · exact List.mem_append_left _ hmem
      · exact List.mem_append_right _ (List.mem_singleton.mpr rfl)

theorem entries_foldl (curves : List SeriesSelection) : Entries curves
    (curves.foldl (fun entries curve => setEntry (curveKey curve) curve entries) []) := by
  induction curves using List.reverseRecOn with
  | nil =>
    exact ⟨fun _ h => absurd h List.not_mem_nil, List.nodup_nil,
      fun _ h => absurd h List.not_mem_nil, fun _ h => absurd h List.not_mem_nil⟩
  | append_singleton curves curve ih =>
    rw [List.foldl_append]
    exact ih.set curve

/-- **Every curve is asked for** if the keys tell the curves apart. -/
theorem uniqueCurves_keeps_iff {curves : List SeriesSelection} :
    (∀ curve ∈ curves, curve ∈ uniqueCurves curves) ↔
      ∀ x ∈ curves, ∀ y ∈ curves, curveKey x = curveKey y → x = y := by
  have h := entries_foldl curves
  unfold uniqueCurves
  generalize curves.foldl (fun entries curve => setEntry (curveKey curve) curve entries) [] =
    entries at h
  constructor
  · intro hall x hx y hy hkey
    obtain ⟨entry, hentry, rfl⟩ := List.mem_map.mp (hall x hx)
    obtain ⟨entry', hentry', rfl⟩ := List.mem_map.mp (hall y hy)
    rw [← h.key entry hentry, ← h.key entry' hentry'] at hkey
    rw [List.inj_on_of_nodup_map h.nodup hentry hentry' hkey]
  · intro hinj curve hcurve
    obtain ⟨entry, hentry, hkey⟩ := List.mem_map.mp (h.all curve hcurve)
    rw [h.key entry hentry] at hkey
    rw [← hinj entry.2 (h.sub entry hentry) curve hcurve hkey]
    exact List.mem_map_of_mem hentry

end Web

/-- **Keys and series**: two selections with equal keys are equal if and only if their ids do not
clash, for the key of the response and for that of the client; and the client asks for each of its
curves if and only if no two of them clash. -/
theorem keys_spec (x y : SeriesSelection) (curves : List SeriesSelection) :
    ((responseKey x = responseKey y → x = y) ↔ ¬Clash x y) ∧
    ((Web.curveKey x = Web.curveKey y → x = y) ↔ ¬Clash x y) ∧
    ((∀ curve ∈ curves, curve ∈ Web.uniqueCurves curves) ↔
      ∀ x ∈ curves, ∀ y ∈ curves, ¬Clash x y) := by
  have hcurve : ∀ {x y : SeriesSelection},
      (Web.curveKey x = Web.curveKey y → x = y) ↔ ¬Clash x y := by
    intro x y
    rw [Web.curveKey_eq, Web.curveKey_eq]
    exact responseKey_inj_iff
  refine ⟨responseKey_inj_iff, hcurve, ?_⟩
  rw [Web.uniqueCurves_keeps_iff]
  exact forall₂_congr fun x _ => forall₂_congr fun y _ => hcurve

/-- Two streams whose fields have one key. -/
def colonSpawn : AircraftSpawnInfo where
  telemetrySchemas := [
    { streamId := "a:b", fields := [{ fieldId := "c", valueType := 1 }] },
    { streamId := "a", fields := [{ fieldId := "b:c", valueType := 1 }] }]

def colonCurves : List SeriesSelection :=
  [⟨"x", .telemetry "a:b" "c"⟩, ⟨"x", .telemetry "a" "b:c"⟩]

/-- The schemas are accepted and so is the query of both fields, and the two series of the response
have one key; the client asks only for one of them. -/
theorem not_keysIdentify_colon :
    validateTelemetrySchemas colonSpawn.telemetrySchemas = .ok () ∧
    ((queryGrouped (fun _ => none)
        (({} : TimeSeriesStore).appendEvent "x" (.finite 0) (.spawn colonSpawn))
        { selections := colonCurves }).map fun result =>
          result.toOption.map (List.map SeriesData.key)) =
      some (some ["x::telemetry:a:b:c", "x::telemetry:a:b:c"]) ∧
    colonCurves.map responseKey = ["x::telemetry:a:b:c", "x::telemetry:a:b:c"] ∧
    colonCurves.Nodup ∧ (Web.uniqueCurves colonCurves).length = 1 := by
  decide +kernel

end FlyRuler.Management
