import FlyRuler.Lib.Run
import FlyRuler.Management.Series
import Mathlib.Data.List.Forall2
import Mathlib.Data.List.Induction

/-!
# Telemetry under changing schemas

A telemetry frame is checked once, against the schema its aircraft has registered when it arrives,
and a later `Spawn` of the aircraft registers other schemas while the frame stays.  A recording is a
frame with the schema that was in force for it.

* `validateTelemetryFrame_iff`: what a check establishes.
* `agrees_iff`: the recordings read back right iff the schemas registered now agree with theirs.
* `telemetry_sound_iff`: telemetry is sound in a whole run iff every `Spawn` declares again, the
  same, each stream it finds frames of.
-/

namespace FlyRuler.Management

open FlyRuler.Pb FlyRuler.Store FlyRuler.Lib.TimeOrder FlyRuler.Lib.Run
open FlyRuler.Store.TimeSeriesStore (schemas)

/-! ## What the checks establish -/

/-- What of a field decides how its values are checked and found. -/
def signature (schema : TelemetryStreamSchema) : List (String × ℤ) :=
  schema.fields.map fun field => (field.fieldId, field.valueType)

/-- The schema of a stream. -/
def streamSchema (registered : List TelemetryStreamSchema) (streamId : String) :
    Option TelemetryStreamSchema :=
  registered.find? fun schema => schema.streamId == streamId

/-- The values fit the fields. -/
def FitsSchema (schema : TelemetryStreamSchema) (frame : TelemetryFrame) : Prop :=
  List.Forall₂ (fun field value => validValue field value = true) schema.fields frame.values

theorem validateTelemetryFrame_iff {registered : List TelemetryStreamSchema}
    {frame : TelemetryFrame} :
    validateTelemetryFrame registered frame = .ok () ↔
      ∃ schema, streamSchema registered frame.streamId = some schema ∧ FitsSchema schema frame := by
  unfold validateTelemetryFrame streamSchema FitsSchema
  generalize registered.find? _ = found
  rcases found with _ | schema
  · simp
  · simp only [List.forall₂_iff_zip]
    split_ifs with hlen
    · refine ⟨(fun h => nomatch h), ?_⟩
      rintro ⟨_, ⟨⟩, hlen', -⟩
      exact absurd hlen'.symm hlen
    · split
      · next fv hfv =>
        refine ⟨(fun h => nomatch h), ?_⟩
        rintro ⟨_, ⟨⟩, -, hvalid⟩
        have hnot : validValue fv.1 fv.2 = false := by simpa using List.find?_some hfv
        exact absurd (hvalid (List.mem_of_find?_eq_some hfv)) (by simp [hnot])
      · next hnone =>
        refine ⟨fun _ => ⟨schema, rfl, (not_not.mp hlen).symm, ?_⟩, fun _ => rfl⟩
        intro field value hmem
        simpa using List.find?_eq_none.mp hnone _ hmem

/-- The number of the value type of a value. -/
def typeNumber : TelemetryValue.Kind → ℤ
  | .f64Value _ => 1
  | .i64Value _ => 2
  | .boolValue _ => 3

/-- Only the value type of the field counts, and a value fits one value type only. -/
theorem validValue_iff {field : TelemetryField} {value : TelemetryValue} :
    validValue field value = true ↔
      ∃ kind, value.kind = some kind ∧ field.valueType = typeNumber kind := by
  have htry : TelemetryValueType.tryFrom field.valueType =
      if field.valueType = 0 then some .unspecified else if field.valueType = 1 then some .f64
      else if field.valueType = 2 then some .i64 else if field.valueType = 3 then some .bool
      else none := by
    unfold TelemetryValueType.tryFrom
    split <;> simp_all
  unfold validValue
  rw [htry]
  obtain ⟨_ | kind⟩ := value
  · simp
  · rcases kind <;> split_ifs <;> simp_all [typeNumber]

theorem validValue_congr {field field' : TelemetryField} {value : TelemetryValue}
    (h : validValue field value = true) :
    validValue field' value = true ↔ field'.valueType = field.valueType := by
  obtain ⟨kind, hkind, htype⟩ := validValue_iff.mp h
  rw [validValue_iff, htype]
  constructor
  · rintro ⟨kind', hkind', htype'⟩
    rw [hkind] at hkind'
    cases hkind'
    exact htype'
  · intro htype'
    exact ⟨kind, hkind, htype'⟩

/-- The fields of a checked schema have different ids. -/
theorem nodup_of_validateFields {streamId : String} {fields : List TelemetryField} :
    ∀ {seen : List String}, validateFields streamId seen fields = .ok () →
      (fields.map TelemetryField.fieldId).Nodup ∧
        ∀ field ∈ fields, field.fieldId ∉ seen := by
  induction fields with
  | nil => exact fun _ => ⟨List.nodup_nil, fun field h => absurd h List.not_mem_nil⟩
  | cons field fields ih =>
    intro seen h
    unfold validateFields at h
    split_ifs at h with hbad
    rw [Bool.or_eq_true, not_or] at hbad
    have hseen : field.fieldId ∉ seen := by simpa using hbad.2
    split at h
    · exact nomatch h
    · exact nomatch h
    · obtain ⟨hnodup, hnot⟩ := ih h
      refine ⟨List.nodup_cons.mpr ⟨fun hmem => ?_, hnodup⟩, fun other hother => ?_⟩
      · obtain ⟨other, hother, heq⟩ := List.mem_map.mp hmem
        exact hnot other hother (heq ▸ List.mem_cons_self)
      · rcases List.mem_cons.mp hother with rfl | hother
        · exact hseen
        · exact fun hmem => hnot other hother (List.mem_cons_of_mem _ hmem)

theorem nodup_of_validateSchemas {registered : List TelemetryStreamSchema} :
    ∀ {seen : List String}, validateSchemas seen registered = .ok () →
      ∀ schema ∈ registered, (schema.fields.map TelemetryField.fieldId).Nodup := by
  induction registered with
  | nil => exact fun _ schema h => absurd h List.not_mem_nil
  | cons first rest ih =>
    intro seen h schema hschema
    unfold validateSchemas at h
    split_ifs at h
    split at h
    · exact nomatch h
    · next hfields =>
      rcases List.mem_cons.mp hschema with rfl | hrest
      · exact (nodup_of_validateFields hfields).1
      · exact ih h schema hrest

/-- A field of a schema with different ids is found at its own position. -/
theorem telemetryField_getElem {registered : List TelemetryStreamSchema} {streamId : String}
    {schema : TelemetryStreamSchema} (hschema : streamSchema registered streamId = some schema)
    (hnodup : (schema.fields.map TelemetryField.fieldId).Nodup) {i : ℕ}
    (hi : i < schema.fields.length) :
    telemetryField registered streamId schema.fields[i].fieldId = some (schema, i) := by
  unfold telemetryField
  have hfind : registered.find? (fun schema => schema.streamId == streamId) = some schema := hschema
  rw [hfind, Option.bind_some]
  have hindex : (schema.fields.findIdx? fun field => field.fieldId == schema.fields[i].fieldId) =
      some i := by
    rw [List.findIdx?_eq_some_iff_getElem]
    refine ⟨hi, by simp, fun j hj => ?_⟩
    have hne := List.pairwise_iff_getElem.mp hnodup j i (by rw [List.length_map]; omega)
      (by rw [List.length_map]; omega) hj
    simpa using hne
  rw [hindex]
  rfl

/-- What `telemetryField` finds. -/
theorem telemetryField_spec {registered : List TelemetryStreamSchema} {streamId fieldId : String}
    {schema : TelemetryStreamSchema} {index : ℕ}
    (h : telemetryField registered streamId fieldId = some (schema, index)) :
    streamSchema registered streamId = some schema ∧
      schema.fields[index]?.map TelemetryField.fieldId = some fieldId := by
  unfold telemetryField at h
  obtain ⟨found, hfound, hindex⟩ := Option.bind_eq_some_iff.mp h
  obtain ⟨_, hpos, hpair⟩ := Option.map_eq_some_iff.mp hindex
  cases hpair
  refine ⟨hfound, ?_⟩
  obtain ⟨hlt, hfield, -⟩ := List.findIdx?_eq_some_iff_getElem.mp hpos
  rw [List.getElem?_eq_getElem hlt]
  simpa using hfield

/-! ## Recordings -/

/-- A stored frame with the schema that was registered for its stream when it arrived. -/
structure Recording where
  id : AircraftId
  stamp : Secs
  frame : TelemetryFrame
  schema : TelemetryStreamSchema
  deriving DecidableEq

/-- The recording of an arrival, if it is a frame. -/
def recordingOf (store : TimeSeriesStore) (a : Arrival) : Option Recording :=
  match a.entry with
  | .telemetry frame =>
    (streamSchema (schemas (store.series a.id)) frame.streamId).map fun schema =>
      ⟨a.id, a.stamp, frame, schema⟩
  | _ => none

/-- A store with the recordings of its frames. -/
structure Ledger where
  store : TimeSeriesStore := {}
  recordings : List Recording := []

namespace Ledger

/-- Add an arrival. -/
def add (l : Ledger) (a : Arrival) : Ledger :=
  ⟨l.store.add a, l.recordings ++ (recordingOf l.store a).toList⟩

/-- `append_message`, with the recordings of what arrives. -/
def deliver (l : Ledger) (m : Instant × Message) : Ledger :=
  ⟨l.store.appendMessage m.1 m.2,
    ((l.store.arrivals (.message m.1 m.2)).foldl add l).recordings⟩

/-- The schemas registered for an aircraft. -/
def registered (l : Ledger) (id : AircraftId) : List TelemetryStreamSchema :=
  schemas (l.store.series id)

/-- Every stored frame conforms to the schema registered for its stream. -/
def Conforms (l : Ledger) : Prop :=
  ∀ id, ∀ e ∈ (l.store.series id).telemetry.entries,
    validateTelemetryFrame (l.registered id) e.item = .ok ()

/-- The position at which a field is looked up is the position it had in every recording. -/
def ReadsOwn (l : Ledger) : Prop :=
  ∀ r ∈ l.recordings, ∀ fieldId schema index,
    telemetryField (l.registered r.id) r.frame.streamId fieldId = some (schema, index) →
      r.schema.fields[index]?.map TelemetryField.fieldId = some fieldId

/-- Every point a query gives for a telemetry field has been recorded for that field. -/
def QuerySound (l : Ledger) : Prop :=
  ∀ euler request response, query euler l.store request = .ok response →
    ∀ data ∈ response, ∀ streamId fieldId, data.selector = .telemetry streamId fieldId →
      ∀ p ∈ data.points, ∃ r ∈ l.recordings, r.id = data.aircraftId ∧ r.stamp = p.1 ∧
        r.frame.streamId = streamId ∧
        ∃ i : ℕ, r.schema.fields[i]?.map TelemetryField.fieldId = some fieldId ∧
          (r.frame.values[i]?).bind telemetryNumeric = some (.finite p.2)

/-- The schemas declare the stream of the recording with the fields it was recorded under: the same
ids and value types in the same order. -/
def Agrees (registered : List TelemetryStreamSchema) (r : Recording) : Prop :=
  ∃ schema, streamSchema registered r.frame.streamId = some schema ∧
    signature schema = signature r.schema

/-- **A `Spawn` that is accepted declares again, the same, each stream of its aircraft that frames
have been recorded of.** -/
def Redeclares (l : Ledger) (m : Instant × Message) : Prop :=
  ∀ a ∈ l.store.arrivals (.message m.1 m.2), ∀ info, a.entry = .event (.spawn info) →
    ∀ r ∈ l.recordings, r.id = a.id → Agrees info.telemetrySchemas r

/-! ## The invariant -/

/-- The recordings are of the stored frames and were checked, and so are the schemas. -/
structure Recorded (l : Ledger) : Prop where
  stored : ∀ id e, e ∈ (l.store.series id).telemetry.entries ↔
    ∃ r ∈ l.recordings, r.id = id ∧ (⟨r.stamp, r.frame⟩ : TimestampedTelemetryFrame) = e
  fits : ∀ r ∈ l.recordings, FitsSchema r.schema r.frame
  nodup : ∀ id, ∀ schema ∈ l.registered id, (schema.fields.map TelemetryField.fieldId).Nodup

variable {l : Ledger}

/-- **Reading back right.** -/
theorem agrees_iff (h : l.Recorded) :
    (l.Conforms ∧ l.ReadsOwn) ↔ ∀ r ∈ l.recordings, Agrees (l.registered r.id) r := by
  constructor
  · rintro ⟨hconforms, hreads⟩ r hr
    obtain ⟨schema, hschema, hfits⟩ := validateTelemetryFrame_iff.mp
      (hconforms r.id _ ((h.stored r.id ⟨r.stamp, r.frame⟩).mpr ⟨r, hr, rfl, rfl⟩))
    refine ⟨schema, hschema, ?_⟩
    have hfits' := h.fits r hr
    have hlen : schema.fields.length = r.schema.fields.length :=
      hfits.length_eq.trans hfits'.length_eq.symm
    unfold signature
    refine List.ext_getElem (by simpa using hlen) fun i hi hi' => ?_
    rw [List.length_map] at hi hi'
    rw [List.getElem_map, List.getElem_map]
    have hvalue : i < r.frame.values.length := hfits.length_eq ▸ hi
    have htype := (validValue_congr (hfits'.get hi' hvalue)).mp (hfits.get hi hvalue)
    have hfield := hreads r hr _ schema i
      (telemetryField_getElem hschema (h.nodup r.id schema (List.mem_of_find?_eq_some hschema)) hi)
    rw [List.getElem?_eq_getElem hi', Option.map_some] at hfield
    exact Prod.ext (Option.some.inj hfield).symm htype
  · intro hagrees
    refine ⟨fun id e he => ?_, fun r hr fieldId schema index hfield => ?_⟩
    · obtain ⟨r, hr, rfl, rfl⟩ := (h.stored id e).mp he
      obtain ⟨schema, hschema, hsignature⟩ := hagrees r hr
      refine validateTelemetryFrame_iff.mpr ⟨schema, hschema, ?_⟩
      have hfits := h.fits r hr
      unfold FitsSchema at hfits ⊢
      unfold signature at hsignature
      have hlen : schema.fields.length = r.schema.fields.length := by
        simpa using congrArg List.length hsignature
      refine List.forall₂_iff_get.mpr ⟨hlen.trans hfits.length_eq, fun i hi hi' => ?_⟩
      have hget := List.getElem_of_eq hsignature (by simpa using hi)
      rw [List.getElem_map, List.getElem_map] at hget
      exact (validValue_congr (hfits.get (hlen ▸ hi) hi')).mpr (congrArg Prod.snd hget)
    · obtain ⟨schema', hschema', hsignature⟩ := hagrees r hr
      obtain ⟨hschema, hfieldId⟩ := telemetryField_spec hfield
      rw [hschema] at hschema'
      cases hschema'
      unfold signature at hsignature
      have hids := congrArg (fun fields => (fields.map Prod.fst)[index]?) hsignature
      simp only [List.map_map, List.getElem?_map] at hids
      rw [← hfieldId]
      exact hids.symm

/-- What a query gives then. -/
theorem ReadsOwn.querySound (h : l.ReadsOwn) (hrecorded : l.Recorded) : l.QuerySound := by
  intro euler request response hquery data hdata streamId fieldId hselector p hp
  obtain ⟨schema, index, hfield, sample, hsample, hstamp, hstream, hvalue⟩ :=
    mem_of_query hquery hdata hselector hp
  obtain ⟨r, hr, hid, hsame⟩ := (hrecorded.stored data.aircraftId sample).mp hsample
  subst hsame
  refine ⟨r, hr, hid, hstamp, hstream, index, ?_, hvalue⟩
  refine h r hr fieldId schema index ?_
  unfold registered
  rw [hid, show r.frame.streamId = streamId from hstream]
  exact hfield

/-! ## One message -/

/-- The arrival has been checked against the schemas registered now. -/
def Accepted (l : Ledger) (a : Arrival) : Prop :=
  match a.entry with
  | .telemetry frame => validateTelemetryFrame (l.registered a.id) frame = .ok ()
  | .event (.spawn info) => validateTelemetrySchemas info.telemetrySchemas = .ok ()
  | _ => True

theorem validateTelemetryFrame_of_accepts {store : TimeSeriesStore} {id : AircraftId}
    {frame : TelemetryFrame} (h : store.accepts id (.telemetry frame) = true) :
    validateTelemetryFrame (schemas (store.series id)) frame = .ok () := by
  unfold TimeSeriesStore.accepts at h
  dsimp only at h
  rcases hs : store.data.lookup id with _ | s <;> rw [hs] at h
  · exact nomatch h
  · rw [TimeSeriesStore.series_of_lookup hs]
    rw [Option.any_some] at h
    rcases ok_or_error (validateTelemetryFrame (schemas s) frame) with hv | ⟨e, hv⟩
    · exact hv
    · rw [hv] at h
      exact nomatch h

/-- A message brings at most an initial state and one entry that has been checked. -/
theorem arrivals_message (l : Ledger) (m : Instant × Message) :
    ∃ states : List Arrival, ∃ last : Option Arrival,
      l.store.arrivals (.message m.1 m.2) = states ++ last.toList ∧
      (∀ a ∈ states, ∃ state, a.entry = .state state) ∧ ∀ a ∈ last, l.Accepted a := by
  unfold TimeSeriesStore.arrivals AppendOp.requested
  dsimp only
  rcases messageCommand m.2 with _ | ⟨id, timestamp, info⟩
  · exact ⟨[], none, rfl, (fun a h => absurd h List.not_mem_nil), fun a h => nomatch h⟩
  rw [Option.map_some]
  dsimp only
  rcases timestamp.toFinite with _ | t
  · exact ⟨[], none, rfl, (fun a h => absurd h List.not_mem_nil), fun a h => nomatch h⟩
  dsimp only
  rcases info with spawn | despawn | state | custom | frame
  · unfold commandEntries
    dsimp only
    rcases ok_or_error (validateTelemetrySchemas spawn.telemetrySchemas) with hv | ⟨e, hv⟩ <;>
      rw [hv]
    · refine ⟨(spawn.initialState.map fun state => (⟨id, t, .state state⟩ : Arrival)).toList,
        some ⟨id, t, .event (.spawn spawn)⟩, ?_, ?_, ?_⟩
      · rcases spawn.initialState with _ | state <;> rfl
      · intro a ha
        obtain ⟨state, -, rfl⟩ := Option.map_eq_some_iff.mp (Option.mem_toList.mp ha)
        exact ⟨state, rfl⟩
      · rintro a ⟨⟩
        exact hv
    · exact ⟨[], none, rfl, (fun a h => absurd h List.not_mem_nil), fun a h => nomatch h⟩
  · refine ⟨[], some ⟨id, t, .event (.despawn despawn)⟩, rfl, ?_, ?_⟩
    · exact fun a h => absurd h List.not_mem_nil
    · rintro a ⟨⟩
      trivial
  · refine ⟨[⟨id, t, .state state⟩], none, rfl, ?_, fun a h => nomatch h⟩
    intro a ha
    rw [List.mem_singleton.mp ha]
    exact ⟨state, rfl⟩
  · refine ⟨[], some ⟨id, t, .event (.custom custom)⟩, rfl, ?_, ?_⟩
    · exact fun a h => absurd h List.not_mem_nil
    · rintro a ⟨⟩
      trivial
  · unfold commandEntries
    by_cases hacc : l.store.accepts id (.telemetry frame) = true
    · refine ⟨[], some ⟨id, t, .telemetry frame⟩, by simp [hacc], ?_, ?_⟩
      · exact fun a h => absurd h List.not_mem_nil
      · rintro a ⟨⟩
        exact validateTelemetryFrame_of_accepts hacc
    · exact ⟨[], none, by simp [hacc], (fun a h => absurd h List.not_mem_nil), fun a h => nomatch h⟩

/-- The two ledgers agree on telemetry. -/
structure Same (l l' : Ledger) : Prop where
  registered : ∀ id, l.registered id = l'.registered id
  telemetry : ∀ id, (l.store.series id).telemetry = (l'.store.series id).telemetry
  recordings : l.recordings = l'.recordings

theorem Same.recorded {l' : Ledger} (h : l.Same l') (hr : l.Recorded) : l'.Recorded := by
  refine ⟨fun id e => ?_, fun r hmem => hr.fits r (h.recordings ▸ hmem), fun id schema hmem => ?_⟩
  · rw [← h.telemetry, ← h.recordings]
    exact hr.stored id e
  · exact hr.nodup id schema (by rwa [h.registered])

/-- Every recording agrees with the schemas registered now. -/
def AllAgree (l : Ledger) : Prop := ∀ r ∈ l.recordings, Agrees (l.registered r.id) r

theorem Same.allAgree {l' : Ledger} (h : l.Same l') : l.AllAgree ↔ l'.AllAgree := by
  unfold AllAgree
  rw [h.recordings]
  exact forall₂_congr fun r _ => by rw [h.registered]

/-- Adding the initial state of a message. -/
theorem same_add_state {a : Arrival} (ha : ∃ state, a.entry = .state state) : l.Same (l.add a) := by
  obtain ⟨state, hentry⟩ := ha
  refine ⟨fun id => ?_, fun id => ?_, ?_⟩
  · show schemas (l.store.series id) = schemas ((l.store.add a).series id)
    rw [TimeSeriesStore.series_add]
    split_ifs with hid
    · rw [hentry]
      rfl
    · rfl
  · show (l.store.series id).telemetry = ((l.store.add a).series id).telemetry
    rw [TimeSeriesStore.series_add]
    split_ifs with hid
    · rw [hentry]
      rfl
    · rfl
  · unfold add recordingOf
    rw [hentry]
    simp

theorem foldl_add_store (arrivals : List Arrival) :
    ∀ l : Ledger, (arrivals.foldl add l).store = arrivals.foldl TimeSeriesStore.add l.store := by
  induction arrivals with
  | nil => exact fun _ => rfl
  | cons a arrivals ih => exact fun l => ih (l.add a)

theorem same_deliver (l : Ledger) (m : Instant × Message) :
    ((l.store.arrivals (.message m.1 m.2)).foldl add l).Same (l.deliver m) := by
  have hdata : ((l.store.arrivals (.message m.1 m.2)).foldl add l).store.data =
      (l.deliver m).store.data := by
    rw [foldl_add_store]
    exact (TimeSeriesStore.data_apply l.store (.message m.1 m.2)).symm
  have hseries := TimeSeriesStore.series_congr hdata
  refine ⟨fun id => ?_, fun id => by rw [hseries], rfl⟩
  unfold registered
  rw [hseries]

/-- **A message** is, for telemetry, the entry that has been checked. -/
theorem deliver_cases (l : Ledger) (m : Instant × Message) :
    (l.Same (l.deliver m) ∧ ∀ a ∈ l.store.arrivals (.message m.1 m.2), ∀ info,
        a.entry ≠ .event (.spawn info)) ∨
      ∃ (l' : Ledger) (a : Arrival), l.Same l' ∧ l'.Accepted a ∧ (l'.add a).Same (l.deliver m) ∧
        a ∈ l.store.arrivals (.message m.1 m.2) ∧
        ∀ b ∈ l.store.arrivals (.message m.1 m.2), b = a ∨ ∃ state, b.entry = .state state := by
  obtain ⟨states, last, harrivals, hstates, hlast⟩ := arrivals_message l m
  have hfold : ∀ states : List Arrival, (∀ a ∈ states, ∃ state, a.entry = .state state) →
      ∀ l : Ledger, l.Same (states.foldl add l) := by
    intro states
    induction states with
    | nil => exact fun _ l => ⟨fun _ => rfl, fun _ => rfl, rfl⟩
    | cons a states ih =>
      intro h l
      have hfirst := same_add_state (l := l) (h a List.mem_cons_self)
      have hrest := ih (fun b hb => h b (List.mem_cons_of_mem _ hb)) (l.add a)
      exact ⟨fun id => (hfirst.registered id).trans (hrest.registered id),
        fun id => (hfirst.telemetry id).trans (hrest.telemetry id),
        hfirst.recordings.trans hrest.recordings⟩
  have hdeliver := same_deliver l m
  have hsame := hfold states hstates l
  rw [harrivals] at hdeliver ⊢
  rcases last with _ | a
  · left
    rw [Option.toList_none, List.append_nil] at hdeliver ⊢
    refine ⟨⟨fun id => (hsame.registered id).trans (hdeliver.registered id),
      fun id => (hsame.telemetry id).trans (hdeliver.telemetry id),
      hsame.recordings.trans hdeliver.recordings⟩, fun a ha info hentry => ?_⟩
    obtain ⟨state, hstate⟩ := hstates a ha
    exact nomatch hstate.symm.trans hentry
  · right
    rw [Option.toList_some, List.foldl_append] at hdeliver
    refine ⟨states.foldl add l, a, hsame, ?_, hdeliver, by simp, fun b hb => ?_⟩
    · have haccepted := hlast a rfl
      unfold Accepted at haccepted ⊢
      rw [← hsame.registered]
      exact haccepted
    · rw [Option.toList_some] at hb
      rcases List.mem_append.mp hb with hb | hb
      · exact .inr (hstates b hb)
      · exact .inl (List.mem_singleton.mp hb)

theorem registered_add (l : Ledger) (a : Arrival) (id : AircraftId) :
    (l.add a).registered id =
      match decide (id = a.id), a.entry with
      | true, .event (.spawn info) => info.telemetrySchemas
      | _, _ => l.registered id := by
  show schemas ((l.store.add a).series id) = _
  rw [TimeSeriesStore.series_add]
  by_cases hid : id = a.id
  · rw [if_pos hid, decide_eq_true hid]
    rcases a.entry with state | (info | info | text) | frame <;> rfl
  · rw [if_neg hid, decide_eq_false hid]
    rfl

/-- The field ids of a registered schema are unique. -/
theorem Recorded.nodup_add (h : l.Recorded) {a : Arrival} (ha : l.Accepted a) (id : AircraftId) :
    ∀ schema ∈ (l.add a).registered id,
      (schema.fields.map TelemetryField.fieldId).Nodup := by
  intro schema hschema
  rw [registered_add] at hschema
  split at hschema
  · next info hid hentry =>
    unfold Accepted at ha
    rw [hentry] at ha
    exact nodup_of_validateSchemas ha schema hschema
  · exact h.nodup id schema hschema

/-- A checked frame is recorded with the schema it fits. -/
theorem recordings_add_frame {a : Arrival} (ha : l.Accepted a) {frame : TelemetryFrame}
    (hentry : a.entry = .telemetry frame) : ∃ schema, FitsSchema schema frame ∧
      (l.add a).recordings = l.recordings ++ [⟨a.id, a.stamp, frame, schema⟩] := by
  have hvalid : validateTelemetryFrame (l.registered a.id) frame = .ok () := by
    unfold Accepted at ha
    rwa [hentry] at ha
  obtain ⟨schema, hschema, hfits⟩ := validateTelemetryFrame_iff.mp hvalid
  have hfound : streamSchema (schemas (l.store.series a.id)) frame.streamId = some schema := hschema
  refine ⟨schema, hfits, ?_⟩
  unfold Ledger.add recordingOf
  rw [hentry]
  dsimp only
  rw [hfound]
  rfl

/-- A checked arrival keeps the invariant. -/
theorem Recorded.add (h : l.Recorded) {a : Arrival} (ha : l.Accepted a) : (l.add a).Recorded := by
  have hnodup := h.nodup_add ha
  have hseries := TimeSeriesStore.series_add l.store a
  rcases hentry : a.entry with state | event | frame
  · have hsame := same_add_state (l := l) ⟨state, hentry⟩
    exact hsame.recorded h
  · have hrecordings : (l.add a).recordings = l.recordings := by
      unfold Ledger.add recordingOf
      rw [hentry]
      simp
    refine ⟨fun id e => ?_, fun r hr => h.fits r (hrecordings ▸ hr), hnodup⟩
    rw [hrecordings, ← h.stored id e]
    show e ∈ ((l.store.add a).series id).telemetry.entries ↔ _
    rw [hseries, hentry]
    split_ifs <;> rfl
  · obtain ⟨schema, hfits, hrecordings⟩ := recordings_add_frame ha hentry
    refine ⟨fun id e => ?_, fun r hr => ?_, hnodup⟩
    · rw [hrecordings]
      show e ∈ ((l.store.add a).series id).telemetry.entries ↔ _
      rw [hseries, hentry]
      simp only [List.mem_append, List.mem_singleton, or_and_right, exists_or, exists_eq_left]
      rw [← h.stored id e]
      by_cases hid : id = a.id
      · rw [if_pos hid, hid]
        show e ∈ ((l.store.series a.id).telemetry.append ⟨a.stamp, frame⟩).entries ↔ _
        rw [Timeline.mem_append]
        constructor
        · rintro (rfl | he)
          · exact .inr ⟨rfl, rfl⟩
          · exact .inl he
        · rintro (he | ⟨-, rfl⟩)
          · exact .inr he
          · exact .inl rfl
      · rw [if_neg hid]
        exact ⟨.inl, fun he => he.resolve_right fun hnew => hid hnew.1.symm⟩
    · rw [hrecordings] at hr
      rcases List.mem_append.mp hr with hr | hr
      · exact h.fits r hr
      · rw [List.mem_singleton.mp hr]
        exact hfits

/-- What a checked arrival means for the recordings there are. -/
theorem allAgree_add_iff (hagree : l.AllAgree) (a : Arrival) :
    (l.add a).AllAgree ↔ ∀ info, a.entry = .event (.spawn info) →
      ∀ r ∈ l.recordings, r.id = a.id → Agrees info.telemetrySchemas r := by
  constructor
  · intro h info hentry r hr hid
    have hmem : r ∈ (l.add a).recordings := List.mem_append_left _ hr
    have hr := h r hmem
    rw [registered_add, hid, hentry] at hr
    simpa using hr
  · intro h r hr
    rw [registered_add]
    rcases List.mem_append.mp hr with hr | hr
    · split
      · next info hid hentry => exact h info hentry r hr (by simpa using hid)
      · exact hagree r hr
    · -- the recording just made
      obtain ⟨frame, schema, hentry, hschema, rfl⟩ : ∃ frame schema, a.entry = .telemetry frame ∧
          streamSchema (l.registered a.id) frame.streamId = some schema ∧
          r = ⟨a.id, a.stamp, frame, schema⟩ := by
        have hrec := Option.mem_toList.mp hr
        unfold recordingOf at hrec
        split at hrec
        · next frame hentry =>
          obtain ⟨schema, hschema, rfl⟩ := Option.map_eq_some_iff.mp hrec
          exact ⟨frame, schema, hentry, hschema, rfl⟩
        · exact nomatch hrec
      rw [hentry]
      have hagrees : Agrees (l.registered a.id) ⟨a.id, a.stamp, frame, schema⟩ :=
        ⟨schema, hschema, rfl⟩
      simpa using hagrees

/-- **One message** keeps the invariant, and the recordings read back right after it iff it declares
again what it must. -/
theorem deliver_spec (h : l.Recorded) (hagree : l.AllAgree) (m : Instant × Message) :
    (l.deliver m).Recorded ∧ ((l.deliver m).AllAgree ↔ l.Redeclares m) := by
  unfold Redeclares
  rcases deliver_cases l m with ⟨hsame, hnone⟩ | ⟨l', a, hsame, haccepted, hdeliver, ha, honly⟩
  · refine ⟨hsame.recorded h, hsame.allAgree.symm.trans ⟨fun _ a ha info hentry => ?_, ?_⟩⟩
    · exact absurd hentry (hnone a ha info)
    · exact fun _ => hagree
  · have h' := hsame.recorded h
    have hagree' := hsame.allAgree.mp hagree
    refine ⟨hdeliver.recorded (h'.add haccepted), hdeliver.allAgree.symm.trans ?_⟩
    rw [allAgree_add_iff hagree' a, ← hsame.recordings]
    refine ⟨fun hadd b hb info hentry => ?_, fun hall => hall a ha⟩
    rcases honly b hb with rfl | ⟨state, hstate⟩
    · exact hadd info hentry
    · exact nomatch hstate.symm.trans hentry

/-! ## Whole runs -/

theorem recorded_empty : ({} : Ledger).Recorded := by
  refine ⟨fun id e => ?_, fun r hr => absurd hr List.not_mem_nil, fun id schema hschema => ?_⟩
  · constructor
    · exact fun he => absurd he List.not_mem_nil
    · rintro ⟨r, hr, -⟩
      exact absurd hr List.not_mem_nil
  · exact absurd hschema List.not_mem_nil

/-- The ledger after the messages. -/
def delivered (messages : List (Instant × Message)) : Ledger := messages.foldl deliver {}

/-- Telemetry is sound: the frames conform, a field is looked up where it was recorded, and a query
gives what was recorded for the field it is asked for. -/
structure Sound (l : Ledger) : Prop where
  conforms : l.Conforms
  readsOwn : l.ReadsOwn
  querySound : l.QuerySound

theorem sound_iff (h : l.Recorded) : l.Sound ↔ l.AllAgree := by
  constructor
  · exact fun hsound => (agrees_iff h).mp ⟨hsound.conforms, hsound.readsOwn⟩
  · intro hagree
    obtain ⟨hconforms, hreads⟩ := (agrees_iff h).mpr hagree
    exact ⟨hconforms, hreads, hreads.querySound h⟩

theorem recorded_delivered {messages : List (Instant × Message)}
    (h : Meets deliver Redeclares {} messages) :
    (delivered messages).Recorded ∧ (delivered messages).AllAgree := by
  refine h.inv (I := fun l => l.Recorded ∧ l.AllAgree) (fun l m hl hm => ?_) ⟨recorded_empty, ?_⟩
  · obtain ⟨hrecorded, hiff⟩ := deliver_spec hl.1 hl.2 m
    exact ⟨hrecorded, hiff.mpr hm⟩
  · exact fun r hr => absurd hr List.not_mem_nil

/-- **Telemetry is sound in every state of a run iff every `Spawn` declares again, the same, each
stream of its aircraft that frames have been recorded of.** -/
theorem telemetry_sound_iff (messages : List (Instant × Message)) :
    (∀ pre, pre <+: messages → (delivered pre).Sound) ↔ Meets deliver Redeclares {} messages := by
  constructor
  · intro hsound
    induction messages using List.reverseRecOn with
    | nil => trivial
    | append_singleton messages m ih =>
      have hmeets := ih fun pre hpre => hsound pre (hpre.trans (List.prefix_append _ _))
      obtain ⟨hrecorded, hagree⟩ := recorded_delivered hmeets
      obtain ⟨hrecorded', hiff⟩ := deliver_spec hrecorded hagree m
      have hlast := hsound (messages ++ [m]) (List.prefix_refl _)
      have hstep : delivered (messages ++ [m]) = (delivered messages).deliver m :=
        List.foldl_concat _ _ _ _
      rw [hstep, sound_iff hrecorded', hiff] at hlast
      exact meets_append.mpr ⟨hmeets, hlast, trivial⟩
  · intro hmeets pre hpre
    obtain ⟨hrecorded, hagree⟩ := recorded_delivered (hmeets.of_prefix hpre)
    exact (sound_iff hrecorded).mpr hagree

/-! ## Two fields that change places -/

/-- An aircraft event without an aircraft id, at the time `t`. -/
def eventMessage (t : Secs) (info : AircraftCommandInfo.Kind) : Instant × Message :=
  (t, ⟨some (.request ⟨none, .finite t, some ⟨some (.aircraftEvent
    ⟨none, some ⟨some info⟩⟩)⟩⟩)⟩)

/-- A stream of two numbers. -/
def pairSchema (first second : String) : TelemetryStreamSchema :=
  { streamId := "s"
    fields := [{ fieldId := first, valueType := 1 }, { fieldId := second, valueType := 1 }] }

/-- The frame with the numbers one and two. -/
def pairFrame : TelemetryFrame :=
  ⟨"s", 1, [⟨some (.f64Value (.finite 1))⟩, ⟨some (.f64Value (.finite 2))⟩]⟩

/-- A frame is sent, and the aircraft is spawned again with the two fields in the other order. -/
def swapped : List (Instant × Message) :=
  [eventMessage 0 (.spawn { telemetrySchemas := [pairSchema "a" "b"] }),
    eventMessage 1 (.telemetryFrame pairFrame),
    eventMessage 2 (.spawn { telemetrySchemas := [pairSchema "b" "a"] })]

/-- **A query for `b` gives the value recorded for `a`.** -/
theorem not_sound_swapped : ¬∀ messages, (delivered messages).Conforms ∧
    (delivered messages).QuerySound := by
  intro hsound
  obtain ⟨r, hr, -, -, -, i, hfield, hvalue⟩ := (hsound swapped).2 (fun _ => none)
    { selections := [⟨"unknown", .telemetry "s" "b"⟩] }
    [{ key := "unknown::telemetry:s:b", aircraftId := "unknown", selector := .telemetry "s" "b"
       points := [(1, 1)], totalPoints := 1, returnedPoints := 1
       stats := some ⟨1, 1, 1, 1, 1⟩ }] (by decide +kernel) _ List.mem_cons_self "s" "b" rfl (1, 1)
    List.mem_cons_self
  have hrecordings : (delivered swapped).recordings =
      [⟨"unknown", 1, pairFrame, pairSchema "a" "b"⟩] := by decide +kernel
  rw [hrecordings] at hr
  obtain rfl := List.mem_singleton.mp hr
  match i with
  | 0 => exact absurd hfield (by decide)
  | 1 => exact absurd hvalue (by decide +kernel)
  | n + 2 => exact nomatch hfield

end Ledger

end FlyRuler.Management
