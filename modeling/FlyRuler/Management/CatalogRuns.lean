import FlyRuler.Lib.Run
import FlyRuler.Management.Catalog
import FlyRuler.Store.Persist

/-!
# Catalogs in runs of the store

A run appends entries and loads sessions.  An appended state is plain if the last entry with a
propulsor id carries every value that an earlier entry with it has, and an appended `Spawn` is plain
if the first schema of a stream has the fields of the others; what a session holds is appended
without a check.

* `fieldsFound_of_validate`: a `Spawn` that is checked is plain.
* `catalog_runs`: what the catalogs of a run are.
-/

namespace FlyRuler.Management

open FlyRuler.Pb FlyRuler.Store FlyRuler.Lib.TimeOrder FlyRuler.Lib.Run
open FlyRuler.Store.TimeSeriesStore (schemas)

/-! ## Runs -/

/-- A call of an append function or a load of a session. -/
inductive StoreOp where
  | append (op : AppendOp)
  | load (dir : SessionDir)

/-- A load that fails leaves the store as it is. -/
def StoreOp.run (store : TimeSeriesStore) : StoreOp → TimeSeriesStore
  | .append op => store.apply op
  | .load dir =>
    match store.loadFromDisk dir with
    | .ok loaded => loaded
    | .error _ => store

/-- The store after a run. -/
def reached (ops : List StoreOp) : TimeSeriesStore := ops.foldl StoreOp.run {}

/-! ## Plain steps -/

/-- The last entry with a propulsor id has the values that the entries with it have. -/
def LastsCarry (state : AircraftState) : Prop :=
  ∀ propulsor ∈ state.propulsors, ∀ field,
    (propulsorValue propulsor field).isSome → LastHas state propulsor.propulsorId field

/-- The entry hides nothing. -/
def Plain : Entry → Prop
  | .state state => LastsCarry state
  | .event (.spawn info) => FieldsFound info.telemetrySchemas
  | _ => True

/-- **The step brings plain entries only.** -/
def PlainOp : StoreOp → Prop
  | .append op => ∀ id timestamp entries, op.requested = some (id, timestamp, entries) →
      ∀ entry ∈ entries, Plain entry
  | .load dir =>
    (∀ row ∈ dir.states.getD [], ∀ state, row.payload = .state state → LastsCarry state) ∧
      ∀ row ∈ dir.events.getD [], ∀ info, row.eventPayload = .spawn info →
        FieldsFound info.telemetrySchemas

/-- All states of a store and all its schemas are plain. -/
def PlainStore (store : TimeSeriesStore) : Prop :=
  ∀ id, (∀ sample ∈ (store.series id).states.entries, LastsCarry sample.item) ∧
    FieldsFound (schemas (store.series id))

/-- The stream ids of checked schemas are different. -/
theorem nodup_streamIds {registered : List TelemetryStreamSchema} :
    ∀ {seen : List String}, validateSchemas seen registered = .ok () →
      (registered.map TelemetryStreamSchema.streamId).Nodup ∧
        ∀ schema ∈ registered, schema.streamId ∉ seen := by
  induction registered with
  | nil => exact fun _ => ⟨List.nodup_nil, fun schema h => absurd h List.not_mem_nil⟩
  | cons first rest ih =>
    intro seen h
    unfold validateSchemas at h
    split_ifs at h with hbad
    rw [Bool.or_eq_true, not_or] at hbad
    have hseen : first.streamId ∉ seen := by simpa using hbad.2
    split at h
    · exact nomatch h
    · obtain ⟨hnodup, hnot⟩ := ih h
      refine ⟨List.nodup_cons.mpr ⟨fun hmem => ?_, hnodup⟩, fun other hother => ?_⟩
      · obtain ⟨other, hother, heq⟩ := List.mem_map.mp hmem
        exact hnot other hother (heq ▸ List.mem_cons_self)
      · rcases List.mem_cons.mp hother with rfl | hother
        · exact hseen
        · exact fun hmem => hnot other hother (List.mem_cons_of_mem _ hmem)

/-- **Checked schemas hide no field.** -/
theorem fieldsFound_of_validate {registered : List TelemetryStreamSchema}
    (h : validateTelemetrySchemas registered = .ok ()) : FieldsFound registered := by
  intro schema hschema field hfield
  refine ⟨schema, ?_, List.mem_map_of_mem hfield⟩
  have hnodup := (nodup_streamIds h).1
  clear h
  unfold streamSchema
  induction registered with
  | nil => exact absurd hschema List.not_mem_nil
  | cons first rest ih =>
    rw [List.map_cons, List.nodup_cons] at hnodup
    rcases List.mem_cons.mp hschema with rfl | hrest
    · exact List.find?_cons_of_pos (beq_self_eq_true _)
    · have hne : first.streamId ≠ schema.streamId := fun heq =>
        hnodup.1 (heq ▸ List.mem_map_of_mem hrest)
      rw [List.find?_cons_of_neg (by simpa using hne)]
      exact ih hrest hnodup.2

/-! ## The invariant -/

section Invariant

variable {store store' : TimeSeriesStore}

theorem PlainStore.congr (h : PlainStore store) (hdata : store.data = store'.data) :
    PlainStore store' := by
  intro id
  rw [← TimeSeriesStore.series_congr hdata id]
  exact h id

theorem plainStore_empty : PlainStore {} :=
  fun _ => ⟨fun _ h => absurd h List.not_mem_nil, fun _ h => absurd h List.not_mem_nil⟩

/-- **A plain entry** keeps a store plain. -/
theorem PlainStore.add (h : PlainStore store) {a : Arrival} (ha : Plain a.entry) :
    PlainStore (store.add a) := by
  intro id
  rw [TimeSeriesStore.series_add]
  split_ifs with hid
  · obtain ⟨hstates, hfields⟩ := h id
    rcases hentry : a.entry with state | event | frame
    · rw [hentry] at ha
      refine ⟨fun sample hsample => ?_, hfields⟩
      rcases Timeline.mem_append.mp hsample with rfl | hold
      · exact ha
      · exact hstates sample hold
    · rw [hentry] at ha
      refine ⟨hstates, ?_⟩
      rcases event with info | info | text
      · exact ha
      · exact hfields
      · exact hfields
    · exact ⟨hstates, hfields⟩
  · exact h id

theorem PlainStore.foldl_add {arrived : List Arrival} (h : PlainStore store)
    (harrived : ∀ a ∈ arrived, Plain a.entry) :
    PlainStore (arrived.foldl TimeSeriesStore.add store) := by
  induction arrived generalizing store with
  | nil => exact h
  | cons a arrived ih =>
    exact ih (h.add (harrived a List.mem_cons_self))
      fun b hb => harrived b (List.mem_cons_of_mem a hb)

/-- Only a `Spawn` decodes to a `Spawn`. -/
theorem payload_of_decode_spawn {kind : String} {payload : Blob} {info : AircraftSpawnInfo}
    (h : decodeEvent kind payload = .ok (.spawn info)) : payload = .spawn info := by
  unfold decodeEvent at h
  split_ifs at h
  all_goals
    split at h
    · cases h
      try rfl
    · exact nomatch h

/-- **A plain call** keeps a store plain. -/
theorem PlainStore.apply (h : PlainStore store) {op : AppendOp} (hop : PlainOp (.append op)) :
    PlainStore (store.apply op) := by
  have harrived : ∀ a ∈ store.arrivals op, Plain a.entry := by
    intro a ha
    unfold TimeSeriesStore.arrivals at ha
    split at ha
    · exact absurd ha List.not_mem_nil
    · next id timestamp entries hrequested =>
      split at ha
      · exact absurd ha List.not_mem_nil
      · obtain ⟨entry, hentry, rfl⟩ := List.mem_map.mp ha
        exact hop id timestamp entries hrequested entry (List.mem_of_mem_filter hentry)
  exact (h.foldl_add harrived).congr (TimeSeriesStore.data_apply store op).symm

theorem PlainStore.appendState (h : PlainStore store) {id : AircraftId} {timestamp : F64}
    {state : AircraftState} (hstate : LastsCarry state) :
    PlainStore (store.appendState id timestamp state) := by
  have hop : PlainOp (.append (.state id timestamp state)) := by
    intro _ _ entries hrequested entry hentry
    cases hrequested
    obtain rfl := List.mem_singleton.mp hentry
    exact hstate
  exact h.apply hop

theorem PlainStore.appendEvent (h : PlainStore store) {id : AircraftId} {timestamp : F64}
    {event : Event} (hevent : Plain (.event event)) :
    PlainStore (store.appendEvent id timestamp event) := by
  have hop : PlainOp (.append (.event id timestamp event)) := by
    intro _ _ entries hrequested entry hentry
    cases hrequested
    obtain rfl := List.mem_singleton.mp hentry
    exact hevent
  exact h.apply hop

theorem PlainStore.appendTelemetry (h : PlainStore store) {id : AircraftId} {timestamp : F64}
    {frame : TelemetryFrame} (hok : store.appendTelemetry id timestamp frame = .ok store') :
    PlainStore store' := by
  have happly : store.apply (.telemetry id timestamp frame) = store' := by
    show (match store.appendTelemetry id timestamp frame with
      | .ok store => store
      | .error _ => store) = store'
    rw [hok]
  rw [← happly]
  refine h.apply fun _ _ entries hrequested entry hentry => ?_
  cases hrequested
  obtain rfl := List.mem_singleton.mp hentry
  trivial

/-- The summary of a session changes no state and no schema. -/
theorem PlainStore.readMetaAircraft (h : PlainStore store) (entry : MetaAircraft) :
    PlainStore (store.readMetaAircraft entry) := by
  unfold TimeSeriesStore.readMetaAircraft
  split
  · intro id
    rw [TimeSeriesStore.series_modifySeries]
    split_ifs with hid
    · exact h entry.id
    · exact h id
  · exact h

theorem PlainStore.readMeta (h : PlainStore store) (dir : SessionDir) :
    PlainStore (store.readMeta dir) := by
  unfold TimeSeriesStore.readMeta
  rcases dir.metaFile with _ | file
  · exact h
  · dsimp only
    generalize file.aircrafts = aircrafts
    induction aircrafts generalizing store with
    | nil => exact h
    | cons entry aircrafts ih => exact ih (h.readMetaAircraft entry)

theorem PlainStore.readStates (h : PlainStore store) {dir : SessionDir}
    (hdir : PlainOp (.load dir)) (hok : store.readStatesParquet dir = .ok store') :
    PlainStore store' := by
  refine foldlM_inv (fun store store' row hrow hplain hok => ?_) h hok
  unfold TimeSeriesStore.readStateRow at hok
  split at hok
  · next state hpayload =>
    cases hok
    exact hplain.appendState (hdir.1 row hrow state hpayload)
  · exact nomatch hok

theorem PlainStore.readEvents (h : PlainStore store) {dir : SessionDir}
    (hdir : PlainOp (.load dir)) (hok : store.readEventsParquet dir = .ok store') :
    PlainStore store' := by
  refine foldlM_inv (fun store store' row hrow hplain hok => ?_) h hok
  unfold TimeSeriesStore.readEventRow at hok
  split at hok
  · next event hdecode =>
    cases hok
    refine hplain.appendEvent ?_
    rcases event with info | info | text
    · exact hdir.2 row hrow info (payload_of_decode_spawn hdecode)
    · trivial
    · trivial
  · exact nomatch hok

theorem PlainStore.readTelemetry (h : PlainStore store) {dir : SessionDir}
    (hok : store.readTelemetryParquet dir = .ok store') : PlainStore store' := by
  refine foldlM_inv (fun store store' row _ hplain hok => ?_) h hok
  unfold TimeSeriesStore.readTelemetryRow at hok
  split at hok
  · exact hplain.appendTelemetry hok
  · exact nomatch hok

/-- **A load of a plain session** gives a plain store. -/
theorem plainStore_of_load {dir : SessionDir} (hdir : PlainOp (.load dir))
    (hok : store.loadFromDisk dir = .ok store') : PlainStore store' := by
  unfold TimeSeriesStore.loadFromDisk at hok
  simp only [bind, Except.bind] at hok
  split at hok
  · exact nomatch hok
  next withStates hstates =>
  split at hok
  · exact nomatch hok
  next withEvents hevents =>
  split at hok
  · exact nomatch hok
  next withTelemetry htelemetry =>
  cases hok
  have hplain := ((plainStore_empty.readStates hdir hstates).readEvents hdir hevents).readTelemetry
    htelemetry
  exact (hplain.readMeta dir).congr rfl

/-- **A plain step** keeps a store plain. -/
theorem PlainStore.run (h : PlainStore store) {op : StoreOp} (hop : PlainOp op) :
    PlainStore (StoreOp.run store op) := by
  rcases op with op | dir
  · exact h.apply hop
  · unfold StoreOp.run
    dsimp only
    rcases hload : store.loadFromDisk dir with e | loaded
    · exact h
    · exact plainStore_of_load hop hload

theorem plainStore_reached {ops : List StoreOp} (hops : ∀ op ∈ ops, PlainOp op) :
    PlainStore (reached ops) := by
  unfold reached
  induction ops using List.reverseRecOn with
  | nil => exact plainStore_empty
  | append_singleton ops op ih =>
    rw [List.foldl_append]
    exact (ih fun op hop => hops op (List.mem_append_left _ hop)).run
      (hops op (List.mem_append_right _ (List.mem_singleton.mpr rfl)))

/-- A plain store hides nothing. -/
theorem PlainStore.nothingHidden (h : PlainStore store) {id : AircraftId} {s : AircraftTimeSeries}
    (hs : store.data.lookup id = some s) : NothingHidden s := by
  obtain ⟨hstates, hfields⟩ := h id
  rw [TimeSeriesStore.series_of_lookup hs] at hstates hfields
  refine ⟨hfields, fun sample hsample propulsor hpropulsor field hvalue => ?_⟩
  exact ⟨sample, hsample, hstates sample hsample propulsor hpropulsor field hvalue⟩

end Invariant

/-- **Catalogs and queries in every run**: the catalog of a stored aircraft agrees with the queries
if and only if nothing is hidden in its series; and in a run of plain steps they agree for every
aircraft in every store reached. -/
theorem catalog_runs (euler : Quaternion → Option Vector3) (ops : List StoreOp) :
    (∀ id s, (reached ops).data.lookup id = some s →
      (CatalogAgrees euler (reached ops) id ↔ NothingHidden s)) ∧
    ((∀ op ∈ ops, PlainOp op) → ∀ pre, pre <+: ops → ∀ id s,
      (reached pre).data.lookup id = some s → CatalogAgrees euler (reached pre) id) := by
  refine ⟨fun id s hs => catalogAgrees_iff hs, fun hops pre hpre id s hs => ?_⟩
  have hplain := plainStore_reached fun op hop => hops op (hpre.subset hop)
  exact (catalogAgrees_iff hs).mpr (hplain.nothingHidden hs)

/-- A `Spawn` and a state with a propulsor. -/
def plainRun : List StoreOp :=
  [.append (.event "a" (.finite 0) (.spawn { telemetrySchemas := [
      { streamId := "s", fields := [{ fieldId := "f", valueType := 1 }] }] })),
    .append (.state "a" (.finite 1) { propulsors := [
      { propulsorId := "p", kind := 0, throttleRatio := none, rpm := some (.finite 1),
        bladePitchRad := none, thrustNewton := none, torqueNewtonMeter := none,
        index := none }] })]

theorem catalog_runs_plain :
    (∀ op ∈ plainRun, PlainOp op) ∧ ((reached plainRun).data.lookup "a").isSome ∧
      CatalogAgrees (fun _ => none) (reached plainRun) "a" := by
  have hops : ∀ op ∈ plainRun, PlainOp op := by
    intro op hop
    rcases List.mem_cons.mp hop with rfl | hop
    · intro _ _ entries hrequested entry hentry
      cases hrequested
      obtain rfl := List.mem_singleton.mp hentry
      exact fieldsFound_of_validate (by decide +kernel)
    · obtain rfl := List.mem_singleton.mp hop
      intro _ _ entries hrequested entry hentry
      cases hrequested
      obtain rfl := List.mem_singleton.mp hentry
      intro propulsor hpropulsor field hvalue
      obtain rfl := List.mem_singleton.mp hpropulsor
      exact ⟨_, rfl, hvalue⟩
  have hstored : ((reached plainRun).data.lookup "a").isSome := by decide +kernel
  obtain ⟨s, hs⟩ := Option.isSome_iff_exists.mp hstored
  exact ⟨hops, hstored,
    (catalog_runs (fun _ => none) plainRun).2 hops plainRun (List.prefix_refl _) "a" s hs⟩

/-! ## What hides -/

/-- A `Spawn` that declares a stream twice, with a field the second time. -/
def twiceDeclared : StoreOp :=
  .append (.event "a" (.finite 0) (.spawn { telemetrySchemas := [
    { streamId := "s", fields := [] },
    { streamId := "s", fields := [{ fieldId := "f", valueType := 1 }] }] }))

/-- A state with two entries of one propulsor, the value in the first. -/
def twiceListed : StoreOp :=
  .append (.state "a" (.finite 0) { propulsors := [
    { propulsorId := "p", kind := 0, throttleRatio := none, rpm := some (.finite 1),
      bladePitchRad := none, thrustNewton := none, torqueNewtonMeter := none, index := none },
    { propulsorId := "p", kind := 0, throttleRatio := none, rpm := none,
      bladePitchRad := none, thrustNewton := none, torqueNewtonMeter := none, index := none }] })

/-- The catalog of the first panics; that of the second lists a selector that no state yields a
value for. -/
theorem not_catalogAgrees_hidden :
    (((reached [twiceDeclared]).data.lookup "a").isSome ∧
      catalog (fun _ => none) (reached [twiceDeclared]) "a" = none ∧
      ¬CatalogAgrees (fun _ => none) (reached [twiceDeclared]) "a") ∧
    ((reached [twiceListed]).data.lookup "a").isSome ∧
      ¬CatalogAgrees (fun _ => none) (reached [twiceListed]) "a" := by
  have hstored : ((reached [twiceDeclared]).data.lookup "a").isSome := by decide +kernel
  have hpanic : catalog (fun _ => none) (reached [twiceDeclared]) "a" = none := by
    have hnone : (catalog (fun _ => none) (reached [twiceDeclared]) "a").isNone := by
      decide +kernel
    exact Option.isNone_iff_eq_none.mp hnone
  have hstored' : ((reached [twiceListed]).data.lookup "a").isSome := by decide +kernel
  refine ⟨⟨hstored, hpanic, ?_⟩, hstored', ?_⟩
  · rintro ⟨items, hitems, -⟩
    rw [hpanic] at hitems
    exact nomatch hitems
  · rintro ⟨items, hitems, hagree⟩
    have hno : ¬Yields (fun _ => none) ((reached [twiceListed]).series "a")
        (.propulsor "p" .rpm) := by
      unfold Yields
      decide +kernel
    obtain ⟨s, hs⟩ := Option.isSome_iff_exists.mp hstored'
    refine hno ((hagree.propulsor "p" .rpm).mp ?_)
    rw [map_selector_eq ((catalog_eq_ok_iff hs).mp hitems),
      ← TimeSeriesStore.series_of_lookup hs]
    decide +kernel

end FlyRuler.Management
