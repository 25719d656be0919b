import FlyRuler.Store.Persist

/-!
# What a saved session loads as

Saving writes every series in order, so the states, events and frames of an aircraft come back as
they were (`lookup_readStates`, `lookup_readEvents`, `lookup_readTelemetry`).  The configuration is
rebuilt from the events, and there the order matters: while messages arrive the last `Spawn` to
*arrive* sets the registered schemas, but when the events are read back it is the last `Spawn` *in
time order* (`foldl_configAfter`).  A session therefore loads as what was saved exactly when those
two agree on the schemas and the stored frames fit them (`Replayable`).
-/

namespace FlyRuler.Store

open FlyRuler.Pb FlyRuler.Lib.Keyed FlyRuler.Lib.TimeOrder

/-! ## The configuration that the events give -/

/-- The content of a `Spawn`. -/
def spawnInfo : Event → Option AircraftSpawnInfo
  | .spawn info => some info
  | _ => none

/-- The last `Spawn` of a list of events. -/
def lastSpawn (events : List TimestampedEvent) : Option AircraftSpawnInfo :=
  (events.filterMap fun e => spawnInfo e.item).getLast?

def AircraftConfig.ofSpawn (info : AircraftSpawnInfo) : AircraftConfig :=
  ⟨info.name, info.tomlConfig, info.telemetrySchemas⟩

/-- The schemas that the last `Spawn` in time order registers. -/
def lastSpawnSchemas (s : AircraftTimeSeries) : List TelemetryStreamSchema :=
  ((lastSpawn s.events.entries).map AircraftSpawnInfo.telemetrySchemas).getD []

/-- The registered schemas are those of the last `Spawn` in time order, and the frames fit them. -/
structure Replayable (s : AircraftTimeSeries) : Prop where
  schemas_eq : TimeSeriesStore.schemas s = lastSpawnSchemas s
  frames_ok : ∀ e ∈ s.telemetry.entries,
    validateTelemetryFrame (lastSpawnSchemas s) e.item = .ok ()

theorem lastSpawn_concat (l : List TimestampedEvent) (e : TimestampedEvent) :
    lastSpawn (l ++ [e]) = (spawnInfo e.item).or (lastSpawn l) := by
  unfold lastSpawn
  rw [List.filterMap_append]
  cases h : spawnInfo e.item <;> simp [h]

/-- **Replaying the events sets the configuration of the last `Spawn` among them.** -/
theorem foldl_configAfter (l : List TimestampedEvent) (config : Option AircraftConfig) :
    l.foldl (fun c e => TimeSeriesStore.configAfter c e.item) config =
      ((lastSpawn l).map AircraftConfig.ofSpawn).or config := by
  induction l using List.reverseRecOn with
  | nil => rfl
  | append_singleton l e ih =>
    rw [List.foldl_concat, ih, lastSpawn_concat]
    cases h : e.item <;> simp [TimeSeriesStore.configAfter, spawnInfo, AircraftConfig.ofSpawn]

/-! ## What holds of every series that messages have built -/

/-- There is an entry, and a configuration is set exactly when there is a `Spawn`. -/
structure Recorded (s : AircraftTimeSeries) : Prop where
  nonempty : s.states.entries ≠ [] ∨ s.events.entries ≠ []
  config_iff : s.config.isSome ↔ ∃ e ∈ s.events.entries, (spawnInfo e.item).isSome

namespace TimeSeriesStore

variable {store : TimeSeriesStore}

/-- Every series of the store is `Recorded`. -/
def AllRecorded (store : TimeSeriesStore) : Prop :=
  ∀ id s, store.data.lookup id = some s → Recorded s

theorem AllRecorded.modifySeries (h : store.AllRecorded) {id : AircraftId}
    {f : AircraftTimeSeries → AircraftTimeSeries} (hf : Recorded (f (store.series id))) :
    (store.modifySeries id f).AllRecorded := by
  intro j s hs
  rw [lookup_modifySeries] at hs
  split_ifs at hs with hj
  · cases hs; exact hf
  · exact h j s hs

theorem mem_entries_append_ne_nil {τ α : Type} [LinearOrder τ] (t : Timeline τ α)
    (x : Stamped τ α) : (t.append x).entries ≠ [] :=
  List.ne_nil_of_mem (Timeline.mem_append.mpr (Or.inl rfl))

/-- A series that is in the store is recorded; one that is not is empty. -/
theorem AllRecorded.config_iff (h : store.AllRecorded) (id : AircraftId) :
    (store.series id).config.isSome ↔
      ∃ e ∈ (store.series id).events.entries, (spawnInfo e.item).isSome := by
  unfold series
  cases hs : store.data.lookup id with
  | none => simp
  | some s => exact (h id s hs).config_iff

theorem AllRecorded.appendState (h : store.AllRecorded) (id : AircraftId) (timestamp : F64)
    (state : AircraftState) : (store.appendState id timestamp state).AllRecorded := by
  unfold TimeSeriesStore.appendState
  cases timestamp.toFinite with
  | none => exact h
  | some t => exact h.modifySeries ⟨Or.inl (mem_entries_append_ne_nil _ _), h.config_iff id⟩

theorem AllRecorded.appendEvent (h : store.AllRecorded) (id : AircraftId) (timestamp : F64)
    (event : Event) : (store.appendEvent id timestamp event).AllRecorded := by
  unfold TimeSeriesStore.appendEvent
  cases timestamp.toFinite with
  | none => exact h
  | some t =>
    refine h.modifySeries ⟨Or.inr (mem_entries_append_ne_nil _ _), ?_⟩
    have hold := h.config_iff id
    simp only [Timeline.mem_append, or_and_right, exists_or, exists_eq_left, ← hold]
    cases event <;> simp [configAfter, spawnInfo]

theorem AllRecorded.appendTelemetry (h : store.AllRecorded) {id : AircraftId} {timestamp : F64}
    {frame : TelemetryFrame} {store' : TimeSeriesStore}
    (hok : store.appendTelemetry id timestamp frame = .ok store') : store'.AllRecorded := by
  unfold TimeSeriesStore.appendTelemetry at hok
  split at hok
  · cases hok
  · split at hok
    · cases hok
    · rename_i s hs
      split at hok
      · cases hok
      · cases hok
        have hrec := h id s hs
        rw [← series_of_lookup hs] at hrec
        exact h.modifySeries ⟨hrec.nonempty, hrec.config_iff⟩

theorem AllRecorded.appendCommand (h : store.AllRecorded) (now : Instant) (id : AircraftId)
    (timestamp : F64) (info : AircraftCommandInfo.Kind) :
    (store.appendCommand now id timestamp info).AllRecorded := by
  cases info with
  | stateUpdate state => exact h.appendState id timestamp state
  | spawn spawn =>
    unfold TimeSeriesStore.appendCommand
    dsimp only
    split
    · exact h
    · cases spawn.initialState with
      | none => exact h.appendEvent id timestamp _
      | some state =>
        have h' : ((store.appendState id timestamp state).receive id now).AllRecorded :=
          h.appendState id timestamp state
        exact h'.appendEvent id timestamp _
  | despawn despawn => exact h.appendEvent id timestamp _
  | customEvent custom => exact h.appendEvent id timestamp _
  | telemetryFrame frame =>
    unfold TimeSeriesStore.appendCommand
    dsimp only
    split
    · rename_i store' hok
      exact h.appendTelemetry hok
    · exact h

theorem AllRecorded.appendMessage (h : store.AllRecorded) (now : Instant) (msg : Message) :
    (store.appendMessage now msg).AllRecorded := by
  unfold TimeSeriesStore.appendMessage
  repeat' split
  all_goals first
    | exact h
    | exact h.appendCommand now _ _ _

/-- The store after the messages `msgs` have arrived, in this order and at these times. -/
def received (msgs : List (Instant × Message)) : TimeSeriesStore :=
  msgs.foldl (fun st m => st.appendMessage m.1 m.2) {}

theorem allRecorded_received (msgs : List (Instant × Message)) : (received msgs).AllRecorded := by
  suffices h : ∀ st : TimeSeriesStore, st.AllRecorded →
      (msgs.foldl (fun st m => st.appendMessage m.1 m.2) st).AllRecorded from
    h {} fun id s hs => by cases hs
  induction msgs with
  | nil => exact fun st h => h
  | cons m msgs ih => exact fun st h => ih _ (h.appendMessage m.1 m.2)

/-! ## Reading a table -/

theorem lookup_foldl_modifySeries {β : Type} (id : AircraftId)
    (f : AircraftTimeSeries → β → AircraftTimeSeries) (l : List β) (store : TimeSeriesStore)
    (j : AircraftId) :
    (l.foldl (fun st b => st.modifySeries id fun s => f s b) store).data.lookup j =
      if j = id ∧ l ≠ [] then some (l.foldl f (store.series id)) else store.data.lookup j := by
  induction l generalizing store with
  | nil => simp
  | cons b l ih =>
    rw [List.foldl_cons, ih, lookup_modifySeries, series_modifySeries]
    by_cases hj : j = id
    · cases l <;> simp [hj]
    · simp [hj]

section Table
variable {ρ : Type} {readRow : TimeSeriesStore → ρ → Except StoreError TimeSeriesStore}
  (rows : AircraftId → List ρ) {P : AircraftId → Option AircraftTimeSeries → Prop}
  {g : AircraftId → Option AircraftTimeSeries → Option AircraftTimeSeries}

/-- **A table is read aircraft by aircraft** when the rows of an aircraft change only its series. -/
theorem foldlM_rows_ok
    (hone : ∀ st id, P id (st.data.lookup id) → ∃ st', (rows id).foldlM readRow st = .ok st' ∧
      ∀ j, st'.data.lookup j = if j = id then g id (st.data.lookup id) else st.data.lookup j)
    {ids : List AircraftId} (hnd : ids.Nodup) (st : TimeSeriesStore)
    (hP : ∀ id ∈ ids, P id (st.data.lookup id)) :
    ∃ st', (ids.flatMap rows).foldlM readRow st = .ok st' ∧
      ∀ j, st'.data.lookup j = if j ∈ ids then g j (st.data.lookup j) else st.data.lookup j := by
  induction ids generalizing st with
  | nil => exact ⟨st, rfl, fun j => by simp⟩
  | cons id ids ih =>
    rw [List.nodup_cons] at hnd
    obtain ⟨st₁, hread, hst₁⟩ := hone st id (hP id (by simp))
    have hother : ∀ j ∈ ids, st₁.data.lookup j = st.data.lookup j := fun j hj => by
      have hne : j ≠ id := fun h => hnd.1 (h ▸ hj)
      rw [hst₁, if_neg hne]
    obtain ⟨st₂, hread₂, hst₂⟩ := ih hnd.2 st₁ fun j hj => by
      rw [hother j hj]; exact hP j (List.mem_cons_of_mem _ hj)
    refine ⟨st₂, ?_, fun j => ?_⟩
    · rw [List.flatMap_cons, List.foldlM_append, hread]
      exact hread₂
    · rw [hst₂]
      by_cases hj : j ∈ ids
      · simp [hj, hother j hj]
      · rw [if_neg hj, hst₁]
        by_cases hj' : j = id
        · subst hj'; simp
        · simp [hj, hj']

/-- An aircraft whose rows cannot be read spoils the table. -/
theorem foldlM_rows_error
    (hone : ∀ st id, P id (st.data.lookup id) → ∃ st', (rows id).foldlM readRow st = .ok st' ∧
      ∀ j, st'.data.lookup j = if j = id then g id (st.data.lookup id) else st.data.lookup j)
    (herr : ∀ st id, ¬P id (st.data.lookup id) → ∃ e, (rows id).foldlM readRow st = .error e)
    {ids : List AircraftId} (hnd : ids.Nodup) (st : TimeSeriesStore) {id : AircraftId}
    (hid : id ∈ ids) (hP : ¬P id (st.data.lookup id)) :
    ∃ e, (ids.flatMap rows).foldlM readRow st = .error e := by
  induction ids generalizing st with
  | nil => cases hid
  | cons id' ids ih =>
    rw [List.nodup_cons] at hnd
    by_cases hP' : P id' (st.data.lookup id')
    · obtain ⟨st₁, hread, hst₁⟩ := hone st id' hP'
      have hne : id ≠ id' := fun h => hP (h ▸ hP')
      have hid' : id ∈ ids := (List.mem_cons.mp hid).resolve_left hne
      obtain ⟨e, he⟩ := ih hnd.2 st₁ hid' (by rwa [hst₁, if_neg hne])
      refine ⟨e, ?_⟩
      rw [List.flatMap_cons, List.foldlM_append, hread]
      exact he
    · obtain ⟨e, he⟩ := herr st id' hP'
      refine ⟨e, ?_⟩
      rw [List.flatMap_cons, List.foldlM_append, he]
      rfl

end Table

/-! ## The three tables -/

theorem foldlM_stateRows (id : AircraftId) (l : List TimestampedState) (st : TimeSeriesStore) :
    (l.map fun e => (⟨id, .finite e.stamp, .state e.item⟩ : Row)).foldlM readStateRow st =
      .ok (l.foldl (fun st e => st.modifySeries id fun s =>
        { s with states := s.states.append e }) st) := by
  induction l generalizing st with
  | nil => rfl
  | cons e l ih => exact ih _

theorem foldlM_eventRows (id : AircraftId) (l : List TimestampedEvent) (st : TimeSeriesStore) :
    (l.map fun e => (⟨id, .finite e.stamp, (encodeEvent e.item).1, (encodeEvent e.item).2⟩ :
        EventRow)).foldlM readEventRow st =
      .ok (l.foldl (fun st e => st.modifySeries id fun s =>
        { s with config := configAfter s.config e.item, events := s.events.append e }) st) := by
  induction l generalizing st with
  | nil => rfl
  | cons e l ih =>
    rw [List.map_cons, List.foldlM_cons]
    unfold readEventRow
    rw [decodeEvent_encodeEvent]
    exact ih _

/-- The frames that fit the registered schemas. -/
def Fits (l : List TimestampedTelemetryFrame) (s : AircraftTimeSeries) : Prop :=
  ∀ e ∈ l, validateTelemetryFrame (schemas s) e.item = .ok ()

theorem readTelemetryRow_frame (st : TimeSeriesStore) (id : AircraftId) (t : Secs)
    (frame : TelemetryFrame) : readTelemetryRow st ⟨id, .finite t, .frame frame⟩ =
      st.appendTelemetry id (.finite t) frame := rfl

theorem validate_no_schemas (frame : TelemetryFrame) :
    validateTelemetryFrame [] frame ≠ .ok () := by
  intro h
  cases h

/-- An aircraft that is not there is rejected like one without schemas. -/
theorem readTelemetryRow_series (st : TimeSeriesStore) (id : AircraftId)
    (e : TimestampedTelemetryFrame) :
    readTelemetryRow st ⟨id, .finite e.stamp, .frame e.item⟩ =
      match st.data.lookup id, validateTelemetryFrame (schemas (st.series id)) e.item with
      | none, _ => .error (.invalidData ("aircraft not found: " ++ id))
      | some _, .error err => .error err
      | some _, .ok () =>
        .ok (st.modifySeries id fun s => { s with telemetry := s.telemetry.append e }) := by
  rw [readTelemetryRow_frame]
  cases hs : st.data.lookup id with
  | none => simp [appendTelemetry, F64.toFinite, hs]
  | some s =>
    rw [appendTelemetry_finite hs, series_of_lookup hs]
    cases validateTelemetryFrame (schemas s) e.item <;> rfl

theorem foldlM_telemetryRows (id : AircraftId) (l : List TimestampedTelemetryFrame)
    (st : TimeSeriesStore) (hfit : Fits l (st.series id)) :
    (l.map fun e => (⟨id, .finite e.stamp, .frame e.item⟩ : Row)).foldlM readTelemetryRow st =
      .ok (l.foldl (fun st e => st.modifySeries id fun s =>
        { s with telemetry := s.telemetry.append e }) st) := by
  induction l generalizing st with
  | nil => rfl
  | cons e l ih =>
    have he := hfit e (by simp)
    rw [List.map_cons, List.foldlM_cons, readTelemetryRow_series, he]
    cases hs : st.data.lookup id with
    | none =>
      unfold series at he
      rw [hs] at he
      exact absurd he (validate_no_schemas e.item)
    | some s =>
      refine ih _ fun e' he' => ?_
      rw [series_modifySeries, if_pos rfl]
      exact hfit e' (List.mem_cons_of_mem _ he')

theorem foldlM_telemetryRows_error (id : AircraftId) (l : List TimestampedTelemetryFrame)
    (st : TimeSeriesStore) (hfit : ¬Fits l (st.series id)) : ∃ e,
    (l.map fun e => (⟨id, .finite e.stamp, .frame e.item⟩ : Row)).foldlM readTelemetryRow st =
      .error e := by
  induction l generalizing st with
  | nil => exact absurd (fun e he => absurd he (by simp)) hfit
  | cons e l ih =>
    rw [List.map_cons, List.foldlM_cons, readTelemetryRow_series]
    cases hs : st.data.lookup id with
    | none => exact ⟨_, rfl⟩
    | some s =>
      cases hv : validateTelemetryFrame (schemas (st.series id)) e.item with
      | error err => exact ⟨err, rfl⟩
      | ok u =>
        refine ih _ fun hl => hfit fun e' he' => ?_
        rw [series_modifySeries, if_pos rfl] at hl
        rcases List.mem_cons.mp he' with rfl | he'
        · exact hv
        · exact hl e' he'

/-- What the three tables give back of a series: the configuration is that of the last `Spawn`. -/
def rebuilt (s : AircraftTimeSeries) : AircraftTimeSeries :=
  { s with config := (lastSpawn s.events.entries).map AircraftConfig.ofSpawn }

theorem schemas_rebuilt (s : AircraftTimeSeries) : schemas (rebuilt s) = lastSpawnSchemas s := by
  unfold schemas rebuilt lastSpawnSchemas
  cases lastSpawn s.events.entries <;> rfl

theorem eq_empty_of_entries {τ α : Type} [LinearOrder τ] {t : Timeline τ α} (h : t.entries = []) :
    t = .empty := Timeline.ext h

/-- The series of a table with the entries `l`: there is none if the table has no row of it. -/
def tableSeries {α : Type} (l : List α) (f : AircraftTimeSeries → AircraftTimeSeries)
    (o : Option AircraftTimeSeries) : Option AircraftTimeSeries :=
  if l = [] then o else some (f (o.getD {}))

/-- The rows of one aircraft, once read. -/
theorem lookup_table {α : Type} {l : List α} {id : AircraftId} {st : TimeSeriesStore}
    {f : AircraftTimeSeries → α → AircraftTimeSeries}
    {F : AircraftTimeSeries → AircraftTimeSeries} (hF : ∀ s, l.foldl f s = F s) (j : AircraftId) :
    (l.foldl (fun st b => st.modifySeries id fun s => f s b) st).data.lookup j =
      if j = id then tableSeries l F (st.data.lookup id) else st.data.lookup j := by
  rw [lookup_foldl_modifySeries, hF]
  unfold tableSeries series
  by_cases hj : j = id
  · subst hj
    by_cases hl : l = [] <;> simp [hl]
  · simp [hj]

theorem foldl_states (l : List TimestampedState) (s : AircraftTimeSeries) :
    l.foldl (fun s e => { s with states := s.states.append e }) s =
      { s with states := l.foldl Timeline.append s.states } := by
  induction l generalizing s with
  | nil => rfl
  | cons e l ih => exact ih _

theorem foldl_events (l : List TimestampedEvent) (s : AircraftTimeSeries) :
    l.foldl (fun s e => { s with
        config := configAfter s.config e.item
        events := s.events.append e }) s =
      { s with
        config := ((lastSpawn l).map AircraftConfig.ofSpawn).or s.config
        events := l.foldl Timeline.append s.events } := by
  rw [← foldl_configAfter]
  induction l generalizing s with
  | nil => rfl
  | cons e l ih => exact ih _

theorem foldl_telemetry (l : List TimestampedTelemetryFrame) (s : AircraftTimeSeries) :
    l.foldl (fun s e => { s with telemetry := s.telemetry.append e }) s =
      { s with telemetry := l.foldl Timeline.append s.telemetry } := by
  induction l generalizing s with
  | nil => rfl
  | cons e l ih => exact ih _

section Load
variable (order : SaveOrder store)

theorem readStates_saved : ∃ st,
    ({} : TimeSeriesStore).readStatesParquet (store.saveToDisk order) = .ok st ∧
      ∀ j, st.data.lookup j = tableSeries (store.series j).states.entries
        (fun s => { s with states := (store.series j).states.entries.foldl .append s.states })
        none := by
  obtain ⟨st, hread, hst⟩ := foldlM_rows_ok store.stateRows (P := fun _ _ => True)
    (fun st id _ => ⟨_, foldlM_stateRows id _ st, lookup_table (foldl_states _)⟩)
    (order.states_perm.nodup_iff.mpr store.data.keys_nodup) {} fun _ _ => trivial
  refine ⟨st, hread, fun j => ?_⟩
  rw [hst j]
  split_ifs with hj
  · rfl
  · rw [series_of_notMem fun h => hj (order.states_perm.mem_iff.mpr h)]
    rfl

theorem readEvents_saved (st : TimeSeriesStore) : ∃ st',
    st.readEventsParquet (store.saveToDisk order) = .ok st' ∧
      ∀ j, st'.data.lookup j = tableSeries (store.series j).events.entries
        (fun s => { s with
          config := ((lastSpawn (store.series j).events.entries).map AircraftConfig.ofSpawn).or
            s.config
          events := (store.series j).events.entries.foldl .append s.events })
        (st.data.lookup j) := by
  obtain ⟨st', hread, hst⟩ := foldlM_rows_ok store.eventRows (P := fun _ _ => True)
    (fun st id _ => ⟨_, foldlM_eventRows id _ st, lookup_table (foldl_events _)⟩)
    (order.events_perm.nodup_iff.mpr store.data.keys_nodup) st fun _ _ => trivial
  refine ⟨st', hread, fun j => ?_⟩
  rw [hst j]
  split_ifs with hj
  · rfl
  · rw [series_of_notMem fun h => hj (order.events_perm.mem_iff.mpr h)]
    rfl

theorem readTelemetry_one (st : TimeSeriesStore) (id : AircraftId)
    (h : Fits (store.series id).telemetry.entries (st.series id)) :
    ∃ st', (store.telemetryRows id).foldlM readTelemetryRow st = .ok st' ∧
      ∀ j, st'.data.lookup j = if j = id then
        tableSeries (store.series id).telemetry.entries (fun s => { s with
          telemetry := (store.series id).telemetry.entries.foldl .append s.telemetry })
          (st.data.lookup id) else st.data.lookup j :=
  ⟨_, foldlM_telemetryRows id _ st h, lookup_table (foldl_telemetry _)⟩

theorem readTelemetry_saved {st : TimeSeriesStore}
    (h : ∀ id ∈ store.data.keys, Fits (store.series id).telemetry.entries (st.series id)) :
    ∃ st', st.readTelemetryParquet (store.saveToDisk order) = .ok st' ∧
      ∀ j, st'.data.lookup j = tableSeries (store.series j).telemetry.entries (fun s => { s with
        telemetry := (store.series j).telemetry.entries.foldl .append s.telemetry })
        (st.data.lookup j) := by
  obtain ⟨st', hread, hst⟩ := foldlM_rows_ok store.telemetryRows
    (P := fun id o => Fits (store.series id).telemetry.entries (o.getD {})) readTelemetry_one
    (order.telemetry_perm.nodup_iff.mpr store.data.keys_nodup) st
    fun id hid => h id (order.telemetry_perm.mem_iff.mp hid)
  refine ⟨st', hread, fun j => ?_⟩
  rw [hst j]
  split_ifs with hj
  · rfl
  · rw [series_of_notMem fun h => hj (order.telemetry_perm.mem_iff.mpr h)]
    rfl

theorem readTelemetry_error {st : TimeSeriesStore} {id : AircraftId} (hid : id ∈ store.data.keys)
    (h : ¬Fits (store.series id).telemetry.entries (st.series id)) : ∃ e,
    st.readTelemetryParquet (store.saveToDisk order) = .error e :=
  foldlM_rows_error store.telemetryRows
    (P := fun id o => Fits (store.series id).telemetry.entries (o.getD {})) readTelemetry_one
    (fun st id h => foldlM_telemetryRows_error id _ st h)
    (order.telemetry_perm.nodup_iff.mpr store.data.keys_nodup) st
    (order.telemetry_perm.mem_iff.mpr hid) h

/-! ## The summary, and the whole directory -/

/-- What the summary changes of a loaded series: name and TOML text of the configuration. -/
def withSummary (config : Option AircraftConfig) (s : AircraftTimeSeries) : AircraftTimeSeries :=
  match config with
  | some config => { s with config := some ⟨config.name, config.tomlConfig, schemas s⟩ }
  | none => s

theorem lookup_readMetaAircraft (st : TimeSeriesStore) (id j : AircraftId)
    (s : AircraftTimeSeries) : (st.readMetaAircraft (metaAircraft id s)).data.lookup j =
      if j = id then (st.data.lookup id).map (withSummary s.config) else st.data.lookup j := by
  unfold readMetaAircraft
  cases hs : st.data.lookup id with
  | none =>
    simp only [metaAircraft, hs]
    split_ifs with hj
    · rw [hj, hs]; rfl
    · rfl
  | some s' =>
    cases hc : s.config with
    | none =>
      simp only [metaAircraft, hs, hc, Option.map_none]
      split_ifs with hj
      · rw [hj, hs]; rfl
      · rfl
    | some config =>
      simp only [metaAircraft, hs, hc, Option.map_some]
      rw [lookup_modifySeries, series_of_lookup hs]
      rfl

theorem lookup_foldl_readMeta (l : List MetaAircraft) (hnd : (l.map MetaAircraft.id).Nodup)
    (hl : ∀ entry ∈ l, entry = metaAircraft entry.id (store.series entry.id))
    (st : TimeSeriesStore) (j : AircraftId) :
    (l.foldl readMetaAircraft st).data.lookup j =
      if j ∈ l.map MetaAircraft.id then
        (st.data.lookup j).map (withSummary (store.series j).config)
      else st.data.lookup j := by
  induction l generalizing st with
  | nil => rfl
  | cons entry l ih =>
    rw [List.map_cons, List.nodup_cons] at hnd
    rw [List.foldl_cons, ih hnd.2 (fun e he => hl e (List.mem_cons_of_mem _ he)),
      hl entry (by simp), lookup_readMetaAircraft]
    by_cases hj : j = entry.id
    · have hno : j ∉ l.map MetaAircraft.id := hj ▸ hnd.1
      rw [if_neg hno, if_pos hj, if_pos (by simp [hj, metaAircraft]), ← hj]
    · simp [hj, metaAircraft]

/-- The summary has one entry for each aircraft. -/
theorem lookup_readMeta_saved (st : TimeSeriesStore) (j : AircraftId) :
    (st.readMeta (store.saveToDisk order)).data.lookup j =
      if j ∈ store.data.keys then (st.data.lookup j).map (withSummary (store.series j).config)
      else st.data.lookup j := by
  have hperm : (store.writeMeta.aircrafts).Perm
      ((toPairs store.data).map fun entry => metaAircraft entry.1 entry.2) :=
    List.perm_insertionSort _ _
  have hids : ((toPairs store.data).map fun entry => metaAircraft entry.1 entry.2).map
      MetaAircraft.id = store.data.keys := by
    rw [List.map_map, ← keys_toPairs]
    rfl
  have hmem : ∀ entry ∈ store.writeMeta.aircrafts,
      entry = metaAircraft entry.id (store.series entry.id) := by
    intro entry he
    obtain ⟨⟨id, s⟩, hs, rfl⟩ := List.mem_map.mp (hperm.mem_iff.mp he)
    rw [← series_of_lookup (mem_toPairs.mp hs)]
    rfl
  have hnd : (store.writeMeta.aircrafts.map MetaAircraft.id).Nodup :=
    (hperm.map MetaAircraft.id).nodup_iff.mpr (hids ▸ store.data.keys_nodup)
  have hkeys : j ∈ store.writeMeta.aircrafts.map MetaAircraft.id ↔ j ∈ store.data.keys := by
    rw [(hperm.map MetaAircraft.id).mem_iff, hids]
  unfold readMeta
  simp only [saveToDisk]
  rw [lookup_foldl_readMeta _ hnd hmem]
  simp only [hkeys]

/-- States and events, read one after the other. -/
theorem tableSeries_tables (states : Timeline Secs AircraftState) (events : Timeline Secs Event) :
    tableSeries events.entries (fun t => { t with
        config := ((lastSpawn events.entries).map AircraftConfig.ofSpawn).or t.config
        events := events.entries.foldl .append t.events })
      (tableSeries states.entries (fun t => { t with
        states := states.entries.foldl .append t.states }) none) =
      if states.entries ≠ [] ∨ events.entries ≠ [] then
        some { states, events, config := (lastSpawn events.entries).map AircraftConfig.ofSpawn }
      else none := by
  unfold tableSeries
  by_cases he : events.entries = []
  · have hlast : lastSpawn events.entries = none := by rw [he]; rfl
    by_cases hs : states.entries = []
    · simp [he, hs]
    · have hor : states.entries ≠ [] ∨ events.entries ≠ [] := .inl hs
      rw [if_pos he, if_neg hs, if_pos hor, hlast, eq_empty_of_entries he]
      simp only [Option.getD_none, Timeline.replay_entries]
      rfl
  · have hor : states.entries ≠ [] ∨ events.entries ≠ [] := .inr he
    rw [if_neg he, if_pos hor]
    by_cases hs : states.entries = []
    · rw [if_pos hs, eq_empty_of_entries hs]
      simp only [Option.getD_none, Timeline.replay_entries, Option.or_none]
    · rw [if_neg hs]
      simp only [Option.getD_none, Option.getD_some, Timeline.replay_entries, Option.or_none]

/-- States and events of a recorded series, read one after the other. -/
theorem tableSeries_recorded {s : AircraftTimeSeries} (h : Recorded s) :
    tableSeries s.events.entries (fun t => { t with
        config := ((lastSpawn s.events.entries).map AircraftConfig.ofSpawn).or t.config
        events := s.events.entries.foldl .append t.events })
      (tableSeries s.states.entries (fun t => { t with
        states := s.states.entries.foldl .append t.states }) none) =
      some { rebuilt s with telemetry := .empty } := by
  rw [tableSeries_tables, if_pos h.nonempty]
  rfl

variable {order}

theorem fits_rebuilt {s : AircraftTimeSeries} :
    Fits s.telemetry.entries (rebuilt s) ↔ ∀ e ∈ s.telemetry.entries,
      validateTelemetryFrame (lastSpawnSchemas s) e.item = .ok () := by
  unfold Fits
  rw [schemas_rebuilt]

/-- The two tables that cannot fail. -/
theorem readStatesEvents_saved (order : SaveOrder store) (h : store.AllRecorded) :
    ∃ st₁ st₂, ({} : TimeSeriesStore).readStatesParquet (store.saveToDisk order) = .ok st₁ ∧
      st₁.readEventsParquet (store.saveToDisk order) = .ok st₂ ∧
      ∀ j, st₂.data.lookup j =
        (store.data.lookup j).map fun s => { rebuilt s with telemetry := .empty } := by
  obtain ⟨st₁, hread₁, hst₁⟩ := readStates_saved order
  obtain ⟨st₂, hread₂, hst₂⟩ := readEvents_saved order st₁
  refine ⟨st₁, st₂, hread₁, hread₂, fun j => ?_⟩
  rw [hst₂, hst₁]
  cases hs : store.data.lookup j with
  | none =>
    rw [series_of_notMem (notMem_keys_iff.mpr hs)]
    rfl
  | some s =>
    rw [series_of_lookup hs]
    exact tableSeries_recorded (h j s hs)

/-- **Loading what was saved**, when the frames fit what the last `Spawn` in time order declares. -/
theorem loadFromDisk_saved (order : SaveOrder store) (h : store.AllRecorded)
    (hfit : ∀ id s, store.data.lookup id = some s → Fits s.telemetry.entries (rebuilt s))
    (into : TimeSeriesStore) : ∃ loaded,
    into.loadFromDisk (store.saveToDisk order) = .ok loaded ∧
      ∀ id, loaded.data.lookup id =
        (store.data.lookup id).map fun s => withSummary s.config (rebuilt s) := by
  obtain ⟨st₁, st₂, hread₁, hread₂, hst₂⟩ := readStatesEvents_saved order h
  have hfit₂ : ∀ id ∈ store.data.keys,
      Fits (store.series id).telemetry.entries (st₂.series id) := by
    intro id hid
    obtain ⟨s, hs⟩ := mem_keys_iff.mp hid
    have hser : st₂.series id = { rebuilt s with telemetry := .empty } :=
      series_of_lookup (by rw [hst₂, hs]; rfl)
    rw [hser, series_of_lookup hs]
    exact hfit id s hs
  obtain ⟨st₃, hread₃, hst₃⟩ := readTelemetry_saved order hfit₂
  refine ⟨into.replaceFrom (st₃.readMeta (store.saveToDisk order)), ?_, fun id => ?_⟩
  · unfold loadFromDisk
    rw [hread₁]
    simp only [bind, Except.bind]
    rw [hread₂]
    simp only
    rw [hread₃]
  · unfold replaceFrom
    simp only
    rw [lookup_readMeta_saved, hst₃, hst₂]
    cases hs : store.data.lookup id with
    | none =>
      rw [series_of_notMem (notMem_keys_iff.mpr hs), if_neg (notMem_keys_iff.mpr hs)]
      rfl
    | some s =>
      rw [series_of_lookup hs, if_pos (mem_keys_iff.mpr ⟨s, hs⟩), Option.map_some]
      have hframes : tableSeries s.telemetry.entries (fun t => { t with
          telemetry := s.telemetry.entries.foldl .append t.telemetry })
          (some { rebuilt s with telemetry := .empty }) = some (rebuilt s) := by
        unfold tableSeries
        split_ifs with hl
        · unfold rebuilt
          rw [← eq_empty_of_entries hl]
        · simp only [Option.getD_some, Timeline.replay_entries]
          rfl
      rw [hframes]
      rfl

/-- Frames that do not fit make the whole session unreadable. -/
theorem loadFromDisk_error (order : SaveOrder store) (h : store.AllRecorded) {id : AircraftId}
    {s : AircraftTimeSeries} (hs : store.data.lookup id = some s)
    (hfit : ¬Fits s.telemetry.entries (rebuilt s)) (into : TimeSeriesStore) :
    ∃ e, into.loadFromDisk (store.saveToDisk order) = .error e := by
  obtain ⟨st₁, st₂, hread₁, hread₂, hst₂⟩ := readStatesEvents_saved order h
  have hid : id ∈ store.data.keys := mem_keys_iff.mpr ⟨s, hs⟩
  have hser : st₂.series id = { rebuilt s with telemetry := .empty } :=
    series_of_lookup (by rw [hst₂, hs]; rfl)
  have hfit₂ : ¬Fits (store.series id).telemetry.entries (st₂.series id) := by
    rw [hser, series_of_lookup hs]
    exact hfit
  obtain ⟨e, he⟩ := readTelemetry_error order hid hfit₂
  refine ⟨e, ?_⟩
  unfold loadFromDisk
  rw [hread₁]
  simp only [bind, Except.bind]
  rw [hread₂]
  simp only
  rw [he]

end Load

/-! ## The round trip -/

/-- `loaded` has the aircraft of `store`, each with the same states, events, frames and
configuration. -/
def SameContents (loaded store : TimeSeriesStore) : Prop :=
  ∀ id, loaded.data.lookup id = store.data.lookup id

/-- A rebuilt series is the original exactly when it is registered with the schemas of the last
`Spawn` in time order. -/
theorem withSummary_rebuilt {s : AircraftTimeSeries} (h : Recorded s) :
    withSummary s.config (rebuilt s) = s ↔ schemas s = lastSpawnSchemas s := by
  have hschemas := schemas_rebuilt s
  cases hc : s.config with
  | none =>
    -- without a configuration there is no `Spawn`, and both sides hold
    have hnone : lastSpawn s.events.entries = none := by
      unfold lastSpawn
      rw [List.getLast?_eq_none_iff, List.filterMap_eq_nil_iff]
      intro e he
      by_contra hsome
      have := h.config_iff.mpr ⟨e, he, Option.isSome_iff_ne_none.mpr hsome⟩
      rw [hc] at this
      cases this
    refine iff_of_true ?_ ?_
    · unfold withSummary rebuilt
      simp only
      rw [hnone, Option.map_none, ← hc]
    · unfold schemas lastSpawnSchemas
      rw [hc, hnone]
      rfl
  | some config =>
    have hold : schemas s = config.telemetrySchemas := by unfold schemas; rw [hc]
    rw [hold]
    unfold withSummary
    simp only
    rw [hschemas]
    constructor
    · intro heq
      have := congrArg AircraftTimeSeries.config heq
      rw [hc] at this
      exact (congrArg AircraftConfig.telemetrySchemas (Option.some.inj this)).symm
    · intro heq
      unfold rebuilt
      rw [← heq, ← hc]

/-- **Saving and loading gives the session back exactly when every series is `Replayable`**, for
every history of messages. -/
theorem load_save_iff (msgs : List (Instant × Message)) (order : SaveOrder (received msgs))
    (into : TimeSeriesStore) :
    (∃ loaded, into.loadFromDisk ((received msgs).saveToDisk order) = .ok loaded ∧
      SameContents loaded (received msgs)) ↔
    ∀ id s, (received msgs).data.lookup id = some s → Replayable s := by
  have hrec : (received msgs).AllRecorded := allRecorded_received msgs
  generalize received msgs = store at order hrec ⊢
  constructor
  · rintro ⟨loaded, hload, hsame⟩ id s hs
    have hfit : ∀ id s, store.data.lookup id = some s → Fits s.telemetry.entries (rebuilt s) := by
      intro id s hs
      by_contra hfit
      obtain ⟨e, he⟩ := loadFromDisk_error order hrec hs hfit into
      rw [hload] at he
      cases he
    obtain ⟨loaded', hload', hloaded'⟩ := loadFromDisk_saved order hrec hfit into
    rw [hload] at hload'
    cases hload'
    have hser : some (withSummary s.config (rebuilt s)) = some s := by
      have := hloaded' id
      rwa [hsame, hs, Option.map_some, eq_comm] at this
    exact ⟨(withSummary_rebuilt (hrec id s hs)).mp (Option.some.inj hser),
      fits_rebuilt.mp (hfit id s hs)⟩
  · intro hrep
    obtain ⟨loaded, hload, hloaded⟩ := loadFromDisk_saved order hrec
      (fun id s hs => fits_rebuilt.mpr (hrep id s hs).frames_ok) into
    refine ⟨loaded, hload, fun id => ?_⟩
    rw [hloaded]
    cases hs : store.data.lookup id with
    | none => rfl
    | some s =>
      rw [Option.map_some, (withSummary_rebuilt (hrec id s hs)).mpr (hrep id s hs).schemas_eq]

/-- A request of a producer about the aircraft `01`. -/
def aircraftRequest (timestamp : Secs) (kind : AircraftCommandInfo.Kind) : Message :=
  ⟨some (.request ⟨none, .finite timestamp,
    some ⟨some (.aircraftEvent ⟨some ⟨[1]⟩, some ⟨some kind⟩⟩)⟩⟩)⟩

/-- A stream with one number. -/
def oneFieldSchema (streamId : String) : TelemetryStreamSchema :=
  { streamId := streamId, fields := [{ fieldId := "x", valueType := 1 }] }

/-- An aircraft is spawned with a stream `a`, sends a frame of it, and is spawned again with a
stream `b`. -/
def respawnMessages : List (Instant × Message) :=
  [(0, aircraftRequest 1 (.spawn { telemetrySchemas := [oneFieldSchema "a"] })),
    (0, aircraftRequest 2 (.telemetryFrame ⟨"a", 1, [⟨some (.f64Value (.finite 7))⟩]⟩)),
    (0, aircraftRequest 3 (.spawn { telemetrySchemas := [oneFieldSchema "b"] }))]

/-- **A session saved after a re-spawn with another schema cannot be loaded.** -/
theorem load_save_respawn : ¬∃ loaded, ({} : TimeSeriesStore).loadFromDisk
    ((received respawnMessages).saveToDisk (SaveOrder.ofKeys _)) = .ok loaded ∧
      SameContents loaded (received respawnMessages) := by
  rintro ⟨loaded, hload, -⟩
  have herr : ({} : TimeSeriesStore).loadFromDisk
      ((received respawnMessages).saveToDisk (SaveOrder.ofKeys _)) =
        .error (.invalidData "unknown telemetry stream: a") := by decide
  rw [herr] at hload
  cases hload

end TimeSeriesStore

end FlyRuler.Store
