import FlyRuler.Store.Interrupted

/-!
# When sessions of different saves are never mixed

A save of a store with an aircraft is mixed up in any case: the summary alone loads as an empty
store.  A save of a store without one empties the files of the old session one by one, from the
summary to the frames, and what is left then shows the old store, or nothing, or does not load.

* `neverMixed_iff`: the stores for which that is always so.
-/

namespace FlyRuler.Store

open FlyRuler.Pb FlyRuler.Lib.Faults FlyRuler.Lib.Keyed FlyRuler.Lib.TimeOrder

namespace TimeSeriesStore

/-! ## Stores that survive an empty save -/

/-- Every frame fits what the last `Spawn` of its aircraft, in time order, declares. -/
def FramesFit (store : TimeSeriesStore) : Prop :=
  ∀ id, ∀ e ∈ (store.series id).telemetry.entries,
    validateTelemetryFrame (lastSpawnSchemas (store.series id)) e.item = .ok ()

/-- No aircraft has an entry. -/
structure NothingStored (store : TimeSeriesStore) : Prop where
  states : ∀ id, (store.series id).states.entries = []
  events : ∀ id, (store.series id).events.entries = []
  telemetry : ∀ id, (store.series id).telemetry.entries = []

/-- There is no state, and every aircraft has an event and the configuration of its last `Spawn`. -/
structure OnlyEvents (store : TimeSeriesStore) : Prop where
  states : ∀ id, (store.series id).states.entries = []
  config : ∀ id s, store.data.lookup id = some s →
    s.events.entries ≠ [] ∧ s.config = (lastSpawn s.events.entries).map AircraftConfig.ofSpawn

/-- There is no event and no frame, and every aircraft has a state and no configuration. -/
structure OnlyStates (store : TimeSeriesStore) : Prop where
  events : ∀ id, (store.series id).events.entries = []
  telemetry : ∀ id, (store.series id).telemetry.entries = []
  config : ∀ id s, store.data.lookup id = some s → s.states.entries ≠ [] ∧ s.config = none

/-- A store without aircraft. -/
def NoAircraft (store : TimeSeriesStore) : Prop := ∀ id, store.data.lookup id = none

section

variable {old new : TimeSeriesStore} {src : Sources}

theorem NoAircraft.series (h : new.NoAircraft) (id : AircraftId) : new.series id = {} :=
  series_of_notMem (notMem_keys_iff.mpr (h id))

/-- Four files show a store without aircraft iff the three tables are empty. -/
theorem NoAircraft.shows_iff (h : new.NoAircraft) :
    src.Shows new ↔ ∀ id, (src.states.series id).states.entries = [] ∧
      (src.events.series id).events.entries = [] ∧
      (src.telemetry.series id).telemetry.entries = [] := by
  constructor
  · intro hshows id
    rw [hshows.states, hshows.events, hshows.telemetry, h.series]
    exact ⟨rfl, rfl, rfl⟩
  · intro hempty
    refine ⟨fun id => ?_, fun id => ?_, fun id => ?_, fun id s hs => ?_⟩
    · rw [h.series]
      exact eq_empty_of_entries (hempty id).1
    · rw [h.series]
      exact eq_empty_of_entries (hempty id).2.1
    · rw [h.series]
      exact eq_empty_of_entries (hempty id).2.2
    · rw [h id] at hs
      cases hs

/-- Events and frames of one store fit iff its frames do. -/
theorem fit_iff (hevents : src.events = old) (htelemetry : src.telemetry = old) :
    src.Fit ↔ old.FramesFit := by
  unfold Sources.Fit FramesFit Fits
  refine forall_congr' fun id => ?_
  have hschemas : schemas (src.series id) = lastSpawnSchemas (old.series id) := by
    rw [← schemas_rebuilt]
    unfold schemas rebuilt Sources.series
    rw [hevents]
  rw [hschemas, htelemetry]

/-- A summary that says nothing, or what is known, leaves a configuration. -/
theorem withSummary_config {summary : Option AircraftConfig} {s : AircraftTimeSeries}
    (h : summary = none ∨ summary = s.config) : (withSummary summary s).config = s.config := by
  rcases h with rfl | rfl
  · rfl
  · unfold withSummary
    rcases hconfig : s.config with _ | config
    · exact hconfig
    · dsimp only
      unfold schemas
      rw [hconfig]

/-- Events and frames of such a store show it, with its summary or none. -/
theorem OnlyEvents.shows (h : old.OnlyEvents) (hsrc : src.events = old ∧ src.telemetry = old)
    (hstates : ∀ id, (src.states.series id).states.entries = [])
    (hsummary : ∀ id, (src.summary.series id).config = none ∨ src.summary = old) :
    src.Shows old := by
  obtain ⟨hevents, htelemetry⟩ := hsrc
  refine ⟨fun id => ?_, fun id => by rw [hevents], fun id => by rw [htelemetry], fun id s hs => ?_⟩
  · rw [eq_empty_of_entries (hstates id), eq_empty_of_entries (h.states id)]
  · obtain ⟨hne, hconfig⟩ := h.config id s hs
    have hseries : (src.series id).config = s.config := by
      rw [hconfig, Sources.series, hevents, series_of_lookup hs]
    refine ⟨.inr (by rw [hevents, series_of_lookup hs]; exact hne), ?_⟩
    rw [withSummary_config, hseries]
    refine (hsummary id).imp_right fun hsame => ?_
    rw [hsame, hseries, series_of_lookup hs]

/-- So do states, events and frames. -/
theorem OnlyStates.shows (h : old.OnlyStates)
    (hsrc : src.states = old ∧ src.events = old ∧ src.telemetry = old)
    (hsummary : ∀ id, (src.summary.series id).config = none ∨ src.summary = old) :
    src.Shows old := by
  obtain ⟨hstates, hevents, htelemetry⟩ := hsrc
  refine ⟨fun id => by rw [hstates], fun id => by rw [hevents], fun id => by rw [htelemetry],
    fun id s hs => ?_⟩
  obtain ⟨hne, hconfig⟩ := h.config id s hs
  have hseries : (src.series id).config = none := by
    rw [Sources.series, hevents, h.events]
    rfl
  refine ⟨.inl (by rw [hstates, series_of_lookup hs]; exact hne), ?_⟩
  rw [withSummary_config, hseries, hconfig]
  refine (hsummary id).imp_right fun hsame => ?_
  rw [hsame, hseries, series_of_lookup hs, hconfig]

/-- **Missing files** are noticed iff there is nothing to miss: the summary alone loads. -/
theorem only_iff (store : TimeSeriesStore) :
    (∀ summary states events telemetry : Bool,
      ¬(summary = true ∧ states = true ∧ events = true ∧ telemetry = true) →
      (Sources.only store summary states events telemetry).Fit →
      (Sources.only store summary states events telemetry).Shows store) ↔ store.NoAircraft := by
  constructor
  · intro h id
    by_contra hsome
    obtain ⟨s, hs⟩ := Option.ne_none_iff_exists'.mp hsome
    have hshows := h true false false false (by simp) fun id e he => by cases he
    rcases (hshows.config id s hs).1 with hstates | hevents
    · exact hstates rfl
    · exact hevents rfl
  · intro hnew summary states events telemetry _ _
    have hseries : ∀ present : Bool, ∀ id, (bif present then store else {}).series id = {} := by
      rintro (_ | _) id
      · rfl
      · exact hnew.series id
    refine hnew.shows_iff.mpr fun id => ⟨?_, ?_, ?_⟩
    · exact congrArg (fun s => s.states.entries) (hseries states id)
    · exact congrArg (fun s => s.events.entries) (hseries events id)
    · exact congrArg (fun s => s.telemetry.entries) (hseries telemetry id)

theorem NoAircraft.entries (h : new.NoAircraft) (id : AircraftId) :
    (new.series id).states.entries = [] ∧ (new.series id).events.entries = [] ∧
      (new.series id).telemetry.entries = [] := by
  rw [h.series]
  exact ⟨rfl, rfl, rfl⟩

theorem NoAircraft.config (h : new.NoAircraft) (id : AircraftId) :
    (new.series id).config = none := by
  rw [h.series]

/-- The events and frames show the old store, which has no states then. -/
theorem NoAircraft.onlyEvents (h : new.NoAircraft) (hold : (Sources.cut old new 2).Shows old) :
    old.OnlyEvents := by
  refine ⟨fun id => ?_, fun id s hs => ?_⟩
  · rw [← hold.states]
    exact (h.entries id).1
  · obtain ⟨hentries, hconfig⟩ := hold.config id s hs
    rw [← series_of_lookup hs]
    refine ⟨hentries.resolve_left (not_not.mpr (h.entries id).1), ?_⟩
    rw [series_of_lookup hs, ← hconfig]
    show (withSummary (new.series id).config _).config = _
    rw [h.config, ← series_of_lookup hs]
    rfl

/-- The states show the old store, which has no events and frames. -/
theorem NoAircraft.onlyStates (h : new.NoAircraft) (hold : (Sources.cut old new 1).Shows old)
    (hevents : ∀ id, (old.series id).events.entries = [])
    (htelemetry : ∀ id, (old.series id).telemetry.entries = []) : old.OnlyStates := by
  refine ⟨hevents, htelemetry, fun id s hs => ?_⟩
  obtain ⟨hentries, hconfig⟩ := hold.config id s hs
  refine ⟨series_of_lookup hs ▸ hentries.resolve_right (not_not.mpr (hevents id)), ?_⟩
  rw [← hconfig]
  show (withSummary (new.series id).config _).config = _
  rw [h.config]
  show (lastSpawn (old.series id).events.entries).map _ = none
  rw [hevents]
  rfl

/-- Up to the events, what is left of such a store shows it or nothing. -/
theorem NoAircraft.shows_cut (h : new.NoAircraft)
    (hold : old.NothingStored ∨ old.OnlyEvents ∨ old.OnlyStates) {k : ℕ} (hk : k ≤ 2) :
    (Sources.cut old new k).Shows old ∨ (Sources.cut old new k).Shows new := by
  have hsummary : ∀ id, (new.series id).config = none ∨ new = old := fun id => .inl (h.config id)
  rcases k with _ | _ | _ | k
  · -- all files are left
    rcases hold with hold | hold | hold
    · exact .inr (h.shows_iff.mpr fun id => ⟨hold.states id, hold.events id, hold.telemetry id⟩)
    · exact .inl (hold.shows ⟨rfl, rfl⟩ hold.states fun _ => .inr rfl)
    · exact .inl (hold.shows ⟨rfl, rfl, rfl⟩ fun _ => .inr rfl)
  · -- the tables
    rcases hold with hold | hold | hold
    · exact .inr (h.shows_iff.mpr fun id => ⟨hold.states id, hold.events id, hold.telemetry id⟩)
    · exact .inl (hold.shows ⟨rfl, rfl⟩ hold.states hsummary)
    · exact .inl (hold.shows ⟨rfl, rfl, rfl⟩ hsummary)
  · -- the events and the frames
    rcases hold with hold | hold | hold
    · exact .inr (h.shows_iff.mpr fun id => ⟨(h.entries id).1, hold.events id, hold.telemetry id⟩)
    · exact .inl (hold.shows ⟨rfl, rfl⟩ (fun id => (h.entries id).1) hsummary)
    · exact .inr (h.shows_iff.mpr fun id => ⟨(h.entries id).1, hold.events id, hold.telemetry id⟩)
  · omega

/-- A save of a store without aircraft, cut off: the files of the old session that are left. -/
theorem cut_iff (hnew : new.NoAircraft) :
    (∀ k ≤ 4, (Sources.cut old new k).Fit →
      (Sources.cut old new k).Shows old ∨ (Sources.cut old new k).Shows new) ↔
    ¬old.FramesFit ∨ old.NothingStored ∨ old.OnlyEvents ∨ old.OnlyStates := by
  constructor
  · intro h
    by_cases hfit : old.FramesFit
    · refine .inr ?_
      -- only events and frames are left
      rcases h 2 (by omega) ((fit_iff rfl rfl).mpr hfit) with hold | hempty
      · exact .inr (.inl (hnew.onlyEvents hold))
      · have htables := hnew.shows_iff.mp hempty
        -- the states are left as well
        rcases h 1 (by omega) ((fit_iff rfl rfl).mpr hfit) with hold | hall
        · exact .inr (.inr (hnew.onlyStates hold (fun id => (htables id).2.1)
            fun id => (htables id).2.2))
        · exact .inl ⟨fun id => (hnew.shows_iff.mp hall id).1, fun id => (htables id).2.1,
            fun id => (htables id).2.2⟩
    · exact .inl hfit
  · intro h k hk hfit
    rcases k with _ | _ | _ | _ | _ | k
    · exact hnew.shows_cut (h.resolve_left (not_not.mpr ((fit_iff rfl rfl).mp hfit))) (by omega)
    · exact hnew.shows_cut (h.resolve_left (not_not.mpr ((fit_iff rfl rfl).mp hfit))) (by omega)
    · exact hnew.shows_cut (h.resolve_left (not_not.mpr ((fit_iff rfl rfl).mp hfit))) (by omega)
    · -- only frames are left: none of them fits
      refine .inr (hnew.shows_iff.mpr fun id => ⟨(hnew.entries id).1, (hnew.entries id).2.1, ?_⟩)
      refine fits_nil_schemas (hfit id) ?_
      show schemas (Sources.series ⟨new, new, new, old⟩ id) = []
      unfold schemas Sources.series
      dsimp only
      rw [(hnew.entries id).2.1]
      rfl
    · exact .inr (hnew.shows_iff.mpr hnew.entries)
    · omega

/-- **When nothing is mixed**: the new store has no aircraft, and the old one has a frame that does
not fit, or nothing at all, or no state and what its events say, or states only. -/
theorem neverMixed_iff (old new : TimeSeriesStore) :
    NeverMixed old new ↔ new.NoAircraft ∧
      (¬old.FramesFit ∨ old.NothingStored ∨ old.OnlyEvents ∨ old.OnlyStates) := by
  rw [neverMixed_iff_cuts, only_iff, and_comm]
  exact and_congr_right fun hnew => cut_iff hnew

end

/-- One aircraft under a name. -/
def namedStore (name : String) : TimeSeriesStore :=
  received [(0, aircraftRequest 1 (.spawn { name := name }))]

def namedRoot (name : String) : DataRoot :=
  (∅ : DataRoot).insert "flight" (.dir (sessionFiles (.ofKeys (namedStore name))))

/-- A save of nothing over a session with one spawned aircraft. -/
theorem neverMixed_iff_spawned : NeverMixed (namedStore "A320") {} := by
  have hdata : (namedStore "A320").data = (∅ : Table AircraftId AircraftTimeSeries).insert "01"
      ((namedStore "A320").series "01") := AList.ext (by decide +kernel)
  have hlookup : ∀ id s, (namedStore "A320").data.lookup id = some s →
      s = (namedStore "A320").series "01" := fun id s hs => by
    rw [hdata, lookup_insert] at hs
    split_ifs at hs
    · exact (Option.some.inj hs).symm
    · cases hs
  refine (neverMixed_iff _ _).mpr ⟨fun _ => rfl, .inr (.inr (.inl ⟨fun id => ?_, ?_⟩))⟩
  · unfold series
    rcases hs : (namedStore "A320").data.lookup id with _ | s
    · rfl
    · rw [hlookup id s hs]
      decide +kernel
  · intro id s hs
    rw [hlookup id s hs]
    decide +kernel

/-- **A summary of one save and tables of another**: a crash after the first file. -/
theorem not_neverMixed_renamed : ¬∀ old new : TimeSeriesStore, NeverMixed old new := by
  intro h
  have hroot : (namedRoot "A320").lookup "flight" =
      some (.dir (sessionFiles (.ofKeys (namedStore "A320")))) := Finmap.lookup_insert _
  have hleft : ((saveTo (.ofKeys (namedStore "B737")) id "flight").run disk
      (fun site => if site = .states then .crashes else .works)
      (namedRoot "A320")).state.lookup "flight" =
        some (.dir (cutFiles (sessionFiles (.ofKeys (namedStore "A320")))
          (.ofKeys (namedStore "B737")) 1)) := by decide +kernel
  have hloads := (h (namedStore "A320") (namedStore "B737")).interrupted (.ofKeys _) (.ofKeys _) _
    _ _ _ _ _ hroot (fun _ _ => rfl) (exec_run _ _ _ _) hleft {}
  have hok : (({} : TimeSeriesStore).loadSession (cutFiles (sessionFiles (.ofKeys
      (namedStore "A320"))) (.ofKeys (namedStore "B737")) 1)).2 = .ok () := by decide +kernel
  rcases hloads with ⟨error, herror⟩ | ⟨-, hold | hnew⟩
  · rw [herror] at hok
    cases hok
  · have hlookup := hold "01"
    revert hlookup
    decide +kernel
  · have hlookup := hnew "01"
    revert hlookup
    decide +kernel

end TimeSeriesStore

end FlyRuler.Store
