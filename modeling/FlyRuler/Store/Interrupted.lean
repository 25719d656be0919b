import FlyRuler.Store.Disk
import FlyRuler.Store.RoundTrip

/-!
# Sessions whose files are of different saves

A direct `save_to_disk` into a directory that holds a session replaces its four files one by one,
and `load_from_disk` takes every file that is there and skips the others.  What is loaded is thus
put together from up to four stores (`Sources`).

* `loadSession_readsAs`: what is loaded, table by table.
* `shown_eq_iff`: when that is a given store.
* `exec_saveTo_over`: what an interrupted save leaves of the files.
-/

namespace FlyRuler.Store

open FlyRuler.Pb FlyRuler.Lib.Faults FlyRuler.Lib.Keyed FlyRuler.Lib.TimeOrder

namespace TimeSeriesStore

/-! ## Loading a directory -/

/-- The rows of a table file; anything else in it is an error. -/
def tableRows : Option Content → Except StoreError (Option (List Row))
  | none => .ok none
  | some (.rows rows) => .ok (some rows)
  | some _ => .error .decode

def tableEventRows : Option Content → Except StoreError (Option (List EventRow))
  | none => .ok none
  | some (.eventRows rows) => .ok (some rows)
  | some _ => .error .decode

def summaryFile : Option Content → Except StoreError (Option MetaFile)
  | none => .ok none
  | some (.summary file) => .ok (some file)
  | some _ => .error .decode

/-- `load_from_disk`, from the files of a directory. -/
def loadFromDirectory (store : TimeSeriesStore) (files : Directory) :
    Except StoreError TimeSeriesStore := do
  let states ← tableRows (files.lookup "states.parquet")
  let loaded ← ({} : TimeSeriesStore).readStatesParquet { states }
  let events ← tableEventRows (files.lookup "events.parquet")
  let loaded ← loaded.readEventsParquet { events }
  let telemetry ← tableRows (files.lookup "telemetry.parquet")
  let loaded ← loaded.readTelemetryParquet { telemetry }
  let metaFile ← summaryFile (files.lookup "meta.json")
  .ok (store.replaceFrom (loaded.readMeta { metaFile }))

/-- The store's side of `load_session`: the live store is replaced only at the end. -/
def loadSession (live : TimeSeriesStore) (files : Directory) :
    TimeSeriesStore × Except StoreError Unit :=
  match ({} : TimeSeriesStore).loadFromDirectory files with
  | .ok loaded => (live.replaceFrom loaded, .ok ())
  | .error error => (live, .error error)

/-! ## Four stores -/

/-- The stores whose files a directory holds; a file that is not there is that of an empty store. -/
structure Sources where
  summary : TimeSeriesStore
  states : TimeSeriesStore
  events : TimeSeriesStore
  telemetry : TimeSeriesStore

namespace Sources

variable (src : Sources)

/-- The series of the three tables. -/
def series (id : AircraftId) : AircraftTimeSeries where
  states := (src.states.series id).states
  events := (src.events.series id).events
  telemetry := (src.telemetry.series id).telemetry
  config := (lastSpawn (src.events.series id).events.entries).map AircraftConfig.ofSpawn

def HasEntries (id : AircraftId) : Prop :=
  (src.states.series id).states.entries ≠ [] ∨ (src.events.series id).events.entries ≠ []

instance (id : AircraftId) : Decidable (src.HasEntries id) := by unfold HasEntries; infer_instance

/-- **The frames fit** what the last `Spawn` of the table of events declares. -/
def Fit : Prop := ∀ id, Fits (src.telemetry.series id).telemetry.entries (src.series id)

/-- What is loaded of an aircraft. -/
def shown (id : AircraftId) : Option AircraftTimeSeries :=
  if src.HasEntries id then some (withSummary (src.summary.series id).config (src.series id))
  else none

/-- **The four files agree with a store**: the tables are its tables, and of each of its aircraft
there is an entry, and the same configuration from summary and events. -/
structure Shows (store : TimeSeriesStore) : Prop where
  states : ∀ id, (src.states.series id).states = (store.series id).states
  events : ∀ id, (src.events.series id).events = (store.series id).events
  telemetry : ∀ id, (src.telemetry.series id).telemetry = (store.series id).telemetry
  config : ∀ id s, store.data.lookup id = some s → src.HasEntries id ∧
    (withSummary (src.summary.series id).config (src.series id)).config = s.config

end Sources

/-- The directory holds the files of these stores. -/
structure ReadsAs (files : Directory) (src : Sources) : Prop where
  summary : files.lookup "meta.json" = some (.summary src.summary.writeMeta) ∨
    files.lookup "meta.json" = none ∧ src.summary = {}
  states : (∃ order : SaveOrder src.states, files.lookup "states.parquet" =
      some (.rows (order.states.flatMap src.states.stateRows))) ∨
    files.lookup "states.parquet" = none ∧ src.states = {}
  events : (∃ order : SaveOrder src.events, files.lookup "events.parquet" =
      some (.eventRows (order.events.flatMap src.events.eventRows))) ∨
    files.lookup "events.parquet" = none ∧ src.events = {}
  telemetry : (∃ order : SaveOrder src.telemetry, files.lookup "telemetry.parquet" =
      some (.rows (order.telemetry.flatMap src.telemetry.telemetryRows))) ∨
    files.lookup "telemetry.parquet" = none ∧ src.telemetry = {}

/-! ## What is loaded -/

variable {files : Directory} {src : Sources}

theorem withSummary_states (config : Option AircraftConfig) (s : AircraftTimeSeries) :
    (withSummary config s).states = s.states ∧ (withSummary config s).events = s.events ∧
      (withSummary config s).telemetry = s.telemetry := by
  cases config <;> exact ⟨rfl, rfl, rfl⟩

theorem fits_nil_schemas {l : List TimestampedTelemetryFrame} {s : AircraftTimeSeries}
    (h : Fits l s) (hs : schemas s = []) : l = [] := by
  rcases l with _ | ⟨e, l⟩
  · rfl
  · have he := h e List.mem_cons_self
    rw [hs] at he
    exact absurd he (validate_no_schemas e.item)

/-- Without states and events there are no frames either. -/
theorem Sources.Fit.telemetry_empty (h : src.Fit) {id : AircraftId} (hno : ¬src.HasEntries id) :
    (src.telemetry.series id).telemetry = .empty := by
  have hevents : (src.events.series id).events.entries = [] := by
    by_contra hne
    exact hno (.inr hne)
  refine eq_empty_of_entries (fits_nil_schemas (h id) ?_)
  simp [schemas, Sources.series, hevents, lastSpawn]

/-- **When what is loaded is a given store.** -/
theorem shown_eq_iff (h : src.Fit) (store : TimeSeriesStore) :
    (∀ id, src.shown id = store.data.lookup id) ↔ src.Shows store := by
  have hempty : ∀ id, ¬src.HasEntries id → (src.states.series id).states = .empty ∧
      (src.events.series id).events = .empty := by
    intro id hno
    rw [Sources.HasEntries, not_or, not_not, not_not] at hno
    exact ⟨eq_empty_of_entries hno.1, eq_empty_of_entries hno.2⟩
  constructor
  · intro hshown
    have hall : ∀ id, (src.series id).states = (store.series id).states ∧
        (src.series id).events = (store.series id).events ∧
        (src.series id).telemetry = (store.series id).telemetry := by
      intro id
      have hid := hshown id
      unfold Sources.shown at hid
      split_ifs at hid with hentries
      · rw [series_of_lookup hid.symm]
        obtain ⟨hstates, hevents, htelemetry⟩ := withSummary_states
          (src.summary.series id).config (src.series id)
        exact ⟨hstates.symm, hevents.symm, htelemetry.symm⟩
      · rw [series_of_notMem (notMem_keys_iff.mpr hid.symm)]
        obtain ⟨hstates, hevents⟩ := hempty id hentries
        exact ⟨hstates, hevents, h.telemetry_empty hentries⟩
    refine ⟨fun id => (hall id).1, fun id => (hall id).2.1, fun id => (hall id).2.2, ?_⟩
    intro id s hs
    have hid := (hshown id).trans hs
    unfold Sources.shown at hid
    split_ifs at hid with hentries
    exact ⟨hentries, congrArg AircraftTimeSeries.config (Option.some.inj hid)⟩
  · intro hshows id
    unfold Sources.shown
    rcases hs : store.data.lookup id with _ | s
    · have hseries := series_of_notMem (notMem_keys_iff.mpr hs)
      have hstates := hshows.states id
      have hevents := hshows.events id
      rw [hseries] at hstates hevents
      rw [if_neg]
      rintro (hne | hne)
      · exact hne (by rw [hstates]; rfl)
      · exact hne (by rw [hevents]; rfl)
    · obtain ⟨hentries, hconfig⟩ := hshows.config id s hs
      rw [if_pos hentries]
      obtain ⟨hstates, hevents, htelemetry⟩ := withSummary_states
        (src.summary.series id).config (src.series id)
      have hseries := series_of_lookup hs
      have hstates' := hstates.trans (hshows.states id)
      have hevents' := hevents.trans (hshows.events id)
      have htelemetry' := htelemetry.trans (hshows.telemetry id)
      rw [hseries] at hstates' hevents' htelemetry'
      refine congrArg some ?_
      generalize withSummary (src.summary.series id).config (src.series id) = t at *
      cases t
      cases s
      rw [AircraftTimeSeries.mk.injEq]
      exact ⟨hstates', hevents', htelemetry', hconfig⟩

/-! ### The readers -/

theorem ReadsAs.readStates (h : ReadsAs files src) : ∃ (order : SaveOrder src.states)
    (states : Option (List Row)), tableRows (files.lookup "states.parquet") = .ok states ∧
      ∀ store : TimeSeriesStore, store.readStatesParquet { states } =
        store.readStatesParquet (src.states.saveToDisk order) := by
  rcases h.states with ⟨order, hfile⟩ | ⟨hfile, hsrc⟩
  · exact ⟨order, _, by rw [hfile]; rfl, fun _ => rfl⟩
  · rw [hsrc, hfile]
    exact ⟨.ofKeys {}, none, rfl, fun _ => rfl⟩

theorem ReadsAs.readEvents (h : ReadsAs files src) : ∃ (order : SaveOrder src.events)
    (events : Option (List EventRow)), tableEventRows (files.lookup "events.parquet") = .ok events ∧
      ∀ store : TimeSeriesStore, store.readEventsParquet { events } =
        store.readEventsParquet (src.events.saveToDisk order) := by
  rcases h.events with ⟨order, hfile⟩ | ⟨hfile, hsrc⟩
  · exact ⟨order, _, by rw [hfile]; rfl, fun _ => rfl⟩
  · rw [hsrc, hfile]
    exact ⟨.ofKeys {}, none, rfl, fun _ => rfl⟩

theorem ReadsAs.readTelemetry (h : ReadsAs files src) : ∃ (order : SaveOrder src.telemetry)
    (telemetry : Option (List Row)), tableRows (files.lookup "telemetry.parquet") = .ok telemetry ∧
      ∀ store : TimeSeriesStore, store.readTelemetryParquet { telemetry } =
        store.readTelemetryParquet (src.telemetry.saveToDisk order) := by
  rcases h.telemetry with ⟨order, hfile⟩ | ⟨hfile, hsrc⟩
  · exact ⟨order, _, by rw [hfile]; rfl, fun _ => rfl⟩
  · rw [hsrc, hfile]
    exact ⟨.ofKeys {}, none, rfl, fun _ => rfl⟩

theorem ReadsAs.readMeta (h : ReadsAs files src) : ∃ metaFile,
    summaryFile (files.lookup "meta.json") = .ok metaFile ∧
      ∀ store : TimeSeriesStore, store.readMeta { metaFile } =
        store.readMeta (src.summary.saveToDisk (.ofKeys src.summary)) := by
  rcases h.summary with hfile | ⟨hfile, hsrc⟩
  · exact ⟨_, by rw [hfile]; rfl, fun _ => rfl⟩
  · rw [hsrc, hfile]
    exact ⟨none, rfl, fun _ => rfl⟩

/-- The two tables that cannot fail. -/
theorem lookup_statesEvents (orderS : SaveOrder src.states) (orderE : SaveOrder src.events) :
    ∃ st₁ st₂, ({} : TimeSeriesStore).readStatesParquet (src.states.saveToDisk orderS) = .ok st₁ ∧
      st₁.readEventsParquet (src.events.saveToDisk orderE) = .ok st₂ ∧
      ∀ id, st₂.data.lookup id =
        if src.HasEntries id then some { src.series id with telemetry := .empty } else none := by
  obtain ⟨st₁, hread₁, hst₁⟩ := readStates_saved orderS
  obtain ⟨st₂, hread₂, hst₂⟩ := readEvents_saved orderE st₁
  refine ⟨st₁, st₂, hread₁, hread₂, fun id => ?_⟩
  rw [hst₂, hst₁, tableSeries_tables]
  rfl

/-- The schemas that the frames are checked against. -/
theorem schemas_statesEvents {st : TimeSeriesStore} (hst : ∀ id, st.data.lookup id =
      if src.HasEntries id then some { src.series id with telemetry := .empty } else none)
    (id : AircraftId) : schemas (st.series id) = schemas (src.series id) := by
  by_cases hentries : src.HasEntries id
  · rw [series_of_lookup (by rw [hst, if_pos hentries])]
    rfl
  · have hlookup : st.data.lookup id = none := by rw [hst, if_neg hentries]
    have hevents : (src.events.series id).events.entries = [] := by
      by_contra hne
      exact hentries (.inr hne)
    rw [series_of_notMem (notMem_keys_iff.mpr hlookup)]
    simp [schemas, Sources.series, hevents, lastSpawn]

/-- The frames of an aircraft that is there or has none. -/
theorem tableSeries_telemetry (h : src.Fit) (id : AircraftId) :
    tableSeries (src.telemetry.series id).telemetry.entries (fun s => { s with
        telemetry := (src.telemetry.series id).telemetry.entries.foldl .append s.telemetry })
      (if src.HasEntries id then some { src.series id with telemetry := .empty } else none) =
      if src.HasEntries id then some (src.series id) else none := by
  unfold tableSeries
  by_cases hentries : src.HasEntries id
  · rw [if_pos hentries, if_pos hentries]
    split_ifs with hl
    · have hempty := eq_empty_of_entries hl
      unfold Sources.series
      rw [hempty]
    · rw [Option.getD_some]
      unfold Sources.series
      simp only [Timeline.replay_entries]
  · rw [if_neg hentries, if_neg hentries, h.telemetry_empty hentries]
    exact if_pos rfl

/-- **What a directory loads as**: the three tables with the names and TOML texts of the summary, if
the frames fit, and an error that leaves the live store alone otherwise. -/
theorem loadSession_readsAs (h : ReadsAs files src) (live : TimeSeriesStore) :
    (src.Fit → (live.loadSession files).2 = .ok () ∧
      ∀ id, (live.loadSession files).1.data.lookup id = src.shown id) ∧
    (¬src.Fit → ∃ error, live.loadSession files = (live, .error error)) := by
  obtain ⟨orderS, states, hstates, hreadStates⟩ := h.readStates
  obtain ⟨orderE, events, hevents, hreadEvents⟩ := h.readEvents
  obtain ⟨orderT, telemetry, htelemetry, hreadTelemetry⟩ := h.readTelemetry
  obtain ⟨metaFile, hmeta, hreadMeta⟩ := h.readMeta
  obtain ⟨st₁, st₂, hread₁, hread₂, hst₂⟩ := lookup_statesEvents orderS orderE
  have hload : ({} : TimeSeriesStore).loadFromDirectory files =
      (st₂.readTelemetryParquet (src.telemetry.saveToDisk orderT)).bind fun st₃ => .ok
        (({} : TimeSeriesStore).replaceFrom
          (st₃.readMeta (src.summary.saveToDisk (.ofKeys src.summary)))) := by
    unfold loadFromDirectory
    simp only [hstates, hevents, htelemetry, hmeta, bind, Except.bind, hreadStates, hread₁,
      hreadEvents, hread₂, hreadTelemetry, hreadMeta]
  constructor
  · intro hfit
    have hfits : ∀ id ∈ src.telemetry.data.keys,
        Fits (src.telemetry.series id).telemetry.entries (st₂.series id) := by
      intro id _ e he
      rw [schemas_statesEvents hst₂]
      exact hfit id e he
    obtain ⟨st₃, hread₃, hst₃⟩ := readTelemetry_saved orderT hfits
    unfold loadSession
    rw [hload, hread₃]
    refine ⟨rfl, fun id => ?_⟩
    simp only [Except.bind, replaceFrom]
    rw [lookup_readMeta_saved, hst₃, hst₂, tableSeries_telemetry hfit, Sources.shown]
    by_cases hkey : id ∈ src.summary.data.keys
    · rw [if_pos hkey]
      split <;> rfl
    · rw [if_neg hkey, series_of_notMem hkey]
      rfl
  · intro hfit
    obtain ⟨id, hid⟩ := not_forall.mp hfit
    have hkey : id ∈ src.telemetry.data.keys := by
      by_contra hno
      refine hid ?_
      rw [series_of_notMem hno]
      intro e he
      simp at he
    have hfits : ¬Fits (src.telemetry.series id).telemetry.entries (st₂.series id) := by
      intro hfits
      refine hid fun e he => ?_
      rw [← schemas_statesEvents hst₂]
      exact hfits e he
    obtain ⟨error, herror⟩ := readTelemetry_error orderT hkey hfits
    refine ⟨error, ?_⟩
    unfold loadSession
    rw [hload, herror]
    rfl

/-- A file that no reader accepts is an error. -/
theorem loadFromDirectory_error (store : TimeSeriesStore)
    (h : (∃ error, tableRows (files.lookup "states.parquet") = .error error) ∨
      (∃ error, tableEventRows (files.lookup "events.parquet") = .error error) ∨
      (∃ error, tableRows (files.lookup "telemetry.parquet") = .error error) ∨
      ∃ error, summaryFile (files.lookup "meta.json") = .error error) :
    ∃ error, store.loadFromDirectory files = .error error := by
  unfold loadFromDirectory
  simp only [bind, Except.bind]
  rcases hstates : tableRows (files.lookup "states.parquet") with error | states
  · exact ⟨error, rfl⟩
  rcases hread₁ : ({} : TimeSeriesStore).readStatesParquet { states } with error | st₁
  · exact ⟨error, by simp only [hread₁]⟩
  simp only [hread₁]
  rcases hevents : tableEventRows (files.lookup "events.parquet") with error | events
  · exact ⟨error, rfl⟩
  rcases hread₂ : st₁.readEventsParquet { events } with error | st₂
  · exact ⟨error, by simp only [hread₂]⟩
  simp only [hread₂]
  rcases htelemetry : tableRows (files.lookup "telemetry.parquet") with error | telemetry
  · exact ⟨error, rfl⟩
  rcases hread₃ : st₂.readTelemetryParquet { telemetry } with error | st₃
  · exact ⟨error, by simp only [hread₃]⟩
  simp only [hread₃]
  rcases hmeta : summaryFile (files.lookup "meta.json") with error | metaFile
  · exact ⟨error, rfl⟩
  simp [hstates, hevents, htelemetry, hmeta] at h

/-! ## An interrupted save -/

def sessionNames : List String :=
  ["meta.json", "states.parquet", "events.parquet", "telemetry.parquet"]

section

variable {store : TimeSeriesStore}

/-- The files in the order in which they are written. -/
def writes (order : SaveOrder store) : List (String × Content) :=
  [("meta.json", .summary store.writeMeta),
    ("states.parquet", .rows (order.states.flatMap store.stateRows)),
    ("events.parquet", .eventRows (order.events.flatMap store.eventRows)),
    ("telemetry.parquet", .rows (order.telemetry.flatMap store.telemetryRows))]

/-- The files after the first `k` of them are replaced. -/
def cutFiles (files : Directory) (order : SaveOrder store) (k : ℕ) : Directory :=
  ((writes order).take k).foldl (fun files write => files.insert write.1 write.2) files

/-- **What an interrupted save leaves**: some files replaced, and perhaps one that is unreadable. -/
def LeftBy (files : Directory) (order : SaveOrder store) (left : Directory) : Prop :=
  ∃ k ≤ 4, left = cutFiles files order k ∨
    ∃ name ∈ sessionNames, ∃ bytes, left = (cutFiles files order k).insert name (.bytes bytes)

theorem doesAll_take {κ : Type} {root : DataRoot} {dir : String} {files : Directory}
    (hdir : root.lookup dir = some (.dir files)) (order : SaveOrder store) (site : SaveSite → κ)
    {k : ℕ} (hk : k ≤ 4) :
    ∃ root', disk.doesAll (((saveCalls order dir).map fun call => (site call.1, call.2)).take
        (k + 1)) root = some root' ∧
      root'.lookup dir = some (.dir (cutFiles files order k)) := by
  rcases k with _ | _ | _ | _ | _ | k
  on_goal 6 => omega
  all_goals simp [saveCalls, cutFiles, writes, Device.doesAll, disk, Op.does, hdir]

/-- A write that fails or is cut off. -/
theorem torn_writeFile {root root' : DataRoot} {dir file : String} {content : Content}
    {files : Directory} (hdir : root.lookup dir = some (.dir files))
    (h : disk.torn (.writeFile dir file content) root root') :
    root'.lookup dir = some (.dir files) ∨
      root'.lookup dir = some (.dir (files.insert file content)) ∨
      ∃ bytes, root'.lookup dir = some (.dir (files.insert file (.bytes bytes))) := by
  rcases h with _ | ⟨hdir', rfl | ⟨bytes, rfl⟩⟩ | _
  · exact .inl hdir
  · rw [hdir] at hdir'
    cases hdir'
    exact .inr (.inl (Finmap.lookup_insert _))
  · rw [hdir] at hdir'
    cases hdir'
    exact .inr (.inr ⟨bytes, Finmap.lookup_insert _⟩)

/-- The call after the first `k + 1` replaces the next file. -/
theorem saveCalls_getElem {dir : String} {order : SaveOrder store} {call : SaveSite × Op} {k : ℕ}
    (h : (saveCalls order dir)[k + 1]? = some call) : k < 4 ∧ ∃ name ∈ sessionNames,
      ∃ content, call.2 = .writeFile dir name content ∧
        ∀ files, cutFiles files order (k + 1) = (cutFiles files order k).insert name content := by
  rcases k with _ | _ | _ | _ | k
  on_goal 5 => simp [saveCalls] at h
  all_goals
    refine ⟨by omega, ?_⟩
    cases h
    exact ⟨_, by simp [sessionNames], _, rfl, fun files => rfl⟩

/-- **An interrupted save over a session.** -/
theorem exec_saveTo_over {κ : Type} {plan : κ → Fault} {order : SaveOrder store}
    {site : SaveSite → κ} {root : DataRoot} {dir : String} {files : Directory}
    (hdir : root.lookup dir = some (.dir files)) {ending : Ending DataRoot (Except SaveError Unit)}
    (h : Exec disk plan (saveTo order site dir) root ending) :
    ∃ left, ending.state.lookup dir = some (.dir left) ∧ LeftBy files order left := by
  rcases exec_steps h with ⟨s, hall, -, rfl⟩ |
    ⟨pre, x, op, post, s, s', hcalls, hpre, -, htorn, hend⟩
  · obtain ⟨root', hroot', hleft⟩ := doesAll_take hdir order site (le_refl 4)
    rw [List.take_of_length_le (by simp [saveCalls])] at hroot'
    rw [hall] at hroot'
    cases hroot'
    exact ⟨_, hleft, 4, le_rfl, .inl rfl⟩
  · have hstate : ending.state = s' := by rcases hend with rfl | rfl <;> rfl
    rw [hstate]
    have hop : ((saveCalls order dir).map fun call => (site call.1, call.2))[pre.length]? =
        some (x, op) := by rw [hcalls]; simp
    have htake : pre = ((saveCalls order dir).map fun call => (site call.1, call.2)).take
        pre.length := by rw [hcalls]; simp
    rw [List.getElem?_map] at hop
    obtain ⟨call, hcall, hcallOp⟩ := Option.map_eq_some_iff.mp hop
    cases hcallOp
    rw [htake] at hpre
    rcases hlength : pre.length with _ | k
    · -- the directory is there, so that the first call changes nothing
      rw [hlength] at hpre hcall
      cases hpre
      cases hcall
      rcases htorn with _ | _ | _
      exact ⟨files, hdir, 0, by omega, .inl rfl⟩
    · rw [hlength] at hpre hcall
      obtain ⟨hk, name, hname, content, hcallOp, hnext⟩ := saveCalls_getElem hcall
      obtain ⟨root', hroot', hleft⟩ := doesAll_take hdir order site hk.le
      rw [hpre] at hroot'
      cases hroot'
      rw [hcallOp] at htorn
      rcases torn_writeFile hleft htorn with hleft' | hleft' | ⟨bytes, hleft'⟩
      · exact ⟨_, hleft', k, hk.le, .inl rfl⟩
      · exact ⟨_, hleft', k + 1, hk, .inl (hnext files).symm⟩
      · exact ⟨_, hleft', k, hk.le, .inr ⟨name, hname, bytes, rfl⟩⟩

/-- Every cut is reached. -/
theorem exists_cut {root : DataRoot} {dir : String} {files : Directory}
    (hdir : root.lookup dir = some (.dir files)) (order : SaveOrder store) {k : ℕ} (hk : k ≤ 4) :
    ∃ (plan : SaveSite → Fault) (ending : Ending DataRoot (Except SaveError Unit)),
      Exec disk plan (saveTo order id dir) root ending ∧
        ending.state.lookup dir = some (.dir (cutFiles files order k)) := by
  obtain ⟨root', hroot', hleft⟩ := doesAll_take hdir order id hk
  have hmap : (saveCalls order dir).map (fun call => (id call.1, call.2)) =
      saveCalls order dir := by simp
  rw [hmap] at hroot'
  have hcrash : ∀ site : SaveSite, (∃ pre op post, saveCalls order dir = pre ++ (site, op) :: post ∧
      disk.doesAll pre root = some root' ∧ ∀ call ∈ pre, call.1 ≠ site) →
      Exec disk (fun x => if x = site then .crashes else .works) (saveTo order id dir) root
        (.crashed root') := by
    rintro site ⟨pre, op, post, hcalls, hpre, hne⟩
    unfold saveTo
    rw [hmap, hcalls]
    refine exec_steps_crash hpre (fun call hcall => ?_) (if_pos rfl)
    exact if_neg (hne call hcall)
  rcases k with _ | _ | _ | _ | _ | k
  · exact ⟨_, _, hcrash .summary ⟨[_], _, _, rfl, hroot', by simp⟩, hleft⟩
  · exact ⟨_, _, hcrash .states ⟨[_, _], _, _, rfl, hroot', by simp⟩, hleft⟩
  · exact ⟨_, _, hcrash .events ⟨[_, _, _], _, _, rfl, hroot', by simp⟩, hleft⟩
  · exact ⟨_, _, hcrash .telemetry ⟨[_, _, _, _], _, _, rfl, hroot', by simp⟩, hleft⟩
  · refine ⟨fun _ => .works, _, (exec_steps_works ?_ fun _ _ => rfl).mpr rfl, hleft⟩
    rw [hmap]
    exact hroot'
  · omega

end

/-! ## The law -/

/-- Loading fails and leaves the live store alone, or the live store is then such a store. -/
def LoadsAs (files : Directory) (P : TimeSeriesStore → Prop) : Prop :=
  ∀ live : TimeSeriesStore, (∃ error, live.loadSession files = (live, .error error)) ∨
    (live.loadSession files).2 = .ok () ∧ P (live.loadSession files).1

/-- A directory with the files of a complete session. -/
def HoldsSession (files : Directory) {store : TimeSeriesStore} (order : SaveOrder store) : Prop :=
  ∀ name ∈ sessionNames, files.lookup name = (sessionFiles order).lookup name

/-- A directory in which some of the files of a session were never written. -/
def SomeMissing (files : Directory) {store : TimeSeriesStore} (order : SaveOrder store) : Prop :=
  (∀ name ∈ sessionNames, files.lookup name = (sessionFiles order).lookup name ∨
    files.lookup name = none) ∧ ∃ name ∈ sessionNames, files.lookup name = none

/-- **No mixture**: whatever an interrupted save over a session leaves loads as the old or as the
new store or not at all, and so does a session with missing files. -/
structure NeverMixed (old new : TimeSeriesStore) : Prop where
  interrupted : ∀ (orderOld : SaveOrder old) (orderNew : SaveOrder new) (plan : SaveSite → Fault)
    (root : DataRoot) (dir : String) (files left : Directory)
    (ending : Ending DataRoot (Except SaveError Unit)),
    root.lookup dir = some (.dir files) → HoldsSession files orderOld →
    Exec disk plan (saveTo orderNew id dir) root ending →
    ending.state.lookup dir = some (.dir left) →
    LoadsAs left fun loaded => SameContents loaded old ∨ SameContents loaded new
  missing : ∀ (orderNew : SaveOrder new) (left : Directory), SomeMissing left orderNew →
    LoadsAs left fun loaded => SameContents loaded new

namespace Sources

/-- The first `k` files are those of the new store. -/
def cut (old new : TimeSeriesStore) : ℕ → Sources
  | 0 => ⟨old, old, old, old⟩
  | 1 => ⟨new, old, old, old⟩
  | 2 => ⟨new, new, old, old⟩
  | 3 => ⟨new, new, new, old⟩
  | _ => ⟨new, new, new, new⟩

/-- Only these files are there. -/
def only (store : TimeSeriesStore) (summary states events telemetry : Bool) : Sources :=
  ⟨bif summary then store else {}, bif states then store else {}, bif events then store else {},
    bif telemetry then store else {}⟩

end Sources

theorem lookup_sessionFiles {store : TimeSeriesStore} (order : SaveOrder store) :
    (sessionFiles order).lookup "meta.json" = some (.summary store.writeMeta) ∧
      (sessionFiles order).lookup "states.parquet" =
        some (.rows (order.states.flatMap store.stateRows)) ∧
      (sessionFiles order).lookup "events.parquet" =
        some (.eventRows (order.events.flatMap store.eventRows)) ∧
      (sessionFiles order).lookup "telemetry.parquet" =
        some (.rows (order.telemetry.flatMap store.telemetryRows)) := by
  simp [sessionFiles, Finmap.lookup_insert_of_ne]

theorem loadsAs_iff (h : ReadsAs files src) {P : TimeSeriesStore → Prop} {Q : Prop}
    (hPQ : src.Fit → ∀ loaded, (∀ id, loaded.data.lookup id = src.shown id) → (P loaded ↔ Q)) :
    LoadsAs files P ↔ (src.Fit → Q) := by
  constructor
  · intro hloads hfit
    obtain ⟨hok, hshown⟩ := (loadSession_readsAs h {}).1 hfit
    rcases hloads {} with ⟨error, herror⟩ | ⟨-, hP⟩
    · rw [herror] at hok
      cases hok
    · exact (hPQ hfit _ hshown).mp hP
  · intro hQ live
    by_cases hfit : src.Fit
    · obtain ⟨hok, hshown⟩ := (loadSession_readsAs h live).1 hfit
      exact .inr ⟨hok, (hPQ hfit _ hshown).mpr (hQ hfit)⟩
    · exact .inl ((loadSession_readsAs h live).2 hfit)

theorem sameContents_iff (hfit : src.Fit) {loaded : TimeSeriesStore}
    (hloaded : ∀ id, loaded.data.lookup id = src.shown id) (store : TimeSeriesStore) :
    SameContents loaded store ↔ src.Shows store := by
  rw [← shown_eq_iff hfit]
  exact forall_congr' fun id => by rw [hloaded]

/-- The files of the two stores after `k` of them are replaced. -/
theorem readsAs_cutFiles {old new : TimeSeriesStore} {orderOld : SaveOrder old}
    (orderNew : SaveOrder new) (h : HoldsSession files orderOld) (k : ℕ) :
    ReadsAs (cutFiles files orderNew k) (Sources.cut old new k) := by
  obtain ⟨hmeta, hstates, hevents, htelemetry⟩ := lookup_sessionFiles orderOld
  have hmeta' := (h "meta.json" (by simp [sessionNames])).trans hmeta
  have hstates' := (h "states.parquet" (by simp [sessionNames])).trans hstates
  have hevents' := (h "events.parquet" (by simp [sessionNames])).trans hevents
  have htelemetry' := (h "telemetry.parquet" (by simp [sessionNames])).trans htelemetry
  rcases k with _ | _ | _ | _ | k
  · exact ⟨.inl hmeta', .inl ⟨_, hstates'⟩, .inl ⟨_, hevents'⟩, .inl ⟨_, htelemetry'⟩⟩
  · refine ⟨.inl ?_, .inl ⟨orderOld, ?_⟩, .inl ⟨orderOld, ?_⟩, .inl ⟨orderOld, ?_⟩⟩ <;>
      simp [cutFiles, writes, Sources.cut, Finmap.lookup_insert_of_ne, *]
  · refine ⟨.inl ?_, .inl ⟨orderNew, ?_⟩, .inl ⟨orderOld, ?_⟩, .inl ⟨orderOld, ?_⟩⟩ <;>
      simp [cutFiles, writes, Sources.cut, Finmap.lookup_insert_of_ne, *]
  · refine ⟨.inl ?_, .inl ⟨orderNew, ?_⟩, .inl ⟨orderNew, ?_⟩, .inl ⟨orderOld, ?_⟩⟩ <;>
      simp [cutFiles, writes, Sources.cut, Finmap.lookup_insert_of_ne, *]
  · refine ⟨.inl ?_, .inl ⟨orderNew, ?_⟩, .inl ⟨orderNew, ?_⟩, .inl ⟨orderNew, ?_⟩⟩ <;>
      simp [cutFiles, writes, Sources.cut, Finmap.lookup_insert_of_ne]

/-- An unreadable file spoils the directory. -/
theorem loadsAs_broken {name : String} (hname : name ∈ sessionNames) (bytes : List UInt8)
    (P : TimeSeriesStore → Prop) : LoadsAs (files.insert name (.bytes bytes)) P := by
  intro live
  obtain ⟨error, herror⟩ : ∃ error, ({} : TimeSeriesStore).loadFromDirectory
      (files.insert name (.bytes bytes)) = .error error := by
    refine loadFromDirectory_error {} ?_
    simp only [sessionNames, List.mem_cons, List.not_mem_nil, or_false] at hname
    rcases hname with rfl | rfl | rfl | rfl
    · exact .inr (.inr (.inr ⟨_, by rw [Finmap.lookup_insert]; rfl⟩))
    · exact .inl ⟨_, by rw [Finmap.lookup_insert]; rfl⟩
    · exact .inr (.inl ⟨_, by rw [Finmap.lookup_insert]; rfl⟩)
    · exact .inr (.inr (.inl ⟨_, by rw [Finmap.lookup_insert]; rfl⟩))
  refine .inl ⟨error, ?_⟩
  unfold loadSession
  rw [herror]

/-- **Interrupted saves.** -/
theorem interrupted_iff (old new : TimeSeriesStore) :
    (∀ (orderOld : SaveOrder old) (orderNew : SaveOrder new) (plan : SaveSite → Fault)
      (root : DataRoot) (dir : String) (files left : Directory)
      (ending : Ending DataRoot (Except SaveError Unit)),
      root.lookup dir = some (.dir files) → HoldsSession files orderOld →
      Exec disk plan (saveTo orderNew id dir) root ending →
      ending.state.lookup dir = some (.dir left) →
      LoadsAs left fun loaded => SameContents loaded old ∨ SameContents loaded new) ↔
    ∀ k ≤ 4, (Sources.cut old new k).Fit →
      (Sources.cut old new k).Shows old ∨ (Sources.cut old new k).Shows new := by
  have hcut : ∀ {orderOld : SaveOrder old} (orderNew : SaveOrder new) {files : Directory} (k : ℕ),
      HoldsSession files orderOld → (LoadsAs (cutFiles files orderNew k)
        (fun loaded => SameContents loaded old ∨ SameContents loaded new) ↔
      ((Sources.cut old new k).Fit →
        (Sources.cut old new k).Shows old ∨ (Sources.cut old new k).Shows new)) := by
    intro orderOld orderNew files k hholds
    refine loadsAs_iff (readsAs_cutFiles orderNew hholds k) fun hfit loaded hloaded => ?_
    rw [sameContents_iff hfit hloaded, sameContents_iff hfit hloaded]
  constructor
  · intro h k hk
    have hholds : HoldsSession (sessionFiles (.ofKeys old)) (SaveOrder.ofKeys old) := fun _ _ => rfl
    have hroot : ((∅ : DataRoot).insert "session" (.dir (sessionFiles (.ofKeys old)))).lookup
        "session" = some (.dir (sessionFiles (.ofKeys old))) := Finmap.lookup_insert _
    obtain ⟨plan, ending, hexec, hleft⟩ := exists_cut hroot (SaveOrder.ofKeys new) hk
    exact (hcut (.ofKeys new) k hholds).mp
      (h (.ofKeys old) (.ofKeys new) plan _ _ _ _ ending hroot hholds hexec hleft)
  · intro h orderOld orderNew plan root dir files left ending hroot hholds hexec hleft
    obtain ⟨left', hleft', k, hk, rfl | ⟨name, hname, bytes, rfl⟩⟩ := exec_saveTo_over hroot hexec
    · rw [hleft] at hleft'
      cases hleft'
      exact (hcut orderNew k hholds).mpr (h k hk)
    · rw [hleft] at hleft'
      cases hleft'
      exact loadsAs_broken hname bytes _

/-- A directory without some of the files. -/
def withoutFiles (files : Directory) (gone : List String) : Directory :=
  gone.foldl (fun files name => files.erase name) files

theorem lookup_withoutFiles (files : Directory) (gone : List String) (name : String) :
    (withoutFiles files gone).lookup name = if name ∈ gone then none else files.lookup name := by
  induction gone generalizing files with
  | nil => simp [withoutFiles]
  | cons other gone ih =>
    rw [withoutFiles, List.foldl_cons]
    refine (ih _).trans ?_
    by_cases hname : name ∈ gone
    · simp [hname]
    · by_cases hother : name = other
      · subst hother
        simp [Finmap.lookup_erase]
      · simp [hname, hother, Finmap.lookup_erase_ne hother]

/-- The files that are there, and those that are not. -/
theorem readsAs_only {store : TimeSeriesStore} (order : SaveOrder store)
    {summary states events telemetry : Bool}
    (hmeta : files.lookup "meta.json" =
      bif summary then (sessionFiles order).lookup "meta.json" else none)
    (hstates : files.lookup "states.parquet" =
      bif states then (sessionFiles order).lookup "states.parquet" else none)
    (hevents : files.lookup "events.parquet" =
      bif events then (sessionFiles order).lookup "events.parquet" else none)
    (htelemetry : files.lookup "telemetry.parquet" =
      bif telemetry then (sessionFiles order).lookup "telemetry.parquet" else none) :
    ReadsAs files (Sources.only store summary states events telemetry) := by
  obtain ⟨hmeta', hstates', hevents', htelemetry'⟩ := lookup_sessionFiles order
  rw [hmeta'] at hmeta
  rw [hstates'] at hstates
  rw [hevents'] at hevents
  rw [htelemetry'] at htelemetry
  refine ⟨?_, ?_, ?_, ?_⟩
  · cases summary
    · exact .inr ⟨hmeta, rfl⟩
    · exact .inl hmeta
  · cases states
    · exact .inr ⟨hstates, rfl⟩
    · exact .inl ⟨order, hstates⟩
  · cases events
    · exact .inr ⟨hevents, rfl⟩
    · exact .inl ⟨order, hevents⟩
  · cases telemetry
    · exact .inr ⟨htelemetry, rfl⟩
    · exact .inl ⟨order, htelemetry⟩

/-- **Missing files.** -/
theorem missing_iff (store : TimeSeriesStore) :
    (∀ (order : SaveOrder store) (left : Directory), SomeMissing left order →
      LoadsAs left fun loaded => SameContents loaded store) ↔
    ∀ summary states events telemetry : Bool,
      ¬(summary = true ∧ states = true ∧ events = true ∧ telemetry = true) →
      (Sources.only store summary states events telemetry).Fit →
      (Sources.only store summary states events telemetry).Shows store := by
  have honly : ∀ {left : Directory} {summary states events telemetry : Bool},
      ReadsAs left (Sources.only store summary states events telemetry) →
      (LoadsAs left (fun loaded => SameContents loaded store) ↔
        ((Sources.only store summary states events telemetry).Fit →
          (Sources.only store summary states events telemetry).Shows store)) :=
    fun hreads => loadsAs_iff hreads fun hfit _ hloaded => sameContents_iff hfit hloaded store
  constructor
  · intro h summary states events telemetry hnot
    have hleft : ∃ left : Directory, SomeMissing left (SaveOrder.ofKeys store) ∧
        ReadsAs left (Sources.only store summary states events telemetry) := by
      refine ⟨withoutFiles (sessionFiles (.ofKeys store))
        ((bif summary then [] else ["meta.json"]) ++ (bif states then [] else ["states.parquet"]) ++
          (bif events then [] else ["events.parquet"]) ++
          (bif telemetry then [] else ["telemetry.parquet"])), ⟨fun name _ => ?_, ?_⟩, ?_⟩
      · rw [lookup_withoutFiles]
        split_ifs
        · exact .inr rfl
        · exact .inl rfl
      · simp only [lookup_withoutFiles, sessionNames]
        revert hnot
        cases summary <;> cases states <;> cases events <;> cases telemetry <;> simp
      · refine readsAs_only (.ofKeys store) ?_ ?_ ?_ ?_ <;> rw [lookup_withoutFiles] <;>
          cases summary <;> cases states <;> cases events <;> cases telemetry <;> rfl
    obtain ⟨left, hmissing, hreads⟩ := hleft
    exact (honly hreads).mp (h (.ofKeys store) left hmissing)
  · rintro h order left ⟨hfiles, name, hname, hnone⟩
    have hfile : ∀ name ∈ sessionNames, left.lookup name =
        bif (left.lookup name).isSome then (sessionFiles order).lookup name else none := by
      intro name hname
      rcases hfiles name hname with hsome | hnone
      · rcases hlookup : left.lookup name with _ | content
        · rfl
        · rw [← hsome, hlookup]
          rfl
      · rw [hnone]
        rfl
    refine (honly (readsAs_only order (hfile "meta.json" (by simp [sessionNames]))
      (hfile "states.parquet" (by simp [sessionNames]))
      (hfile "events.parquet" (by simp [sessionNames]))
      (hfile "telemetry.parquet" (by simp [sessionNames])))).mpr (h _ _ _ _ ?_)
    rintro ⟨hmeta, hstates, hevents, htelemetry⟩
    simp only [sessionNames, List.mem_cons, List.not_mem_nil, or_false] at hname
    rcases hname with rfl | rfl | rfl | rfl
    · simp [hnone] at hmeta
    · simp [hnone] at hstates
    · simp [hnone] at hevents
    · simp [hnone] at htelemetry

/-- When nothing is mixed, cut by cut. -/
theorem neverMixed_iff_cuts (old new : TimeSeriesStore) :
    NeverMixed old new ↔
      (∀ k ≤ 4, (Sources.cut old new k).Fit →
        (Sources.cut old new k).Shows old ∨ (Sources.cut old new k).Shows new) ∧
      ∀ summary states events telemetry : Bool,
        ¬(summary = true ∧ states = true ∧ events = true ∧ telemetry = true) →
        (Sources.only new summary states events telemetry).Fit →
        (Sources.only new summary states events telemetry).Shows new := by
  rw [← interrupted_iff, ← missing_iff]
  exact ⟨fun h => ⟨h.interrupted, h.missing⟩, fun h => ⟨h.1, h.2⟩⟩

end TimeSeriesStore

end FlyRuler.Store
