import FlyRuler.Lib.Faults
import FlyRuler.Store.Persist
import Mathlib.Data.Finmap

/-!
# Sessions on a disk

The directory that holds the sessions, as a map from names to directories and plain files, with the
calls of `std::fs` that saving makes: each can fail or be cut off, and then leaves a file that no
reader accepts, or a directory with some of its files.  `saveTo` is `save_to_disk` of
`core/src/store.rs` as a sequence of such calls.

* `Op.Changes.lookup_ne`: a call touches only the names it is given.
* `exec_saveTo_fresh`: saving to a name that is not taken.
-/

namespace FlyRuler.Store

open FlyRuler.Pb FlyRuler.Lib.Faults

/-! ## Files and directories -/

/-- What a file holds: a summary, a table, or bytes that no reader accepts. -/
inductive Content where
  | summary (file : MetaFile)
  | rows (rows : List Row)
  | eventRows (rows : List EventRow)
  | bytes (bytes : List UInt8)
  deriving DecidableEq

abbrev Directory := Finmap fun _ : String => Content

inductive RootEntry where
  | dir (files : Directory)
  | file (content : Content)
  deriving DecidableEq

/-- The directory of the sessions. -/
abbrev DataRoot := Finmap fun _ : String => RootEntry

/-- `path.exists()`. -/
def DataRoot.exists (name : String) (root : DataRoot) : Bool := (root.lookup name).isSome

/-! ## Calls -/

inductive Op where
  | createDirAll (dir : String)
  | writeFile (dir file : String) (content : Content)
  | rename (source target : String)
  | removeDirAll (dir : String)

namespace Op

/-- Whether a rename may put the entry in the place of another. -/
def replaces : RootEntry → Option RootEntry → Bool
  | _, none => true
  | .dir _, some (.dir files) => files = ∅
  | .file _, some (.file _) => true
  | _, _ => false

/-- A call that works. -/
def does : Op → DataRoot → Option DataRoot
  | createDirAll dir, root =>
    match root.lookup dir with
    | none => some (root.insert dir (.dir ∅))
    | some (.dir _) => some root
    | some (.file _) => none
  | writeFile dir file content, root =>
    match root.lookup dir with
    | some (.dir files) => some (root.insert dir (.dir (files.insert file content)))
    | _ => none
  | rename source target, root =>
    match root.lookup source with
    | some entry =>
      if replaces entry (root.lookup target) then some ((root.erase source).insert target entry)
      else none
    | none => none
  | removeDirAll dir, root =>
    match root.lookup dir with
    | some (.dir _) => some (root.erase dir)
    | _ => none

/-- A call that fails or is cut off: nothing happened, or part of a file was written, or some files
of a directory are gone. -/
inductive Torn : Op → DataRoot → DataRoot → Prop where
  | nothing (op : Op) (root : DataRoot) : Torn op root root
  | partly {dir file : String} {content written : Content} {root : DataRoot} {files : Directory}
      (hdir : root.lookup dir = some (.dir files))
      (hwritten : written = content ∨ ∃ bytes, written = .bytes bytes) :
      Torn (writeFile dir file content) root (root.insert dir (.dir (files.insert file written)))
  | someGone {dir : String} {root : DataRoot} {files left : Directory}
      (hdir : root.lookup dir = some (.dir files))
      (hleft : ∀ file, left.lookup file = files.lookup file ∨ left.lookup file = none) :
      Torn (removeDirAll dir) root (root.insert dir (.dir left))

/-- The names a call is given. -/
def names : Op → List String
  | createDirAll dir => [dir]
  | writeFile dir _ _ => [dir]
  | rename source target => [source, target]
  | removeDirAll dir => [dir]

/-- The call is not given this name. -/
def Avoids (name : String) (op : Op) : Prop := name ∉ op.names

theorem avoids_removeDirAll {name dir : String} (h : name ≠ dir) : Avoids name (removeDirAll dir) :=
  List.mem_singleton.not.mpr h

theorem avoids_rename {name source target : String} (h : name ≠ source) (h' : name ≠ target) :
    Avoids name (rename source target) := by
  simp [Avoids, names, h, h']

theorem does_lookup_ne {op : Op} {root root' : DataRoot} (h : op.does root = some root')
    {name : String} (hname : Avoids name op) : root'.lookup name = root.lookup name := by
  cases op with
  | createDirAll dir =>
    have hne : name ≠ dir := List.mem_singleton.not.mp hname
    simp only [does] at h
    split at h <;> cases h
    · exact Finmap.lookup_insert_of_ne _ hne
    · rfl
  | writeFile dir file content =>
    have hne : name ≠ dir := List.mem_singleton.not.mp hname
    simp only [does] at h
    split at h <;> cases h
    exact Finmap.lookup_insert_of_ne _ hne
  | rename source target =>
    have hne : name ≠ source ∧ name ≠ target := by simpa [Avoids, names] using hname
    simp only [does] at h
    split at h
    · split_ifs at h
      cases h
      rw [Finmap.lookup_insert_of_ne _ hne.2, Finmap.lookup_erase_ne hne.1]
    · cases h
  | removeDirAll dir =>
    have hne : name ≠ dir := List.mem_singleton.not.mp hname
    simp only [does] at h
    split at h <;> cases h
    exact Finmap.lookup_erase_ne hne

theorem Torn.lookup_ne {op : Op} {root root' : DataRoot} (h : op.Torn root root') {name : String}
    (hname : Avoids name op) : root'.lookup name = root.lookup name := by
  rcases h with _ | _ | _
  · rfl
  · exact Finmap.lookup_insert_of_ne _ (List.mem_singleton.not.mp hname)
  · exact Finmap.lookup_insert_of_ne _ (List.mem_singleton.not.mp hname)

end Op

/-- The file system. -/
def disk : Device Op DataRoot where
  does := Op.does
  torn := Op.Torn
  torn_refl := .nothing

/-- **The frame rule**: a program changes only the names its calls are given. -/
theorem lookup_exec {κ ρ : Type} {plan : κ → Fault} {p : Prog κ Op DataRoot ρ} {root : DataRoot}
    {ending : Ending DataRoot ρ} (h : Exec disk plan p root ending) {name : String}
    (hp : p.Uses (Op.Avoids name)) :
    ending.state.lookup name = root.lookup name := by
  refine h.inv (I := fun root' => root'.lookup name = root.lookup name) ?_ ?_ hp rfl
  · intro op s s' hop hs hdoes
    rw [Op.does_lookup_ne hdoes hop, hs]
  · intro op s s' hop hs htorn
    rw [Op.Torn.lookup_ne htorn hop, hs]

/-! ## Saving -/

inductive SaveError where
  | io
  | store (error : StoreError)
  deriving DecidableEq

/-- The places of `save_to_disk` that can fail. -/
inductive SaveSite where
  | directory
  | summary
  | states
  | events
  | telemetry
  deriving DecidableEq

namespace TimeSeriesStore

variable {store : TimeSeriesStore}

def saveCalls (order : SaveOrder store) (dir : String) : List (SaveSite × Op) :=
  [(.directory, .createDirAll dir),
    (.summary, .writeFile dir "meta.json" (.summary store.writeMeta)),
    (.states, .writeFile dir "states.parquet" (.rows (order.states.flatMap store.stateRows))),
    (.events, .writeFile dir "events.parquet" (.eventRows (order.events.flatMap store.eventRows))),
    (.telemetry,
      .writeFile dir "telemetry.parquet" (.rows (order.telemetry.flatMap store.telemetryRows)))]

/-- `save_to_disk`, as part of a program with other sites. -/
def saveTo {κ : Type} (order : SaveOrder store) (site : SaveSite → κ) (dir : String) :
    Prog κ Op DataRoot (Except SaveError Unit) :=
  .steps .io ((saveCalls order dir).map fun call => (site call.1, call.2))

/-- The files of a complete session. -/
def sessionFiles (order : SaveOrder store) : Directory :=
  ((((∅ : Directory).insert "meta.json" (.summary store.writeMeta)).insert
    "states.parquet" (.rows (order.states.flatMap store.stateRows))).insert
    "events.parquet" (.eventRows (order.events.flatMap store.eventRows))).insert
    "telemetry.parquet" (.rows (order.telemetry.flatMap store.telemetryRows))

theorem doesAll_saveCalls {κ : Type} (order : SaveOrder store) (site : SaveSite → κ) {dir : String}
    {root : DataRoot} (hfree : root.lookup dir = none) :
    disk.doesAll ((saveCalls order dir).map fun call => (site call.1, call.2)) root =
      some (root.insert dir (.dir (sessionFiles order))) := by
  simp only [saveCalls, List.map_cons, List.map_nil, Device.doesAll, List.foldlM_cons,
    List.foldlM_nil, disk, Op.does, hfree, Option.bind_eq_bind, Option.bind_some,
    Finmap.lookup_insert, Finmap.insert_insert]
  rfl

/-- **Saving to a name that is not taken** succeeds if and only if every call works, and then the
name has exactly the files of the session. -/
theorem exec_saveTo_fresh {κ : Type} {plan : κ → Fault} {order : SaveOrder store}
    {site : SaveSite → κ} {dir : String} {root : DataRoot} (hfree : root.lookup dir = none)
    (hworks : ∀ x, plan (site x) = .works) {ending : Ending DataRoot (Except SaveError Unit)} :
    Exec disk plan (saveTo order site dir) root ending ↔
      ending = .returned (.ok ()) (root.insert dir (.dir (sessionFiles order))) := by
  refine exec_steps_works (doesAll_saveCalls order site hfree) ?_
  simp only [List.forall_mem_map]
  exact fun call _ => hworks call.1

theorem exec_saveTo_fails {κ : Type} {plan : κ → Fault} {order : SaveOrder store}
    {site : SaveSite → κ} {dir : String} {root : DataRoot} {x : SaveSite}
    (hx : plan (site x) ≠ .works) {ending : Ending DataRoot (Except SaveError Unit)}
    (h : Exec disk plan (saveTo order site dir) root ending) :
    ∃ root', ending = .returned (.error .io) root' ∨ ending = .crashed root' := by
  rcases exec_steps h with ⟨_, -, hworks, -⟩ | ⟨_, _, _, _, _, root', -, -, -, -, hend⟩
  · refine absurd ?_ hx
    simp only [saveCalls, List.map_cons, List.forall_mem_cons] at hworks
    obtain ⟨hdirectory, hsummary, hstates, hevents, htelemetry, -⟩ := hworks
    cases x <;> assumption
  · exact ⟨root', hend⟩

/-- Saving touches only the directory it is given. -/
theorem uses_saveTo {κ : Type} (order : SaveOrder store) (site : SaveSite → κ) {dir name : String}
    (hname : name ≠ dir) : (saveTo order site dir).Uses (Op.Avoids name) := by
  refine Prog.Uses.steps _ ?_
  simp [saveCalls, Op.Avoids, Op.names, hname]

end TimeSeriesStore

end FlyRuler.Store
