import FlyRuler.Lib.Faults
import FlyRuler.Management.Series
import Mathlib.Data.Finmap

/-!
# The workspace document

`core/src/management/workspace.rs`: a document with a revision, validated and written beside the old
one, which is moved away before the new one takes its place.  The counter of the revisions lives in
memory and is read from the document at start-up.

* `always_writeDocument`: what a save whose calls go well, or that is cut off early, leaves.
* `WorkspaceStep.careful`: such a step keeps document and counter together.
* `lawfulWorkspace_of_careful`: what a run of such steps hands out and leaves.
-/

namespace FlyRuler.Management

open FlyRuler.Pb FlyRuler.Lib.Faults

def MAX_WORKSPACE_BYTES : ℕ := 1024 * 1024
def MAX_CHARTS : ℕ := 64
def MAX_CURVES_PER_CHART : ℕ := 64

/-! ## Documents -/

inductive WorkspaceTheme where
  | light
  | dark
  deriving DecidableEq

structure WorkspaceCurveStyle where
  aircraftId : String := ""
  selector : SeriesSelector := .standard "derived.altitude"
  «alias» : String := ""
  color : String := "#4b92f0"
  linePattern : String := "solid"
  lineWidth : F64 := .finite 2
  opacity : F64 := .finite 1
  visible : Bool := true
  yAxis : String := "left"
  smooth : Bool := false
  showSymbol : Bool := false
  scale : F64 := .finite 1
  offset : F64 := .finite 0
  unit : Option String := none
  valueFormat : String := "auto"
  precision : ℕ := 3
  deriving DecidableEq

structure WorkspaceChartView where
  zoomStart : Option F64 := none
  zoomEnd : Option F64 := none
  zoomStartValue : Option F64 := none
  zoomEndValue : Option F64 := none
  deriving DecidableEq

structure WorkspaceChart where
  id : String := ""
  title : String := ""
  x : ℤ := 0
  y : ℤ := 0
  w : ℕ := 6
  h : ℕ := 5
  legendVisible : Bool := true
  curves : List WorkspaceCurveStyle := []
  view : WorkspaceChartView := {}
  deriving DecidableEq

structure WorkspaceSnapshot where
  version : ℕ := 1
  theme : WorkspaceTheme := .dark
  locale : String := "zh-CN"
  leftPanelOpen : Bool := true
  rightPanelOpen : Bool := true
  basketOpen : Bool := true
  selectedAircraftId : Option String := none
  selectedChartId : Option String := none
  syncCharts : Bool := true
  queryStart : Option F64 := none
  queryEnd : Option F64 := none
  maxPoints : ℕ := 2000
  charts : List WorkspaceChart := []
  basket : List WorkspaceCurveStyle := []
  deriving DecidableEq

structure WorkspaceDocument where
  revision : ℕ
  updatedAtSecs : F64
  workspace : WorkspaceSnapshot
  deriving DecidableEq

inductive WorkspaceError where
  | io
  | json
  | tooLarge
  | tooComplex
  | invalidValue
  deriving DecidableEq

/-! ## Validation -/

/-- `(low..=high).contains(&value)`, for a finite value. -/
def withinLimits (low high : ℚ) (value : F64) : Bool :=
  match value.toFinite with
  | some q => low ≤ q ∧ q ≤ high
  | none => false

def validCurve (curve : WorkspaceCurveStyle) : Bool :=
  withinLimits (1 / 2) 8 curve.lineWidth && withinLimits 0 1 curve.opacity &&
    curve.scale.toFinite.isSome && curve.offset.toFinite.isSome && curve.precision ≤ 8 &&
    curve.linePattern ∈ ["solid", "dashed", "dotted"] && curve.yAxis ∈ ["left", "right"] &&
    curve.valueFormat ∈ ["auto", "fixed", "scientific"]

/-- The limits of the query: finite if they are there, and in order if both are. -/
def validQuery (start stop : Option F64) : Bool :=
  start.all (fun value => value.toFinite.isSome) && stop.all (fun value => value.toFinite.isSome) &&
    match start, stop with
    | some start, some stop => start.le stop
    | _, _ => true

/-- `validate`. -/
def validate (workspace : WorkspaceSnapshot) : Except WorkspaceError Unit :=
  if workspace.version ≠ 1 ∨ ¬(100 ≤ workspace.maxPoints ∧ workspace.maxPoints ≤ 20000) ∨
      MAX_CHARTS < workspace.charts.length ∨
      workspace.charts.any (fun chart => MAX_CURVES_PER_CHART < chart.curves.length) then
    .error .tooComplex
  else if !validQuery workspace.queryStart workspace.queryEnd then .error .invalidValue
  else if (workspace.charts.flatMap WorkspaceChart.curves ++ workspace.basket).all validCurve then
    .ok ()
  else .error .invalidValue

/-! ## Files -/

/-- What a file of the directory holds: the JSON of a document, or bytes that do not parse. -/
inductive WorkspaceContent where
  | document (document : WorkspaceDocument)
  | bytes (bytes : List UInt8)
  deriving DecidableEq

/-- The files of `.fly-ruler`; a directory that is not there is an empty one. -/
abbrev WorkspaceDir := Finmap fun _ : String => WorkspaceContent

def workspacePath : String := "workspace.json"
def workspaceTemporary : String := "workspace.json.tmp"
def workspaceBackup : String := "workspace.json.bak"

inductive WorkspaceOp where
  | createDirAll
  | write (file : String) (content : WorkspaceContent)
  | rename (source target : String)
  | remove (file : String)
  -- the return to the caller, which only a crash can prevent
  | nothing

namespace WorkspaceOp

def does : WorkspaceOp → WorkspaceDir → Option WorkspaceDir
  | createDirAll, dir => some dir
  | write file content, dir => some (dir.insert file content)
  | rename source target, dir =>
    (dir.lookup source).map fun content => (dir.erase source).insert target content
  | remove file, dir => (dir.lookup file).map fun _ => dir.erase file
  | nothing, dir => some dir

/-- Only a write leaves something half done. -/
inductive Torn : WorkspaceOp → WorkspaceDir → WorkspaceDir → Prop where
  | nothing (op : WorkspaceOp) (dir : WorkspaceDir) : Torn op dir dir
  | partly (file : String) (content : WorkspaceContent) (dir : WorkspaceDir) (bytes : List UInt8) :
      Torn (write file content) dir (dir.insert file (.bytes bytes))
  | whole (file : String) (content : WorkspaceContent) (dir : WorkspaceDir) :
      Torn (write file content) dir (dir.insert file content)

end WorkspaceOp

def workspaceDisk : Device WorkspaceOp WorkspaceDir where
  does := WorkspaceOp.does
  torn := WorkspaceOp.Torn
  torn_refl := .nothing

/-- The places of `save` that can fail. -/
inductive WorkspaceSite where
  | createDir
  | write
  | removeOld
  | moveAside
  | commit
  | rollback
  | removeBackup
  | commitFresh
  | returning
  deriving DecidableEq

/-! ## The store -/

/-- The document on disk; `readBack` is what the JSON of a document reads back as. -/
def loadWorkspace (readBack : WorkspaceDocument → WorkspaceDocument) (dir : WorkspaceDir) :
    Except WorkspaceError (Option WorkspaceDocument) :=
  match dir.lookup workspacePath with
  | some (.document document) => .ok (some (readBack document))
  | some (.bytes _) => .error .json
  | none => .ok none

/-- The revision that `WorkspaceStore::new` starts from. -/
def storedRevision (dir : WorkspaceDir) : ℕ :=
  match dir.lookup workspacePath with
  | some (.document document) => document.revision
  | _ => 0

/-- The new document takes the place of the old one. -/
def placeDocument : Prog WorkspaceSite WorkspaceOp WorkspaceDir Bool := do
  if ← .test (fun dir => (dir.lookup workspacePath).isSome) then
    let _ ← .attempt .removeOld (.remove workspaceBackup)
    if !(← .attempt .moveAside (.rename workspacePath workspaceBackup)) then return false
    if !(← .attempt .commit (.rename workspaceTemporary workspacePath)) then
      let _ ← .attempt .rollback (.rename workspaceBackup workspacePath)
      return false
    let _ ← .attempt .removeBackup (.remove workspaceBackup)
    return true
  else
    .attempt .commitFresh (.rename workspaceTemporary workspacePath)

/-- `save` from the serialization on; `encodedLength` is the length of the JSON text. -/
def writeDocument (encodedLength : WorkspaceDocument → ℕ) (document : WorkspaceDocument) :
    Prog WorkspaceSite WorkspaceOp WorkspaceDir (Except WorkspaceError WorkspaceDocument) := do
  if MAX_WORKSPACE_BYTES < encodedLength document then return .error .tooLarge
  if !(← .attempt .createDir .createDirAll) then return .error .io
  if !(← .attempt .write (.write workspaceTemporary (.document document))) then return .error .io
  if !(← placeDocument) then return .error .io
  let _ ← .attempt .returning .nothing
  return .ok document

/-- `save`: the counter it leaves, and the calls it makes. -/
def saveWorkspace (encodedLength : WorkspaceDocument → ℕ) (revision : ℕ) (now : F64)
    (workspace : WorkspaceSnapshot) : ℕ ×
      Prog WorkspaceSite WorkspaceOp WorkspaceDir (Except WorkspaceError WorkspaceDocument) :=
  match validate workspace with
  | .error error => (revision, return .error error)
  | .ok _ =>
    ((revision + 1) % u64Size,
      writeDocument encodedLength ⟨(revision + 1) % u64Size, now, workspace⟩)

/-! ## One save -/

/-- Whether the calls go well or are cut off before anything is moved: no failure except of the
removals of a backup, no crash after the old document is moved away. -/
def Harmless (plan : WorkspaceSite → Fault) (replaces : Bool) : Prop :=
  plan .createDir = .crashes ∨ plan .createDir = .works ∧
    (plan .write = .crashes ∨ plan .write = .works ∧
      if replaces then plan .removeOld = .crashes ∨ plan .moveAside = .crashes ∨
        plan .moveAside = .works ∧ plan .commit = .works ∧ plan .removeBackup ≠ .crashes ∧
          plan .returning ≠ .crashes
      else plan .commitFresh = .crashes ∨
        plan .commitFresh = .works ∧ plan .returning ≠ .crashes)

/-- The new document is in its place, or a crash left the old state. -/
def Written (document : WorkspaceDocument) (old : Option WorkspaceContent) :
    Ending WorkspaceDir (Except WorkspaceError WorkspaceDocument) → Prop
  | .returned result dir =>
    result = .ok document ∧ dir.lookup workspacePath = some (.document document)
  | .crashed dir => dir.lookup workspacePath = old

/-- The same of `placeDocument`, with what the plan says of the rest. -/
def Placed (plan : WorkspaceSite → Fault) (document : WorkspaceDocument)
    (old : Option WorkspaceContent) : Ending WorkspaceDir Bool → Prop
  | .returned placed dir =>
    placed = true ∧ plan .returning ≠ .crashes ∧
      dir.lookup workspacePath = some (.document document)
  | .crashed dir => dir.lookup workspacePath = old

section

variable {plan : WorkspaceSite → Fault} {dir : WorkspaceDir} {document : WorkspaceDocument}
  {old : Option WorkspaceContent}

theorem does_workspaceRename {source target : String} {content : WorkspaceContent}
    (h : dir.lookup source = some content) :
    workspaceDisk.does (.rename source target) dir =
      some ((dir.erase source).insert target content) := by
  simp only [workspaceDisk, WorkspaceOp.does, h, Option.map_some]

theorem torn_workspace {op : WorkspaceOp} {dir' : WorkspaceDir} (h : workspaceDisk.torn op dir dir')
    (hop : ∀ file content, op ≠ .write file content) : dir' = dir := by
  rcases h with _ | _ | _
  · rfl
  · exact absurd rfl (hop _ _)
  · exact absurd rfl (hop _ _)

/-- The removal of a backup, whatever it answers, leaves every other file. -/
theorem lookup_remove {file other : String} (hne : other ≠ file) {fault : Fault}
    {answer : Option Bool} {dir' : WorkspaceDir}
    (h : workspaceDisk.Answers (.remove file) dir fault answer dir') :
    dir'.lookup other = dir.lookup other := by
  rcases h.effect with ⟨-, -, hdoes⟩ | ⟨-, htorn⟩
  · obtain ⟨_, -, rfl⟩ := Option.map_eq_some_iff.mp hdoes
    exact Finmap.lookup_erase_ne hne
  · rw [torn_workspace htorn (by simp)]

theorem always_placeDocument
    (htemporary : dir.lookup workspaceTemporary = some (.document document))
    (h : if (dir.lookup workspacePath).isSome then
        plan .removeOld = .crashes ∨ plan .moveAside = .crashes ∨
          plan .moveAside = .works ∧ plan .commit = .works ∧ plan .removeBackup ≠ .crashes ∧
            plan .returning ≠ .crashes
      else plan .commitFresh = .crashes ∨
        plan .commitFresh = .works ∧ plan .returning ≠ .crashes) :
    Always workspaceDisk plan placeDocument dir
      (Placed plan document (dir.lookup workspacePath)) := by
  have hpt : workspacePath ≠ workspaceTemporary := by decide
  have hpb : workspacePath ≠ workspaceBackup := by decide
  have htb : workspaceTemporary ≠ workspaceBackup := by decide
  rw [placeDocument, always_bind, always_test, before_returned]
  rcases hpath : dir.lookup workspacePath with _ | content
  · simp only [hpath, Option.isSome_none, Bool.false_eq_true, if_false] at h ⊢
    rcases h with hcommit | ⟨hcommit, hreturning⟩
    · rw [always_attempt_crashes hcommit]
      intro dir' htorn
      rw [torn_workspace htorn (by simp)]
      exact hpath
    · rw [always_attempt_works hcommit (does_workspaceRename htemporary)]
      exact ⟨rfl, hreturning, Finmap.lookup_insert _⟩
  · simp only [hpath, Option.isSome_some, if_true] at h ⊢
    rw [always_bind, always_attempt]
    refine ⟨fun b dir₁ answers => ?_, fun dir₁ answers => (lookup_remove hpb answers).trans hpath⟩
    have hpath₁ := (lookup_remove hpb answers).trans hpath
    have htemporary₁ := (lookup_remove htb answers).trans htemporary
    have hremove : plan .removeOld ≠ .crashes := by
      intro hcrash
      rw [hcrash] at answers
      rcases answers
    rw [before_returned, always_bind]
    rcases h.resolve_left hremove with hmove | ⟨hmove, hcommit, hbackup, hreturning⟩
    · rw [always_attempt_crashes hmove]
      intro dir₂ htorn
      rw [torn_workspace htorn (by simp)]
      exact hpath₁
    · rw [always_attempt_works hmove (does_workspaceRename hpath₁), before_returned]
      simp only [Bool.not_true, Bool.false_eq_true, if_false]
      have htemporary₂ : ((dir₁.erase workspacePath).insert workspaceBackup content).lookup
          workspaceTemporary = some (.document document) := by
        rw [Finmap.lookup_insert_of_ne _ htb, Finmap.lookup_erase_ne hpt.symm, htemporary₁]
      rw [always_bind, always_attempt_works hcommit (does_workspaceRename htemporary₂),
        before_returned]
      simp only [Bool.not_true, Bool.false_eq_true, if_false]
      rw [always_bind, always_attempt]
      refine ⟨fun b dir₃ answers => ?_, fun dir₃ answers => ?_⟩
      · rw [before_returned, always_pure]
        exact ⟨rfl, hreturning, (lookup_remove hpb answers).trans (Finmap.lookup_insert _)⟩
      · generalize plan .removeBackup = fault at hbackup answers
        rcases answers
        exact absurd rfl hbackup

/-- **A save that goes well or is cut off early.** -/
theorem always_writeDocument {encodedLength : WorkspaceDocument → ℕ}
    (hlength : encodedLength document ≤ MAX_WORKSPACE_BYTES)
    (h : Harmless plan (dir.lookup workspacePath).isSome) :
    Always workspaceDisk plan (writeDocument encodedLength document) dir
      (Written document (dir.lookup workspacePath)) := by
  have hpt : workspacePath ≠ workspaceTemporary := by decide
  rw [writeDocument, if_neg (by omega), always_bind]
  rcases h with hcreate | ⟨hcreate, h⟩
  · rw [always_attempt_crashes hcreate]
    intro dir' htorn
    rw [torn_workspace htorn (by simp)]
    rfl
  rw [always_attempt_works hcreate rfl, before_returned]
  simp only [Bool.not_true, Bool.false_eq_true, if_false]
  rw [always_bind]
  rcases h with hwrite | ⟨hwrite, h⟩
  · rw [always_attempt_crashes hwrite]
    rintro dir' (_ | _ | _)
    · rfl
    · exact Finmap.lookup_insert_of_ne _ hpt
    · exact Finmap.lookup_insert_of_ne _ hpt
  rw [always_attempt_works hwrite rfl, before_returned]
  simp only [Bool.not_true, Bool.false_eq_true, if_false]
  have hpath : (dir.insert workspaceTemporary (.document document)).lookup workspacePath =
      dir.lookup workspacePath := Finmap.lookup_insert_of_ne _ hpt
  rw [always_bind]
  rw [← hpath] at h ⊢
  refine (always_placeDocument (Finmap.lookup_insert _) h).mono ?_
  rintro (⟨placed, dir'⟩ | dir')
  · rintro ⟨rfl, hreturning, hplaced⟩
    rw [before_returned]
    simp only [Bool.not_true, Bool.false_eq_true, if_false]
    rw [always_bind, always_attempt]
    refine ⟨fun b dir'' answers => ?_, fun dir'' answers => ?_⟩
    · rw [before_returned, always_pure]
      have heq : dir'' = dir' := by
        rcases answers.effect with ⟨-, -, hdoes⟩ | ⟨-, htorn⟩
        · exact (Option.some_inj.mp hdoes).symm
        · exact torn_workspace htorn (by simp)
      exact ⟨rfl, heq ▸ hplaced⟩
    · generalize plan .returning = fault at hreturning answers
      rcases answers
      exact absurd rfl hreturning
  · exact id

end

/-! ## Runs -/

/-- The directory, and the counter of the running process, if there is one. -/
structure WorkspaceHost where
  dir : WorkspaceDir
  revision : Option ℕ

inductive WorkspaceInput where
  | save (workspace : WorkspaceSnapshot) (now : F64) (plan : WorkspaceSite → Fault)
  -- `WorkspaceStore::new`, which may not get to read the document
  | restart (readable : Bool)

inductive WorkspaceOutcome where
  | saved (document : WorkspaceDocument)
  | failed (error : WorkspaceError)
  | crashed
  | restarted

inductive WorkspaceStep (encodedLength : WorkspaceDocument → ℕ) :
    WorkspaceHost → WorkspaceInput → WorkspaceOutcome → WorkspaceHost → Prop where
  | saved {dir dir' : WorkspaceDir} {revision : ℕ} {workspace : WorkspaceSnapshot} {now : F64}
      {plan : WorkspaceSite → Fault} {document : WorkspaceDocument}
      (h : Exec workspaceDisk plan (saveWorkspace encodedLength revision now workspace).2 dir
        (.returned (.ok document) dir')) :
      WorkspaceStep encodedLength ⟨dir, some revision⟩ (.save workspace now plan) (.saved document)
        ⟨dir', some (saveWorkspace encodedLength revision now workspace).1⟩
  | failed {dir dir' : WorkspaceDir} {revision : ℕ} {workspace : WorkspaceSnapshot} {now : F64}
      {plan : WorkspaceSite → Fault} {error : WorkspaceError}
      (h : Exec workspaceDisk plan (saveWorkspace encodedLength revision now workspace).2 dir
        (.returned (.error error) dir')) :
      WorkspaceStep encodedLength ⟨dir, some revision⟩ (.save workspace now plan) (.failed error)
        ⟨dir', some (saveWorkspace encodedLength revision now workspace).1⟩
  | crashed {dir dir' : WorkspaceDir} {revision : ℕ} {workspace : WorkspaceSnapshot} {now : F64}
      {plan : WorkspaceSite → Fault}
      (h : Exec workspaceDisk plan (saveWorkspace encodedLength revision now workspace).2 dir
        (.crashed dir')) :
      WorkspaceStep encodedLength ⟨dir, some revision⟩ (.save workspace now plan) .crashed
        ⟨dir', none⟩
  | restarted (dir : WorkspaceDir) (revision : Option ℕ) (readable : Bool) :
      WorkspaceStep encodedLength ⟨dir, revision⟩ (.restart readable) .restarted
        ⟨dir, some (if readable then storedRevision dir else 0)⟩

/-- One step of a run. -/
structure WorkspaceMoment where
  before : WorkspaceHost
  input : WorkspaceInput
  outcome : WorkspaceOutcome
  after : WorkspaceHost

inductive WorkspaceRun (encodedLength : WorkspaceDocument → ℕ) :
    WorkspaceHost → List WorkspaceMoment → WorkspaceHost → Prop where
  | nil (host : WorkspaceHost) : WorkspaceRun encodedLength host [] host
  | cons {host host' host'' : WorkspaceHost} {input : WorkspaceInput} {outcome : WorkspaceOutcome}
      {moments : List WorkspaceMoment}
      (step : WorkspaceStep encodedLength host input outcome host')
      (h : WorkspaceRun encodedLength host' moments host'') :
      WorkspaceRun encodedLength host (⟨host, input, outcome, host'⟩ :: moments) host''

/-- The document that a save writes, the revision being the next one. -/
def WorkspaceInput.document (revision : ℕ) : WorkspaceInput → Option WorkspaceDocument
  | save workspace now _ => some ⟨revision + 1, now, workspace⟩
  | restart _ => none

/-- What one step may do: a save that answers an error changes neither document nor counter, and
a crash leaves the old document or the new one. -/
def WorkspaceMoment.Lawful (readBack : WorkspaceDocument → WorkspaceDocument)
    (moment : WorkspaceMoment) : Prop :=
  let load := fun host : WorkspaceHost => loadWorkspace readBack host.dir
  match moment.outcome with
  | .failed _ => load moment.after = load moment.before ∧
      moment.after.revision = moment.before.revision
  | .crashed => (load moment.after = load moment.before ∨
        ∃ revision ∈ moment.before.revision, ∃ document ∈ moment.input.document revision,
          load moment.after = .ok (some (readBack document))) ∧
      (load moment.before ≠ .ok none → load moment.after ≠ .ok none)
  | _ => True

def WorkspaceOutcome.revision : WorkspaceOutcome → Option ℕ
  | saved document => some document.revision
  | _ => none

/-- The revisions of the successful saves, in order. -/
def handedOut (moments : List WorkspaceMoment) : List ℕ :=
  moments.filterMap fun moment => moment.outcome.revision

/-- What a whole run may do: the revisions handed out are consecutive, and so increase, across every
restart. -/
def LawfulWorkspace (readBack : WorkspaceDocument → WorkspaceDocument)
    (moments : List WorkspaceMoment) : Prop :=
  (∀ moment ∈ moments, moment.Lawful readBack) ∧
    (handedOut moments).IsChain (fun revision next => next = revision + 1) ∧
    (handedOut moments).Pairwise (· < ·)

/-- The steps that keep the counter and the document together: a restart that reads the document,
and a save that is refused by `validate` or is short enough and `Harmless`. -/
def CarefulWorkspace (encodedLength : WorkspaceDocument → ℕ) (host : WorkspaceHost) :
    WorkspaceInput → Prop
  | .restart readable => readable = true ∨ storedRevision host.dir = 0
  | .save workspace now plan => ∀ revision ∈ host.revision, validate workspace = .ok () →
      revision + 1 < u64Size ∧ encodedLength ⟨revision + 1, now, workspace⟩ ≤ MAX_WORKSPACE_BYTES ∧
        Harmless plan (host.dir.lookup workspacePath).isSome

/-- The counter of a running process is the revision of its document. -/
def Counted (host : WorkspaceHost) : Prop :=
  ∀ revision ∈ host.revision, revision = storedRevision host.dir

section

variable {readBack : WorkspaceDocument → WorkspaceDocument}
  {encodedLength : WorkspaceDocument → ℕ} {host host' : WorkspaceHost}
  {input : WorkspaceInput} {outcome : WorkspaceOutcome} {moments : List WorkspaceMoment}

theorem load_congr {dir dir' : WorkspaceDir}
    (h : dir'.lookup workspacePath = dir.lookup workspacePath) :
    loadWorkspace readBack dir' = loadWorkspace readBack dir := by
  rw [loadWorkspace, loadWorkspace, h]

theorem storedRevision_congr {dir dir' : WorkspaceDir}
    (h : dir'.lookup workspacePath = dir.lookup workspacePath) :
    storedRevision dir' = storedRevision dir := by
  rw [storedRevision, storedRevision, h]

theorem storedRevision_document {dir : WorkspaceDir} {document : WorkspaceDocument}
    (h : dir.lookup workspacePath = some (.document document)) :
    storedRevision dir = document.revision := by
  rw [storedRevision, h]

theorem handedOut_cons_some {moment : WorkspaceMoment} {revision : ℕ}
    (h : moment.outcome.revision = some revision) :
    handedOut (moment :: moments) = revision :: handedOut moments := List.filterMap_cons_some h

theorem handedOut_cons_none {moment : WorkspaceMoment} (h : moment.outcome.revision = none) :
    handedOut (moment :: moments) = handedOut moments := List.filterMap_cons_none h

/-- A careful save is refused before anything is touched, or writes the next revision. -/
theorem saveWorkspace_careful {plan : WorkspaceSite → Fault} {dir : WorkspaceDir} {revision : ℕ}
    {now : F64} {workspace : WorkspaceSnapshot}
    {ending : Ending WorkspaceDir (Except WorkspaceError WorkspaceDocument)}
    (h : Exec workspaceDisk plan (saveWorkspace encodedLength revision now workspace).2 dir ending)
    (hcareful : CarefulWorkspace encodedLength ⟨dir, some revision⟩ (.save workspace now plan)) :
    (∃ error, ending = .returned (.error error) dir) ∧
        (saveWorkspace encodedLength revision now workspace).1 = revision ∨
      Written ⟨revision + 1, now, workspace⟩ (dir.lookup workspacePath) ending ∧
        (saveWorkspace encodedLength revision now workspace).1 = revision + 1 := by
  rw [saveWorkspace] at h ⊢
  rcases hvalid : validate workspace with error | ⟨⟩
  · simp only [hvalid] at h ⊢
    exact .inl ⟨⟨error, exec_pure_iff.mp h⟩, trivial⟩
  · obtain ⟨hrevision, hlength, hharmless⟩ := hcareful revision rfl hvalid
    simp only [hvalid, Nat.mod_eq_of_lt hrevision] at h ⊢
    exact .inr ⟨always_writeDocument hlength hharmless ending h, trivial⟩

/-- **What a careful step does**: it hands out the next revision and stores it, or it leaves the
document; the counter stays the revision of the document. -/
theorem WorkspaceStep.careful (h : WorkspaceStep encodedLength host input outcome host')
    (hcounted : Counted host) (hcareful : CarefulWorkspace encodedLength host input) :
    Counted host' ∧
      (outcome.revision = some (storedRevision host.dir + 1) ∧
          storedRevision host'.dir = storedRevision host.dir + 1 ∨
        outcome.revision = none ∧ storedRevision host'.dir = storedRevision host.dir) ∧
      WorkspaceMoment.Lawful readBack ⟨host, input, outcome, host'⟩ := by
  rcases h with h | h | h | ⟨dir, revision, readable⟩
  · have hrevision := hcounted _ rfl
    rcases saveWorkspace_careful h hcareful with ⟨⟨_, ⟨⟩⟩, -⟩ | ⟨⟨⟨⟩, hlookup⟩, hcounter⟩
    have hstored := storedRevision_document hlookup
    dsimp only at hrevision hstored
    refine ⟨?_, .inl ⟨?_, ?_⟩, trivial⟩
    · rintro _ ⟨⟩
      exact hcounter.trans hstored.symm
    · exact congrArg some (by rw [hrevision])
    · rw [hstored, hrevision]
  · rcases saveWorkspace_careful h hcareful with ⟨⟨_, ⟨⟩⟩, hcounter⟩ | ⟨⟨⟨⟩, -⟩, -⟩
    rw [hcounter]
    exact ⟨hcounted, .inr ⟨rfl, rfl⟩, rfl, rfl⟩
  · rcases saveWorkspace_careful h hcareful with ⟨⟨_, ⟨⟩⟩, -⟩ | ⟨hlookup, -⟩
    refine ⟨by rintro _ ⟨⟩, .inr ⟨rfl, storedRevision_congr hlookup⟩, .inl (load_congr hlookup), ?_⟩
    dsimp only
    rw [load_congr hlookup]
    exact id
  · refine ⟨?_, .inr ⟨rfl, rfl⟩, trivial⟩
    rintro _ ⟨⟩
    rcases hcareful with rfl | hzero
    · rfl
    · split
      · rfl
      · exact hzero.symm

/-- **The counter and the document over a run.** -/
theorem WorkspaceRun.careful (h : WorkspaceRun encodedLength host moments host')
    (hcounted : Counted host)
    (hcareful : ∀ moment ∈ moments, CarefulWorkspace encodedLength moment.before moment.input) :
    (∀ moment ∈ moments, moment.Lawful readBack) ∧
      (storedRevision host.dir :: handedOut moments).IsChain
        (fun revision next => next = revision + 1) := by
  induction h with
  | nil host => exact ⟨by simp, by simp [handedOut]⟩
  | cons step _ ih =>
    rw [List.forall_mem_cons] at hcareful
    obtain ⟨hcounted', hrevision, hlawful⟩ := step.careful hcounted hcareful.1
    obtain ⟨hall, hchain⟩ := ih hcounted' hcareful.2
    refine ⟨List.forall_mem_cons.mpr ⟨hlawful, hall⟩, ?_⟩
    rcases hrevision with ⟨houtcome, hstored⟩ | ⟨houtcome, hstored⟩
    · rw [hstored] at hchain
      rw [handedOut_cons_some houtcome]
      exact List.isChain_cons_cons.mpr ⟨rfl, hchain⟩
    · rw [hstored] at hchain
      rw [handedOut_cons_none houtcome]
      exact hchain

/-- **Revisions that only grow.**  In every run of careful steps from a start of the process, a save
that fails changes nothing, a crash leaves a document, and the revisions handed out are consecutive
across every restart. -/
theorem lawfulWorkspace_of_careful (readBack : WorkspaceDocument → WorkspaceDocument)
    (encodedLength : WorkspaceDocument → ℕ)
    {host host' : WorkspaceHost} {moments : List WorkspaceMoment} (hstart : host.revision = none)
    (h : WorkspaceRun encodedLength host moments host')
    (hcareful : ∀ moment ∈ moments, CarefulWorkspace encodedLength moment.before moment.input) :
    LawfulWorkspace readBack moments := by
  have hcounted : Counted host := by
    rw [Counted, hstart]
    rintro _ ⟨⟩
  obtain ⟨hall, hchain⟩ := h.careful hcounted hcareful
  have hsteps := hchain.tail
  refine ⟨hall, hsteps, ?_⟩
  have hincreasing : (handedOut moments).IsChain (· < ·) := by
    refine hsteps.imp ?_
    intro revision next hnext
    omega
  exact List.isChain_iff_pairwise.mp hincreasing

/-! ### Runs on a fresh directory -/

/-- The document of the default snapshot, 410 bytes of JSON. -/
def defaultDocument (revision : ℕ) : WorkspaceDocument := ⟨revision, .finite 0, {}⟩

def defaultSave (plan : WorkspaceSite → Fault) : WorkspaceInput := .save {} (.finite 0) plan

section

variable {revision : ℕ} {dir : WorkspaceDir}

theorem WorkspaceStep.saved_run (plan : WorkspaceSite → Fault) (dir' : WorkspaceDir)
    (h : (saveWorkspace (fun _ => 410) revision (.finite 0) {}).2.run workspaceDisk plan dir =
      .returned (.ok (defaultDocument (revision + 1))) dir') :
    WorkspaceStep (fun _ => 410) ⟨dir, some revision⟩ (defaultSave plan)
      (.saved (defaultDocument (revision + 1)))
      ⟨dir', some (saveWorkspace (fun _ => 410) revision (.finite 0) {}).1⟩ :=
  .saved (h ▸ exec_run workspaceDisk plan _ dir)

theorem WorkspaceStep.failed_run (plan : WorkspaceSite → Fault) (dir' : WorkspaceDir)
    (h : (saveWorkspace (fun _ => 410) revision (.finite 0) {}).2.run workspaceDisk plan dir =
      .returned (.error .io) dir') :
    WorkspaceStep (fun _ => 410) ⟨dir, some revision⟩ (defaultSave plan) (.failed .io)
      ⟨dir', some (saveWorkspace (fun _ => 410) revision (.finite 0) {}).1⟩ :=
  .failed (h ▸ exec_run workspaceDisk plan _ dir)

theorem WorkspaceStep.crashed_run (plan : WorkspaceSite → Fault) (dir' : WorkspaceDir)
    (h : (saveWorkspace (fun _ => 410) revision (.finite 0) {}).2.run workspaceDisk plan dir =
      .crashed dir') :
    WorkspaceStep (fun _ => 410) ⟨dir, some revision⟩ (defaultSave plan) .crashed ⟨dir', none⟩ :=
  .crashed (h ▸ exec_run workspaceDisk plan _ dir)

end

/-- The directory after a first save. -/
def savedOnce : WorkspaceDir :=
  (((∅ : WorkspaceDir).insert workspaceTemporary (.document (defaultDocument 1))).erase
    workspaceTemporary).insert workspacePath (.document (defaultDocument 1))

/-- The directory between the two renames of the second save. -/
def movedAside : WorkspaceDir :=
  ((savedOnce.insert workspaceTemporary (.document (defaultDocument 2))).erase
    workspacePath).insert workspaceBackup (.document (defaultDocument 1))

/-- The directory after the second save. -/
def savedTwice : WorkspaceDir :=
  ((movedAside.erase workspaceTemporary).insert workspacePath
    (.document (defaultDocument 2))).erase workspaceBackup

theorem saved_savedOnce :
    WorkspaceStep (fun _ => 410) ⟨∅, some 0⟩ (defaultSave fun _ => .works)
      (.saved (defaultDocument 1)) ⟨savedOnce, some 1⟩ :=
  .saved_run (fun _ => .works) savedOnce rfl

/-- A save, a crash at the start of the next one, a restart and one more save. -/
theorem lawfulWorkspace_of_careful_restart :
    ∃ moments host', WorkspaceRun (fun _ => 410) ⟨∅, none⟩ moments host' ∧
      handedOut moments = [1, 2] ∧ LawfulWorkspace id moments := by
  have hrun : WorkspaceRun (fun _ => 410) ⟨∅, none⟩ _ ⟨savedTwice, some 2⟩ :=
    .cons (.restarted ∅ none true) <| .cons saved_savedOnce <|
    .cons (.crashed_run (fun _ => .crashes) savedOnce rfl) <|
    .cons (.restarted savedOnce none true) <|
    .cons (.saved_run (fun _ => .works) savedTwice rfl) <| .nil _
  refine ⟨_, _, hrun, rfl, lawfulWorkspace_of_careful id _ rfl hrun ?_⟩
  simp only [List.forall_mem_cons]
  refine ⟨.inl rfl, ?_, ?_, .inl rfl, ?_, by simp⟩
  · rintro _ ⟨⟩ -
    exact ⟨by decide, by decide, .inr ⟨rfl, .inr ⟨rfl, .inr ⟨rfl, by decide⟩⟩⟩⟩
  · rintro _ ⟨⟩ -
    exact ⟨by decide, by decide, .inl rfl⟩
  · rintro _ ⟨⟩ -
    exact ⟨by decide, by decide,
      .inr ⟨rfl, .inr ⟨rfl, .inr (.inr ⟨rfl, rfl, by decide, by decide⟩)⟩⟩⟩

/-- **What goes wrong**: a first save whose rename fails moves the counter, and a crash between the
two renames of a later one leaves no document at all. -/
theorem not_lawfulWorkspace :
    (∃ moments host', WorkspaceRun (fun _ => 410) ⟨∅, none⟩ moments host' ∧
      host'.revision = some 1 ∧ loadWorkspace id host'.dir = .ok none ∧
      ¬LawfulWorkspace id moments) ∧
    ∃ moments host', WorkspaceRun (fun _ => 410) ⟨∅, none⟩ moments host' ∧
      handedOut moments = [1] ∧ loadWorkspace id host'.dir = .ok none ∧
      ¬LawfulWorkspace id moments := by
  constructor
  · have hrun : WorkspaceRun (fun _ => 410) ⟨∅, none⟩ _ _ :=
      .cons (.restarted ∅ none true) <|
      .cons (.failed_run (fun site => if site = .commitFresh then .fails else .works)
        ((∅ : WorkspaceDir).insert workspaceTemporary (.document (defaultDocument 1))) rfl) <|
      .nil _
    refine ⟨_, _, hrun, rfl, rfl, ?_⟩
    rintro ⟨hall, -⟩
    rw [List.forall_mem_cons, List.forall_mem_cons] at hall
    have hcounter := hall.2.1.2
    exact absurd hcounter (by decide)
  · have hrun : WorkspaceRun (fun _ => 410) ⟨∅, none⟩ _ _ :=
      .cons (.restarted ∅ none true) <| .cons saved_savedOnce <|
      .cons (.crashed_run (fun site => if site = .commit then .crashes else .works) movedAside
        rfl) <| .nil _
    refine ⟨_, _, hrun, rfl, rfl, ?_⟩
    rintro ⟨hall, -⟩
    rw [List.forall_mem_cons, List.forall_mem_cons, List.forall_mem_cons] at hall
    have hkept := hall.2.2.1.2
    exact hkept (by decide) rfl

end

end FlyRuler.Management
