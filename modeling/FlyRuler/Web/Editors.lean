import FlyRuler.Web.Editor

/-!
# Pages of one document

Any number of pages edit the document of one server: a page sends a snapshot of what it has, the
server saves it or refuses it, is asked for what it has stored, and its answers replace what a page
has.  The store of the server is that of `core/src/management/workspace.rs`, whose calls of the file
system may fail or be cut off by a crash anywhere.  Requests and answers arrive in any order, late,
more than once or never.

* `Stored.exec`: what a save leaves in the directory, whatever its calls do.
* `Inv.step`: one step of a page, of the server or of what is on its way.
* `desk_run`: what every run keeps.
-/

namespace FlyRuler.Web.Editor

open FlyRuler.Pb FlyRuler.Management FlyRuler.Lib.Faults

/-! ## The directory -/

/-- Every file but the temporary one is a document with `P`. -/
def Stored (P : Management.WorkspaceDocument → Prop) (dir : WorkspaceDir) : Prop :=
  ∀ file content, dir.lookup file = some content → file = workspaceTemporary ∨
    ∃ document, content = .document document ∧ P document

/-- Every file is. -/
def Whole (P : Management.WorkspaceDocument → Prop) (dir : WorkspaceDir) : Prop :=
  ∀ file content, dir.lookup file = some content → ∃ document, content = .document document ∧
    P document

section

variable {P : Management.WorkspaceDocument → Prop} {dir : WorkspaceDir}
  {plan : WorkspaceSite → Fault} {document : Management.WorkspaceDocument}

theorem Whole.stored (h : Whole P dir) : Stored P dir := fun file content hlookup =>
  .inr (h file content hlookup)

theorem Stored.insertTemporary (h : Stored P dir) (content : WorkspaceContent) :
    Stored P (dir.insert workspaceTemporary content) := by
  intro file other hlookup
  by_cases hfile : file = workspaceTemporary
  · exact .inl hfile
  · rw [Finmap.lookup_insert_of_ne _ hfile] at hlookup
    exact h file other hlookup

/-- With the temporary file written every file is a document. -/
theorem Stored.whole (h : Stored P dir) (hP : P document) :
    Whole P (dir.insert workspaceTemporary (.document document)) := by
  intro file content hlookup
  by_cases hfile : file = workspaceTemporary
  · rw [hfile, Finmap.lookup_insert, Option.some_inj] at hlookup
    exact ⟨document, hlookup.symm, hP⟩
  · rw [Finmap.lookup_insert_of_ne _ hfile] at hlookup
    exact (h file content hlookup).resolve_left hfile

theorem Whole.erase (h : Whole P dir) (file : String) : Whole P (dir.erase file) := by
  intro other content hlookup
  by_cases hother : other = file
  · rw [hother, Finmap.lookup_erase] at hlookup
    cases hlookup
  · rw [Finmap.lookup_erase_ne hother] at hlookup
    exact h other content hlookup

theorem Whole.rename (h : Whole P dir) {source : String} {content : WorkspaceContent}
    (hsource : dir.lookup source = some content) (target : String) :
    Whole P ((dir.erase source).insert target content) := by
  intro other found hlookup
  by_cases hother : other = target
  · rw [hother, Finmap.lookup_insert, Option.some_inj] at hlookup
    exact hlookup ▸ h source content hsource
  · rw [Finmap.lookup_insert_of_ne _ hother] at hlookup
    exact h.erase source other found hlookup

/-- The calls that write nothing. -/
def Moves (op : WorkspaceOp) : Prop := ∀ file content, op ≠ .write file content

theorem Whole.does {op : WorkspaceOp} (hop : Moves op) (h : Whole P dir) {dir' : WorkspaceDir}
    (hdoes : workspaceDisk.does op dir = some dir') : Whole P dir' := by
  cases op with
  | createDirAll | nothing =>
    cases hdoes
    exact h
  | write file content => exact absurd rfl (hop file content)
  | rename source target =>
    obtain ⟨content, hsource, rfl⟩ := Option.map_eq_some_iff.mp hdoes
    exact h.rename hsource target
  | remove file =>
    obtain ⟨-, -, rfl⟩ := Option.map_eq_some_iff.mp hdoes
    exact h.erase file

theorem Whole.exec {ρ : Type} {p : Prog WorkspaceSite WorkspaceOp WorkspaceDir ρ}
    {ending : Ending WorkspaceDir ρ} (h : Whole P dir) (hp : p.Uses Moves)
    (hexec : Exec workspaceDisk plan p dir ending) : Whole P ending.state :=
  hexec.inv (fun _ _ _ hop hwhole hdoes => hwhole.does hop hdoes)
    (fun _ _ _ hop hwhole htorn => torn_workspace htorn hop ▸ hwhole) hp h

theorem uses_placeDocument : placeDocument.Uses Moves := by
  have hmove : ∀ source target, Moves (.rename source target) := fun _ _ _ _ h => by cases h
  have hremove : ∀ file, Moves (.remove file) := fun _ _ _ h => by cases h
  refine (Prog.Uses.test _).bind fun replaces => ?_
  split
  · refine (Prog.Uses.attempt _ (hremove _)).bind fun _ => ?_
    refine (Prog.Uses.attempt _ (hmove _ _)).bind fun moved => ?_
    split
    · exact Prog.Uses.pure _
    · refine (Prog.Uses.attempt _ (hmove _ _)).bind fun committed => ?_
      split
      · exact (Prog.Uses.attempt _ (hmove _ _)).bind fun _ => Prog.Uses.pure _
      · exact (Prog.Uses.attempt _ (hremove _)).bind fun _ => Prog.Uses.pure _
  · exact Prog.Uses.attempt _ (hmove _ _)

/-- What a save that got past `validate` answers. -/
def Answer (document : Management.WorkspaceDocument) :
    Ending WorkspaceDir (Except WorkspaceError Management.WorkspaceDocument) → Prop
  | .returned result _ =>
    result = .ok document ∨ result = .error .io ∨ result = .error .tooLarge
  | .crashed _ => True

theorem createDirAll_stays {fault : Fault} {answer : Option Bool} {dir' : WorkspaceDir}
    (answers : workspaceDisk.Answers .createDirAll dir fault answer dir') : dir' = dir := by
  rcases answers.effect with ⟨-, -, hdoes⟩ | ⟨-, htorn⟩
  · exact (Option.some_inj.mp hdoes).symm
  · exact torn_workspace htorn (by simp)

/-- A write that is cut off spoils the temporary file only. -/
theorem Stored.torn (h : Stored P dir) {content : WorkspaceContent} {dir' : WorkspaceDir}
    (htorn : workspaceDisk.torn (.write workspaceTemporary content) dir dir') :
    Stored P dir' := by
  rcases htorn with _ | _ | _
  · exact h
  · exact h.insertTemporary _
  · exact h.insertTemporary _

/-- The rest of a save, after its write. -/
theorem Whole.place (h : Whole P dir) :
    Always workspaceDisk plan
      (do
        if !(← placeDocument) then return .error .io
        let _ ← .attempt .returning .nothing
        return .ok document)
      dir fun ending => Stored P ending.state ∧ Answer document ending := by
  rw [always_bind]
  intro ending hexec
  have hplaced := h.exec uses_placeDocument hexec
  rcases ending with ⟨placed, dir'⟩ | dir'
  · rw [before_returned]
    split
    · exact always_pure.mpr ⟨hplaced.stored, .inr (.inl rfl)⟩
    · rw [always_bind]
      intro ending hexec
      have hreturned := hplaced.exec (Prog.Uses.attempt _ fun _ _ h => by cases h) hexec
      rcases ending with ⟨returned, dir''⟩ | dir''
      · exact always_pure.mpr ⟨hreturned.stored, .inl rfl⟩
      · exact ⟨hreturned.stored, trivial⟩
  · exact ⟨hplaced.stored, trivial⟩

/-- **What a save leaves and answers**, whatever its calls do. -/
theorem Stored.exec {encodedLength : Management.WorkspaceDocument → ℕ} (h : Stored P dir)
    (hP : P document) :
    Always workspaceDisk plan (writeDocument encodedLength document) dir fun ending =>
      Stored P ending.state ∧ Answer document ending := by
  rw [writeDocument]
  split
  · exact always_pure.mpr ⟨h, .inr (.inr rfl)⟩
  rw [always_bind, always_attempt]
  refine ⟨fun created dir' answers => ?_, fun dir' answers => ?_⟩
  · rw [createDirAll_stays answers, before_returned]
    split
    · exact always_pure.mpr ⟨h, .inr (.inl rfl)⟩
    rw [always_bind, always_attempt]
    refine ⟨fun written dir' answers => ?_, fun dir' answers => ?_⟩
    · rw [before_returned]
      rcases answers.effect with ⟨hwritten, -, hdoes⟩ | ⟨hwritten, htorn⟩
      · cases hwritten
        cases hdoes
        exact (h.whole hP).place
      · rcases written with _ | _
        · exact always_pure.mpr ⟨h.torn htorn, .inr (.inl rfl)⟩
        · exact absurd rfl hwritten
    · rcases answers.effect with ⟨hcrashed, -, -⟩ | ⟨-, htorn⟩
      · cases hcrashed
      · exact ⟨h.torn htorn, trivial⟩
  · rw [createDirAll_stays answers]
    exact ⟨h, trivial⟩

end

/-! ## Runs -/

/-- The server, the document of each page, and what has been sent: the snapshots of the pages and
the answers to those who have asked. -/
structure Desk where
  host : WorkspaceHost
  pages : List WorkspaceSnapshot := []
  sent : List WorkspaceSnapshot := []
  answers : List (Option Management.WorkspaceDocument) := []

section Steps
variable (readBack : Management.WorkspaceDocument → Management.WorkspaceDocument)
  (encodedLength : Management.WorkspaceDocument → ℕ)

/-- One step; a save or a restart of the server has an outcome. -/
inductive DeskStep : Desk → Option (WorkspaceSnapshot × WorkspaceOutcome) → Desk → Prop where
  | opened (desk : Desk) :
      DeskStep desk none { desk with pages := desk.pages ++ [defaultWorkspace] }
  | edited {desk : Desk} {workspace : WorkspaceSnapshot} (page : ℕ) (change : WorkspaceEdit)
      (hpage : desk.pages[page]? = some workspace) (hoffered : Offered workspace change) :
      DeskStep desk none
        { desk with pages := desk.pages.set page (edit workspace change) }
  -- `save`: a copy of the document is on its way
  | sent {desk : Desk} {workspace : WorkspaceSnapshot} (page : ℕ)
      (hpage : desk.pages[page]? = some workspace) :
      DeskStep desk none { desk with sent := workspace :: desk.sent }
  | saved {desk : Desk} {workspace : WorkspaceSnapshot} {now : F64} {plan : WorkspaceSite → Fault}
      {outcome : WorkspaceOutcome} {host : WorkspaceHost} (hsent : workspace ∈ desk.sent)
      (step : WorkspaceStep encodedLength desk.host (.save workspace now plan) outcome host) :
      DeskStep desk (some (workspace, outcome)) { desk with host }
  | restarted {desk : Desk} {readable : Bool} {outcome : WorkspaceOutcome} {host : WorkspaceHost}
      (step : WorkspaceStep encodedLength desk.host (.restart readable) outcome host) :
      DeskStep desk none { desk with host }
  -- the server answers `load`
  | answered {desk : Desk} {answer : Option Management.WorkspaceDocument}
      (hload : loadWorkspace readBack desk.host.dir = .ok answer) :
      DeskStep desk none { desk with answers := answer :: desk.answers }
  -- a `load` that comes between the two renames of a save finds nothing
  | missed (desk : Desk) : DeskStep desk none { desk with answers := none :: desk.answers }
  -- an answer arrives
  | loaded {desk : Desk} {workspace : WorkspaceSnapshot}
      {document : Management.WorkspaceDocument} (page : ℕ)
      (hpage : desk.pages[page]? = some workspace) (hanswer : some document ∈ desk.answers) :
      DeskStep desk none
        { desk with pages := desk.pages.set page (normalizeWorkspace document.workspace) }

/-- A run, with the outcomes of its saves. -/
inductive DeskRun : Desk → List (WorkspaceSnapshot × WorkspaceOutcome) → Desk → Prop where
  | nil (desk : Desk) : DeskRun desk [] desk
  | snoc {desk desk' desk'' : Desk} {saves : List (WorkspaceSnapshot × WorkspaceOutcome)}
      {save : Option (WorkspaceSnapshot × WorkspaceOutcome)} (h : DeskRun desk saves desk')
      (step : DeskStep readBack encodedLength desk' save desk'') :
      DeskRun desk (saves ++ save.toList) desk''

end Steps

/-- A server with nothing stored, and no page. -/
def Desk.fresh : Desk := { host := ⟨∅, none⟩ }

/-- Too many charts, or too many curves on one. -/
def TooComplex (workspace : WorkspaceSnapshot) : Prop :=
  MAX_CHARTS < workspace.charts.length ∨
    ∃ chart ∈ workspace.charts, MAX_CURVES_PER_CHART < chart.curves.length

/-- **What the server may answer to a save**: it refuses what is too complex and nothing else, it
stores what was sent, and only its files and the length of the text may stop it. -/
def LawfulSave (save : WorkspaceSnapshot × WorkspaceOutcome) : Prop :=
  match save.2 with
  | .saved document => ¬TooComplex save.1 ∧ document.workspace = save.1
  | .failed error => error = .tooComplex ∧ TooComplex save.1 ∨
      ¬TooComplex save.1 ∧ (error = .io ∨ error = .tooLarge)
  | .crashed => ¬TooComplex save.1
  | .restarted => False

/-- **What is sent survives JSON**: every document with such a snapshot reads back with it. -/
def Survives (readBack : Management.WorkspaceDocument → Management.WorkspaceDocument)
    (sent : List WorkspaceSnapshot) : Prop :=
  ∀ document, document.workspace ∈ sent → (readBack document).workspace = document.workspace

structure Inv (desk : Desk) : Prop where
  pages : ∀ workspace ∈ desk.pages, Sound workspace
  sent : ∀ workspace ∈ desk.sent, Sound workspace
  stored : Stored (fun document => document.workspace ∈ desk.sent) desk.host.dir
  answers : ∀ document, some document ∈ desk.answers → document.workspace ∈ desk.sent

theorem inv_fresh : Inv .fresh where
  pages := by simp [Desk.fresh]
  sent := by simp [Desk.fresh]
  stored := by simp [Stored, Desk.fresh]
  answers := by simp [Desk.fresh]

section

variable {desk desk' : Desk} {sent : List WorkspaceSnapshot} {dir : WorkspaceDir}
  {document : Management.WorkspaceDocument} {workspace : WorkspaceSnapshot}
  {readBack : Management.WorkspaceDocument → Management.WorkspaceDocument}
  {encodedLength : Management.WorkspaceDocument → ℕ}

theorem Stored.mono {P P' : Management.WorkspaceDocument → Prop} (h : Stored P dir)
    (hP : ∀ document, P document → P' document) : Stored P' dir := by
  intro file content hlookup
  rcases h file content hlookup with htemporary | ⟨document, hcontent, hdocument⟩
  · exact .inl htemporary
  · exact .inr ⟨document, hcontent, hP document hdocument⟩

/-- The stored document can be loaded, and is one that was sent. -/
theorem Stored.load (h : Stored (fun document => document.workspace ∈ sent) dir)
    (hjson : Survives readBack sent) :
    ∃ answer, loadWorkspace readBack dir = .ok answer ∧
      ∀ document ∈ answer, document.workspace ∈ sent := by
  rw [loadWorkspace]
  rcases hlookup : dir.lookup workspacePath with _ | content
  · exact ⟨none, rfl, by simp⟩
  · obtain ⟨document, rfl, hsent⟩ :=
      (h workspacePath content hlookup).resolve_left (by decide)
    refine ⟨some (readBack document), rfl, ?_⟩
    rintro _ ⟨⟩
    rw [hjson document hsent]
    exact hsent

theorem tooComplex_iff :
    TooComplex workspace ↔ MAX_CHARTS < workspace.charts.length ∨
      workspace.charts.any (fun chart => MAX_CURVES_PER_CHART < chart.curves.length) := by
  simp only [TooComplex, List.any_eq_true, decide_eq_true_eq]

/-- **One save of a sound document.** -/
theorem Sound.save (hsound : Sound workspace) (hsent : workspace ∈ sent)
    (h : Stored (fun document => document.workspace ∈ sent) dir) {plan : WorkspaceSite → Fault}
    {revision : ℕ} {now : F64}
    {ending : Ending WorkspaceDir (Except WorkspaceError Management.WorkspaceDocument)}
    (hexec : Exec workspaceDisk plan (saveWorkspace encodedLength revision now workspace).2 dir
      ending) :
    Stored (fun document => document.workspace ∈ sent) ending.state ∧
      (TooComplex workspace ∧ ending = .returned (.error .tooComplex) dir ∨
        ¬TooComplex workspace ∧ ∃ revision, Answer ⟨revision, now, workspace⟩ ending) := by
  rw [saveWorkspace, hsound.validate] at hexec
  by_cases hcomplex : TooComplex workspace
  · rw [if_pos (tooComplex_iff.mp hcomplex)] at hexec
    obtain rfl := exec_pure_iff.mp hexec
    exact ⟨h, .inl ⟨hcomplex, rfl⟩⟩
  · rw [if_neg (tooComplex_iff.not.mp hcomplex)] at hexec
    obtain ⟨hstored, hanswer⟩ := Stored.exec h hsent ending hexec
    exact ⟨hstored, .inr ⟨hcomplex, _, hanswer⟩⟩

theorem Sound.saveStep (hsound : Sound workspace) (hsent : workspace ∈ sent)
    {host host' : WorkspaceHost} {plan : WorkspaceSite → Fault} {now : F64}
    {outcome : WorkspaceOutcome}
    (h : Stored (fun document => document.workspace ∈ sent) host.dir)
    (step : WorkspaceStep encodedLength host (.save workspace now plan) outcome host') :
    Stored (fun document => document.workspace ∈ sent) host'.dir ∧
      LawfulSave (workspace, outcome) := by
  cases step with
  | saved hexec =>
    obtain ⟨hstored, ⟨-, hending⟩ | ⟨hcomplex, revision, hanswer⟩⟩ := hsound.save hsent h hexec
    · cases hending
    · refine ⟨hstored, hcomplex, ?_⟩
      rcases hanswer with hanswer | hanswer | hanswer
      · cases hanswer
        rfl
      all_goals cases hanswer
  | failed hexec =>
    obtain ⟨hstored, ⟨hcomplex, hending⟩ | ⟨hcomplex, revision, hanswer⟩⟩ :=
      hsound.save hsent h hexec
    · cases hending
      exact ⟨hstored, .inl ⟨rfl, hcomplex⟩⟩
    · refine ⟨hstored, .inr ⟨hcomplex, ?_⟩⟩
      rcases hanswer with hanswer | hanswer | hanswer
      · cases hanswer
      · cases hanswer
        exact .inl rfl
      · cases hanswer
        exact .inr rfl
  | crashed hexec =>
    obtain ⟨hstored, ⟨-, hending⟩ | ⟨hcomplex, -⟩⟩ := hsound.save hsent h hexec
    · cases hending
    · exact ⟨hstored, hcomplex⟩

theorem forall_mem_set {α : Type} {P : α → Prop} {l : List α} (h : ∀ a ∈ l, P a) (i : ℕ) {b : α}
    (hb : P b) : ∀ a ∈ l.set i b, P a := by
  intro a ha
  rcases List.mem_or_eq_of_mem_set ha with hmem | rfl
  · exact h a hmem
  · exact hb

/-- What has been sent stays sent. -/
theorem DeskStep.sent_subset {save : Option (WorkspaceSnapshot × WorkspaceOutcome)}
    (step : DeskStep readBack encodedLength desk save desk') : desk.sent ⊆ desk'.sent := by
  cases step with
  | sent => exact List.subset_cons_self _ _
  | opened | edited | saved | restarted | answered | missed | loaded => exact List.Subset.refl _

/-- **One step.** -/
theorem Inv.step (h : Inv desk) {save : Option (WorkspaceSnapshot × WorkspaceOutcome)}
    (hjson : Survives readBack desk.sent) (step : DeskStep readBack encodedLength desk save desk') :
    Inv desk' ∧ ∀ found ∈ save, LawfulSave found := by
  cases step with
  | opened =>
    have hpages := List.forall_mem_append.mpr
      ⟨h.pages, List.forall_mem_singleton.mpr sound_default⟩
    exact ⟨⟨hpages, h.sent, h.stored, h.answers⟩, by simp⟩
  | edited page change hpage hoffered =>
    have hsound := (h.pages _ (List.mem_of_getElem? hpage)).edit _ hoffered
    exact ⟨⟨forall_mem_set h.pages _ hsound, h.sent, h.stored, h.answers⟩, by simp⟩
  | sent page hpage =>
    refine ⟨⟨h.pages, ?_, ?_, ?_⟩, by simp⟩
    · exact List.forall_mem_cons.mpr ⟨h.pages _ (List.mem_of_getElem? hpage), h.sent⟩
    · exact h.stored.mono fun document hsent => List.mem_cons_of_mem _ hsent
    · exact fun document hanswer => List.mem_cons_of_mem _ (h.answers document hanswer)
  | saved hsent step =>
    obtain ⟨hstored, hlawful⟩ := (h.sent _ hsent).saveStep hsent h.stored step
    refine ⟨⟨h.pages, h.sent, hstored, h.answers⟩, ?_⟩
    rintro _ ⟨⟩
    exact hlawful
  | restarted step =>
    have hstored := h.stored
    generalize desk.host = host at step hstored
    cases step
    exact ⟨⟨h.pages, h.sent, hstored, h.answers⟩, by simp⟩
  | answered hload =>
    refine ⟨⟨h.pages, h.sent, h.stored, ?_⟩, by simp⟩
    intro document hanswer
    rcases List.mem_cons.mp hanswer with hnew | hold
    · obtain ⟨answer, hanswer, hread⟩ := h.stored.load hjson
      cases hload.symm.trans hanswer
      exact hread document hnew.symm
    · exact h.answers document hold
  | missed =>
    refine ⟨⟨h.pages, h.sent, h.stored, fun document hanswer => ?_⟩, by simp⟩
    exact h.answers document ((List.mem_cons.mp hanswer).resolve_left (by simp))
  | loaded page hpage hanswer =>
    have hsound := h.sent _ (h.answers _ hanswer)
    rw [hsound.normalize]
    exact ⟨⟨forall_mem_set h.pages _ hsound, h.sent, h.stored, h.answers⟩, by simp⟩

theorem DeskRun.inv {saves : List (WorkspaceSnapshot × WorkspaceOutcome)}
    (h : DeskRun readBack encodedLength .fresh saves desk) (hjson : Survives readBack desk.sent) :
    Inv desk ∧ ∀ save ∈ saves, LawfulSave save := by
  induction h with
  | nil => exact ⟨inv_fresh, by simp⟩
  | snoc _ step ih =>
    have hbefore := fun document hsent => hjson document (step.sent_subset hsent)
    obtain ⟨hinv, hsaves⟩ := ih hbefore
    obtain ⟨hinv', hsave⟩ := hinv.step hbefore step
    refine ⟨hinv', List.forall_mem_append.mpr ⟨hsaves, fun save hmem => ?_⟩⟩
    exact hsave save (Option.mem_toList.mp hmem)

/-- **The pages and their server**, in every run whose snapshots survive JSON: the pages have sound
documents, the server refuses what is too complex and nothing else, whatever its files do no load
answers an error, and what is loaded is what some page has sent. -/
theorem desk_run {saves : List (WorkspaceSnapshot × WorkspaceOutcome)}
    (h : DeskRun readBack encodedLength .fresh saves desk) (hjson : Survives readBack desk.sent) :
    (∀ workspace ∈ desk.pages, Sound workspace) ∧ (∀ save ∈ saves, LawfulSave save) ∧
      (∃ answer, loadWorkspace readBack desk.host.dir = .ok answer ∧
        ∀ document ∈ answer, normalizeWorkspace document.workspace ∈ desk.sent) ∧
      ∀ document, some document ∈ desk.answers →
        normalizeWorkspace document.workspace ∈ desk.sent := by
  obtain ⟨hinv, hsaves⟩ := h.inv hjson
  obtain ⟨answer, hload, hread⟩ := hinv.stored.load hjson
  have hnormal : ∀ workspace ∈ desk.sent, normalizeWorkspace workspace ∈ desk.sent :=
    fun workspace hsent => by
      rw [(hinv.sent workspace hsent).normalize]
      exact hsent
  exact ⟨hinv.pages, hsaves, ⟨answer, hload, fun document hdoc => hnormal _ (hread document hdoc)⟩,
    fun document hanswer => hnormal _ (hinv.answers document hanswer)⟩

/-! ### Two pages -/

def altitudeField : SeriesCatalogItem :=
  { selector := .standard "derived.altitude", group := "derived", label := "Altitude"
    unit := some "m" }

/-- The default document with an aircraft, its altitude in the basket. -/
def basketed : WorkspaceSnapshot :=
  addField (selectAircraft defaultWorkspace (some "a")) altitudeField 0

/-- A chart of the basket. -/
def charted : WorkspaceSnapshot := createChart basketed "chart-1" (some "Altitude")

theorem offered_charted : Offered basketed (.createChart "chart-1" (some "Altitude")) := by
  simp [Offered, basketed, addField, addToBasket, selectAircraft, defaultWorkspace]

theorem sound_charted : Sound charted :=
  ((sound_default.selectAircraft _).addField altitudeField 0).createChart _ offered_charted

/-- The directory after the save. -/
def chartedDir : WorkspaceDir :=
  (((∅ : WorkspaceDir).insert workspaceTemporary (.document ⟨1, .finite 0, charted⟩)).erase
    workspaceTemporary).insert workspacePath (.document ⟨1, .finite 0, charted⟩)

theorem saved_charted :
    WorkspaceStep (fun _ => 700) ⟨∅, some 0⟩ (.save charted (.finite 0) fun _ => .works)
      (.saved ⟨1, .finite 0, charted⟩) ⟨chartedDir, some 1⟩ := by
  have hvalid : validate charted = .ok () := by
    rw [sound_charted.validate]
    rfl
  have hsave : saveWorkspace (fun _ => 700) 0 (.finite 0) charted =
      (1, writeDocument (fun _ => 700) ⟨1, .finite 0, charted⟩) := by
    rw [saveWorkspace, hvalid]
    rfl
  have hrun : (saveWorkspace (fun _ => 700) 0 (.finite 0) charted).2.run workspaceDisk
      (fun _ => .works) ∅ = .returned (.ok ⟨1, .finite 0, charted⟩) chartedDir := by
    rw [hsave]
    rfl
  have hstep := WorkspaceStep.saved (hrun ▸ exec_run workspaceDisk (fun _ => .works)
    (saveWorkspace (fun _ => 700) 0 (.finite 0) charted).2 ∅)
  rw [hsave] at hstep
  exact hstep

/-- A page makes a chart and saves it, and a second page loads it. -/
theorem desk_run_two :
    ∃ desk saves, DeskRun id (fun _ => 700) .fresh saves desk ∧ desk.pages = [charted, charted] ∧
      saves.length = 1 ∧ (∀ workspace ∈ desk.pages, Sound workspace) ∧
      ∀ save ∈ saves, LawfulSave save := by
  have hopened : DeskRun id (fun _ => 700) .fresh [] _ := (DeskRun.nil .fresh).snoc (.opened _)
  have hselected := hopened.snoc (.edited 0 (.selectAircraft (some "a")) rfl trivial)
  have hbasketed := hselected.snoc (.edited 0 (.addField altitudeField 0) rfl trivial)
  have hcharted := hbasketed.snoc (.edited 0 _ rfl offered_charted)
  have hsent := hcharted.snoc (.sent 0 rfl)
  have hrestarted := hsent.snoc (.restarted (.restarted ∅ none true))
  have hsaved := hrestarted.snoc (.saved (List.mem_singleton_self _) saved_charted)
  have hanswered := hsaved.snoc (.answered rfl)
  have hsecond := hanswered.snoc (.opened _)
  have hloaded := hsecond.snoc (.loaded 1 rfl (List.mem_singleton_self _))
  have hlaws := desk_run hloaded fun _ _ => rfl
  exact ⟨_, _, hloaded, rfl, rfl, hlaws.1, hlaws.2.1⟩

end

end FlyRuler.Web.Editor
