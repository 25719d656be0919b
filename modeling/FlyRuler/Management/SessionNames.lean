import FlyRuler.Management.Operations
import FlyRuler.Management.Sessions
import Mathlib.Data.Finset.Sort

/-!
# Session names

Sessions, the work directories of a save and the directory of the workspace document share the
data root.  `validate_session_name` of `core/src/management/server.rs` says which names a session
may have, `session_list` of `core/src/management/routes.rs` which names of the data root it shows.

* `lookup_saveSnapshotAtomic`: a save touches its name and its two work directories only.
* `mem_sessionList_iff`: what is listed.
* `always_after`: what a save leaves under its name; `exists_success`: when it can succeed.
-/

namespace FlyRuler.Management

open FlyRuler.Store FlyRuler.Store.TimeSeriesStore FlyRuler.Lib.Faults

/-! ## Names -/

def ApiError.badRequest (code message : String) : ApiError := ⟨400, code, message⟩

/-- `validate_session_name`. -/
def validateSessionName (name : String) : Except ApiError Unit :=
  if name ≠ "" ∧ name.utf8ByteSize ≤ 128 ∧ name ≠ "." ∧ name ≠ ".." ∧
      name.toList.all (fun c => c.isAlphanum || c == '.' || c == '_' || c == '-') then .ok ()
  else .error (.badRequest "invalid_session_name"
    "session name must match [A-Za-z0-9._-]{1,128} and cannot be . or ..")

/-- `text.contains(part)`. -/
def occursIn (part text : String) : Prop := part.toList <:+: text.toList

instance (part text : String) : Decidable (occursIn part text) :=
  inferInstanceAs (Decidable (part.toList <:+: text.toList))

/-- The names that `session_list` takes for work directories. -/
def isWorkName (name : String) : Prop :=
  ".".toList <+: name.toList ∧ (occursIn ".tmp-" name ∨ occursIn ".bak-" name)

instance : DecidablePred isWorkName := fun name =>
  inferInstanceAs (Decidable (".".toList <+: name.toList ∧
    (occursIn ".tmp-" name ∨ occursIn ".bak-" name)))

/-- `session_list`: the names, with the summaries that can be read. -/
def sessionList (root : DataRoot) : List (String × Option MetaFile) :=
  root.keys.sort.filterMap fun name =>
    match root.lookup name with
    | some (.dir files) =>
      if isWorkName name then none
      else
        match files.lookup "meta.json" with
        | some (.summary file) => some (name, some file)
        | some _ => some (name, none)
        | none => none
    | _ => none

/-- `{data_root}/.fly-ruler/workspace.json`. -/
def workspaceFile (root : DataRoot) : Option Content :=
  match root.lookup ".fly-ruler" with
  | some (.dir files) => files.lookup "workspace.json"
  | _ => none

theorem mem_sessionList_iff {root : DataRoot} {name : String} :
    name ∈ (sessionList root).map Prod.fst ↔
      ¬isWorkName name ∧ ∃ files : Directory, root.lookup name = some (.dir files) ∧
        (files.lookup "meta.json").isSome := by
  simp only [sessionList, List.mem_map, List.mem_filterMap, Finset.mem_sort, Finmap.mem_keys]
  constructor
  · rintro ⟨⟨_, metadata⟩, ⟨name, -, h⟩, rfl⟩
    split at h
    · next files hdir =>
      split_ifs at h with hwork
      split at h <;> cases h
      · next hmeta => exact ⟨hwork, files, hdir, by rw [hmeta]; rfl⟩
      · next hmeta => exact ⟨hwork, files, hdir, by rw [hmeta]; rfl⟩
    · simp at h
  · rintro ⟨hwork, files, hdir, hmeta⟩
    obtain ⟨content, hmeta⟩ := Option.isSome_iff_exists.mp hmeta
    have hmem : name ∈ root := Finmap.mem_of_lookup_eq_some hdir
    cases content with
    | summary file => exact ⟨(name, some file), ⟨name, hmem, by simp [hdir, hwork, hmeta]⟩, rfl⟩
    | _ => exact ⟨(name, none), ⟨name, hmem, by simp [hdir, hwork, hmeta]⟩, rfl⟩

/-! ## What a save touches -/

section

variable {store : TimeSeriesStore} {plan : Site → Fault} {root : DataRoot} {name other : String}

theorem occursIn_temporaryName (name operationId : String) :
    occursIn operationId (temporaryName name operationId) := by
  rw [occursIn, temporaryName, String.toList_append]
  exact (List.suffix_append _ _).isInfix

theorem occursIn_backupName (name operationId : String) :
    occursIn operationId (backupName name operationId) := by
  rw [occursIn, backupName, String.toList_append]
  exact (List.suffix_append _ _).isInfix

theorem uses_clear {site : Site} {dir : String} (h : other ≠ dir) :
    (clear site dir).Uses (Op.Avoids other) := by
  refine (Prog.Uses.test _).bind fun b => ?_
  split
  · exact Prog.Uses.attempt _ (Op.avoids_removeDirAll h)
  · exact Prog.Uses.pure _

theorem uses_commitTarget {temporary backup : String} (hname : other ≠ name)
    (htemporary : other ≠ temporary) (hbackup : other ≠ backup) :
    (commitTarget name temporary backup).Uses (Op.Avoids other) := by
  refine (Prog.Uses.attempt _ (Op.avoids_rename htemporary hname)).bind fun b => ?_
  split
  · refine (Prog.Uses.attempt _ (Op.avoids_rename hbackup hname)).bind fun _ => ?_
    exact (Prog.Uses.attempt _ (Op.avoids_removeDirAll htemporary)).bind fun _ => Prog.Uses.pure _
  · refine (Prog.Uses.attempt _ (Op.avoids_removeDirAll hbackup)).bind fun _ => ?_
    split <;> exact Prog.Uses.pure _

theorem uses_commitSnapshot {temporary backup : String} {overwrite : Bool} (hname : other ≠ name)
    (htemporary : other ≠ temporary) (hbackup : other ≠ backup) :
    (commitSnapshot name temporary backup overwrite).Uses (Op.Avoids other) := by
  refine (Prog.Uses.test _).bind fun b => ?_
  split
  · refine (Prog.Uses.attempt _ (Op.avoids_rename htemporary hname)).bind fun _ => ?_
    split <;> exact Prog.Uses.pure _
  · split
    · refine (Prog.Uses.attempt _ (Op.avoids_removeDirAll htemporary)).bind fun _ => ?_
      split <;> exact Prog.Uses.pure _
    · refine (uses_clear hbackup).bind fun _ => ?_
      split
      · exact Prog.Uses.pure _
      · refine (Prog.Uses.attempt _ (Op.avoids_rename hname hbackup)).bind fun _ => ?_
        split
        · exact Prog.Uses.pure _
        · exact uses_commitTarget hname htemporary hbackup

/-- **A save touches its name and its two work directories only.** -/
theorem lookup_saveSnapshotAtomic {snapshot : SaveOrder store} {overwrite : Bool}
    {operationId : String} {ending : Ending DataRoot (Except SaveError Unit)}
    (h : Exec disk plan (saveSnapshotAtomic snapshot name overwrite operationId) root ending)
    (hname : other ≠ name) (htemporary : other ≠ temporaryName name operationId)
    (hbackup : other ≠ backupName name operationId) :
    ending.state.lookup other = root.lookup other := by
  refine lookup_exec h ?_
  rw [saveSnapshotAtomic_eq]
  refine (uses_clear htemporary).bind fun _ => ?_
  split
  · exact Prog.Uses.pure _
  · refine (uses_saveTo snapshot Site.save htemporary).bind fun saved => ?_
    rcases saved with error | _
    · exact (Prog.Uses.attempt _ (Op.avoids_removeDirAll htemporary)).bind fun _ => Prog.Uses.pure _
    · exact uses_commitSnapshot hname htemporary hbackup

/-! ## What a save leaves under its name -/

/-- No plain file is in the way. -/
def IsFree (entry : Option RootEntry) : Prop := ∀ content, entry ≠ some (.file content)

theorem Clears.isFree {site : Site} {entry : Option RootEntry} (h : Clears plan site entry) :
    IsFree entry := by
  rintro content rfl
  exact h

theorem clears_of_isFree {site : Site} {entry : Option RootEntry} (h : IsFree entry) :
    Clears (fun _ => .works) site entry := by
  rcases entry with _ | _ | content
  · trivial
  · rfl
  · exact h content rfl

/-- **A save can succeed.** -/
structure CanSucceed (root : DataRoot) (name : String) (overwrite : Bool) (operationId : String) :
    Prop where
  temporary : IsFree (root.lookup (temporaryName name operationId))
  target : IsFree (root.lookup name)
  overwrite : root.lookup name ≠ none →
    overwrite = true ∧ IsFree (root.lookup (backupName name operationId))

/-- What the removal of the backup at the end leaves. -/
theorem always_dropBackup {backup : String} {entry : RootEntry} {new : Option RootEntry}
    (hne : name ≠ backup) (htarget : root.lookup name = new)
    (hbackup : root.lookup backup = some entry) :
    Always disk plan (dropBackup backup) root fun ending =>
      ending.state.lookup name = new ∧
        ∀ root', ending = .returned (.ok ()) root' → ∃ old, entry = .dir old := by
  rw [dropBackup, always_bind, always_attempt]
  refine ⟨fun b root' answers => ?_, fun root' answers => ?_⟩
  · rcases answers.effect with ⟨hb, -, hdoes⟩ | ⟨hb, htorn⟩
    · cases hb
      have hkept := Op.does_lookup_ne (show (Op.removeDirAll backup).does root = some root' from
        hdoes) (Op.avoids_removeDirAll hne)
      have hdir : ∃ old, entry = .dir old := by
        rcases entry with old | content
        · exact ⟨old, rfl⟩
        · simp [disk, Op.does, hbackup] at hdoes
      simp [Ending.state, hkept, htarget, hdir]
    · rw [ne_eq, Option.some.injEq, Bool.not_eq_true] at hb
      have hkept := Op.Torn.lookup_ne htorn (Op.avoids_removeDirAll hne)
      simp [hb, Ending.state, hkept, htarget]
  · rcases answers.effect with ⟨hb, -⟩ | ⟨-, htorn⟩
    · simp at hb
    · have hkept := Op.Torn.lookup_ne htorn (Op.avoids_removeDirAll hne)
      simp [Ending.Before, Ending.state, hkept, htarget]

/-- What the way back leaves: nothing or the old session, and no success. -/
theorem always_rollBack {temporary backup : String} {entry : RootEntry} (hne : name ≠ temporary)
    (htarget : root.lookup name = none) (hbackup : root.lookup backup = some entry) :
    Always disk plan (rollBack name temporary backup) root fun ending =>
      (ending.state.lookup name = none ∨ ending.state.lookup name = some entry) ∧
        ∀ root', ending ≠ .returned (.ok ()) root' := by
  have hdiscard : ∀ root' : DataRoot, (root'.lookup name = none ∨ root'.lookup name = some entry) →
      Always disk plan (.attempt .discardUncommitted (.removeDirAll temporary) >>= fun _ =>
        pure (.error SaveError.io)) root' fun ending : Ending DataRoot (Except SaveError Unit) =>
        (ending.state.lookup name = none ∨ ending.state.lookup name = some entry) ∧
          ∀ root'', ending ≠ .returned (.ok ()) root'' := by
    intro root' hroot'
    rw [always_bind]
    refine always_attempt_other (Op.avoids_removeDirAll hne) (fun b root'' hkept => ?_)
      fun root'' hkept => ?_
    · simpa [Ending.state, hkept] using hroot'
    · simpa [Ending.Before, Ending.state, hkept] using hroot'
  rw [rollBack, always_bind, always_attempt]
  refine ⟨fun b root' answers => ?_, fun root' answers => ?_⟩
  · refine hdiscard root' ?_
    rcases answers.effect with ⟨-, -, hdoes⟩ | ⟨-, htorn⟩
    · rw [does_rename hbackup htarget] at hdoes
      cases hdoes
      exact .inr (Finmap.lookup_insert _)
    · rw [torn_rename.mp htorn]
      exact .inl htarget
  · rcases answers.effect with ⟨hb, -⟩ | ⟨-, htorn⟩
    · cases hb
    · rw [torn_rename.mp htorn]
      simp [Ending.Before, Ending.state, htarget]

/-- What the end of a save leaves: nothing, the old or the new session, and the new one if it
succeeds. -/
theorem always_commitTarget {temporary backup : String} {entry : RootEntry} {files : Directory}
    (hne : name ≠ temporary) (hne' : name ≠ backup) (hne'' : temporary ≠ backup)
    (htarget : root.lookup name = none) (htemporary : root.lookup temporary = some (.dir files))
    (hbackup : root.lookup backup = some entry) :
    Always disk plan (commitTarget name temporary backup) root fun ending =>
      (ending.state.lookup name = none ∨ ending.state.lookup name = some entry ∨
        ending.state.lookup name = some (.dir files)) ∧
      ∀ root', ending = .returned (.ok ()) root' →
        root'.lookup name = some (.dir files) ∧ ∃ old, entry = .dir old := by
  rw [commitTarget, always_bind, always_attempt]
  refine ⟨fun b root' answers => ?_, fun root' answers => ?_⟩
  · rcases answers.effect with ⟨hb, -, hdoes⟩ | ⟨hb, htorn⟩
    · cases hb
      rw [does_rename htemporary htarget] at hdoes
      cases hdoes
      rw [before_returned]
      have hbackup' : ((root.erase temporary).insert name (.dir files)).lookup backup =
          some entry := by
        rw [Finmap.lookup_insert_of_ne _ hne'.symm, Finmap.lookup_erase_ne hne''.symm, hbackup]
      refine (always_dropBackup hne' (Finmap.lookup_insert _) hbackup').mono ?_
      rintro ending ⟨hnew, hok⟩
      refine ⟨.inr (.inr hnew), ?_⟩
      rintro root' rfl
      exact ⟨hnew, hok root' rfl⟩
    · rw [ne_eq, Option.some.injEq, Bool.not_eq_true] at hb
      rw [hb, torn_rename.mp htorn, before_returned]
      refine (always_rollBack hne htarget hbackup).mono ?_
      rintro ending ⟨hleft, hok⟩
      exact ⟨hleft.imp_right .inl, fun root' h => absurd h (hok root')⟩
  · rcases answers.effect with ⟨hb, -⟩ | ⟨-, htorn⟩
    · cases hb
    · rw [torn_rename.mp htorn]
      simp [Ending.Before, Ending.state, htarget]

/-- The end of a save succeeds if everything works and a directory is replaced. -/
theorem not_always_commitTarget {temporary backup : String} {files old : Directory}
    {Q : Ending DataRoot (Except SaveError Unit) → Prop}
    (hne' : name ≠ backup) (hne'' : temporary ≠ backup)
    (htarget : root.lookup name = none) (htemporary : root.lookup temporary = some (.dir files))
    (hbackup : root.lookup backup = some (.dir old))
    (hQ : ∀ root', ¬Q (.returned (.ok ()) root')) :
    ¬Always disk (fun _ => .works) (commitTarget name temporary backup) root Q := by
  have hbackup' : ((root.erase temporary).insert name (.dir files)).lookup backup =
      some (.dir old) := by
    rw [Finmap.lookup_insert_of_ne _ hne'.symm, Finmap.lookup_erase_ne hne''.symm, hbackup]
  have hremove : disk.does (.removeDirAll backup) ((root.erase temporary).insert name
      (.dir files)) = some (((root.erase temporary).insert name (.dir files)).erase backup) := by
    simp only [disk, Op.does, hbackup']
  rw [commitTarget, always_bind, always_attempt_works rfl (does_rename htemporary htarget),
    before_returned]
  simp only [Bool.not_true, Bool.false_eq_true, if_false]
  rw [dropBackup, always_bind, always_attempt_works rfl hremove, before_returned]
  simpa using hQ _

section

variable {snapshot : SaveOrder store} {overwrite : Bool} {operationId : String}

theorem lookup_movedRoot (root : DataRoot) (name operationId : String) (files : Directory)
    (entry : RootEntry) :
    (movedRoot (savedRoot root (temporaryName name operationId) files) name
        (backupName name operationId) entry).lookup name = none ∧
      (movedRoot (savedRoot root (temporaryName name operationId) files) name
        (backupName name operationId) entry).lookup (temporaryName name operationId) =
          some (.dir files) ∧
      (movedRoot (savedRoot root (temporaryName name operationId) files) name
        (backupName name operationId) entry).lookup (backupName name operationId) = some entry := by
  have hne := name_ne_temporary name operationId
  have hne' := name_ne_backup name operationId
  have hne'' := temporary_ne_backup name operationId
  refine ⟨?_, ?_, Finmap.lookup_insert _⟩
  · rw [movedRoot, Finmap.lookup_insert_of_ne _ hne', Finmap.lookup_erase]
  · rw [movedRoot, Finmap.lookup_insert_of_ne _ hne'', Finmap.lookup_erase_ne hne.symm,
      Finmap.lookup_erase_ne hne'', savedRoot, Finmap.lookup_insert]

/-- **What a save leaves under its name.** -/
theorem always_after :
    Always disk plan (saveSnapshotAtomic snapshot name overwrite operationId) root fun ending =>
      (ending.state.lookup name = root.lookup name ∨
        (ending.state.lookup name = none ∨
          ending.state.lookup name = some (.dir (sessionFiles snapshot))) ∧
          (IsFree (root.lookup name) → CanSucceed root name overwrite operationId)) ∧
      ∀ root', ending = .returned (.ok ()) root' →
        root'.lookup name = some (.dir (sessionFiles snapshot)) ∧
          CanSucceed root name overwrite operationId := by
  refine (Tolerates.saveSnapshotAtomic ⟨fun error root' hkept => ⟨.inl hkept, by simp⟩,
    fun root' hkept => ⟨.inl hkept, by simp⟩⟩ snapshot overwrite operationId).mpr ?_
  intro htemporary _
  refine ⟨fun hnone _ => ?_, fun old hold hoverwrite hbackup _ => ?_⟩
  · have hcan : CanSucceed root name overwrite operationId :=
      ⟨htemporary.isFree, by simp [hnone, IsFree], fun hsome => absurd hnone hsome⟩
    have hnew : ∀ root' : DataRoot, (root'.insert name (.dir (sessionFiles snapshot))).lookup
        name = some (.dir (sessionFiles snapshot)) := fun root' => Finmap.lookup_insert _
    refine ⟨.inr ⟨.inr (hnew _), fun _ => hcan⟩, ?_⟩
    rintro _ ⟨⟩
    exact ⟨hnew _, hcan⟩
  · obtain ⟨hmoved, hmoved', hmoved''⟩ := lookup_movedRoot root name operationId
      (sessionFiles snapshot) old
    have hcan : IsFree (root.lookup name) → CanSucceed root name overwrite operationId :=
      fun hfree => ⟨htemporary.isFree, hfree, fun _ => ⟨hoverwrite, hbackup.isFree⟩⟩
    refine (always_commitTarget (name_ne_temporary _ _) (name_ne_backup _ _)
      (temporary_ne_backup _ _) hmoved hmoved' hmoved'').mono ?_
    rintro ending ⟨hleft, hok⟩
    constructor
    · rcases hleft with hleft | hleft | hleft
      · exact .inr ⟨.inl hleft, hcan⟩
      · exact .inl (hleft.trans hold.symm)
      · exact .inr ⟨.inr hleft, hcan⟩
    · intro root' h
      obtain ⟨hnew, dir, rfl⟩ := hok root' h
      exact ⟨hnew, hcan (by simp [hold, IsFree])⟩

/-- A save that can succeed does so if every call works. -/
theorem exists_success (snapshot : SaveOrder store)
    (h : CanSucceed root name overwrite operationId) :
    ∃ root', Exec disk (fun _ => .works)
      (saveSnapshotAtomic snapshot name overwrite operationId) root (.returned (.ok ()) root') := by
  by_contra hnone
  have hQ : Always disk (fun _ => .works) (saveSnapshotAtomic snapshot name overwrite operationId)
      root fun ending => ∀ root', ending ≠ .returned (.ok ()) root' := by
    rintro ending hexec root' rfl
    exact hnone ⟨root', hexec⟩
  rw [Tolerates.saveSnapshotAtomic ⟨by simp, by simp⟩] at hQ
  obtain ⟨hfresh, hmove⟩ := hQ (clears_of_isFree h.temporary) fun _ => rfl
  rcases htarget : root.lookup name with _ | old | content
  · exact hfresh htarget rfl _ rfl
  · obtain ⟨hoverwrite, hbackup⟩ := h.overwrite (by simp [htarget])
    obtain ⟨hmoved, hmoved', hmoved''⟩ := lookup_movedRoot root name operationId
      (sessionFiles snapshot) (.dir old)
    refine not_always_commitTarget (name_ne_backup _ _) (temporary_ne_backup _ _) hmoved hmoved'
      hmoved'' ?_ (hmove _ htarget hoverwrite (clears_of_isFree hbackup) rfl)
    exact fun root' h => h root' rfl
  · exact h.target content htarget

end

/-! ## Separation -/

/-- Any number of saves of other names, however they end. -/
inductive Later (name : String) : DataRoot → DataRoot → Prop where
  | refl (root : DataRoot) : Later name root root
  | save {root root' : DataRoot} {store : TimeSeriesStore} {snapshot : SaveOrder store}
      {plan : Site → Fault} {other operationId : String} {overwrite : Bool}
      {ending : Ending DataRoot (Except SaveError Unit)} (h : Later name root root')
      (hother : other ≠ name) (hid : ¬occursIn operationId name)
      (hsave : Exec disk plan (saveSnapshotAtomic snapshot other overwrite operationId) root'
        ending) : Later name root ending.state

/-- **Session names are separate**: a save changes no other session and not the workspace document,
and what it saves is listed from then on. -/
def Separated (root : DataRoot) (name : String) (overwrite : Bool) (operationId : String) : Prop :=
  ∀ (store : TimeSeriesStore) (snapshot : SaveOrder store) (plan : Site → Fault)
    (ending : Ending DataRoot (Except SaveError Unit)),
    Exec disk plan (saveSnapshotAtomic snapshot name overwrite operationId) root ending →
    (∀ other, validateSessionName other = .ok () → other ≠ name → ¬occursIn operationId other →
      ending.state.lookup other = root.lookup other) ∧
    workspaceFile ending.state = workspaceFile root ∧
    ∀ root', ending = .returned (.ok ()) root' → ∀ later, Later name root' later →
      name ∈ (sessionList later).map Prod.fst

theorem lookup_other {snapshot : SaveOrder store} {overwrite : Bool} {operationId : String}
    {ending : Ending DataRoot (Except SaveError Unit)}
    (h : Exec disk plan (saveSnapshotAtomic snapshot name overwrite operationId) root ending)
    (hname : other ≠ name) (hid : ¬occursIn operationId other) :
    ending.state.lookup other = root.lookup other := by
  refine lookup_saveSnapshotAtomic h hname ?_ ?_
  · rintro rfl
    exact hid (occursIn_temporaryName name operationId)
  · rintro rfl
    exact hid (occursIn_backupName name operationId)

theorem Later.lookup_eq {root' : DataRoot} (h : Later name root root') :
    root'.lookup name = root.lookup name := by
  induction h with
  | refl => rfl
  | save h hother hid hsave ih => exact (lookup_other hsave hother.symm hid).trans ih

theorem flyRuler_ne_temporaryName (name operationId : String) :
    ".fly-ruler" ≠ temporaryName name operationId := by
  intro h
  have hoccurs : occursIn ".tmp-" (temporaryName name operationId) := by
    refine ⟨("." ++ name).toList, operationId.toList, ?_⟩
    simp only [temporaryName, String.toList_append]
  rw [← h] at hoccurs
  exact absurd hoccurs (by decide +kernel)

theorem flyRuler_ne_backupName (name operationId : String) :
    ".fly-ruler" ≠ backupName name operationId := by
  intro h
  have hoccurs : occursIn ".bak-" (backupName name operationId) := by
    refine ⟨("." ++ name).toList, operationId.toList, ?_⟩
    simp only [backupName, String.toList_append]
  rw [← h] at hoccurs
  exact absurd hoccurs (by decide +kernel)

theorem workspaceFile_congr {root' : DataRoot}
    (h : root'.lookup ".fly-ruler" = root.lookup ".fly-ruler") :
    workspaceFile root' = workspaceFile root := by
  rw [workspaceFile, workspaceFile, h]

/-- A session has no workspace document. -/
theorem workspaceFile_session {snapshot : SaveOrder store}
    (h : root.lookup ".fly-ruler" = some (.dir (sessionFiles snapshot))) :
    workspaceFile root = none := by
  rw [workspaceFile, h]
  simp only [sessionFiles]
  rw [Finmap.lookup_insert_of_ne _ (by decide), Finmap.lookup_insert_of_ne _ (by decide),
    Finmap.lookup_insert_of_ne _ (by decide), Finmap.lookup_insert_of_ne _ (by decide),
    Finmap.lookup_empty]

theorem lookup_meta_session (snapshot : SaveOrder store) :
    ((sessionFiles snapshot).lookup "meta.json").isSome := by
  rw [sessionFiles, Finmap.lookup_insert_of_ne _ (by decide),
    Finmap.lookup_insert_of_ne _ (by decide), Finmap.lookup_insert_of_ne _ (by decide),
    Finmap.lookup_insert]
  rfl

/-- The workspace document survives every save unless its own directory is replaced. -/
theorem workspaceFile_saveSnapshotAtomic {snapshot : SaveOrder store} {overwrite : Bool}
    {operationId : String} {ending : Ending DataRoot (Except SaveError Unit)}
    (hdoc : ¬(CanSucceed root name overwrite operationId ∧ name = ".fly-ruler" ∧
      (workspaceFile root).isSome))
    (h : Exec disk plan (saveSnapshotAtomic snapshot name overwrite operationId) root ending) :
    workspaceFile ending.state = workspaceFile root := by
  rcases eq_or_ne name ".fly-ruler" with rfl | hname
  · obtain ⟨hkept | ⟨hleft, hcan⟩, -⟩ := always_after _ h
    · exact workspaceFile_congr hkept
    · have hnone : workspaceFile root = none := by
        by_contra hsome
        rw [← ne_eq, Option.ne_none_iff_isSome] at hsome
        refine hdoc ⟨hcan ?_, rfl, hsome⟩
        rintro content hfile
        simp [workspaceFile, hfile] at hsome
      rw [hnone]
      rcases hleft with hleft | hleft
      · rw [workspaceFile, hleft]
      · exact workspaceFile_session hleft
  · exact workspaceFile_congr (lookup_saveSnapshotAtomic h hname.symm
      (flyRuler_ne_temporaryName name operationId) (flyRuler_ne_backupName name operationId))

/-- **When names are separate**: unless a save can succeed under a name that the listing takes for a
work directory, or can replace the directory of the workspace document. -/
theorem separated_iff (root : DataRoot) (name : String) (overwrite : Bool) (operationId : String) :
    Separated root name overwrite operationId ↔
      ¬(CanSucceed root name overwrite operationId ∧
        (isWorkName name ∨ name = ".fly-ruler" ∧ (workspaceFile root).isSome)) := by
  constructor
  · rintro hseparated ⟨hcan, hname⟩
    obtain ⟨root', hexec⟩ := exists_success (.ofKeys {}) hcan
    obtain ⟨-, hdoc, hlisted⟩ := hseparated _ _ _ _ hexec
    rcases hname with hwork | ⟨rfl, hsome⟩
    · exact (mem_sessionList_iff.mp (hlisted root' rfl root' (.refl root'))).1 hwork
    · have hnew := ((always_after _ hexec).2 root' rfl).1
      rw [← hdoc, Ending.state, workspaceFile_session hnew] at hsome
      cases hsome
  · intro h store snapshot plan ending hexec
    refine ⟨fun other _ hname hid => lookup_other hexec hname hid,
      workspaceFile_saveSnapshotAtomic (fun hdoc => h ⟨hdoc.1, .inr hdoc.2⟩) hexec, ?_⟩
    rintro root' rfl later hlater
    obtain ⟨hnew, hcan⟩ := (always_after _ hexec).2 root' rfl
    have hentry : later.lookup name = some (.dir (sessionFiles snapshot)) :=
      hlater.lookup_eq.trans hnew
    exact mem_sessionList_iff.mpr ⟨fun hwork => h ⟨hcan, .inl hwork⟩, _, hentry,
      lookup_meta_session snapshot⟩

/-- **A hidden session and a lost workspace**: `.a.tmp-b` is saved and not listed. -/
theorem not_separated_hidden :
    ¬∀ (root : DataRoot) (name : String) (overwrite : Bool) (operationId : String),
      validateSessionName name = .ok () → Separated root name overwrite operationId := by
  intro h
  have hsave := h ∅ ".a.tmp-b" false "0" (by decide +kernel) {} (.ofKeys {}) (fun _ => .works) _
    (exec_run _ _ _ _)
  have hlisted := hsave.2.2 ((∅ : DataRoot).insert ".a.tmp-b" (.dir (sessionFiles (.ofKeys {}))))
    (by decide +kernel) _ (.refl _)
  revert hlisted
  decide +kernel

end

end FlyRuler.Management
