import FlyRuler.Store.Disk

/-!
# Replacing a session

`save_snapshot_atomic` of `core/src/management/server.rs`: the snapshot is saved beside the session
of that name, which is moved aside, and the new one is moved into its place.
-/

namespace FlyRuler.Management

open FlyRuler.Pb FlyRuler.Store FlyRuler.Store.TimeSeriesStore FlyRuler.Lib.Faults

/-! ## The program -/

/-- The places of `save_snapshot_atomic` that can fail. -/
inductive Site where
  | clearTemporary
  | save (site : SaveSite)
  | discardUnsaved
  | commitFresh
  | refuse
  | clearBackup
  | moveAside
  | commit
  | rollback
  | discardUncommitted
  | removeBackup
  deriving DecidableEq

def temporaryName (name operationId : String) : String := "." ++ name ++ ".tmp-" ++ operationId
def backupName (name operationId : String) : String := "." ++ name ++ ".bak-" ++ operationId

/-- `if path.exists() { fs::remove_dir_all(path)? }`. -/
def clear (site : Site) (dir : String) : Prog Site Op DataRoot Bool := do
  if ← Prog.test (DataRoot.exists dir) then .attempt site (.removeDirAll dir) else return true

variable {store : TimeSeriesStore}

/-- `save_snapshot_atomic`. -/
def saveSnapshotAtomic (snapshot : SaveOrder store) (name : String) (overwrite : Bool)
    (operationId : String) : Prog Site Op DataRoot (Except SaveError Unit) := do
  let target := name
  let temporary := temporaryName name operationId
  let backup := backupName name operationId
  if !(← clear .clearTemporary temporary) then return .error .io
  if let .error error ← saveTo snapshot .save temporary then
    let _ ← .attempt .discardUnsaved (.removeDirAll temporary)
    return .error error
  if !(← .test (DataRoot.exists target)) then
    if !(← .attempt .commitFresh (.rename temporary target)) then return .error .io
    return .ok ()
  if !overwrite then
    if !(← .attempt .refuse (.removeDirAll temporary)) then return .error .io
    return .error (.store (.invalidData "session already exists"))
  if !(← clear .clearBackup backup) then return .error .io
  if !(← .attempt .moveAside (.rename target backup)) then return .error .io
  if !(← .attempt .commit (.rename temporary target)) then
    let _ ← .attempt .rollback (.rename backup target)
    let _ ← .attempt .discardUncommitted (.removeDirAll temporary)
    return .error .io
  if !(← .attempt .removeBackup (.removeDirAll backup)) then return .error .io
  return .ok ()

/-- What `save_snapshot_atomic` does once the new session is in its place. -/
def dropBackup (backup : String) : Prog Site Op DataRoot (Except SaveError Unit) := do
  if !(← .attempt .removeBackup (.removeDirAll backup)) then return .error .io
  return .ok ()

/-- What it does if the new session could not be moved into its place. -/
def rollBack (target temporary backup : String) :
    Prog Site Op DataRoot (Except SaveError Unit) := do
  let _ ← .attempt .rollback (.rename backup target)
  let _ ← .attempt .discardUncommitted (.removeDirAll temporary)
  return .error .io

/-- What it does once the old session is moved aside. -/
def commitTarget (target temporary backup : String) :
    Prog Site Op DataRoot (Except SaveError Unit) := do
  if !(← .attempt .commit (.rename temporary target)) then rollBack target temporary backup
  else dropBackup backup

/-- What it does from the removal of an old backup on. -/
def replaceTarget (target temporary backup : String) :
    Prog Site Op DataRoot (Except SaveError Unit) := do
  if !(← clear .clearBackup backup) then return .error .io
  if !(← .attempt .moveAside (.rename target backup)) then return .error .io
  commitTarget target temporary backup

/-- What it does once the snapshot is saved beside the target. -/
def commitSnapshot (target temporary backup : String) (overwrite : Bool) :
    Prog Site Op DataRoot (Except SaveError Unit) := do
  if !(← .test (DataRoot.exists target)) then
    if !(← .attempt .commitFresh (.rename temporary target)) then return .error .io
    return .ok ()
  if !overwrite then
    if !(← .attempt .refuse (.removeDirAll temporary)) then return .error .io
    return .error (.store (.invalidData "session already exists"))
  replaceTarget target temporary backup

/-- What it does with the outcome of saving the snapshot beside the target. -/
def afterSave (target temporary backup : String) (overwrite : Bool) :
    Except SaveError Unit → Prog Site Op DataRoot (Except SaveError Unit)
  | .error error => do
    let _ ← .attempt .discardUnsaved (.removeDirAll temporary)
    return .error error
  | .ok _ => commitSnapshot target temporary backup overwrite

theorem saveSnapshotAtomic_eq (snapshot : SaveOrder store) (name : String) (overwrite : Bool)
    (operationId : String) :
    saveSnapshotAtomic snapshot name overwrite operationId = (do
      if !(← clear .clearTemporary (temporaryName name operationId)) then return .error .io
      let saved ← saveTo snapshot .save (temporaryName name operationId)
      afterSave name (temporaryName name operationId) (backupName name operationId) overwrite
        saved) := by
  refine congrArg (clear .clearTemporary _ >>= ·) (funext fun b => ?_)
  cases b
  · rfl
  · change saveTo snapshot Site.save (temporaryName name operationId) >>= _ = _
    refine congrArg (saveTo snapshot Site.save _ >>= ·) (funext fun saved => ?_)
    rcases saved with error | _ <;> rfl

/-! ## Names -/

theorem name_ne_temporary (name operationId : String) : name ≠ temporaryName name operationId := by
  intro h
  have hlength := congrArg String.length h
  simp only [temporaryName, String.length_append] at hlength
  have hdot : ".tmp-".length = 5 := by decide
  omega

theorem name_ne_backup (name operationId : String) : name ≠ backupName name operationId := by
  intro h
  have hlength := congrArg String.length h
  simp only [backupName, String.length_append] at hlength
  have hdot : ".bak-".length = 5 := by decide
  omega

theorem temporary_ne_backup (name operationId : String) :
    temporaryName name operationId ≠ backupName name operationId := by
  intro h
  have hlist := congrArg String.toList h
  simp [temporaryName, backupName, String.toList_append] at hlist

/-! ## What a save should leave -/

/-- Success with the new session in place, failure with the old state, and at a crash one of the
two, if there was a session. -/
def Saved (name : String) (old : Option RootEntry) (new : RootEntry) :
    Ending DataRoot (Except SaveError Unit) → Prop
  | .returned (.ok _) root => root.lookup name = some new
  | .returned (.error _) root => root.lookup name = old
  | .crashed root => old = none ∨ root.lookup name = old ∨ root.lookup name = some new

instance (name : String) (old : Option RootEntry) (new : RootEntry) :
    DecidablePred (Saved name old new)
  | .returned (.ok _) root => inferInstanceAs (Decidable (root.lookup name = some new))
  | .returned (.error _) root => inferInstanceAs (Decidable (root.lookup name = old))
  | .crashed root => inferInstanceAs
      (Decidable (old = none ∨ root.lookup name = old ∨ root.lookup name = some new))

/-- Whether `clear` makes its place free. -/
def Clears (plan : Site → Fault) (site : Site) : Option RootEntry → Prop
  | none => True
  | some (.dir _) => plan site = .works
  | some (.file _) => False

/-- **The old session is moved aside.** -/
structure MovedAside (plan : Site → Fault) (root : DataRoot) (temporary backup : String) :
    Prop where
  cleared : Clears plan .clearTemporary (root.lookup temporary)
  saved : ∀ site, plan (.save site) = .works
  backup : Clears plan .clearBackup (root.lookup backup)
  moved : plan .moveAside = .works

/-- What must not happen once the old session is moved aside: a crash before the new one is in its
place, a failure there that is not rolled back, and, unless old and new are equal, a backup that is
not removed. -/
def Exposed (plan : Site → Fault) (old new : RootEntry) : Prop :=
  plan .commit = .crashes ∨ plan .commit = .fails ∧ plan .rollback ≠ .works ∨
    plan .commit = .works ∧ old ≠ new ∧
      (plan .removeBackup = .fails ∨ plan .removeBackup = .works ∧ ∃ content, old = .file content)

/-! ## Parts that leave the target alone -/

variable {plan : Site → Fault} {root : DataRoot} {target : String} {old : Option RootEntry}
  {new : RootEntry}

/-- Failures and crashes that leave the target alone are fine. -/
structure Tolerates (target : String) (old : Option RootEntry)
    (Q : Ending DataRoot (Except SaveError Unit) → Prop) : Prop where
  error : ∀ error root, root.lookup target = old → Q (.returned (.error error) root)
  crash : ∀ root, root.lookup target = old → Q (.crashed root)

theorem tolerates_saved (target : String) (old : Option RootEntry) (new : RootEntry) :
    Tolerates target old (Saved target old new) :=
  ⟨fun _ _ h => h, fun _ h => .inr (.inl h)⟩

section

variable {Q : Ending DataRoot (Except SaveError Unit) → Prop}

/-- A call on other names, whatever it does. -/
theorem always_attempt_other {site : Site} {op : Op} (hname : Op.Avoids target op)
    {Q : Ending DataRoot Bool → Prop}
    (hreturned : ∀ b root', root'.lookup target = root.lookup target → Q (.returned b root'))
    (hcrashed : ∀ root', root'.lookup target = root.lookup target → Q (.crashed root')) :
    Always disk plan (.attempt site op) root Q := by
  rintro (⟨b, root'⟩ | root') hexec
  · exact hreturned b root' (lookup_exec hexec (Prog.Uses.attempt site hname))
  · exact hcrashed root' (lookup_exec hexec (Prog.Uses.attempt site hname))

/-- A call on other names before an error is returned. -/
theorem Tolerates.attempt (hQ : Tolerates target old Q) {site : Site} {op : Op}
    (hname : Op.Avoids target op) {error : Bool → SaveError} (h : root.lookup target = old) :
    Always disk plan (.attempt site op >>= fun b => pure (.error (error b))) root Q := by
  rw [always_bind]
  refine always_attempt_other hname (fun b root' hroot' => ?_) fun root' hroot' => ?_
  · rw [before_returned, always_pure]
    exact hQ.error _ _ (hroot'.trans h)
  · exact hQ.crash _ (hroot'.trans h)

theorem torn_rename {source target : String} {root' : DataRoot} :
    disk.torn (.rename source target) root root' ↔ root' = root := by
  constructor
  · rintro ⟨⟩
    rfl
  · rintro rfl
    exact .nothing _ _

/-- A directory in the way is removed, or the program ends in what `k false` and a crash give. -/
theorem always_clear {site : Site} {dir : String}
    {k : Bool → Prog Site Op DataRoot (Except SaveError Unit)}
    (hleft : ∀ root', (∀ name, name ≠ dir → root'.lookup name = root.lookup name) →
      Always disk plan (k false) root' Q ∧ Q (.crashed root')) :
    Always disk plan (clear site dir >>= k) root Q ↔
      (Clears plan site (root.lookup dir) → Always disk plan (k true) (root.erase dir) Q) := by
  have hother : ∀ root', disk.torn (.removeDirAll dir) root root' → ∀ name, name ≠ dir →
      root'.lookup name = root.lookup name := fun root' htorn name hname =>
    Op.Torn.lookup_ne htorn (Op.avoids_removeDirAll hname)
  rw [always_bind, clear, always_bind, always_test, before_returned]
  rcases hdir : root.lookup dir with _ | files | content
  · have herase : root.erase dir = root := by
      refine Finmap.ext_lookup fun name => ?_
      rcases eq_or_ne name dir with rfl | hname
      · rw [Finmap.lookup_erase, hdir]
      · exact Finmap.lookup_erase_ne hname
    simp [DataRoot.exists, hdir, Clears, herase]
  · simp only [DataRoot.exists, hdir, Option.isSome_some, if_true, Clears]
    rcases hplan : plan site with _ | _ | _
    · have hdoes : disk.does (.removeDirAll dir) root = some (root.erase dir) := by
        simp only [disk, Op.does, hdir]
      rw [always_attempt_works hplan hdoes, before_returned]
      simp
    · rw [always_attempt_fails hplan]
      simp only [reduceCtorEq, false_implies, iff_true]
      exact fun root' htorn => (hleft root' (hother root' htorn)).1
    · rw [always_attempt_crashes hplan]
      simp only [reduceCtorEq, false_implies, iff_true]
      exact fun root' htorn => (hleft root' (hother root' htorn)).2
  · simp only [DataRoot.exists, hdir, Option.isSome_some, if_true, Clears, false_implies, iff_true]
    refine always_attempt.mpr ⟨fun b root' answers => ?_, fun root' answers => ?_⟩
    · rcases answers.effect with ⟨-, -, hdoes⟩ | ⟨hb, htorn⟩
      · simp [disk, Op.does, hdir] at hdoes
      · rw [ne_eq, Option.some.injEq, Bool.not_eq_true] at hb
        rw [hb]
        exact (hleft root' (hother root' htorn)).1
    · rcases answers.effect with ⟨hb, -⟩ | ⟨-, htorn⟩
      · simp at hb
      · exact (hleft root' (hother root' htorn)).2

/-- The same where a directory in the way that stays is an error. -/
theorem Tolerates.clear (hQ : Tolerates target old Q) {site : Site} {dir : String}
    (hne : target ≠ dir) (h : root.lookup target = old)
    {p : Prog Site Op DataRoot (Except SaveError Unit)} :
    Always disk plan (clear site dir >>= fun b => if (!b) = true then pure (.error .io) else p)
      root Q ↔ (Clears plan site (root.lookup dir) → Always disk plan p (root.erase dir) Q) := by
  rw [always_clear]
  · simp only [Bool.not_true, Bool.false_eq_true, if_false]
  · intro root' hroot'
    have hkept : root'.lookup target = old := (hroot' target hne).trans h
    simp only [Bool.not_false, if_true, always_pure]
    exact ⟨hQ.error _ _ hkept, hQ.crash _ hkept⟩

end

/-! ## Parts that change the target -/

section

variable {temporary backup : String} {entry : RootEntry} {files : Directory}

theorem does_rename {source : String} {moved : RootEntry}
    (hsource : root.lookup source = some moved) (htarget : root.lookup target = none) :
    disk.does (.rename source target) root = some ((root.erase source).insert target moved) := by
  simp only [disk, Op.does, hsource, htarget, Op.replaces, if_true]

/-- The removal of the backup at the end. -/
theorem always_dropBackup_iff (hne : target ≠ backup) (hcommit : plan .commit = .works)
    (htarget : root.lookup target = some (.dir files)) (hbackup : root.lookup backup = some entry) :
    Always disk plan (dropBackup backup) root (Saved target (some entry) (.dir files)) ↔
      ¬Exposed plan entry (.dir files) := by
  have hother : ∀ root', disk.torn (.removeDirAll backup) root root' →
      root'.lookup target = some (.dir files) := by
    intro root' htorn
    rw [Op.Torn.lookup_ne htorn (Op.avoids_removeDirAll hne), htarget]
  rw [dropBackup, always_bind]
  simp only [Exposed, hcommit, reduceCtorEq, false_and, true_and, false_or]
  rcases hremove : plan .removeBackup with _ | _ | _
  · rcases entry with old | content
    · have hdoes : disk.does (.removeDirAll backup) root = some (root.erase backup) := by
        simp only [disk, Op.does, hbackup]
      rw [always_attempt_works hremove hdoes]
      simp [Saved, Finmap.lookup_erase_ne hne, htarget]
    · have hdoes : disk.does (.removeDirAll backup) root = none := by
        simp only [disk, Op.does, hbackup]
      rw [always_attempt_cannot hremove hdoes]
      simp [Saved, htarget]
  · rw [always_attempt_fails hremove]
    simp only [before_returned, Bool.not_false, if_true, always_pure, Saved, reduceCtorEq,
      false_and, or_false, and_true, not_not]
    constructor
    · intro h
      have hentry := h root (disk.torn_refl _ _)
      rw [htarget] at hentry
      exact (Option.some.inj hentry).symm
    · rintro rfl root' htorn
      exact hother root' htorn
  · rw [always_attempt_crashes hremove]
    simp only [before_crashed, Saved, reduceCtorEq, false_and, or_self, and_false, not_false_iff,
      iff_true]
    exact fun root' htorn => .inr (.inr (hother root' htorn))

/-- The way back after the new session could not be moved into its place. -/
theorem always_rollBack_iff (hne : target ≠ temporary) (hcommit : plan .commit = .fails)
    (htarget : root.lookup target = none) (hbackup : root.lookup backup = some entry) :
    Always disk plan (rollBack target temporary backup) root (Saved target (some entry) new) ↔
      ¬Exposed plan entry new := by
  have hname := Op.avoids_removeDirAll hne
  have hlost : ¬Always disk plan (.attempt .discardUncommitted (.removeDirAll temporary) >>=
      fun _ => pure (.error .io)) root (Saved target (some entry) new) := by
    refine not_always ?_
    rw [always_bind]
    refine always_attempt_other hname (fun b root' hroot' => ?_) fun root' hroot' => ?_
    · rw [before_returned, always_pure]
      simp [Saved, hroot', htarget]
    · simp [Ending.Before, Saved, hroot', htarget]
  rw [rollBack, always_bind]
  simp only [Exposed, hcommit, reduceCtorEq, false_and, true_and, false_or, or_false]
  rcases hrollback : plan .rollback with _ | _ | _
  · rw [always_attempt_works hrollback (does_rename hbackup htarget), before_returned]
    simp only [ne_eq, not_true, not_false_iff, iff_true]
    exact (tolerates_saved _ _ _).attempt hname (Finmap.lookup_insert _)
  · rw [always_attempt_fails hrollback]
    simp only [torn_rename, forall_eq, before_returned, ne_eq, reduceCtorEq, not_false_iff,
      not_true, iff_false]
    exact hlost
  · rw [always_attempt_crashes hrollback]
    simp [torn_rename, Ending.Before, Saved, htarget]

/-- **Moving the new session into its place.** -/
theorem always_commitTarget_iff (hne : target ≠ temporary) (hne' : target ≠ backup)
    (hne'' : temporary ≠ backup) (htarget : root.lookup target = none)
    (htemporary : root.lookup temporary = some (.dir files))
    (hbackup : root.lookup backup = some entry) :
    Always disk plan (commitTarget target temporary backup) root
      (Saved target (some entry) (.dir files)) ↔ ¬Exposed plan entry (.dir files) := by
  rw [commitTarget, always_bind]
  rcases hcommit : plan .commit with _ | _ | _
  · rw [always_attempt_works hcommit (does_rename htemporary htarget), before_returned]
    refine always_dropBackup_iff hne' hcommit (Finmap.lookup_insert _) ?_
    rw [Finmap.lookup_insert_of_ne _ hne'.symm, Finmap.lookup_erase_ne hne''.symm, hbackup]
  · rw [always_attempt_fails hcommit]
    simp only [torn_rename, forall_eq, before_returned]
    exact always_rollBack_iff hne hcommit htarget hbackup
  · rw [always_attempt_crashes hcommit]
    simp [torn_rename, Ending.Before, Saved, htarget, Exposed, hcommit]

/-! ## The whole program -/

/-- The root with the snapshot saved beside the target. -/
def savedRoot (root : DataRoot) (temporary : String) (files : Directory) : DataRoot :=
  (root.erase temporary).insert temporary (.dir files)

/-- The root with the old session moved aside. -/
def movedRoot (root : DataRoot) (target backup : String) (entry : RootEntry) : DataRoot :=
  ((root.erase backup).erase target).insert backup entry

section

variable {Q : Ending DataRoot (Except SaveError Unit) → Prop}

/-- From the removal of an old backup on. -/
theorem Tolerates.replaceTarget (hQ : Tolerates target (some entry) Q) (hne' : target ≠ backup)
    (htarget : root.lookup target = some entry) :
    Always disk plan (replaceTarget target temporary backup) root Q ↔
      (Clears plan .clearBackup (root.lookup backup) → plan .moveAside = .works →
        Always disk plan (commitTarget target temporary backup)
          (movedRoot root target backup entry) Q) := by
  rw [Management.replaceTarget, hQ.clear hne' htarget]
  refine imp_congr_right fun _ => ?_
  have htarget' : (root.erase backup).lookup target = some entry := by
    rw [Finmap.lookup_erase_ne hne', htarget]
  have hbackup' : (root.erase backup).lookup backup = none := Finmap.lookup_erase _ _
  rw [always_bind]
  rcases hmove : plan .moveAside with _ | _ | _
  · rw [always_attempt_works hmove (does_rename htarget' hbackup'), before_returned]
    simp only [Bool.not_true, Bool.false_eq_true, if_false, true_implies]
    rfl
  · rw [always_attempt_fails hmove]
    simp only [torn_rename, forall_eq, before_returned, Bool.not_false, if_true, always_pure,
      reduceCtorEq, false_implies, iff_true]
    exact hQ.error _ _ htarget'
  · rw [always_attempt_crashes hmove]
    simp only [torn_rename, forall_eq, before_crashed, reduceCtorEq, false_implies, iff_true]
    exact hQ.crash _ htarget'

/-- Once the snapshot is saved beside the target. -/
theorem Tolerates.commitSnapshot (hQ : Tolerates target (root.lookup target) Q)
    (hne : target ≠ temporary) (hne' : target ≠ backup) (overwrite : Bool)
    (htemporary : root.lookup temporary = some (.dir files)) :
    Always disk plan (commitSnapshot target temporary backup overwrite) root Q ↔
      (root.lookup target = none → plan .commitFresh = .works →
        Q (.returned (.ok ()) ((root.erase temporary).insert target (.dir files)))) ∧
      ∀ old, root.lookup target = some old → overwrite = true →
        Clears plan .clearBackup (root.lookup backup) → plan .moveAside = .works →
        Always disk plan (commitTarget target temporary backup)
          (movedRoot root target backup old) Q := by
  rw [Management.commitSnapshot, always_bind, always_test, before_returned]
  rcases htarget : root.lookup target with _ | entry
  · rw [htarget] at hQ
    simp only [DataRoot.exists, htarget, Option.isSome_none, Bool.not_false, if_true, reduceCtorEq,
      false_implies, implies_true, and_true, true_implies]
    rw [always_bind]
    rcases hcommit : plan .commitFresh with _ | _ | _
    · rw [always_attempt_works hcommit (does_rename htemporary htarget)]
      simp
    · rw [always_attempt_fails hcommit]
      simp only [torn_rename, forall_eq, before_returned, Bool.not_false, if_true, always_pure,
        reduceCtorEq, false_implies, iff_true]
      exact hQ.error _ _ htarget
    · rw [always_attempt_crashes hcommit]
      simp only [torn_rename, forall_eq, before_crashed, reduceCtorEq, false_implies, iff_true]
      exact hQ.crash _ htarget
  · rw [htarget] at hQ
    simp only [DataRoot.exists, htarget, Option.isSome_some, Bool.not_true, Bool.false_eq_true,
      if_false, reduceCtorEq, false_implies, true_and, Option.some.injEq, forall_eq']
    rcases overwrite with _ | _
    · simp only [Bool.not_false, if_true, Bool.false_eq_true, false_implies, iff_true]
      have hrefuse : ∀ b : Bool, (if (!b) = true then pure (.error SaveError.io)
          else pure (.error (.store (.invalidData "session already exists")))) =
          (pure (.error (if b then .store (.invalidData "session already exists") else .io)) :
            Prog Site Op DataRoot (Except SaveError Unit)) := by
        rintro (_ | _) <;> rfl
      simp only [hrefuse]
      exact hQ.attempt (Op.avoids_removeDirAll hne) htarget
    · simp only [Bool.not_true, Bool.false_eq_true, if_false, true_implies]
      exact hQ.replaceTarget hne' htarget

/-- **What a save comes down to**: it puts a first session in its place, or it moves an old one
aside and goes on from there; everything else leaves the target alone. -/
theorem Tolerates.saveSnapshotAtomic {name : String} (hQ : Tolerates name (root.lookup name) Q)
    (snapshot : SaveOrder store) (overwrite : Bool) (operationId : String) :
    Always disk plan (saveSnapshotAtomic snapshot name overwrite operationId) root Q ↔
      (Clears plan .clearTemporary (root.lookup (temporaryName name operationId)) →
        (∀ site, plan (.save site) = .works) →
        (root.lookup name = none → plan .commitFresh = .works →
          Q (.returned (.ok ()) (((savedRoot root (temporaryName name operationId)
            (sessionFiles snapshot)).erase (temporaryName name operationId)).insert name
            (.dir (sessionFiles snapshot))))) ∧
        ∀ old, root.lookup name = some old → overwrite = true →
          Clears plan .clearBackup (root.lookup (backupName name operationId)) →
          plan .moveAside = .works →
          Always disk plan (commitTarget name (temporaryName name operationId)
            (backupName name operationId))
            (movedRoot (savedRoot root (temporaryName name operationId) (sessionFiles snapshot))
              name (backupName name operationId) old) Q) := by
  have hne := name_ne_temporary name operationId
  have hne' := name_ne_backup name operationId
  have hne'' := temporary_ne_backup name operationId
  rw [saveSnapshotAtomic_eq, hQ.clear hne rfl]
  refine imp_congr_right fun _ => ?_
  have hroot : (root.erase (temporaryName name operationId)).lookup name = root.lookup name :=
    Finmap.lookup_erase_ne hne
  by_cases hsaved : ∀ site, plan (.save site) = .works
  · rw [always_bind, imp_iff_right hsaved]
    have hsaveTo : ∀ R, Always disk plan
        (saveTo snapshot Site.save (temporaryName name operationId))
        (root.erase (temporaryName name operationId)) R ↔ R (.returned (.ok ())
          (savedRoot root (temporaryName name operationId) (sessionFiles snapshot))) := by
      intro R
      simp only [Always, exec_saveTo_fresh (Finmap.lookup_erase _ root) hsaved, forall_eq,
        savedRoot]
    have hname : (savedRoot root (temporaryName name operationId)
        (sessionFiles snapshot)).lookup name = root.lookup name := by
      rw [savedRoot, Finmap.lookup_insert_of_ne _ hne, hroot]
    have hbackup : (savedRoot root (temporaryName name operationId)
        (sessionFiles snapshot)).lookup (backupName name operationId) =
        root.lookup (backupName name operationId) := by
      rw [savedRoot, Finmap.lookup_insert_of_ne _ hne''.symm, Finmap.lookup_erase_ne hne''.symm]
    rw [← hname] at hQ
    rw [hsaveTo, before_returned, afterSave, hQ.commitSnapshot hne hne' overwrite
      (Finmap.lookup_insert _), hname, hbackup]
  · refine iff_of_true ?_ fun h => absurd h hsaved
    rw [always_bind]
    intro ending hexec
    have hkept := (lookup_exec hexec (uses_saveTo snapshot Site.save hne)).trans hroot
    obtain ⟨site, hsite⟩ := not_forall.mp hsaved
    obtain ⟨root', rfl | rfl⟩ := exec_saveTo_fails hsite hexec
    · rw [before_returned, afterSave]
      exact hQ.attempt (Op.avoids_removeDirAll hne) hkept
    · exact hQ.crash _ hkept

end

end

/-- **When a save is atomic.** -/
theorem saveSnapshotAtomic_saved_iff (plan : Site → Fault) (root : DataRoot)
    (snapshot : SaveOrder store) (name : String) (overwrite : Bool) (operationId : String) :
    Always disk plan (saveSnapshotAtomic snapshot name overwrite operationId) root
      (Saved name (root.lookup name) (.dir (sessionFiles snapshot))) ↔
      ¬(overwrite = true ∧ ∃ old, root.lookup name = some old ∧
        MovedAside plan root (temporaryName name operationId) (backupName name operationId) ∧
        Exposed plan old (.dir (sessionFiles snapshot))) := by
  have hne := name_ne_temporary name operationId
  have hne' := name_ne_backup name operationId
  have hne'' := temporary_ne_backup name operationId
  have hcommit : ∀ old, root.lookup name = some old → (Always disk plan
      (commitTarget name (temporaryName name operationId) (backupName name operationId))
      (movedRoot (savedRoot root (temporaryName name operationId) (sessionFiles snapshot)) name
        (backupName name operationId) old)
      (Saved name (root.lookup name) (.dir (sessionFiles snapshot))) ↔
      ¬Exposed plan old (.dir (sessionFiles snapshot))) := by
    intro old hold
    rw [hold]
    refine always_commitTarget_iff hne hne' hne'' ?_ ?_ (Finmap.lookup_insert _)
    · rw [movedRoot, Finmap.lookup_insert_of_ne _ hne', Finmap.lookup_erase]
    · rw [movedRoot, Finmap.lookup_insert_of_ne _ hne'', Finmap.lookup_erase_ne hne.symm,
        Finmap.lookup_erase_ne hne'', savedRoot, Finmap.lookup_insert]
  rw [(tolerates_saved name (root.lookup name) _).saveSnapshotAtomic snapshot overwrite operationId]
  constructor
  · rintro h ⟨hoverwrite, old, hold, haside, hexposed⟩
    exact (hcommit old hold).mp ((h haside.cleared haside.saved).2 old hold hoverwrite haside.backup
      haside.moved) hexposed
  · intro h hcleared hsaved
    refine ⟨fun _ _ => Finmap.lookup_insert _, fun old hold hoverwrite hbackup hmoved => ?_⟩
    rw [hcommit old hold]
    exact fun hexposed => h ⟨hoverwrite, old, hold, ⟨hcleared, hsaved, hbackup, hmoved⟩, hexposed⟩

/-- A session whose backup cannot be removed. -/
def flightRoot : DataRoot :=
  (∅ : DataRoot).insert "flight" (.dir ((∅ : Directory).insert "meta.json" (.bytes [123])))

def oneFault (site : Site) (fault : Fault) : Site → Fault :=
  fun other => if other = site then fault else .works

/-- **A backup that is not removed**: the new session is in place, and the save fails. -/
theorem not_saved_removeBackup :
    ¬∀ (plan : Site → Fault) (root : DataRoot) (store : TimeSeriesStore)
      (snapshot : SaveOrder store) (name : String) (overwrite : Bool) (operationId : String),
      Always disk plan (saveSnapshotAtomic snapshot name overwrite operationId) root
        (Saved name (root.lookup name) (.dir (sessionFiles snapshot))) := by
  intro h
  have hrun := h (oneFault .removeBackup .fails) flightRoot {} (.ofKeys {}) "flight" true "1" _
    (exec_run _ _ _ _)
  revert hrun
  decide +kernel

end FlyRuler.Management
