import Mathlib.Data.Finset.Basic
import FlyRuler.Lib.Run

/-!
# The workspace store of the web client

`useWorkspaceStore` of `web/src/stores/workspace.ts`.  Local edits are counted by
`localGeneration`, and `savedGeneration` is the count at the last snapshot that the server accepted;
a timer saves what is not saved yet.  A remote revision is loaded only if everything is saved, but
nothing is asked again when the response of the load arrives, nor when the counts are set to zero
after it.

The code between two `await`s runs at once, so a run is a list of calls of the store, of timers and
of answers, in any order (`WorkspaceClient.step`).  A load waits for its response and then for
`nextTick()`.

* `Inv.step`: the counts and what is accepted, for one step.
* `drafts_kept_run`, `undisturbed_run`: the runs in which no edit is lost.
-/

namespace FlyRuler.Web

open FlyRuler.Lib.Run

/-! ## The store -/

structure WorkspaceDocument (Doc : Type) where
  workspace : Doc
  revision : ℕ

structure WorkspaceStore (Doc : Type) where
  workspace : Doc
  revision : ℕ := 0
  hydrated : Bool := false
  saving : Bool := false
  applyingRemote : Bool := false
  -- whether `saveTimer` is set
  saveTimer : Bool := false
  localGeneration : ℕ := 0
  savedGeneration : ℕ := 0
  pendingRemoteRevision : ℕ := 0

/-- What `save` holds while it waits for the answer of `saveWorkspace`, and the local edits in the
snapshot. -/
structure SaveRequest (Doc : Type) where
  generation : ℕ
  snapshot : Doc
  edits : Finset ℕ

/-- The store, the calls of it that wait, and the record of the run: how many local edits there were
since hydration, which of them are in the workspace, and which the server has accepted. -/
structure WorkspaceClient (Doc : Type) where
  store : WorkspaceStore Doc
  request : Option (SaveRequest Doc) := none
  loads : ℕ := 0
  ticks : ℕ := 0
  edits : ℕ := 0
  draft : Finset ℕ := ∅
  accepted : Finset ℕ := ∅

variable {Doc : Type}

namespace WorkspaceStore

def Dirty (store : WorkspaceStore Doc) : Prop := store.localGeneration ≠ store.savedGeneration

instance (store : WorkspaceStore Doc) : Decidable store.Dirty := inferInstanceAs (Decidable (_ ≠ _))

/-- A change of the workspace in place. -/
def change (store : WorkspaceStore Doc) (f : Doc → Doc) : WorkspaceStore Doc :=
  { store with workspace := f store.workspace }

def scheduleSave (store : WorkspaceStore Doc) : WorkspaceStore Doc :=
  if !store.hydrated || store.applyingRemote then store
  else { store with localGeneration := store.localGeneration + 1, saveTimer := true }

end WorkspaceStore

inductive WorkspaceEvent (Doc : Type) where
  | edit (f : Doc → Doc)
  | timer
  | load
  | save
  | remoteRevision (nextRevision : ℕ)
  | loadResponse (response : Option (WorkspaceDocument Doc))
  | loadFailure
  | nextTick
  | saveResponse (revision : ℕ)
  | saveFailure

namespace WorkspaceClient

variable (c : WorkspaceClient Doc)

/-- A local edit, which runs `scheduleSave`. -/
def edit (f : Doc → Doc) : WorkspaceClient Doc :=
  { c with
    store := (c.store.change f).scheduleSave
    edits := if c.store.hydrated then c.edits + 1 else c.edits
    draft := if c.store.hydrated then insert c.edits c.draft else c.draft }

/-- `load` up to its request. -/
def load : WorkspaceClient Doc := { c with loads := c.loads + 1 }

/-- `load` from its response on. -/
def loadResponse (normalizeWorkspace : Doc → Doc) (response : Option (WorkspaceDocument Doc)) :
    WorkspaceClient Doc :=
  if c.loads = 0 then c
  else
    let store := { c.store with applyingRemote := true, hydrated := true }
    let c := { c with store := store, loads := c.loads - 1, ticks := c.ticks + 1 }
    match response with
    | none => c
    | some document =>
      { c with
        store := { store with
          workspace := normalizeWorkspace document.workspace, revision := document.revision }
        draft := ∅ }

/-- `load` after `nextTick()`. -/
def nextTick : WorkspaceClient Doc :=
  if c.ticks = 0 then c
  else
    { c with
      store := { c.store with
        localGeneration := 0, savedGeneration := 0, applyingRemote := false }
      ticks := c.ticks - 1 }

/-- The end of `save`, after its loop. -/
def endSave : WorkspaceClient Doc :=
  let store := { c.store with saving := false }
  if c.store.revision < c.store.pendingRemoteRevision ∧ ¬store.Dirty then
    { c with store := { store with pendingRemoteRevision := 0 } }.load
  else { c with store := { store with pendingRemoteRevision := 0 } }

/-- The loop of `save`, up to its next request. -/
def saveLoop : WorkspaceClient Doc :=
  if c.store.savedGeneration ≠ c.store.localGeneration then
    { c with request := some ⟨c.store.localGeneration, c.store.workspace, c.draft⟩ }
  else c.endSave

def save : WorkspaceClient Doc :=
  if !c.store.hydrated || c.store.applyingRemote || c.store.saving || !decide c.store.Dirty then c
  else { c with store := { c.store with saving := true } }.saveLoop

/-- `save` from an answer of `saveWorkspace` on, which has accepted the snapshot. -/
def saveResponse (revision : ℕ) : WorkspaceClient Doc :=
  match c.request with
  | none => c
  | some request =>
    { c with
      store := { c.store with revision := revision, savedGeneration := request.generation }
      request := none
      accepted := c.accepted ∪ request.edits }.saveLoop

/-- An error of `saveWorkspace` ends `save`. -/
def saveFailure : WorkspaceClient Doc :=
  match c.request with
  | none => c
  | some _ => { c with store := { c.store with saving := false }, request := none }

def timer : WorkspaceClient Doc :=
  if c.store.saveTimer then { c with store := { c.store with saveTimer := false } }.save else c

def handleRemoteRevision (nextRevision : ℕ) : WorkspaceClient Doc :=
  if nextRevision ≤ c.store.revision then c
  else
    let store := { c.store with
      pendingRemoteRevision := max c.store.pendingRemoteRevision nextRevision }
    if !store.saving && !decide store.Dirty then
      { c with store := { store with pendingRemoteRevision := 0 } }.load
    else { c with store := store }

def step (normalizeWorkspace : Doc → Doc) (c : WorkspaceClient Doc) :
    WorkspaceEvent Doc → WorkspaceClient Doc
  | .edit f => c.edit f
  | .timer => c.timer
  | .load => c.load
  | .save => c.save
  | .remoteRevision nextRevision => c.handleRemoteRevision nextRevision
  | .loadResponse response => c.loadResponse normalizeWorkspace response
  | .loadFailure => { c with loads := c.loads - 1 }
  | .nextTick => c.nextTick
  | .saveResponse revision => c.saveResponse revision
  | .saveFailure => c.saveFailure

/-- The client before its first load. -/
def init (defaultWorkspace : Doc) : WorkspaceClient Doc :=
  { store := { workspace := defaultWorkspace } }

/-! ## The counts -/

/-- The local edits that the counts leave out, because they were set to zero since. -/
def settled : ℕ := c.edits - c.store.localGeneration

/-- What is known of a request, by the counts and what is accepted: its edits that are not accepted
are those counted up to its snapshot. -/
structure Covers (settled saved counted : ℕ) (accepted : Finset ℕ) (request : SaveRequest Doc) :
    Prop where
  saved_lt : saved < request.generation
  generation_le : request.generation ≤ counted
  covered : ∀ n < settled + request.generation, n ∈ accepted ∨ n ∈ request.edits
  edits_lt : ∀ n ∈ request.edits, n < settled + request.generation

/-- **The counts and what is accepted**: every edit is accepted or in the workspace, and the
accepted ones are those that are not counted or are counted as saved. -/
structure Inv : Prop where
  count_le : c.store.localGeneration ≤ c.edits
  saved_le : c.store.savedGeneration ≤ c.store.localGeneration
  accepted_iff : ∀ n, n ∈ c.accepted ↔ n < c.settled + c.store.savedGeneration
  kept : ∀ n < c.edits, n ∈ c.accepted ∨ n ∈ c.draft
  draft_lt : ∀ n ∈ c.draft, n < c.edits
  request : ∀ request ∈ c.request,
    Covers c.settled c.store.savedGeneration c.store.localGeneration c.accepted request
  ticks : c.store.applyingRemote = true → c.ticks ≠ 0

theorem Inv.init (defaultWorkspace : Doc) : Inv (WorkspaceClient.init defaultWorkspace) where
  count_le := le_rfl
  saved_le := le_rfl
  accepted_iff n := iff_of_false (Finset.notMem_empty n) (Nat.not_lt_zero n)
  kept n hn := absurd hn (Nat.not_lt_zero n)
  draft_lt n hn := absurd hn (Finset.notMem_empty n)
  request _ hrequest := nomatch hrequest
  ticks hremote := nomatch hremote

variable {c}

theorem Inv.settled_add (h : Inv c) : c.settled + c.store.localGeneration = c.edits :=
  Nat.sub_add_cancel h.count_le

/-- **Everything is accepted when nothing is left to save.** -/
theorem Inv.accepted_of_clean (h : Inv c) (hclean : ¬c.store.Dirty) (n : ℕ) :
    n ∈ c.accepted ↔ n < c.edits := by
  rw [h.accepted_iff, ← not_ne_iff.mp hclean, h.settled_add]

/-- **The last edit is not accepted when something is left to save.** -/
theorem Inv.exists_unaccepted (h : Inv c) (hdirty : c.store.Dirty) :
    ∃ n < c.edits, n ∉ c.accepted := by
  have hsaved : c.store.savedGeneration < c.store.localGeneration :=
    lt_of_le_of_ne h.saved_le (Ne.symm hdirty)
  have hedits := h.settled_add
  refine ⟨c.settled + c.store.savedGeneration, by omega, fun haccepted => ?_⟩
  exact ((h.accepted_iff _).mp haccepted).false

theorem Inv.request_eq_none (h : Inv c) (hclean : ¬c.store.Dirty) : c.request = none := by
  rw [Option.eq_none_iff_forall_not_mem]
  intro request hrequest
  have hcovers := h.request request hrequest
  exact absurd (hcovers.saved_lt.trans_le hcovers.generation_le) (not_ne_iff.mp hclean).not_gt

theorem scheduleSave_of_tracked {store : WorkspaceStore Doc} (hhydrated : store.hydrated = true)
    (hremote : store.applyingRemote = false) : store.scheduleSave =
      { store with localGeneration := store.localGeneration + 1, saveTimer := true } := by
  unfold WorkspaceStore.scheduleSave
  rw [hhydrated, hremote]
  rfl

theorem scheduleSave_of_not_hydrated {store : WorkspaceStore Doc}
    (h : store.hydrated = false) : store.scheduleSave = store := by
  unfold WorkspaceStore.scheduleSave
  rw [h]
  rfl

theorem Inv.edit (h : Inv c) (f : Doc → Doc)
    (hremote : c.store.hydrated = true → c.store.applyingRemote = false) : Inv (c.edit f) := by
  unfold WorkspaceClient.edit
  rcases hhydrated : c.store.hydrated with _ | _
  · rw [scheduleSave_of_not_hydrated (show (c.store.change f).hydrated = false from hhydrated)]
    exact ⟨h.count_le, h.saved_le, h.accepted_iff, h.kept, h.draft_lt, h.request, h.ticks⟩
  · -- the edit is counted, so that none of those before is
    rw [scheduleSave_of_tracked (show (c.store.change f).hydrated = true from hhydrated)
      (hremote hhydrated)]
    have hsettled : c.edits + 1 - (c.store.localGeneration + 1) = c.settled :=
      Nat.add_sub_add_right _ _ _
    refine ⟨Nat.succ_le_succ h.count_le, h.saved_le.trans (Nat.le_succ _), fun n => ?_,
      fun n hn => ?_, fun n hn => ?_, fun request hrequest => ?_, h.ticks⟩
    · exact (h.accepted_iff n).trans (iff_of_eq (congrArg (n < · + _) hsettled.symm))
    · rcases (Nat.lt_succ_iff.mp hn).lt_or_eq with hbefore | rfl
      · exact (h.kept n hbefore).imp_right Finset.mem_insert_of_mem
      · exact .inr (Finset.mem_insert_self _ _)
    · rcases Finset.mem_insert.mp hn with rfl | hbefore
      · exact Nat.lt_succ_self _
      · exact (h.draft_lt n hbefore).trans (Nat.lt_succ_self _)
    · obtain ⟨hsaved, hcounted, hcovered, hedits⟩ := h.request request hrequest
      change Covers (c.edits + 1 - (c.store.localGeneration + 1)) _ _ _ request
      rw [hsettled]
      exact ⟨hsaved, hcounted.trans (Nat.le_succ _), hcovered, hedits⟩

theorem Inv.load (h : Inv c) : Inv c.load :=
  ⟨h.count_le, h.saved_le, h.accepted_iff, h.kept, h.draft_lt, h.request, h.ticks⟩

/-- The next request has every edit so far that is not accepted. -/
theorem Inv.saveLoop (h : Inv c) : Inv c.saveLoop := by
  unfold WorkspaceClient.saveLoop
  split_ifs with hdirty
  · refine ⟨h.count_le, h.saved_le, h.accepted_iff, h.kept, h.draft_lt,
      fun request hrequest => ?_, h.ticks⟩
    cases hrequest
    refine ⟨lt_of_le_of_ne h.saved_le hdirty, le_rfl, fun n hn => h.kept n ?_, fun n hn => ?_⟩
    · exact hn.trans_eq h.settled_add
    · exact (h.draft_lt n hn).trans_eq h.settled_add.symm
  · unfold WorkspaceClient.endSave
    dsimp only
    split_ifs
    · exact ⟨h.count_le, h.saved_le, h.accepted_iff, h.kept, h.draft_lt, h.request, h.ticks⟩
    · exact ⟨h.count_le, h.saved_le, h.accepted_iff, h.kept, h.draft_lt, h.request, h.ticks⟩

theorem saveLoop_draft (c : WorkspaceClient Doc) : c.saveLoop.draft = c.draft := by
  unfold WorkspaceClient.saveLoop WorkspaceClient.endSave
  dsimp only
  split_ifs <;> rfl

theorem save_draft (c : WorkspaceClient Doc) : c.save.draft = c.draft := by
  unfold WorkspaceClient.save
  split_ifs
  · rfl
  · exact saveLoop_draft _

theorem Inv.save (h : Inv c) : Inv c.save := by
  unfold WorkspaceClient.save
  split_ifs
  · exact h
  · exact Inv.saveLoop
      ⟨h.count_le, h.saved_le, h.accepted_iff, h.kept, h.draft_lt, h.request, h.ticks⟩

theorem Inv.saveResponse (h : Inv c) (revision : ℕ) : Inv (c.saveResponse revision) := by
  unfold WorkspaceClient.saveResponse
  rcases hrequest : c.request with _ | request
  · exact h
  · obtain ⟨hsaved, hcounted, hcovered, hedits⟩ := h.request request hrequest
    refine Inv.saveLoop ⟨h.count_le, hcounted, fun n => ?_, fun n hn => ?_, h.draft_lt, nofun,
      h.ticks⟩
    · refine Finset.mem_union.trans ⟨fun hn => ?_, hcovered n⟩
      rcases hn with hn | hn
      · exact ((h.accepted_iff n).mp hn).trans (Nat.add_lt_add_left hsaved _)
      · exact hedits n hn
    · exact (h.kept n hn).imp_left (Finset.mem_union_left _)

theorem Inv.saveFailure (h : Inv c) : Inv c.saveFailure := by
  unfold WorkspaceClient.saveFailure
  rcases c.request with _ | request
  · exact h
  · exact ⟨h.count_le, h.saved_le, h.accepted_iff, h.kept, h.draft_lt, nofun, h.ticks⟩

theorem Inv.timer (h : Inv c) : Inv c.timer := by
  unfold WorkspaceClient.timer
  split_ifs
  · exact Inv.save ⟨h.count_le, h.saved_le, h.accepted_iff, h.kept, h.draft_lt, h.request, h.ticks⟩
  · exact h

theorem Inv.handleRemoteRevision (h : Inv c) (nextRevision : ℕ) :
    Inv (c.handleRemoteRevision nextRevision) := by
  unfold WorkspaceClient.handleRemoteRevision
  dsimp only
  split_ifs
  · exact h
  · exact ⟨h.count_le, h.saved_le, h.accepted_iff, h.kept, h.draft_lt, h.request, h.ticks⟩
  · exact ⟨h.count_le, h.saved_le, h.accepted_iff, h.kept, h.draft_lt, h.request, h.ticks⟩

theorem Inv.loadResponse (h : Inv c) (normalizeWorkspace : Doc → Doc)
    (response : Option (WorkspaceDocument Doc))
    (hclean : response.isSome → c.loads ≠ 0 → ¬c.store.Dirty) :
    Inv (c.loadResponse normalizeWorkspace response) := by
  unfold WorkspaceClient.loadResponse
  split_ifs with hloads
  · exact h
  have hticks : c.ticks + 1 ≠ 0 := Nat.succ_ne_zero _
  rcases response with _ | document
  · exact ⟨h.count_le, h.saved_le, h.accepted_iff, h.kept, h.draft_lt, h.request, fun _ => hticks⟩
  · have hclean : ¬c.store.Dirty := hclean rfl hloads
    exact ⟨h.count_le, h.saved_le, h.accepted_iff,
      fun n hn => .inl ((h.accepted_of_clean hclean n).mpr hn),
      fun n hn => absurd hn (Finset.notMem_empty n), h.request, fun _ => hticks⟩

theorem Inv.nextTick (h : Inv c) (hclean : c.ticks ≠ 0 → ¬c.store.Dirty) : Inv c.nextTick := by
  unfold WorkspaceClient.nextTick
  split_ifs with hticks
  · exact h
  · have hclean : ¬c.store.Dirty := hclean hticks
    refine ⟨Nat.zero_le _, le_rfl, h.accepted_of_clean hclean, h.kept, h.draft_lt, ?_, nofun⟩
    intro request hrequest
    rw [show c.request = none from h.request_eq_none hclean] at hrequest
    exact nomatch hrequest

/-! ## Runs -/

/-- Nothing is left to save when the document of a load arrives and when the counts are set to zero,
and there is no edit between the two. -/
def Undisturbed (c : WorkspaceClient Doc) : WorkspaceEvent Doc → Prop
  | .edit _ => c.store.hydrated = true → c.store.applyingRemote = false
  | .loadResponse response => response.isSome → c.loads ≠ 0 → ¬c.store.Dirty
  | .nextTick => c.ticks ≠ 0 → ¬c.store.Dirty
  | _ => True

instance (c : WorkspaceClient Doc) (event : WorkspaceEvent Doc) :
    Decidable (c.Undisturbed event) := by
  cases event <;> unfold Undisturbed <;> infer_instance

theorem Inv.step (h : Inv c) (normalizeWorkspace : Doc → Doc) {event : WorkspaceEvent Doc}
    (hok : c.Undisturbed event) : Inv (c.step normalizeWorkspace event) := by
  cases event with
  | edit f => exact h.edit f hok
  | timer => exact h.timer
  | load => exact h.load
  | save => exact h.save
  | remoteRevision nextRevision => exact h.handleRemoteRevision nextRevision
  | loadResponse response => exact h.loadResponse normalizeWorkspace response hok
  | loadFailure =>
    exact ⟨h.count_le, h.saved_le, h.accepted_iff, h.kept, h.draft_lt, h.request, h.ticks⟩
  | nextTick => exact h.nextTick hok
  | saveResponse revision => exact h.saveResponse revision
  | saveFailure => exact h.saveFailure

/-- An event that does not bring a document takes no edit out of the workspace. -/
theorem draft_subset_step (c : WorkspaceClient Doc) (normalizeWorkspace : Doc → Doc)
    {event : WorkspaceEvent Doc} (h : ∀ document, event ≠ .loadResponse (some document)) :
    c.draft ⊆ (c.step normalizeWorkspace event).draft := by
  cases event with
  | edit f =>
    change c.draft ⊆ (c.edit f).draft
    unfold WorkspaceClient.edit
    dsimp only
    split_ifs
    · exact Finset.subset_insert _ _
    · exact Finset.Subset.refl _
  | timer =>
    change c.draft ⊆ c.timer.draft
    unfold WorkspaceClient.timer
    split_ifs
    · rw [save_draft]
    · exact Finset.Subset.refl _
  | load => exact Finset.Subset.refl _
  | save => exact (save_draft c).ge
  | remoteRevision nextRevision =>
    change c.draft ⊆ (c.handleRemoteRevision nextRevision).draft
    unfold WorkspaceClient.handleRemoteRevision
    dsimp only
    split_ifs <;> exact Finset.Subset.refl _
  | loadResponse response =>
    rcases response with _ | document
    · change c.draft ⊆ (c.loadResponse normalizeWorkspace none).draft
      unfold WorkspaceClient.loadResponse
      split_ifs <;> exact Finset.Subset.refl _
    · exact absurd rfl (h document)
  | loadFailure => exact Finset.Subset.refl _
  | nextTick =>
    change c.draft ⊆ c.nextTick.draft
    unfold WorkspaceClient.nextTick
    split_ifs <;> exact Finset.Subset.refl _
  | saveResponse revision =>
    change c.draft ⊆ (c.saveResponse revision).draft
    unfold WorkspaceClient.saveResponse
    rcases c.request with _ | request
    · exact Finset.Subset.refl _
    · dsimp only
      rw [saveLoop_draft]
  | saveFailure =>
    change c.draft ⊆ c.saveFailure.draft
    unfold WorkspaceClient.saveFailure
    rcases c.request with _ | request <;> exact Finset.Subset.refl _

/-- **One step**: an edit that it takes out of the workspace has been accepted, and if nothing is
shown as left to save behind it, every local edit has been. -/
structure KeepsEdits (normalizeWorkspace : Doc → Doc) (c : WorkspaceClient Doc)
    (event : WorkspaceEvent Doc) : Prop where
  overwritten : ∀ n ∈ c.draft, n ∉ (c.step normalizeWorkspace event).draft → n ∈ c.accepted
  dirty : ¬(c.step normalizeWorkspace event).store.Dirty →
    ∀ n < (c.step normalizeWorkspace event).edits, n ∈ (c.step normalizeWorkspace event).accepted

theorem Inv.keepsEdits (h : Inv c) (normalizeWorkspace : Doc → Doc) {event : WorkspaceEvent Doc}
    (hok : c.Undisturbed event) : c.KeepsEdits normalizeWorkspace event where
  overwritten n hn hlost := by
    by_cases hevent : ∃ document, event = .loadResponse (some document)
    · obtain ⟨document, rfl⟩ := hevent
      by_cases hloads : c.loads = 0
      · have hnone : c.loadResponse normalizeWorkspace (some document) = c := if_pos hloads
        exact absurd hn (hnone ▸ hlost)
      · exact (h.accepted_of_clean (hok rfl hloads) n).mpr (h.draft_lt n hn)
    · exact absurd (c.draft_subset_step normalizeWorkspace (not_exists.mp hevent) hn) hlost
  dirty hclean n := ((h.step normalizeWorkspace hok).accepted_of_clean hclean n).mpr

/-- **No edit is lost** in a run that no load disturbs. -/
theorem drafts_kept_run (normalizeWorkspace : Doc → Doc) (defaultWorkspace : Doc)
    {events : List (WorkspaceEvent Doc)}
    (h : Meets (step normalizeWorkspace) Undisturbed (init defaultWorkspace) events) :
    Meets (step normalizeWorkspace) (KeepsEdits normalizeWorkspace) (init defaultWorkspace)
      events :=
  h.of_inv (I := Inv)
    (fun _ _ hinv hok =>
      ⟨hinv.keepsEdits normalizeWorkspace hok, hinv.step normalizeWorkspace hok⟩)
    (Inv.init defaultWorkspace)

/-- A remote revision is loaded after an edit was saved. -/
def savedRun : List (WorkspaceEvent ℕ) :=
  [.load, .loadResponse none, .nextTick, .edit fun _ => 7, .timer, .saveResponse 1,
    .remoteRevision 2, .loadResponse (some ⟨3, 2⟩), .nextTick]

theorem drafts_kept_run_saved : Meets (step id) (KeepsEdits id) (init 0) savedRun :=
  drafts_kept_run id 0 (by decide +kernel)

/-- An edit between the remote revision and the response of its load. -/
def overwrittenRun : List (WorkspaceEvent ℕ) :=
  [.load, .loadResponse none, .nextTick, .remoteRevision 1, .edit fun _ => 7,
    .loadResponse (some ⟨3, 1⟩), .nextTick]

/-- **An edit that is lost**: the document that arrives takes it out of the workspace, and then the
counts are set to zero. -/
theorem not_keepsEdits_overwritten :
    ¬Meets (step id) (KeepsEdits id) (init 0) overwrittenRun ∧
      ¬((overwrittenRun.foldl (step id) (init 0)).store.Dirty) ∧
        0 ∉ (overwrittenRun.foldl (step id) (init 0)).accepted := by
  refine ⟨?_, by decide +kernel, by decide +kernel⟩
  rintro ⟨-, -, -, -, -, h, -⟩
  exact absurd (h.overwritten 0 (by decide +kernel) (by decide +kernel)) (by decide +kernel)

/-! ## The condition -/

/-- Setting the counts to zero hides an edit that is not accepted. -/
theorem not_keepsEdits_nextTick (normalizeWorkspace : Doc → Doc) (hticks : c.ticks ≠ 0) {n : ℕ}
    (hn : n < c.edits) (hnot : n ∉ c.accepted) : ¬c.KeepsEdits normalizeWorkspace .nextTick := by
  intro h
  have htick : c.step normalizeWorkspace .nextTick =
      { c with
        store := { c.store with
          localGeneration := 0, savedGeneration := 0, applyingRemote := false }
        ticks := c.ticks - 1 } := if_neg hticks
  have hdirty := h.dirty
  rw [htick] at hdirty
  exact hnot (hdirty (not_ne_iff.mpr rfl) n hn)

/-- **After a step that does not meet the condition** an edit is lost, at once or when the counts
are set to zero. -/
theorem Inv.exists_lost (h : Inv c) (normalizeWorkspace : Doc → Doc) {event : WorkspaceEvent Doc}
    (hnot : ¬c.Undisturbed event) : ∃ later, (∀ event ∈ later, event = .nextTick) ∧
      ¬Meets (WorkspaceClient.step normalizeWorkspace) (KeepsEdits normalizeWorkspace) c
        (event :: later) := by
  cases event with
  | edit f =>
    -- the edit is not counted
    obtain ⟨-, hremote⟩ := Classical.not_imp.mp hnot
    refine ⟨[.nextTick], fun event hevent => List.mem_singleton.mp hevent, ?_⟩
    rintro ⟨-, hkeeps, -⟩
    have hedits : (c.edit f).edits = c.edits + 1 := if_pos (Classical.not_imp.mp hnot).1
    have hnew : c.edits ∉ c.accepted := fun haccepted => by
      have hlt := (h.accepted_iff _).mp haccepted
      have hsettled := h.settled_add
      have hsaved := h.saved_le
      omega
    refine not_keepsEdits_nextTick (c := c.edit f) normalizeWorkspace ?_ ?_ hnew hkeeps
    · exact h.ticks (Bool.eq_true_of_not_eq_false hremote)
    · rw [hedits]
      exact Nat.lt_succ_self _
  | loadResponse response =>
    obtain ⟨hsome, hrest⟩ := Classical.not_imp.mp hnot
    obtain ⟨hloads, hdirty⟩ := Classical.not_imp.mp hrest
    obtain ⟨document, rfl⟩ := Option.isSome_iff_exists.mp hsome
    obtain ⟨n, hn, hunaccepted⟩ := h.exists_unaccepted (not_not.mp hdirty)
    refine ⟨[], fun event hevent => absurd hevent List.not_mem_nil, ?_⟩
    rintro ⟨hkeeps, -⟩
    have hdraft : (c.loadResponse normalizeWorkspace (some document)).draft = ∅ := by
      unfold WorkspaceClient.loadResponse
      rw [if_neg hloads]
    refine hunaccepted (hkeeps.overwritten n ((h.kept n hn).resolve_left hunaccepted) ?_)
    change n ∉ (c.loadResponse normalizeWorkspace (some document)).draft
    rw [hdraft]
    exact Finset.notMem_empty n
  | nextTick =>
    obtain ⟨hticks, hdirty⟩ := Classical.not_imp.mp hnot
    obtain ⟨n, hn, hunaccepted⟩ := h.exists_unaccepted (not_not.mp hdirty)
    refine ⟨[], fun event hevent => absurd hevent List.not_mem_nil, ?_⟩
    rintro ⟨hkeeps, -⟩
    exact not_keepsEdits_nextTick normalizeWorkspace hticks hn hunaccepted hkeeps
  | timer => exact absurd trivial hnot
  | load => exact absurd trivial hnot
  | save => exact absurd trivial hnot
  | remoteRevision nextRevision => exact absurd trivial hnot
  | loadFailure => exact absurd trivial hnot
  | saveResponse revision => exact absurd trivial hnot
  | saveFailure => exact absurd trivial hnot

/-- **The condition cannot be weakened**: if no edit is lost when loads finish after a prefix of the
run, no load disturbs the run. -/
theorem undisturbed_run (normalizeWorkspace : Doc → Doc) (defaultWorkspace : Doc)
    {events : List (WorkspaceEvent Doc)}
    (h : ∀ pre later, pre <+: events → (∀ event ∈ later, event = .nextTick) →
      Meets (step normalizeWorkspace) (KeepsEdits normalizeWorkspace) (init defaultWorkspace)
        (pre ++ later)) :
    Meets (step normalizeWorkspace) Undisturbed (init defaultWorkspace) events :=
  Meets.of_late (I := Inv) (fun _ _ hinv hok => hinv.step normalizeWorkspace hok)
    (fun _ _ hinv hnot => hinv.exists_lost normalizeWorkspace hnot) (Inv.init defaultWorkspace) h

end WorkspaceClient

end FlyRuler.Web
