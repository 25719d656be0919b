import FlyRuler.Godot.Gear
import FlyRuler.Lib.Repeats

/-!
# The landing-gear tracker of the MSFS bridge

`GearEventTracker` of `bindings/msfs/src/lib.rs` turns the gear events of the controlled aircraft
into commands for the simulator, from one playback snapshot to the next.  A discontinuity of the
snapshots synchronizes; otherwise the events crossed since the last snapshot are sent, and in live
mode the effective state is looked up once more.

* `apply_discontinuity`, `apply_replay`, `apply_live`: what one call does.
* `Synced.apply`: after every call the tracker knows the gear at the cursor.
* `Synced.emitted`: what a replay without a discontinuity sends.
-/

namespace FlyRuler.Msfs

open FlyRuler.Pb FlyRuler.Store FlyRuler.Playback FlyRuler.Lib.Keyed FlyRuler.Lib.TimeOrder
open FlyRuler.Lib.Repeats FlyRuler.Godot

inductive GearCommand where
  | up
  | down
  deriving DecidableEq

structure GearEventTracker where
  aircraftId : Option AircraftId := none
  cursorSecs : Option Secs := none
  revision : Option ℕ := none
  mode : Option PlaybackMode := none
  lastCommand : Option GearCommand := none
  deriving DecidableEq

def gearCommandFromEvent : Event → Option GearCommand
  | .custom name =>
    if name = gearUp then some .up else if name = gearDown then some .down else none
  | _ => none

def latestGearCommand (store : TimeSeriesStore) (aircraftId : AircraftId) (cursorSecs : F64) :
    Option GearCommand :=
  (store.getEventsRange aircraftId .negInf cursorSecs).bind fun entries =>
    entries.reverse.findSome? fun entry => gearCommandFromEvent entry.item

def gearCommandsBetween (store : TimeSeriesStore) (aircraftId : AircraftId)
    (startExclusive endInclusive : F64) : List GearCommand :=
  let entries := (store.getEventsRange aircraftId startExclusive endInclusive).getD []
  (entries.filter fun entry => F64.lt startExclusive (.finite entry.stamp)).filterMap fun entry =>
    gearCommandFromEvent entry.item

namespace GearEventTracker

/-- The snapshot does not continue the one before. -/
def Discontinuity (tracker : GearEventTracker) (aircraftId : AircraftId) (mode : PlaybackMode)
    (cursorSecs : Secs) (revision : ℕ) : Prop :=
  tracker.aircraftId ≠ some aircraftId ∨ tracker.cursorSecs = none ∨
    tracker.revision ≠ some revision ∨ tracker.mode ≠ some mode ∨
    ∃ previous ∈ tracker.cursorSecs, cursorSecs < previous

instance (tracker : GearEventTracker) (aircraftId : AircraftId) (mode : PlaybackMode)
    (cursorSecs : Secs) (revision : ℕ) :
    Decidable (tracker.Discontinuity aircraftId mode cursorSecs revision) :=
  inferInstanceAs (Decidable (_ ∨ _ ∨ _ ∨ _ ∨ _))

/-- The commands found by the position of the cursor, and the last command after them. -/
def positionCommands (tracker : GearEventTracker) (store : TimeSeriesStore)
    (aircraftId : AircraftId) (mode : PlaybackMode) (cursorSecs : Secs) (revision : ℕ) :
    List GearCommand × Option GearCommand :=
  if tracker.Discontinuity aircraftId mode cursorSecs revision then
    let commands := (latestGearCommand store aircraftId (.finite cursorSecs)).toList
    (commands, commands.getLast?)
  else
    retainChanges tracker.lastCommand (gearCommandsBetween store aircraftId
      (.finite (tracker.cursorSecs.getD cursorSecs)) (.finite cursorSecs))

/-- The second look of live mode. -/
def resolveAgain (latest : Option GearCommand) (found : List GearCommand × Option GearCommand) :
    List GearCommand × Option GearCommand :=
  match latest with
  | some command =>
    if found.2 ≠ some command then (found.1 ++ [command], some command) else found
  | none => found

def commandsToApply (tracker : GearEventTracker) (store : TimeSeriesStore)
    (aircraftId : AircraftId) (mode : PlaybackMode) (cursorSecs : F64) (revision : ℕ) :
    GearEventTracker × List GearCommand :=
  match cursorSecs.toFinite with
  | none => (tracker, [])
  | some cursor =>
    let found := tracker.positionCommands store aircraftId mode cursor revision
    let found :=
      if mode = .live ∧ ¬tracker.Discontinuity aircraftId mode cursor revision then
        resolveAgain (latestGearCommand store aircraftId cursorSecs) found
      else found
    (⟨some aircraftId, some cursor, some revision, some mode, found.2⟩, found.1)

end GearEventTracker

/-! ## Histories -/

/-- A call of `commands_to_apply` at a finite cursor, with the store as it is then. -/
structure GearCall where
  store : TimeSeriesStore
  aircraftId : AircraftId
  mode : PlaybackMode
  cursorSecs : Secs
  revision : ℕ

/-- The gear at the cursor of a call. -/
def GearCall.latest (call : GearCall) : Option GearCommand :=
  latestGearCommand call.store call.aircraftId (.finite call.cursorSecs)

/-- What may happen to the store from one call to the next.  Unless the revision changes data is
only appended, and in replay the events appended are later than the cursor. -/
def Follows (previous next : GearCall) : Prop :=
  next.revision = previous.revision → ∃ ops : List AppendOp,
    next.store.data = (ops.foldl TimeSeriesStore.apply previous.store).data ∧
      (previous.mode ≠ .live → ∀ a ∈ previous.store.arrivalsOf ops, ∀ id e,
        a.event? id = some e → previous.cursorSecs < e.stamp)

namespace GearEventTracker

def apply (tracker : GearEventTracker) (call : GearCall) : GearEventTracker × List GearCommand :=
  tracker.commandsToApply call.store call.aircraftId call.mode (.finite call.cursorSecs)
    call.revision

/-- The call does not continue the one before. -/
def Breaks (tracker : GearEventTracker) (call : GearCall) : Prop :=
  tracker.Discontinuity call.aircraftId call.mode call.cursorSecs call.revision

instance (tracker : GearEventTracker) (call : GearCall) : Decidable (tracker.Breaks call) :=
  inferInstanceAs (Decidable (tracker.Discontinuity _ _ _ _))

/-- The tracker after the calls. -/
def applyAll (tracker : GearEventTracker) (calls : List GearCall) : GearEventTracker :=
  calls.foldl (fun tracker call => (tracker.apply call).1) tracker

/-- What the calls send, one after the other. -/
def emitted : GearEventTracker → List GearCall → List GearCommand
  | _, [] => []
  | tracker, call :: rest => (tracker.apply call).2 ++ emitted (tracker.apply call).1 rest

/-- None of the calls is a discontinuity. -/
def Unbroken : GearEventTracker → List GearCall → Prop
  | _, [] => True
  | tracker, call :: rest => ¬tracker.Breaks call ∧ Unbroken (tracker.apply call).1 rest

end GearEventTracker

/-! ## The gear events of a store -/

/-- The gear commands of an aircraft up to a time. -/
def gearUpTo (store : TimeSeriesStore) (aircraftId : AircraftId) (cursor : Secs) :
    List GearCommand :=
  ((store.series aircraftId).events.upTo cursor).filterMap fun e => gearCommandFromEvent e.item

section Events
variable (store : TimeSeriesStore) (aircraftId : AircraftId)

theorem latestGearCommand_eq (cursor : Secs) :
    latestGearCommand store aircraftId (.finite cursor) =
      (gearUpTo store aircraftId cursor).getLast? := by
  unfold latestGearCommand TimeSeriesStore.getEventsRange gearUpTo TimeSeriesStore.series
  rw [List.getLast?_filterMap, Timeline.upTo_eq]
  rcases store.data.lookup aircraftId with _ | s
  · rfl
  · simp [F64.le]

theorem gearCommandsBetween_eq {a b : Secs} (hab : a ≤ b) :
    gearUpTo store aircraftId b = gearUpTo store aircraftId a ++
      gearCommandsBetween store aircraftId (.finite a) (.finite b) := by
  have hwindow : gearCommandsBetween store aircraftId (.finite a) (.finite b) =
      ((store.series aircraftId).events.entries.filter fun e =>
        decide (a < e.stamp) && decide (e.stamp ≤ b)).filterMap fun e =>
          gearCommandFromEvent e.item := by
    unfold gearCommandsBetween TimeSeriesStore.getEventsRange TimeSeriesStore.series
    rcases store.data.lookup aircraftId with _ | s
    · rfl
    · simp only [Option.map_some, Option.getD_some, List.filter_filter]
      congr 1
      refine List.filter_congr fun e _ => ?_
      simp only [F64.le, F64.lt]
      by_cases hlt : a < e.stamp
      · simp [hlt, hlt.le]
      · simp [hlt]
  unfold gearUpTo
  rw [hwindow, Timeline.upTo_append _ hab, List.filterMap_append]

end Events

/-- What is up to an earlier time among what is up to a later one. -/
theorem upTo_filter (t : Timeline Secs Event) {a b : Secs} (hab : a ≤ b) :
    ((t.upTo b).filter fun e => decide (e.stamp ≤ a)) = t.upTo a := by
  rw [Timeline.upTo_eq, Timeline.upTo_eq, List.filter_filter]
  refine List.filter_congr fun e _ => ?_
  by_cases he : e.stamp ≤ a
  · simp [he, he.trans hab]
  · simp [he]

/-! ## The store between two calls -/

/-- Later events leave what is up to the cursor alone. -/
theorem upTo_foldl_add {cursor : Secs} (id : AircraftId) (l : List Arrival)
    (hlate : ∀ a ∈ l, ∀ id e, a.event? id = some e → cursor < e.stamp) (store : TimeSeriesStore) :
    ((l.foldl TimeSeriesStore.add store).series id).events.upTo cursor =
      (store.series id).events.upTo cursor := by
  induction l generalizing store with
  | nil => rfl
  | cons a l ih =>
    rw [List.foldl_cons, ih fun a ha => hlate a (List.mem_cons_of_mem _ ha),
      TimeSeriesStore.series_add]
    split_ifs with hid
    · subst hid
      unfold AircraftTimeSeries.add
      rcases hentry : a.entry with value | value | value
      · rfl
      · have hstamp : cursor < a.stamp := hlate a List.mem_cons_self a.id ⟨a.stamp, value⟩
          (by simp [Arrival.event?, hentry])
        rw [Timeline.upTo_eq, Timeline.upTo_eq]
        exact Timeline.filter_append_of_not (by simpa using hstamp)
      · rfl
    · rfl

/-- Appending keeps the events there are. -/
theorem sublist_foldl_add (id : AircraftId) (l : List Arrival) (store : TimeSeriesStore) :
    (store.series id).events.entries.Sublist
      ((l.foldl TimeSeriesStore.add store).series id).events.entries := by
  induction l generalizing store with
  | nil => exact List.Sublist.refl _
  | cons a l ih =>
    refine List.Sublist.trans ?_ (ih (store.add a))
    rw [TimeSeriesStore.series_add]
    split_ifs with hid
    · unfold AircraftTimeSeries.add
      rcases a.entry with value | value | value
      · exact List.Sublist.refl _
      · exact Timeline.sublist_append _ _
      · exact List.Sublist.refl _
    · exact List.Sublist.refl _

/-- From one call of a replay to the next the events up to the cursor stay the same. -/
theorem Follows.upTo_eq {previous next : GearCall} (h : Follows previous next)
    (hrevision : next.revision = previous.revision) (hmode : previous.mode ≠ .live)
    (id : AircraftId) :
    (next.store.series id).events.upTo previous.cursorSecs =
      (previous.store.series id).events.upTo previous.cursorSecs := by
  obtain ⟨ops, hdata, hlate⟩ := h hrevision
  rw [TimeSeriesStore.data_foldl_apply] at hdata
  rw [TimeSeriesStore.series_congr hdata]
  exact upTo_foldl_add id _ (hlate hmode) previous.store

/-- Without a change of the revision no event is removed. -/
theorem Follows.sublist {previous next : GearCall} (h : Follows previous next)
    (hrevision : next.revision = previous.revision) (id : AircraftId) :
    (previous.store.series id).events.entries.Sublist
      (next.store.series id).events.entries := by
  obtain ⟨ops, hdata, -⟩ := h hrevision
  rw [TimeSeriesStore.data_foldl_apply] at hdata
  rw [TimeSeriesStore.series_congr hdata]
  exact sublist_foldl_add id _ previous.store

/-! ## One call -/

/-- The tracker is up to date with a call: it knows its snapshot and the gear at its cursor. -/
structure Synced (tracker : GearEventTracker) (call : GearCall) : Prop where
  aircraftId : tracker.aircraftId = some call.aircraftId
  cursorSecs : tracker.cursorSecs = some call.cursorSecs
  revision : tracker.revision = some call.revision
  mode : tracker.mode = some call.mode
  lastCommand : tracker.lastCommand = call.latest

/-- What is the same from one call to the next when there is no discontinuity. -/
theorem Synced.continues {tracker : GearEventTracker} {previous call : GearCall}
    (h : Synced tracker previous) (hbreak : ¬tracker.Breaks call) :
    call.aircraftId = previous.aircraftId ∧ call.revision = previous.revision ∧
      call.mode = previous.mode ∧ previous.cursorSecs ≤ call.cursorSecs := by
  unfold GearEventTracker.Breaks GearEventTracker.Discontinuity at hbreak
  simp only [h.aircraftId, h.cursorSecs, h.revision, h.mode, not_or, ne_eq, not_not,
    Option.some.injEq, Option.mem_def, exists_eq_left', not_lt] at hbreak
  obtain ⟨haircraft, -, hrevision, hmode, hcursor⟩ := hbreak
  exact ⟨haircraft.symm, hrevision.symm, hmode.symm, hcursor⟩

/-- The commands that a call sends, with the last command after them. -/
def GearEventTracker.findings (tracker : GearEventTracker) (call : GearCall) :
    List GearCommand × Option GearCommand :=
  let found := tracker.positionCommands call.store call.aircraftId call.mode call.cursorSecs
    call.revision
  if call.mode = .live ∧ ¬tracker.Breaks call then GearEventTracker.resolveAgain call.latest found
  else found

theorem apply_eq (tracker : GearEventTracker) (call : GearCall) :
    tracker.apply call = (⟨some call.aircraftId, some call.cursorSecs, some call.revision,
      some call.mode, (tracker.findings call).2⟩, (tracker.findings call).1) :=
  rfl

/-- A call that finds the gear at its cursor leaves the tracker up to date. -/
theorem synced_apply_of_findings {tracker : GearEventTracker} {call : GearCall}
    (h : (tracker.findings call).2 = call.latest) : Synced (tracker.apply call).1 call :=
  ⟨rfl, rfl, rfl, rfl, h⟩

/-- **A discontinuity** synchronizes. -/
theorem apply_discontinuity {tracker : GearEventTracker} {call : GearCall}
    (hbreak : tracker.Breaks call) :
    Synced (tracker.apply call).1 call ∧ (tracker.apply call).2 = call.latest.toList := by
  have hlast : call.latest.toList.getLast? = call.latest := by cases call.latest <;> rfl
  have hfound : tracker.findings call = (call.latest.toList, call.latest.toList.getLast?) := by
    have hlive : ¬(call.mode = .live ∧ ¬tracker.Breaks call) := fun h => h.2 hbreak
    unfold GearEventTracker.findings GearEventTracker.positionCommands
    rw [if_neg hlive]
    exact if_pos hbreak
  refine ⟨synced_apply_of_findings ?_, ?_⟩
  · rw [hfound, hlast]
  · rw [apply_eq, hfound]

/-- The gear events crossed since the call before. -/
def GearCall.crossed (previous call : GearCall) : List GearCommand :=
  gearCommandsBetween call.store call.aircraftId (.finite previous.cursorSecs)
    (.finite call.cursorSecs)

/-- What a call without a discontinuity finds by the position of the cursor. -/
theorem positionCommands_eq {tracker : GearEventTracker} {previous call : GearCall}
    (h : Synced tracker previous) (hbreak : ¬tracker.Breaks call) :
    tracker.positionCommands call.store call.aircraftId call.mode call.cursorSecs call.revision =
      retainChanges previous.latest (previous.crossed call) := by
  unfold GearEventTracker.Breaks at hbreak
  unfold GearEventTracker.positionCommands GearCall.crossed
  rw [if_neg hbreak, h.cursorSecs, h.lastCommand, Option.getD_some]

/-- The gear at the cursor of a continued replay is what the tracker carries on. -/
theorem carried_replay {tracker : GearEventTracker} {previous call : GearCall}
    (h : Synced tracker previous) (hfollows : Follows previous call)
    (hbreak : ¬tracker.Breaks call) (hmode : call.mode ≠ .live) :
    (retainChanges previous.latest (previous.crossed call)).2 = call.latest := by
  obtain ⟨haircraft, hrevision, hsame, hcursor⟩ := h.continues hbreak
  have hold : gearUpTo call.store call.aircraftId previous.cursorSecs =
      gearUpTo previous.store previous.aircraftId previous.cursorSecs := by
    unfold gearUpTo
    rw [haircraft, hfollows.upTo_eq hrevision (hsame ▸ hmode)]
  have hnew := gearCommandsBetween_eq call.store call.aircraftId hcursor
  rw [hold] at hnew
  unfold GearCall.latest
  rw [retainChanges_snd, latestGearCommand_eq, latestGearCommand_eq, hnew,
    List.getLast?_append, List.getLast?_append]
  unfold GearCall.crossed
  cases (gearUpTo previous.store previous.aircraftId previous.cursorSecs).getLast? <;> rfl

/-- **A continued replay** sends the crossed events that change the gear. -/
theorem apply_replay {tracker : GearEventTracker} {previous call : GearCall}
    (h : Synced tracker previous) (hfollows : Follows previous call)
    (hbreak : ¬tracker.Breaks call) (hmode : call.mode ≠ .live) :
    Synced (tracker.apply call).1 call ∧
      (tracker.apply call).2 = (retainChanges previous.latest (previous.crossed call)).1 := by
  have hfound : tracker.findings call =
      retainChanges previous.latest (previous.crossed call) := by
    have hlive : ¬(call.mode = .live ∧ ¬tracker.Breaks call) := fun h => hmode h.1
    unfold GearEventTracker.findings
    rw [if_neg hlive]
    exact positionCommands_eq h hbreak
  refine ⟨synced_apply_of_findings ?_, ?_⟩
  · rw [hfound, carried_replay h hfollows hbreak hmode]
  · rw [apply_eq, hfound]

/-- The second look ends with the state it finds. -/
theorem resolveAgain_spec {latest : Option GearCommand}
    {found : List GearCommand × Option GearCommand} (hnone : latest = none → found = ([], none))
    (hfound : found.1 ≠ [] → found.1.getLast? = found.2) :
    (GearEventTracker.resolveAgain latest found).2 = latest ∧
      ((GearEventTracker.resolveAgain latest found).1 ≠ [] →
        (GearEventTracker.resolveAgain latest found).1.getLast? = latest) := by
  unfold GearEventTracker.resolveAgain
  rcases latest with _ | command
  · rw [hnone rfl]
    exact ⟨rfl, fun h => absurd rfl h⟩
  · dsimp only
    split_ifs with h
    · exact ⟨rfl, fun _ => by simp⟩
    · have hsame : found.2 = some command := not_not.mp h
      exact ⟨hsame, fun hne => (hfound hne).trans hsame⟩

/-- The last of what is let through is what is carried on. -/
theorem retainChanges_getLast? {last : Option GearCommand} {l : List GearCommand}
    (h : (retainChanges last l).1 ≠ []) :
    (retainChanges last l).1.getLast? = (retainChanges last l).2 := by
  have hor := retainChanges_fst_getLast? last l
  obtain ⟨command, hcommand⟩ := Option.isSome_iff_exists.mp (List.getLast?_isSome.mpr h)
  rw [hcommand] at hor ⊢
  exact hor

/-- **A continued live view** ends with the gear at the cursor. -/
theorem apply_live {tracker : GearEventTracker} {previous call : GearCall}
    (h : Synced tracker previous) (hfollows : Follows previous call)
    (hbreak : ¬tracker.Breaks call) (hmode : call.mode = .live) :
    Synced (tracker.apply call).1 call ∧
      ((tracker.apply call).2 ≠ [] → (tracker.apply call).2.getLast? = call.latest) := by
  obtain ⟨haircraft, hrevision, -, hcursor⟩ := h.continues hbreak
  have hfound : tracker.findings call = GearEventTracker.resolveAgain call.latest
      (retainChanges previous.latest (previous.crossed call)) := by
    unfold GearEventTracker.findings
    rw [if_pos ⟨hmode, hbreak⟩, positionCommands_eq h hbreak]
  have hnone : call.latest = none →
      retainChanges previous.latest (previous.crossed call) = ([], none) := by
    -- nothing up to the cursor: nothing was there before either, and nothing is crossed
    intro hlatest
    unfold GearCall.latest at hlatest
    rw [latestGearCommand_eq, List.getLast?_eq_none_iff] at hlatest
    have hnew := gearCommandsBetween_eq call.store call.aircraftId hcursor
    rw [hlatest] at hnew
    obtain ⟨hold, hcrossed⟩ := List.append_eq_nil_iff.mp hnew.symm
    have hbefore : gearUpTo previous.store previous.aircraftId previous.cursorSecs = [] := by
      have hsub : (gearUpTo previous.store previous.aircraftId previous.cursorSecs).Sublist
          (gearUpTo call.store call.aircraftId previous.cursorSecs) := by
        unfold gearUpTo
        rw [Timeline.upTo_eq, Timeline.upTo_eq, haircraft]
        exact ((hfollows.sublist hrevision _).filter _).filterMap _
      rw [hold] at hsub
      exact List.sublist_nil.mp hsub
    have hlast : previous.latest = none := by
      unfold GearCall.latest
      rw [latestGearCommand_eq, hbefore]
      rfl
    unfold GearCall.crossed
    rw [hlast, hcrossed]
    rfl
  obtain ⟨hlast, hemitted⟩ := resolveAgain_spec hnone retainChanges_getLast?
  refine ⟨synced_apply_of_findings ?_, ?_⟩
  · rw [hfound, hlast]
  · rw [apply_eq, hfound]
    exact hemitted

/-- **After every call the tracker is up to date**, and the last command sent is the gear at the
cursor. -/
theorem Synced.apply {tracker : GearEventTracker} {call : GearCall}
    (h : tracker.Breaks call ∨ ∃ previous, Synced tracker previous ∧ Follows previous call) :
    Synced (tracker.apply call).1 call ∧
      ((tracker.apply call).2 ≠ [] → (tracker.apply call).2.getLast? = call.latest) := by
  by_cases hbreak : tracker.Breaks call
  · obtain ⟨hsynced, hsent⟩ := apply_discontinuity hbreak
    refine ⟨hsynced, fun _ => ?_⟩
    rw [hsent]
    cases call.latest <;> rfl
  · obtain ⟨previous, hprevious, hfollows⟩ := h.resolve_left hbreak
    by_cases hmode : call.mode = .live
    · exact apply_live hprevious hfollows hbreak hmode
    · obtain ⟨hsynced, hsent⟩ := apply_replay hprevious hfollows hbreak hmode
      refine ⟨hsynced, fun hne => ?_⟩
      rw [hsent] at hne ⊢
      rw [retainChanges_getLast? hne, carried_replay hprevious hfollows hbreak hmode]

/-! ## Runs -/

/-- The tracker after a history is up to date with the last call. -/
theorem synced_applyAll {history : List GearCall} (h : history.IsChain Follows)
    {last : GearCall} (hlast : history.getLast? = some last) :
    Synced (GearEventTracker.applyAll {} history) last := by
  induction history using List.reverseRecOn generalizing last with
  | nil => exact nomatch hlast
  | append_singleton before call ih =>
    obtain rfl : call = last := by simpa using hlast
    unfold GearEventTracker.applyAll
    rw [List.foldl_concat]
    refine (Synced.apply ?_).1
    rcases List.eq_nil_or_concat before with rfl | ⟨earlier, previous, rfl⟩
    · -- the first call
      exact .inl (.inl (by simp))
    · rw [List.concat_eq_append] at h ih ⊢
      obtain ⟨hbefore, -, hnext⟩ := List.isChain_append.mp h
      have hfollows : Follows previous call := hnext previous (by simp) call (by simp)
      exact .inr ⟨previous, ih hbefore (by simp), hfollows⟩

/-- **A replay without a discontinuity**: its events up to the cursor it starts from stay, and what
it sends are the events crossed in the store of its end, without repeats. -/
theorem Synced.emitted {tracker : GearEventTracker} {previous : GearCall} {rest : List GearCall}
    (h : Synced tracker previous) (hchain : (previous :: rest).IsChain Follows)
    (hmode : previous.mode ≠ .live) (hunbroken : tracker.Unbroken rest) :
    let last := (previous :: rest).getLast (List.cons_ne_nil _ _)
    (last.aircraftId = previous.aircraftId ∧ previous.cursorSecs ≤ last.cursorSecs ∧
      (last.store.series previous.aircraftId).events.upTo previous.cursorSecs =
        (previous.store.series previous.aircraftId).events.upTo previous.cursorSecs) ∧
      tracker.emitted rest = (retainChanges previous.latest (previous.crossed last)).1 := by
  induction rest generalizing tracker previous with
  | nil =>
    refine ⟨⟨rfl, le_refl _, rfl⟩, ?_⟩
    have hnew := gearCommandsBetween_eq previous.store previous.aircraftId
      (le_refl previous.cursorSecs)
    have hcrossed : previous.crossed previous = [] := List.append_right_eq_self.mp hnew.symm
    show [] = (retainChanges previous.latest (previous.crossed previous)).1
    rw [hcrossed]
    rfl
  | cons call rest ih =>
    obtain ⟨hbreak, hrest⟩ := hunbroken
    obtain ⟨hfollows, hchain⟩ := List.isChain_cons_cons.mp hchain
    obtain ⟨haircraft, hrevision, hsame, hcursor⟩ := h.continues hbreak
    have hcall : call.mode ≠ .live := hsame ▸ hmode
    obtain ⟨hsynced, hsent⟩ := apply_replay h hfollows hbreak hcall
    obtain ⟨⟨hid, hlater, hupTo⟩, hemitted⟩ := ih hsynced hchain hcall hrest
    intro last
    have hlast : (call :: rest).getLast (List.cons_ne_nil _ _) = last := rfl
    rw [hlast] at hid hlater hupTo hemitted
    have hcallUpTo : (call.store.series previous.aircraftId).events.upTo previous.cursorSecs =
        (previous.store.series previous.aircraftId).events.upTo previous.cursorSecs :=
      hfollows.upTo_eq hrevision hmode _
    have hlastUpTo : (last.store.series previous.aircraftId).events.upTo previous.cursorSecs =
        (call.store.series previous.aircraftId).events.upTo previous.cursorSecs := by
      rw [haircraft] at hupTo
      rw [← upTo_filter _ hcursor, hupTo, upTo_filter _ hcursor]
    refine ⟨⟨hid.trans haircraft, hcursor.trans hlater, hlastUpTo.trans hcallUpTo⟩, ?_⟩
    have hsplit : previous.crossed last = previous.crossed call ++ call.crossed last := by
      have hwhole := gearCommandsBetween_eq last.store last.aircraftId (hcursor.trans hlater)
      have hsecond := gearCommandsBetween_eq last.store last.aircraftId hlater
      have hfirst := gearCommandsBetween_eq call.store call.aircraftId hcursor
      have hmiddle : gearUpTo last.store last.aircraftId call.cursorSecs =
          gearUpTo call.store call.aircraftId call.cursorSecs := by
        unfold gearUpTo
        rw [hid, hupTo]
      have hstart : gearUpTo last.store last.aircraftId previous.cursorSecs =
          gearUpTo call.store call.aircraftId previous.cursorSecs := by
        unfold gearUpTo
        rw [hid, haircraft, hlastUpTo]
      rw [hwhole, hmiddle, hfirst, hstart, List.append_assoc] at hsecond
      exact List.append_cancel_left hsecond
    show (tracker.apply call).2 ++ (tracker.apply call).1.emitted rest = _
    rw [hsent, hemitted, hsplit, retainChanges_append,
      carried_replay h hfollows hbreak hcall]

/-- **The landing-gear tracker**, over every history of calls: after each call it knows the gear at
the cursor, and if the call sends commands the last one is the gear at the cursor; and a replay from
a discontinuity to before the next one sends the gear it synchronizes to and the gear events
crossed, in order and without consecutive repeats. -/
theorem gearTracker_spec {history : List GearCall} (h : history.IsChain Follows) :
    (∀ (before after : List GearCall) (call : GearCall), history = before ++ call :: after →
      let answer := (GearEventTracker.applyAll {} before).apply call
      answer.1.lastCommand = call.latest ∧
        (answer.2 ≠ [] → answer.2.getLast? = call.latest)) ∧
    ∀ (before rest after : List GearCall) (first : GearCall),
      history = before ++ (first :: rest) ++ after → first.mode ≠ .live →
        (GearEventTracker.applyAll {} before).Breaks first →
        ((GearEventTracker.applyAll {} before).apply first).1.Unbroken rest →
          (GearEventTracker.applyAll {} before).emitted (first :: rest) =
            (first.latest.toList ++ first.crossed
              ((first :: rest).getLast (List.cons_ne_nil _ _))).destutter (· ≠ ·) := by
  constructor
  · intro before after call hsplit
    subst hsplit
    obtain ⟨hbefore, -, hnext⟩ := List.isChain_append.mp h
    have hstep : (GearEventTracker.applyAll {} before).Breaks call ∨
        ∃ previous, Synced (GearEventTracker.applyAll {} before) previous ∧
          Follows previous call := by
      rcases hlast : before.getLast? with _ | previous
      · rw [List.getLast?_eq_none_iff] at hlast
        subst hlast
        exact .inl (.inl (by simp [GearEventTracker.applyAll]))
      · exact .inr ⟨previous, synced_applyAll hbefore hlast, hnext previous hlast call rfl⟩
    obtain ⟨hsynced, hsent⟩ := Synced.apply hstep
    exact ⟨hsynced.lastCommand, hsent⟩
  · intro before rest after first hsplit hmode hbreak hunbroken
    subst hsplit
    have hchain : (first :: rest).IsChain Follows :=
      (List.isChain_append.mp (List.isChain_append.mp h).1).2.1
    obtain ⟨hsynced, hsent⟩ := apply_discontinuity hbreak
    obtain ⟨-, hemitted⟩ := hsynced.emitted hchain hmode hunbroken
    rw [destutter_eq]
    show ((GearEventTracker.applyAll {} before).apply first).2 ++
      ((GearEventTracker.applyAll {} before).apply first).1.emitted rest = _
    rw [hsent, hemitted]

/-- The gear goes up before the cursor; the event that puts it down again arrives later. -/
def landingHistory : List GearCall :=
  let first : TimeSeriesStore :=
    ({} : TimeSeriesStore).apply (.event "a" (.finite 1) (.custom gearUp))
  [⟨first, "a", .replayPlaying, 2, 1⟩,
    ⟨first.apply (.event "a" (.finite 3) (.custom gearDown)), "a", .replayPlaying, 4, 1⟩]

theorem follows_landingHistory : landingHistory.IsChain Follows := by
  refine List.isChain_pair.mpr fun _ => ⟨[.event "a" (.finite 3) (.custom gearDown)], rfl, ?_⟩
  intro _ a ha id e he
  obtain rfl : a = ⟨"a", 3, .event (.custom gearDown)⟩ := List.mem_singleton.mp ha
  unfold Arrival.event? at he
  dsimp only at he
  split_ifs at he
  cases he
  decide +kernel

theorem gearTracker_spec_landing :
    landingHistory.IsChain Follows ∧
      (GearEventTracker.emitted {} landingHistory = [.up, .down]) ∧
      ∀ before after call, landingHistory = before ++ call :: after →
        ((GearEventTracker.applyAll {} before).apply call).1.lastCommand = call.latest :=
  ⟨follows_landingHistory, by decide +kernel, fun before after call hsplit =>
    ((gearTracker_spec follows_landingHistory).1 before after call hsplit).1⟩

end FlyRuler.Msfs
