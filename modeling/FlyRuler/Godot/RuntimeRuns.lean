import FlyRuler.Godot.RuntimeWorker

/-!
# Runs of the runtime node

What holds in every state that any interleaving of the game thread and the worker reaches.

* `handled_handleEvents`: what one call of `process` makes of the events it has taken.
* `Inv.next`, `inv_run`: what every step keeps.
-/

namespace FlyRuler.Godot.Runtime

open FlyRuler.Pb FlyRuler.Store FlyRuler.Playback FlyRuler.Cursor

/-! ## The events of one call of `process` -/

/-- The completions among the signals. -/
def completedSignals (signals : List Signal) : List ℤ :=
  signals.filterMap fun signal =>
    match signal with
    | .operationCompleted id _ _ => some id
    | _ => none

def WorkerEvent.isStarted : WorkerEvent → Bool
  | started .. => true
  | _ => false

/-- What the node makes of some events. -/
structure Handled (events : List WorkerEvent) (node node' : FlyRulerRuntime)
    (signals : List Signal) : Prop where
  role : (∀ udp management remote role,
    WorkerEvent.started udp management remote role ∈ events → role = node.role) →
      node'.role = node.role
  connected : node'.connected = node.connected
  nextOperationId : node'.nextOperationId = node.nextOperationId
  status : node'.status = node.status ∨
    node'.status = .running ∧ (∃ event ∈ events, event.isStarted = true) ∨
    node'.status = .reconnecting ∨ node'.status = .failed ∨ .stopped ∈ events
  completed : completedSignals signals = (completions events).map toI64

theorem handled_handleEvent (node : FlyRulerRuntime) (event : WorkerEvent) :
    Handled [event] node (node.handleEvent event).1 (node.handleEvent event).2 := by
  cases event with
  | started udp management remote role =>
    refine ⟨fun h => h udp management remote role List.mem_cons_self, rfl, rfl,
      .inr (.inl ⟨rfl, _, List.mem_cons_self, rfl⟩), rfl⟩
  | reconnecting error => exact ⟨fun _ => rfl, rfl, rfl, .inr (.inr (.inl rfl)), rfl⟩
  | error error => exact ⟨fun _ => rfl, rfl, rfl, .inr (.inr (.inr (.inl rfl))), rfl⟩
  | stopped =>
    exact ⟨fun _ => rfl, rfl, rfl, .inr (.inr (.inr (.inr List.mem_cons_self))), rfl⟩
  | _ => exact ⟨fun _ => rfl, rfl, rfl, .inl rfl, rfl⟩

theorem Handled.append {events events' : List WorkerEvent} {node node' node'' : FlyRulerRuntime}
    {signals signals' : List Signal} (h : Handled events node node' signals)
    (h' : Handled events' node' node'' signals') :
    Handled (events ++ events') node node'' (signals ++ signals') where
  role hrole := by
    have hfirst := h.role fun udp management remote role hmem =>
      hrole udp management remote role (List.mem_append_left _ hmem)
    refine (h'.role fun udp management remote role hmem => ?_).trans hfirst
    rw [hfirst]
    exact hrole udp management remote role (List.mem_append_right _ hmem)
  connected := h'.connected.trans h.connected
  nextOperationId := h'.nextOperationId.trans h.nextOperationId
  status := by
    rcases h'.status with hsame | ⟨hstatus, event, hmem, hstarted⟩ | hother | hother | hstopped
    · rw [hsame]
      rcases h.status with hsame | ⟨hstatus, event, hmem, hstarted⟩ | hother | hother | hstopped
      · exact .inl hsame
      · exact .inr (.inl ⟨hstatus, event, List.mem_append_left _ hmem, hstarted⟩)
      · exact .inr (.inr (.inl hother))
      · exact .inr (.inr (.inr (.inl hother)))
      · exact .inr (.inr (.inr (.inr (List.mem_append_left _ hstopped))))
    · exact .inr (.inl ⟨hstatus, event, List.mem_append_right _ hmem, hstarted⟩)
    · exact .inr (.inr (.inl hother))
    · exact .inr (.inr (.inr (.inl hother)))
    · exact .inr (.inr (.inr (.inr (List.mem_append_right _ hstopped))))
  completed := by
    rw [completedSignals, List.filterMap_append, completions, List.filterMap_append,
      List.map_append]
    exact congrArg₂ _ h.completed h'.completed

/-- **What `drain_events` makes of the events.** -/
theorem handled_handleEvents (node : FlyRulerRuntime) (events : List WorkerEvent) :
    Handled events node (node.handleEvents events).1 (node.handleEvents events).2 := by
  induction events using List.reverseRecOn with
  | nil => exact ⟨fun _ => rfl, rfl, rfl, .inl rfl, rfl⟩
  | append_singleton events event ih =>
    rw [FlyRulerRuntime.handleEvents, List.foldl_concat]
    exact ih.append (handled_handleEvent _ event)

/-! ## What holds in every state -/

/-- The events that `process` has taken, and those that wait. -/
def System.pending (s : System) : List WorkerEvent :=
  match s.game with
  | .draining events => events ++ s.channels.events
  | _ => s.channels.events

/-- The resets that the current call of `process` has handled. -/
def System.handledResets (s : System) : ℕ :=
  match s.game with
  | .snapshots resets _ => resets
  | _ => 0

/-- The snapshot that the current call of `process` will publish. -/
def System.newest (s : System) : Option (ℕ × FrameSnapshotData) :=
  match s.game with
  | .snapshots _ newest => newest
  | _ => none

def System.Joining (s : System) : Prop := s.game = .joining

/-- While there is a worker. -/
structure Working (s : System) (w : Worker) : Prop where
  fits : w.Fits
  role : s.node.role = w.settings.role
  connected : ¬s.Joining → s.node.connected = true
  status : s.node.status ≠ .stopped ∧ (s.node.status = .stopping ↔ s.Joining)
  -- it does not end before it is told to
  told : ¬s.Joining → w.phase.group ≠ .ending ∧ .shutdown ∉ s.channels.commands ∧
    .stopped ∉ s.pending
  ends : s.Joining → .shutdown ∈ s.channels.commands ∨ w.phase.group = .ending ∨
    w.phase.group = .broken
  begun : (s.node.status = .running ∨ ∃ event ∈ s.pending, event.isStarted = true) →
    w.phase.group ≠ .fresh ∧ w.phase.group ≠ .broken
  roles : ∀ udp management remote role,
    WorkerEvent.started udp management remote role ∈ s.pending → role = w.settings.role
  client : w.settings.role = .client → (∀ command ∈ s.channels.commands, command = .shutdown) ∧
    ∀ event ∈ s.pending, event.isCommandError = false
  operations : s.launch.accepted = s.launch.completed ++ (completions s.pending ++
    (w.phase.inHand ++ operationsOf s.channels.commands))
  resets : s.launch.settled + (s.handledResets + resetsIn s.pending) = s.channels.resets

/-- While there is none. -/
structure Resting (s : System) : Prop where
  status : s.node.status = .stopped
  channels : s.channels = {}
  pending : s.pending = []
  game : ¬s.Joining

structure Inv (s : System) : Prop where
  orphaned : s.orphaned = 0
  working : ∀ w, s.worker = some w → Working s w
  resting : s.worker = none → Resting s
  snapshot : ∀ epoch frame,
    s.channels.snapshot = some (epoch, frame) ∨ s.newest = some (epoch, frame) →
      s.launch.settled ≤ epoch
  completed : s.launch.completed <+: s.launch.accepted

section
variable {s s' : System} {w : Worker}

/-- The parts of the state that the invariant of a working node is about. -/
structure SameView (s s' : System) : Prop where
  status : s'.node.status = s.node.status
  role : s'.node.role = s.node.role
  connected : s'.node.connected = s.node.connected
  joining : s'.Joining ↔ s.Joining
  commands : s'.channels.commands = s.channels.commands
  pending : s'.pending = s.pending
  accepted : s'.launch.accepted = s.launch.accepted
  completed : s'.launch.completed = s.launch.completed
  resets : s.launch.settled + (s.handledResets + resetsIn s.pending) = s.channels.resets →
    s'.launch.settled + (s'.handledResets + resetsIn s'.pending) = s'.channels.resets

theorem Working.congr (h : Working s w) (hsame : SameView s s') : Working s' w where
  fits := h.fits
  role := hsame.role.trans h.role
  connected hnot := hsame.connected.trans (h.connected (mt hsame.joining.mpr hnot))
  status := by
    rw [hsame.status, hsame.joining]
    exact h.status
  told hnot := by
    rw [hsame.commands, hsame.pending]
    exact h.told (mt hsame.joining.mpr hnot)
  ends hjoin := by
    rw [hsame.commands]
    exact h.ends (hsame.joining.mp hjoin)
  begun := by
    rw [hsame.status, hsame.pending]
    exact h.begun
  roles := by
    rw [hsame.pending]
    exact h.roles
  client := by
    rw [hsame.commands, hsame.pending]
    exact h.client
  operations := by
    rw [hsame.accepted, hsame.completed, hsame.commands, hsame.pending]
    exact h.operations
  resets := hsame.resets h.resets

/-- Only the signals, the answers, the ids and the last error change. -/
theorem Inv.congr (h : Inv s) (hnode : s'.node.status = s.node.status ∧
      s'.node.role = s.node.role ∧ s'.node.connected = s.node.connected)
    (hgame : s'.game = s.game) (hchannels : s'.channels = s.channels)
    (hworker : s'.worker = s.worker) (hlaunch : s'.launch = s.launch)
    (horphaned : s'.orphaned = s.orphaned) : Inv s' := by
  have hpending : s'.pending = s.pending := by
    rw [System.pending, System.pending, hgame, hchannels]
  have hhandled : s'.handledResets = s.handledResets := by
    rw [System.handledResets, System.handledResets, hgame]
  have hnewest : s'.newest = s.newest := by
    rw [System.newest, System.newest, hgame]
  have hjoining : s'.Joining ↔ s.Joining := by
    rw [System.Joining, System.Joining, hgame]
  refine ⟨horphaned.trans h.orphaned, fun w hw => ?_, fun hnone => ?_, ?_, ?_⟩
  · refine (h.working w (hworker.symm.trans hw)).congr ⟨hnode.1, hnode.2.1, hnode.2.2, hjoining, ?_,
      hpending, ?_, ?_, ?_⟩
    all_goals simp only [hchannels, hlaunch, hhandled, hpending, imp_self]
  · have hr := h.resting (hworker.symm.trans hnone)
    exact ⟨hnode.1.trans hr.status, hchannels.trans hr.channels, hpending.trans hr.pending,
      mt hjoining.mp hr.game⟩
  · rw [hchannels, hnewest, hlaunch]
    exact h.snapshot
  · rw [hlaunch]
    exact h.completed

theorem Inv.fail (h : Inv s) (message : String) : Inv (s.fail message) :=
  h.congr ⟨rfl, rfl, rfl⟩ rfl rfl rfl rfl rfl

/-- A running node has a worker that receives. -/
theorem Inv.exists_worker (h : Inv s) (hrunning : s.node.status = .running) :
    ∃ w, s.worker = some w ∧ w.phase.group = w.settings.role.group ∧ ¬s.Joining := by
  cases hworker : s.worker with
  | none =>
    rw [(h.resting hworker).status] at hrunning
    cases hrunning
  | some w =>
    have hw := h.working w hworker
    have hjoining : ¬s.Joining := by
      rw [← hw.status.2, hrunning]
      nofun
    obtain ⟨hfresh, hbroken⟩ := hw.begun (.inl hrunning)
    have hending := (hw.told hjoining).1
    refine ⟨w, rfl, ?_, hjoining⟩
    cases hgroup : w.phase.group with
    | fresh => exact absurd hgroup hfresh
    | serving => rw [hw.fits.role .server hgroup]; rfl
    | subscribed => rw [hw.fits.role .client hgroup]; rfl
    | ending => exact absurd hgroup hending
    | broken => exact absurd hgroup hbroken

theorem Inv.reachable (h : Inv s) (hrunning : s.node.status = .running) : s.reachable = true := by
  obtain ⟨w, hworker, hgroup, hjoining⟩ := h.exists_worker hrunning
  have hconnected := (h.working w hworker).connected hjoining
  rw [System.reachable, hconnected, hworker]
  cases hphase : w.phase <;> cases hrole : w.settings.role <;> simp_all [Phase.group, Role.group]

/-- The commands that `send` is called with. -/
theorem Inv.send (h : Inv s) {command : Command} (hcommand : command ≠ .shutdown) :
    Inv (s.send command).1 := by
  unfold System.send
  split
  · exact h.fail _
  split
  · exact h.fail _
  split
  · next hserver hrunning hreach =>
    rw [not_not] at hrunning
    obtain ⟨w, hworker, -, hjoining⟩ := h.exists_worker hrunning
    refine ⟨h.orphaned, fun w' hw' => ?_, fun hnone => ?_, h.snapshot, ?_⟩
    · have hw := h.working w' hw'
      refine ⟨hw.fits, hw.role, hw.connected, hw.status, fun hnot => ?_, fun hjoin => ?_, hw.begun,
        hw.roles, fun hclient => ?_, ?_, hw.resets⟩
      · obtain ⟨hending, hshutdown, hstopped⟩ := hw.told hnot
        refine ⟨hending, fun hmem => ?_, hstopped⟩
        rcases List.mem_append.mp hmem with hmem | hmem
        · exact hshutdown hmem
        · exact hcommand (List.mem_singleton.mp hmem).symm
      · exact absurd hjoin hjoining
      · exact absurd (hw.role.trans hclient) hserver
      · change s.launch.accepted ++ command.operation.toList = s.launch.completed ++
          (completions s.pending ++ (w'.phase.inHand ++
            operationsOf (s.channels.commands ++ [command])))
        rw [hw.operations, operationsOf, operationsOf, List.filterMap_append]
        cases hop : command.operation <;> simp [hop]
    · rw [hworker] at hnone
      cases hnone
    · exact h.completed.trans (List.prefix_append _ _)
  · exact h.fail _

theorem Inv.operate (h : Inv s) {make : ℕ → Command} (hmake : ∀ id, make id ≠ .shutdown) :
    Inv (s.operate make) :=
  have hnumbered : Inv { s with node := s.node.allocateOperation.2 } :=
    h.congr ⟨rfl, rfl, rfl⟩ rfl rfl rfl rfl rfl
  (hnumbered.send (hmake _)).congr ⟨rfl, rfl, rfl⟩ rfl rfl rfl rfl rfl

theorem Inv.sessionCommand (h : Inv s) (path : String) {make : ℕ → String → Command}
    (hmake : ∀ id, make id path ≠ .shutdown) : Inv (s.sessionCommand path make) := by
  unfold System.sessionCommand
  split
  · exact h.operate hmake
  · exact (h.fail _).congr ⟨rfl, rfl, rfl⟩ rfl rfl rfl rfl rfl

theorem fits_new (settings : RuntimeSettings) : (Worker.new settings).Fits :=
  ⟨fun role hrole => (by cases role <;> cases hrole), le_refl _, settings.reconnect_le⟩

/-- A launch from rest. -/
theorem Inv.launchWith (h : Inv s) (hidle : s.game = .idle) (hnone : s.worker = none)
    (settings : RuntimeSettings) : Inv (s.launchWith settings) := by
  -- the new channels are empty, and `process` is not running
  have hgame : (s.launchWith settings).game = .idle := hidle
  have hevents : (s.launchWith settings).pending = [] := by
    rw [System.pending, hgame]
    rfl
  have hhandled : (s.launchWith settings).handledResets = 0 := by
    rw [System.handledResets, hgame]
  have hnewest : (s.launchWith settings).newest = none := by
    rw [System.newest, hgame]
  have hjoining : ¬(s.launchWith settings).Joining := by
    rw [System.Joining, hgame]
    nofun
  refine ⟨?_, fun w hw => ?_, nofun, ?_, List.prefix_refl _⟩
  · change s.orphaned + s.worker.toList.length = 0
    rw [h.orphaned, hnone]
    rfl
  · obtain rfl := Option.some_inj.mp hw
    refine ⟨fits_new settings, rfl, fun _ => rfl,
      ⟨nofun, nofun, fun hjoin => absurd hjoin hjoining⟩, fun _ => ⟨nofun, nofun, ?_⟩,
      fun hjoin => absurd hjoin hjoining, ?_, ?_, fun _ => ⟨nofun, ?_⟩, ?_, ?_⟩
    · rw [hevents]
      nofun
    · rw [hevents]
      rintro (hrunning | ⟨event, hmem, -⟩)
      · cases hrunning
      · cases hmem
    · rw [hevents]
      nofun
    · rw [hevents]
      nofun
    · rw [hevents]
      rfl
    · rw [hevents, hhandled]
      rfl
  · rintro epoch frame (hsnapshot | hsnapshot)
    · cases hsnapshot
    · rw [hnewest] at hsnapshot
      cases hsnapshot

theorem Inv.start (h : Inv s) (hidle : s.game = .idle) (resolved : Except String RuntimeSettings) :
    Inv (s.start resolved) := by
  unfold System.start
  split
  · exact h.fail _
  · next hstopped =>
    rw [not_not] at hstopped
    cases resolved with
    | error error => exact h.fail _
    | ok settings =>
      refine h.launchWith hidle ?_ settings
      rw [Option.eq_none_iff_forall_ne_some]
      exact fun w hw => (h.working w hw).status.1 hstopped

theorem Inv.beginShutdown (h : Inv s) (hidle : s.game = .idle) : Inv s.beginShutdown := by
  unfold System.beginShutdown
  split
  · exact h
  next hstatus =>
  rw [not_or] at hstatus
  have hjoining : ¬s.Joining := by
    rw [System.Joining, hidle]
    nofun
  have hevents : s.tellWorker.pending = s.pending := by
    rw [System.pending, System.pending, hidle]
    rfl
  have hhandled : s.tellWorker.handledResets = s.handledResets := by
    rw [System.handledResets, System.handledResets, hidle]
    rfl
  refine ⟨h.orphaned, fun w hw => ?_, fun hnone => ?_, ?_, h.completed⟩
  · have hw := h.working w hw
    have hcommands : s.tellWorker.channels.commands = s.channels.commands ++ [.shutdown] :=
      if_pos (hw.connected hjoining)
    refine ⟨hw.fits, hw.role, fun hnot => absurd rfl hnot, ⟨nofun, fun _ => rfl, fun _ => rfl⟩,
      fun hnot => absurd rfl hnot, fun _ => .inl ?_, ?_, ?_, fun hclient => ⟨?_, ?_⟩, ?_, ?_⟩
    · rw [hcommands]
      exact List.mem_append_right _ List.mem_cons_self
    · rw [hevents]
      rintro (hrunning | hstarted)
      · cases hrunning
      · exact hw.begun (.inr hstarted)
    · rw [hevents]
      exact hw.roles
    · rw [hcommands]
      intro command hmem
      rcases List.mem_append.mp hmem with hmem | hmem
      · exact (hw.client hclient).1 command hmem
      · exact List.mem_singleton.mp hmem
    · rw [hevents]
      exact (hw.client hclient).2
    · rw [hevents, hcommands, operationsOf, List.filterMap_append]
      refine hw.operations.trans ?_
      exact congrArg (fun rest => s.launch.completed ++ (completions s.pending ++
        (w.phase.inHand ++ rest))) (List.append_nil _).symm
    · rw [hevents, hhandled]
      exact hw.resets
  · exact absurd (h.resting hnone).status hstatus.1
  · rintro epoch frame (hsnapshot | hsnapshot)
    · exact h.snapshot epoch frame (.inl hsnapshot)
    · cases hsnapshot

theorem Inv.process (h : Inv s) (hidle : s.game = .idle) :
    Inv { s with game := .draining [] } := by
  have hevents : s.pending = s.channels.events := by
    rw [System.pending, hidle]
  have hhandled : s.handledResets = 0 := by
    rw [System.handledResets, hidle]
  refine ⟨h.orphaned, fun w hw => ?_, fun hnone => ?_, ?_, h.completed⟩
  · refine (h.working w hw).congr ⟨rfl, rfl, rfl, ⟨nofun, fun hjoin => ?_⟩, rfl, hevents.symm, rfl,
      rfl, fun hsum => ?_⟩
    · rw [System.Joining, hidle] at hjoin
      cases hjoin
    · rw [hevents, hhandled] at hsum
      exact hsum
  · have hr := h.resting hnone
    exact ⟨hr.status, hr.channels, hevents.symm.trans hr.pending, nofun⟩
  · rintro epoch frame (hsnapshot | hsnapshot)
    · exact h.snapshot epoch frame (.inl hsnapshot)
    · cases hsnapshot

/-! ### The game thread goes on -/

theorem Inv.popEvent (h : Inv s) {events rest : List WorkerEvent} {event : WorkerEvent}
    (hgame : s.game = .draining events) (hevents : s.channels.events = event :: rest) :
    Inv { s with
      channels := { s.channels with events := rest }
      game := .draining (events ++ [event]) } := by
  have hpending : s.pending = events ++ [event] ++ rest := by
    rw [System.pending, hgame, hevents, List.append_assoc]
    rfl
  have hhandled : s.handledResets = 0 := by
    rw [System.handledResets, hgame]
  refine ⟨h.orphaned, fun w hw => ?_, fun hnone => ?_, ?_, h.completed⟩
  · refine (h.working w hw).congr ⟨rfl, rfl, rfl, ⟨nofun, fun hjoin => ?_⟩, rfl, hpending.symm, rfl,
      rfl, fun hsum => ?_⟩
    · rw [System.Joining, hgame] at hjoin
      cases hjoin
    · rw [hpending, hhandled] at hsum
      exact hsum
  · have hr := h.resting hnone
    rw [hr.channels] at hevents
    cases hevents
  · rintro epoch frame (hsnapshot | hsnapshot)
    · exact h.snapshot epoch frame (.inl hsnapshot)
    · cases hsnapshot

theorem Inv.handle (h : Inv s) {events : List WorkerEvent} (hgame : s.game = .draining events)
    (hevents : s.channels.events = []) : Inv (s.handle events) := by
  have hpending : s.pending = events := by
    rw [System.pending, hgame, hevents]
    exact List.append_nil _
  have hpending' : (s.handle events).pending = [] := hevents
  have hjoining : ¬s.Joining := by
    rw [System.Joining, hgame]
    nofun
  have hhandled : s.handledResets = 0 := by
    rw [System.handledResets, hgame]
  have hnode := handled_handleEvents s.node events
  refine ⟨h.orphaned, fun w hw => ?_, fun hnone => ?_, ?_, ?_⟩
  · have hw := h.working w hw
    obtain ⟨hending, hshutdown, hstopped⟩ := hw.told hjoining
    have hstatus : (s.handle events).node.status = s.node.status ∨
        (s.handle events).node.status = .running ∧ (∃ event ∈ events, event.isStarted = true) ∨
        (s.handle events).node.status = .reconnecting ∨
        (s.handle events).node.status = .failed := by
      rcases hnode.status with hsame | hrunning | hother | hother | hmem
      · exact .inl hsame
      · exact .inr (.inl hrunning)
      · exact .inr (.inr (.inl hother))
      · exact .inr (.inr (.inr hother))
      · rw [hpending] at hstopped
        exact absurd hmem hstopped
    have hroles := hw.roles
    have hresets := hw.resets
    have hoperations := hw.operations
    rw [hpending] at hroles hresets hoperations
    refine ⟨hw.fits, ?_, fun _ => hnode.connected.trans (hw.connected hjoining), ⟨?_, ?_⟩,
      fun _ => ⟨hending, hshutdown, ?_⟩, nofun, ?_, ?_, fun hclient => ⟨(hw.client hclient).1, ?_⟩,
      ?_, ?_⟩
    · refine (hnode.role ?_).trans hw.role
      rw [hw.role]
      exact hroles
    · rcases hstatus with hsame | ⟨hother, -⟩ | hother | hother
      · rw [hsame]
        exact hw.status.1
      all_goals
        rw [hother]
        nofun
    · rcases hstatus with hsame | ⟨hother, -⟩ | hother | hother
      · rw [hsame]
        exact ⟨fun hstopping => absurd (hw.status.2.mp hstopping) hjoining, nofun⟩
      all_goals
        rw [hother]
        exact ⟨nofun, nofun⟩
    · rw [hpending']
      nofun
    · rw [hpending']
      rintro (hrunning | ⟨event, hmem, -⟩)
      · rcases hstatus with hsame | ⟨-, hstarted⟩ | hother | hother
        · exact hw.begun (.inl (hsame.symm.trans hrunning))
        · refine hw.begun (.inr ?_)
          rw [hpending]
          exact hstarted
        · rw [hother] at hrunning
          cases hrunning
        · rw [hother] at hrunning
          cases hrunning
      · cases hmem
    · rw [hpending']
      nofun
    · rw [hpending']
      nofun
    · rw [hpending']
      refine hoperations.trans ?_
      exact (List.append_assoc _ _ _).symm
    · rw [hpending']
      rw [hhandled, Nat.zero_add] at hresets
      exact hresets
  · have hr := h.resting hnone
    have hnil : events = [] := hpending.symm.trans hr.pending
    subst hnil
    exact ⟨hr.status, hr.channels, hpending', nofun⟩
  · rintro epoch frame (hsnapshot | hsnapshot)
    · exact h.snapshot epoch frame (.inl hsnapshot)
    · cases hsnapshot
  · cases hworker : s.worker with
    | none =>
      have hnil : events = [] := hpending.symm.trans (h.resting hworker).pending
      subst hnil
      change s.launch.completed ++ [] <+: s.launch.accepted
      rw [List.append_nil]
      exact h.completed
    | some w =>
      have hoperations := (h.working w hworker).operations
      rw [hpending] at hoperations
      change s.launch.completed ++ completions events <+: s.launch.accepted
      rw [hoperations, ← List.append_assoc]
      exact List.prefix_append _ _

theorem Inv.popSnapshot (h : Inv s) {resets : ℕ} {newest : Option (ℕ × FrameSnapshotData)}
    (hgame : s.game = .snapshots resets newest) {snapshot : ℕ × FrameSnapshotData}
    (hsnapshot : s.channels.snapshot = some snapshot) :
    Inv { s with
      channels := { s.channels with snapshot := none }
      game := .snapshots resets (some snapshot) } := by
  have hpending : s.pending = s.channels.events := by
    rw [System.pending, hgame]
  have hhandled : s.handledResets = resets := by
    rw [System.handledResets, hgame]
  refine ⟨h.orphaned, fun w hw => ?_, fun hnone => ?_, ?_, h.completed⟩
  · refine (h.working w hw).congr ⟨rfl, rfl, rfl, ⟨nofun, fun hjoin => ?_⟩, rfl, hpending.symm, rfl,
      rfl, fun hsum => ?_⟩
    · rw [System.Joining, hgame] at hjoin
      cases hjoin
    · rw [hpending, hhandled] at hsum
      exact hsum
  · have hr := h.resting hnone
    rw [hr.channels] at hsnapshot
    cases hsnapshot
  · rintro epoch frame (hslot | hnewest)
    · cases hslot
    · refine h.snapshot epoch frame (.inl ?_)
      rw [hsnapshot]
      exact hnewest

theorem Inv.publish (h : Inv s) {resets : ℕ} {newest : Option (ℕ × FrameSnapshotData)}
    (hgame : s.game = .snapshots resets newest) (hsnapshot : s.channels.snapshot = none) :
    Inv (s.publish resets newest) := by
  have hpending : s.pending = s.channels.events := by
    rw [System.pending, hgame]
  have hhandled : s.handledResets = resets := by
    rw [System.handledResets, hgame]
  have hsettled : Inv { s with
      game := .idle, launch := { s.launch with settled := s.launch.settled + resets } } := by
    refine ⟨h.orphaned, fun w hw => ?_, fun hnone => ?_, ?_, h.completed⟩
    · refine (h.working w hw).congr ⟨rfl, rfl, rfl, ⟨nofun, fun hjoin => ?_⟩, rfl, hpending.symm,
        rfl, rfl, fun hsum => ?_⟩
      · rw [System.Joining, hgame] at hjoin
        cases hjoin
      · rw [hpending, hhandled, ← Nat.add_assoc] at hsum
        refine Eq.trans ?_ hsum
        exact congrArg _ (Nat.zero_add _)
    · have hr := h.resting hnone
      exact ⟨hr.status, hr.channels, hpending.symm.trans hr.pending, nofun⟩
    · rintro epoch frame (hslot | hnewest)
      · rw [hsnapshot] at hslot
        cases hslot
      · cases hnewest
  rcases newest with _ | ⟨epoch, frame⟩
  · exact hsettled
  · exact hsettled.congr ⟨rfl, rfl, rfl⟩ rfl rfl rfl rfl rfl

theorem Inv.join (h : Inv s) : Inv s.join := by
  have hworker : s.join.worker = none := rfl
  have hchannels : s.join.channels = {} := rfl
  have hgame : s.join.game = .idle := rfl
  have hnewest : s.join.newest = none := by
    rw [System.newest, hgame]
  refine ⟨h.orphaned, fun w hw => ?_, fun _ => ⟨rfl, hchannels, ?_, ?_⟩, ?_, h.completed⟩
  · rw [hworker] at hw
    cases hw
  · rw [System.pending, hgame, hchannels]
  · rw [System.Joining, hgame]
    nofun
  · rw [hchannels, hnewest]
    rintro epoch frame (hslot | hslot)
    · cases hslot
    · cases hslot

theorem Inv.play (h : Inv s) : Inv s.play := by
  unfold System.play
  split
  · exact h
  · next events hgame =>
    split
    · next event rest hevents => exact h.popEvent hgame hevents
    · next hevents => exact h.handle hgame hevents
  · next resets newest hgame =>
    split
    · next snapshot hsnapshot => exact h.popSnapshot hgame hsnapshot
    · next hsnapshot => exact h.publish hgame hsnapshot
  · split
    · exact h.join
    · exact h

theorem Inv.call (h : Inv s) (hidle : s.game = .idle) (call : Call) : Inv (s.call call) := by
  cases call with
  | start resolved => exact h.start hidle resolved
  | setLive => exact h.send nofun
  | pause => exact h.send nofun
  | seek timestampSecs => exact h.send nofun
  | play speed => exact h.send nofun
  | setSpeed speed => exact h.send nofun
  | step unit direction count =>
    change Inv (s.step unit direction count)
    unfold System.step
    split
    · exact h.fail _
    · exact h.fail _
    · split
      · exact h.fail _
      · exact h.send nofun
  | saveSession path => exact h.sessionCommand path nofun
  | loadSession path => exact h.sessionCommand path nofun
  | clearSession => exact h.operate nofun
  | process => exact h.process hidle
  | shutdown => exact h.beginShutdown hidle

/-! ### The worker and the kernel -/

theorem resetsIn_append (events events' : List WorkerEvent) :
    resetsIn (events ++ events') = resetsIn events + resetsIn events' := List.countP_append

theorem completions_append (events events' : List WorkerEvent) :
    completions (events ++ events') = completions events ++ completions events' :=
  List.filterMap_append

/-- Only `Shutdown` is no operation of a client. -/
theorem operationsOf_shutdown {commands : List Command}
    (h : ∀ command ∈ commands, command = .shutdown) : operationsOf commands = [] := by
  refine List.filterMap_eq_nil_iff.mpr fun command hmem => ?_
  rw [h command hmem]
  rfl

theorem inHand_of_subscribed {phase : Phase} (h : phase.group = .subscribed) :
    phase.inHand = [] := by
  cases phase <;> first | rfl | cases h

/-- A step of the worker, in the system. -/
def System.work (s : System) (w : Worker) (input : WorkerInput) : System :=
  let stepped := w.step input s.channels
  { s with worker := some stepped.1, channels := stepped.2 }

theorem Inv.work (h : Inv s) (hworker : s.worker = some w) (input : WorkerInput) :
    Inv (s.work w input) := by
  have hw := h.working w hworker
  obtain ⟨taken, sent, hstep⟩ := stepped_step hw.fits s.channels input
  have hpending : (s.work w input).pending = s.pending ++ sent := by
    change (match s.game with
      | .draining events => events ++ (w.step input s.channels).2.events
      | _ => (w.step input s.channels).2.events) = _
    rw [hstep.events, System.pending]
    split
    · exact (List.append_assoc _ _ _).symm
    · rfl
  have hcommands := hstep.commands
  have hrest : ∀ command ∈ (w.step input s.channels).2.commands, command ∈ s.channels.commands := by
    rw [hcommands]
    exact fun command hmem => List.mem_append_right _ hmem
  have htaken : ∀ command ∈ taken, command ∈ s.channels.commands := by
    rw [hcommands]
    exact fun command hmem => List.mem_append_left _ hmem
  refine ⟨h.orphaned, fun w' hw' => ?_, nofun, ?_, h.completed⟩
  · obtain rfl := Option.some_inj.mp hw'
    refine ⟨hstep.fits, hw.role.trans (congrArg _ hstep.settings.symm), hw.connected, hw.status,
      fun hnot => ?_, fun hjoin => ?_, fun hbegun => ?_, ?_, fun hclient => ?_, ?_, ?_⟩
    · obtain ⟨hending, hshutdown, hstopped⟩ := hw.told hnot
      refine ⟨?_, fun hmem => hshutdown (hrest _ hmem), ?_⟩
      · rcases hstep.group with hsame | ⟨-, hrole | ⟨hfailed, -⟩⟩ | ⟨htold, -⟩
        · rw [hsame]
          exact hending
        · rw [hrole]
          cases w.settings.role <;> nofun
        · rw [hfailed]
          nofun
        · refine absurd (htaken .shutdown ?_) hshutdown
          rw [htold]
          exact List.mem_cons_self
      · rw [hpending, List.mem_append]
        rintro (hmem | hmem)
        · exact hstopped hmem
        · exact hending (hstep.stopped hmem)
    · rcases hw.ends hjoin with hmem | hending | hbroken
      · rw [hcommands, List.mem_append] at hmem
        rcases hmem with hmem | hmem
        · refine .inr (.inl ?_)
          rw [hstep.told hmem]
          rfl
        · exact .inl hmem
      · refine .inr (.inl ?_)
        rcases hstep.group with hsame | ⟨hphase, -⟩ | ⟨-, hphase⟩
        · exact hsame.trans hending
        · rw [hphase] at hending
          cases hending
        · rw [hphase]
          rfl
      · rcases hstep.group with hsame | ⟨hphase, -⟩ | ⟨-, hphase⟩
        · exact .inr (.inr (hsame.trans hbroken))
        · rw [hphase] at hbroken
          cases hbroken
        · refine .inr (.inl ?_)
          rw [hphase]
          rfl
    · rw [hpending] at hbegun
      -- either it has begun before, or it says so now
      have hcases : (w.phase.group ≠ .fresh ∧ w.phase.group ≠ .broken) ∨
          ∃ role : Role, (w.step input s.channels).1.phase.group = role.group := by
        rcases hbegun with hrunning | ⟨event, hmem, hstarted⟩
        · exact .inl (hw.begun (.inl hrunning))
        rcases List.mem_append.mp hmem with hmem | hmem
        · exact .inl (hw.begun (.inr ⟨event, hmem, hstarted⟩))
        · cases event with
          | started udp management remote role =>
            exact .inr ⟨role, (hstep.started udp management remote role hmem).2⟩
          | _ => cases hstarted
      rcases hcases with ⟨hfresh, hbroken⟩ | ⟨role, hrole⟩
      · rcases hstep.group with hsame | ⟨hphase, -⟩ | ⟨-, hphase⟩
        · rw [hsame]
          exact ⟨hfresh, hbroken⟩
        · rw [hphase] at hfresh
          exact absurd rfl hfresh
        · rw [hphase]
          exact ⟨nofun, nofun⟩
      · rw [hrole]
        cases role <;> exact ⟨nofun, nofun⟩
    · rw [hpending, hstep.settings]
      intro udp management remote role hmem
      rcases List.mem_append.mp hmem with hmem | hmem
      · exact hw.roles udp management remote role hmem
      · exact (hstep.started udp management remote role hmem).1
    · rw [hstep.settings] at hclient
      obtain ⟨hshutdown, herrors⟩ := hw.client hclient
      refine ⟨fun command hmem => hshutdown command (hrest command hmem), ?_⟩
      rw [hpending]
      intro event hmem
      rcases List.mem_append.mp hmem with hmem | hmem
      · exact herrors event hmem
      · refine Bool.eq_false_iff.mpr fun herror => ?_
        rcases hstep.errors ⟨event, hmem, herror⟩ with hserving | ⟨command, hmem, hcommand⟩
        · have hserver := hw.fits.role .server hserving
          rw [hclient] at hserver
          cases hserver
        · exact hcommand (hshutdown command (htaken command hmem))
    · have hhand : w.phase.inHand ++ operationsOf taken =
          completions sent ++ (w.step input s.channels).1.phase.inHand := by
        by_cases hgroup : w.phase.group = .subscribed
        · obtain ⟨hsent, hhand'⟩ := hstep.subscribed hgroup
          obtain ⟨hshutdown, -⟩ := hw.client (hw.fits.role .client hgroup)
          rw [hsent, hhand', inHand_of_subscribed hgroup,
            operationsOf_shutdown fun command hmem => hshutdown command (htaken command hmem)]
        · exact hstep.operations hgroup
      have hoperations := hw.operations
      rw [hcommands, operationsOf, List.filterMap_append] at hoperations
      rw [hpending, completions_append, List.append_assoc, ← List.append_assoc (completions sent),
        ← hhand, List.append_assoc]
      exact hoperations
    · rw [hpending, resetsIn_append]
      have hresets := hw.resets
      change s.launch.settled + (s.handledResets + (resetsIn s.pending + resetsIn sent)) =
        (w.step input s.channels).2.resets
      rw [hstep.resets, ← hresets]
      omega
  · rintro epoch frame (hslot | hnewest)
    · rcases hstep.snapshot with hsame | ⟨-, frame', hoffered⟩
      · exact h.snapshot epoch frame (.inl (hsame.symm.trans hslot))
      · obtain ⟨hepoch, -⟩ := Prod.mk.inj (Option.some_inj.mp (hoffered.symm.trans hslot))
        change s.launch.settled ≤ epoch
        rw [← hepoch, ← hw.resets]
        exact Nat.le_add_right _ _
    · exact h.snapshot epoch frame (.inr hnewest)

/-- **What every step keeps.** -/
theorem Inv.next (h : Inv s) (action : Action) : Inv (next s action) := by
  cases action with
  | call call =>
    unfold Runtime.next
    dsimp only
    split
    · next hidle => exact h.call hidle call
    · exact h
  | play => exact h.play
  | worker input =>
    unfold Runtime.next
    dsimp only
    split
    · exact h
    · next w hworker => exact h.work hworker input
  | kernel op now =>
    refine ⟨h.orphaned, fun w' hw' => ?_, fun hnone => ?_, h.snapshot, h.completed⟩
    · obtain ⟨w, hworker, rfl⟩ := Option.map_eq_some_iff.mp hw'
      have hw := h.working w hworker
      exact ⟨⟨hw.fits.role, hw.fits.lower, hw.fits.upper⟩, hw.role, hw.connected, hw.status,
        hw.told, hw.ends, hw.begun, hw.roles, hw.client, hw.operations, hw.resets⟩
    · have hr := h.resting (Option.map_eq_none_iff.mp hnone)
      exact ⟨hr.status, hr.channels, hr.pending, hr.game⟩

end

def run (actions : List Action) : System := actions.foldl next {}

theorem inv_empty : Inv {} := by
  have hgame : ({} : System).game = .idle := rfl
  have hchannels : ({} : System).channels = {} := rfl
  have hnewest : ({} : System).newest = none := by
    rw [System.newest, hgame]
  refine ⟨rfl, fun w hw => ?_, fun _ => ⟨rfl, rfl, ?_, ?_⟩, ?_, List.prefix_refl _⟩
  · exact absurd hw (by simp)
  · rw [System.pending, hgame, hchannels]
  · rw [System.Joining, hgame]
    nofun
  · rw [hchannels, hnewest]
    rintro epoch frame (hslot | hslot)
    · cases hslot
    · cases hslot

theorem inv_run (actions : List Action) : Inv (run actions) :=
  List.foldlRecOn actions _ inv_empty fun _ hs action _ => hs.next action

end FlyRuler.Godot.Runtime
