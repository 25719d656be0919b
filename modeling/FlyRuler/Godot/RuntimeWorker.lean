import FlyRuler.Godot.Runtime

/-!
# The steps of the worker thread

What one step of the worker takes from the commands, sends as events and offers as a snapshot: an
operation is in the hand of the worker between the two, a client answers no command, and only
`Shutdown` leads to the end.

* `Stepped`: all that a step may do, with one lemma for each kind of step.
* `stepped_step`: every step is one of them.
-/

namespace FlyRuler.Godot.Runtime

open FlyRuler.Pb FlyRuler.Store FlyRuler.Playback FlyRuler.Cursor

/-! ## The places of an operation -/

/-- The part of the program that a phase belongs to. -/
inductive Group where
  | fresh
  | serving
  | subscribed
  | ending
  | broken
  deriving DecidableEq

def Phase.group : Phase → Group
  | starting => .fresh
  | receiving | handling _ | publishing | reporting => .serving
  | polling | connecting | backingOff | streamPolling | beating | streaming | applying _
  | showing _ | counting | losing _ | reconnecting _ => .subscribed
  | stopping | done => .ending
  | failed => .broken

def Role.group : Role → Group
  | server => .serving
  | client => .subscribed

/-- The operation of the command that the worker is handling. -/
def Phase.inHand : Phase → List ℕ
  | handling command => command.operation.toList
  | _ => []

def operationsOf (commands : List Command) : List ℕ := commands.filterMap Command.operation

/-- The worker runs the loop of its role, and its delay is one that the settings allow. -/
structure Worker.Fits (w : Worker) : Prop where
  role : ∀ role : Role, w.phase.group = role.group → w.settings.role = role
  lower : w.settings.reconnectInitialSecs ≤ w.reconnectDelay
  upper : w.reconnectDelay ≤ w.settings.reconnectMaxSecs

/-! ## One step of the worker -/

/-- An event that says nothing about the worker's state. -/
def WorkerEvent.plain : WorkerEvent → Bool
  | started .. | streamReset .. | stopped => false
  | _ => true

def WorkerEvent.isCommandError : WorkerEvent → Bool
  | commandError _ => true
  | _ => false

/-- A step that takes the commands `taken` and sends the events `sent`. -/
structure Stepped (w : Worker) (channels : Channels) (taken : List Command)
    (sent : List WorkerEvent) (w' : Worker) (channels' : Channels) : Prop where
  settings : w'.settings = w.settings
  fits : w'.Fits
  group : w'.phase.group = w.phase.group ∨
    w.phase = .starting ∧
      (w'.phase.group = w.settings.role.group ∨ w'.phase = .failed ∧ completions sent = []) ∨
    taken = [.shutdown] ∧ w'.phase = .stopping
  told : .shutdown ∈ taken → w'.phase = .stopping
  commands : channels.commands = taken ++ channels'.commands
  events : channels'.events = channels.events ++ sent
  resets : channels'.resets = channels.resets + resetsIn sent
  snapshot : channels'.snapshot = channels.snapshot ∨ channels.snapshot = none ∧
    ∃ frame, channels'.snapshot = some (channels.resets, frame)
  operations : w.phase.group ≠ .subscribed →
    w.phase.inHand ++ operationsOf taken = completions sent ++ w'.phase.inHand
  subscribed : w.phase.group = .subscribed → completions sent = [] ∧ w'.phase.inHand = []
  stopped : .stopped ∈ sent → w.phase.group = .ending
  started : ∀ udp management remote role, .started udp management remote role ∈ sent →
    role = w.settings.role ∧ w'.phase.group = role.group
  errors : (∃ event ∈ sent, event.isCommandError = true) →
    w.phase.group = .serving ∨ ∃ command ∈ taken, command ≠ .shutdown

section
variable {w w' : Worker} {channels : Channels}

/-- What the steps of one loop have in common. -/
structure Same (w w' : Worker) : Prop where
  settings : w'.settings = w.settings
  fits : w'.Fits
  group : w'.phase.group = w.phase.group

/-- Another phase of the same loop, with the same delay. -/
theorem same_of (h : w.Fits) (hsettings : w'.settings = w.settings)
    (hdelay : w'.reconnectDelay = w.reconnectDelay) (hgroup : w'.phase.group = w.phase.group) :
    Same w w' where
  settings := hsettings
  fits := by
    refine ⟨fun role hrole => ?_, ?_, ?_⟩
    · rw [hsettings]
      exact h.role role (hgroup.symm.trans hrole)
    · rw [hsettings, hdelay]
      exact h.lower
    · rw [hsettings, hdelay]
      exact h.upper
  group := hgroup

theorem Stepped.quiet (h : Same w w') (hhand : w'.phase.inHand = w.phase.inHand)
    (hsubscribed : w.phase.group = .subscribed → w.phase.inHand = []) :
    Stepped w channels [] [] w' channels where
  settings := h.settings
  fits := h.fits
  group := .inl h.group
  told := nofun
  commands := rfl
  events := (List.append_nil _).symm
  resets := rfl
  snapshot := .inl rfl
  operations _ := by rw [hhand]; exact List.append_nil _
  subscribed hgroup := ⟨rfl, hhand.trans (hsubscribed hgroup)⟩
  stopped := nofun
  started := nofun
  errors := by simp

/-- A plain event is sent. -/
theorem Stepped.send (h : Same w w') {event : WorkerEvent} (hplain : event.plain = true)
    (hhand : w.phase.inHand = completions [event] ++ w'.phase.inHand)
    (hsubscribed : w.phase.group = .subscribed → w.phase.inHand = [])
    (herror : event.isCommandError = true → w.phase.group = .serving) :
    Stepped w channels [] [event] w' (channels.send event) where
  settings := h.settings
  fits := h.fits
  group := .inl h.group
  told := nofun
  commands := rfl
  events := rfl
  resets := by cases event <;> simp_all [WorkerEvent.plain, resetsIn, Channels.send]
  snapshot := .inl rfl
  operations _ := (List.append_nil _).trans hhand
  subscribed hgroup := by
    rw [hsubscribed hgroup] at hhand
    exact List.append_eq_nil_iff.mp hhand.symm
  stopped hmem := by
    obtain rfl := List.mem_singleton.mp hmem
    cases hplain
  started _ _ _ _ hmem := by
    obtain rfl := List.mem_singleton.mp hmem
    cases hplain
  errors := by
    rintro ⟨other, hmem, herr⟩
    obtain rfl := List.mem_singleton.mp hmem
    exact .inl (herror herr)

/-- A reset is sent. -/
theorem Stepped.reset (h : Same w w') (hhand : w.phase.inHand = []) (hhand' : w'.phase.inHand = [])
    (reason epoch : String) :
    Stepped w channels [] [.streamReset reason epoch] w' (channels.sendReset reason epoch) where
  settings := h.settings
  fits := h.fits
  group := .inl h.group
  told := nofun
  commands := rfl
  events := rfl
  resets := rfl
  snapshot := .inl rfl
  operations _ := by rw [hhand, hhand']; rfl
  subscribed _ := ⟨rfl, hhand'⟩
  stopped := by simp
  started := by simp
  errors := by simp [WorkerEvent.isCommandError]

/-- The loop begins or is shown to have begun. -/
theorem Stepped.announce (hsettings : w'.settings = w.settings) (hfits : w'.Fits)
    (hgroup : w'.phase.group = w.settings.role.group)
    (hfrom : w.phase = .starting ∨ w.phase.group = w.settings.role.group)
    (hhand : w.phase.inHand = []) (hhand' : w'.phase.inHand = [])
    (udp management remote : String) :
    Stepped w channels [] [.started udp management remote w.settings.role] w'
      (channels.send (.started udp management remote w.settings.role)) where
  settings := hsettings
  fits := hfits
  group := by
    rcases hfrom with hphase | hsame
    · exact .inr (.inl ⟨hphase, .inl hgroup⟩)
    · exact .inl (hgroup.trans hsame.symm)
  told := nofun
  commands := rfl
  events := rfl
  resets := rfl
  snapshot := .inl rfl
  operations _ := by rw [hhand, hhand']; rfl
  subscribed _ := ⟨rfl, hhand'⟩
  stopped := by simp
  started udp management remote role hmem := by
    obtain ⟨rfl, rfl, rfl, rfl⟩ := WorkerEvent.started.inj (List.mem_singleton.mp hmem)
    exact ⟨rfl, hgroup⟩
  errors := by simp [WorkerEvent.isCommandError]

/-- A snapshot is offered. -/
theorem Stepped.offer (h : Same w w') (hhand : w.phase.inHand = []) (hhand' : w'.phase.inHand = [])
    (frame : FrameSnapshotData) : Stepped w channels [] [] w' (channels.trySend frame) := by
  have hquiet : Stepped w channels [] [] w' channels :=
    .quiet h (hhand'.trans hhand.symm) fun _ => hhand
  unfold Channels.trySend
  split
  · exact hquiet
  · next hnone =>
    exact { hquiet with
      commands := rfl, events := (List.append_nil _).symm, resets := rfl
      snapshot := .inr ⟨hnone, frame, rfl⟩ }

/-- `Shutdown` is taken. -/
theorem Stepped.shutdown (h : w.Fits) (hhand : w.phase.inHand = []) {rest : List Command}
    (hcommands : channels.commands = .shutdown :: rest) :
    Stepped w channels [.shutdown] [] (w.goTo .stopping) { channels with commands := rest } where
  settings := rfl
  fits := ⟨fun role hrole => (by cases role <;> cases hrole), h.lower, h.upper⟩
  group := .inr (.inr ⟨rfl, rfl⟩)
  told _ := rfl
  commands := hcommands
  events := (List.append_nil _).symm
  resets := rfl
  snapshot := .inl rfl
  operations _ := by rw [hhand]; rfl
  subscribed _ := ⟨rfl, rfl⟩
  stopped := nofun
  started := nofun
  errors := by simp

/-- The server takes a command. -/
theorem Stepped.take (h : w.Fits) (hphase : w.phase = .receiving) {command : Command}
    (hcommand : command ≠ .shutdown) {rest : List Command}
    (hcommands : channels.commands = command :: rest) :
    Stepped w channels [command] [] (w.goTo (.handling command))
      { channels with commands := rest } where
  settings := rfl
  fits := by
    have hsame : Same w (w.goTo (.handling command)) := same_of h rfl rfl (by rw [hphase]; rfl)
    exact hsame.fits
  group := .inl (by rw [hphase]; rfl)
  told hmem := absurd (List.mem_singleton.mp hmem).symm hcommand
  commands := hcommands
  events := (List.append_nil _).symm
  resets := rfl
  snapshot := .inl rfl
  operations _ := by
    rw [hphase]
    cases hop : command.operation <;>
      simp [operationsOf, completions, Phase.inHand, Worker.goTo, hop]
  subscribed hgroup := by
    rw [hphase] at hgroup
    cases hgroup
  stopped := nofun
  started := nofun
  errors := by simp

/-- The client takes another command than `Shutdown`. -/
theorem Stepped.ignore (h : Same w w') (hgroup : w.phase.group = .subscribed)
    (hhand' : w'.phase.inHand = []) {command : Command} (hcommand : command ≠ .shutdown)
    {rest : List Command} (hcommands : channels.commands = command :: rest) :
    Stepped w channels [command] [] w' { channels with commands := rest } ∧
      Stepped w channels [command] [.commandError receiveOnly] w'
        ({ channels with commands := rest }.send (.commandError receiveOnly)) := by
  have hbase : Stepped w channels [command] [] w' { channels with commands := rest } := {
    settings := h.settings
    fits := h.fits
    group := .inl h.group
    told := fun hmem => absurd (List.mem_singleton.mp hmem).symm hcommand
    commands := hcommands
    events := (List.append_nil _).symm
    resets := rfl
    snapshot := .inl rfl
    operations := fun hnot => absurd hgroup hnot
    subscribed := fun _ => ⟨rfl, hhand'⟩
    stopped := nofun
    started := nofun
    errors := by simp }
  refine ⟨hbase, { hbase with
    commands := hcommands, events := rfl, resets := rfl, subscribed := fun _ => ⟨rfl, hhand'⟩
    operations := fun hnot => absurd hgroup hnot
    stopped := by simp, started := by simp
    errors := fun _ => .inr ⟨command, List.mem_singleton_self _, hcommand⟩
    snapshot := .inl rfl, group := .inl h.group }⟩

/-- Into the loop of the role. -/
theorem fits_goTo (h : w.Fits) {role : Role} (hrole : w.settings.role = role) {phase : Phase}
    (hgroup : phase.group = role.group) : (w.goTo phase).Fits where
  role other hother := by
    have hsame : role.group = other.group := hgroup.symm.trans hother
    cases role <;> cases other
    all_goals first | exact hrole | cases hsame
  lower := h.lower
  upper := h.upper

/-- The client's loop begins without an event. -/
theorem Stepped.begin (hphase : w.phase = .starting) {phase : Phase}
    (hgroup : phase.group = w.settings.role.group) (hfits : (w.goTo phase).Fits)
    (hhand : phase.inHand = []) : Stepped w channels [] [] (w.goTo phase) channels where
  settings := rfl
  fits := hfits
  group := .inr (.inl ⟨hphase, .inl hgroup⟩)
  told := nofun
  commands := rfl
  events := (List.append_nil _).symm
  resets := rfl
  snapshot := .inl rfl
  operations _ := by
    rw [hphase]
    exact hhand.symm
  subscribed _ := ⟨rfl, hhand⟩
  stopped := nofun
  started := nofun
  errors := by simp

/-- Nothing begins. -/
theorem Stepped.startFailed (h : w.Fits) (hphase : w.phase = .starting) (error : String) :
    Stepped w channels [] [.error error] (w.goTo .failed) (channels.send (.error error)) where
  settings := rfl
  fits := ⟨fun role hrole => (by cases role <;> cases hrole), h.lower, h.upper⟩
  group := .inr (.inl ⟨hphase, .inr ⟨rfl, rfl⟩⟩)
  told := nofun
  commands := rfl
  events := rfl
  resets := rfl
  snapshot := .inl rfl
  operations _ := by
    rw [hphase]
    rfl
  subscribed _ := ⟨rfl, rfl⟩
  stopped := by simp
  started := by simp
  errors := by simp [WorkerEvent.isCommandError]

/-- The worker says that it stops. -/
theorem Stepped.stop (h : w.Fits) (hphase : w.phase = .stopping) :
    Stepped w channels [] [.stopped] (w.goTo .done) (channels.send .stopped) where
  settings := rfl
  fits := ⟨fun role hrole => (by cases role <;> cases hrole), h.lower, h.upper⟩
  group := .inl (by rw [hphase]; rfl)
  told := nofun
  commands := rfl
  events := rfl
  resets := rfl
  snapshot := .inl rfl
  operations _ := by
    rw [hphase]
    rfl
  subscribed _ := ⟨rfl, rfl⟩
  stopped _ := by
    rw [hphase]
    rfl
  started := by simp
  errors := by simp [WorkerEvent.isCommandError]

theorem handled_handleCommand (kernel : PlaybackController) (input : WorkerInput)
    (command : Command) : ∀ event ∈ (handleCommand kernel input command).2,
      event.plain = true ∧ completions [event] = command.operation.toList := by
  have htimeline : ∀ op, ∀ event ∈ (timelineCommand kernel input.now op).2,
      event.plain = true ∧ completions [event] = [] := by
    intro op event hevent
    unfold timelineCommand at hevent
    dsimp only at hevent
    split at hevent
    · obtain rfl := Option.some_inj.mp hevent
      exact ⟨rfl, rfl⟩
    · cases hevent
  have hcomplete : ∀ id result, (complete id result).plain = true ∧
      completions [complete id result] = [id] := by
    rintro id (error | _)
    · exact ⟨rfl, rfl⟩
    · exact ⟨rfl, rfl⟩
  intro event hevent
  cases command with
  | live => exact htimeline _ event hevent
  | pause => exact htimeline _ event hevent
  | seek => exact htimeline _ event hevent
  | play => exact htimeline _ event hevent
  | setSpeed => exact htimeline _ event hevent
  | step => exact htimeline _ event hevent
  | save id name =>
    obtain rfl := Option.some_inj.mp hevent
    exact hcomplete id _
  | load id name =>
    rw [handleCommand] at hevent
    split at hevent
    · obtain rfl := Option.some_inj.mp hevent
      exact hcomplete id _
    · obtain rfl := Option.some_inj.mp hevent
      exact hcomplete id _
  | clear id =>
    obtain rfl := Option.some_inj.mp hevent
    exact hcomplete id _
  | shutdown => cases hevent

/-- An operation is always completed. -/
theorem isSome_handleCommand (kernel : PlaybackController) (input : WorkerInput)
    (command : Command) (h : command.operation ≠ none) :
    (handleCommand kernel input command).2.isSome := by
  cases command with
  | save => rfl
  | load =>
    rw [handleCommand]
    split <;> rfl
  | clear => rfl
  | _ => exact absurd rfl h

/-- What the client receives. -/
theorem stepped_receive (h : w.Fits) (hphase : w.phase = .streaming) (input : WorkerInput) :
    ∃ taken sent, Stepped w channels taken sent (w.receive input channels).1
      (w.receive input channels).2 := by
  have hhand : w.phase.inHand = [] := by
    rw [hphase]
    rfl
  have hgo : ∀ phase : Phase, phase.group = .subscribed → Same w (w.goTo phase) :=
    fun phase hgroup => same_of h rfl rfl (hgroup.trans (by rw [hphase]; rfl))
  have hclient : w.settings.role = .client := h.role .client (by rw [hphase]; rfl)
  unfold Worker.receive
  cases input.received with
  | reset reset =>
    refine ⟨_, _, .reset ?_ hhand rfl _ _⟩
    exact same_of h rfl rfl (by rw [hphase]; rfl)
  | eventBatch batch =>
    dsimp only
    split
    · exact ⟨_, _, .reset (hgo (.applying batch) rfl) hhand rfl _ _⟩
    · exact ⟨_, _, .quiet (hgo (.applying batch) rfl) hhand.symm fun _ => hhand⟩
  | frame frame =>
    have hshowing : Same w { w with announcedRunning := true, phase := .showing frame } :=
      same_of h rfl rfl (by rw [hphase]; rfl)
    have hgroup : w.settings.role.group = .subscribed := by
      rw [hclient]
      rfl
    dsimp only
    split
    · exact ⟨_, _, .quiet hshowing hhand.symm fun _ => hhand⟩
    · rw [← hclient]
      refine ⟨_, _, .announce ?_ hshowing.fits hgroup.symm (.inr ?_) hhand rfl w.udp ""
        w.settings.serverAddress⟩
      · rfl
      · rw [hgroup, hphase]
        rfl
  | error error => exact ⟨_, _, .quiet (hgo (.losing error) rfl) hhand.symm fun _ => hhand⟩
  | nothing => exact ⟨_, _, .quiet (hgo .counting rfl) hhand.symm fun _ => hhand⟩

/-- **One step of the worker.** -/
theorem stepped_step (h : w.Fits) (channels : Channels) (input : WorkerInput) : ∃ taken sent,
    Stepped w channels taken sent (w.step input channels).1 (w.step input channels).2 := by
  have hpoll : ∀ next : Worker, Same w next → w.phase.group = .subscribed → w.phase.inHand = [] →
      next.phase.inHand = [] → ∃ taken sent,
        Stepped w channels taken sent (w.pollCommand channels next).1
          (w.pollCommand channels next).2 := by
    intro next hsame hgroup hhand hhand'
    unfold Worker.pollCommand
    split
    · next rest hcommands => exact ⟨_, _, .shutdown h hhand hcommands⟩
    · next command rest hne hcommands =>
      exact ⟨_, _, (Stepped.ignore hsame hgroup hhand' (fun heq => hne heq) hcommands).2⟩
    · exact ⟨_, _, .quiet hsame (hhand'.trans hhand.symm) fun _ => hhand⟩
  have hbacked : w.phase = .backingOff → Same w w.backedOff := by
    intro hphase
    refine ⟨rfl, ⟨fun role hrole => h.role role (by rw [hphase]; exact hrole), ?_, ?_⟩, ?_⟩
    · have hnonneg := w.settings.reconnect_pos.le.trans h.lower
      refine le_min (h.lower.trans ?_) w.settings.reconnect_le
      exact le_mul_of_one_le_right hnonneg one_le_two
    · exact min_le_right _ _
    · rw [hphase]
      rfl
  have hgo : ∀ phase : Phase, phase.group = w.phase.group → Same w (w.goTo phase) :=
    fun phase hgroup => same_of h rfl rfl hgroup
  unfold Worker.step
  cases hphase : w.phase with
  | starting =>
    dsimp only
    split
    · exact ⟨_, _, .startFailed h hphase _⟩
    · next udp management _ hrole =>
      have hfits : (w.goTo .receiving).Fits := fits_goTo h hrole rfl
      rw [← hrole]
      refine ⟨_, _, .announce ?_ hfits ?_ (.inl hphase) (by rw [hphase]; rfl) rfl udp management ""⟩
      · rfl
      · rw [hrole]
        rfl
    · next hrole =>
      exact ⟨_, _, .begin hphase (by rw [hrole]; rfl) (fits_goTo h hrole rfl) rfl⟩
  | receiving =>
    dsimp only
    split
    · next rest hcommands => exact ⟨_, _, .shutdown h (by rw [hphase]; rfl) hcommands⟩
    · next command rest hne hcommands => exact ⟨_, _, .take h hphase hne hcommands⟩
    · split
      · exact ⟨_, _, .quiet (hgo _ (by rw [hphase]; rfl)) (by rw [hphase]; rfl)
          (by simp [hphase, Phase.inHand])⟩
      · exact ⟨_, _, .quiet (same_of h rfl rfl rfl) rfl (by simp [hphase, Phase.inHand])⟩
  | handling command =>
    have hserving : w.phase.group = .serving := by
      rw [hphase]
      rfl
    have hnot : w.phase.group = .subscribed → w.phase.inHand = [] := by
      intro hgroup
      rw [hserving] at hgroup
      cases hgroup
    have hsome := isSome_handleCommand w.kernel input command
    dsimp only
    rcases hhandled : handleCommand w.kernel input command with ⟨kernel, _ | event⟩
    · refine ⟨_, _, .quiet ?_ ?_ hnot⟩
      · exact same_of h rfl rfl hserving.symm
      rw [hhandled] at hsome
      by_contra hhand
      refine absurd (hsome fun hnone => hhand ?_) (by simp)
      rw [hphase]
      simp [Phase.inHand, hnone]
    · obtain ⟨hplain, hcompletes⟩ := handled_handleCommand w.kernel input command event
        (by rw [hhandled]; rfl)
      refine ⟨_, _, .send ?_ hplain ?_ hnot fun _ => hserving⟩
      · exact same_of h rfl rfl hserving.symm
      rw [hphase, hcompletes]
      exact (List.append_nil _).symm
  | publishing =>
    dsimp only
    split
    · refine ⟨_, _, .offer ?_ (by rw [hphase]; rfl) rfl _⟩
      exact same_of h rfl rfl (by rw [hphase]; rfl)
    · exact ⟨_, _, .quiet (hgo _ (by rw [hphase]; rfl)) (by rw [hphase]; rfl)
        (by simp [hphase, Phase.inHand])⟩
  | reporting =>
    exact ⟨_, _, .send (hgo _ (by rw [hphase]; rfl)) rfl (by rw [hphase]; rfl)
      (by simp [hphase, Phase.inHand]) nofun⟩
  | polling =>
    exact hpoll _ (hgo _ (by rw [hphase]; rfl)) (by rw [hphase]; rfl) (by rw [hphase]; rfl) rfl
  | connecting =>
    dsimp only
    split
    · exact ⟨_, _, .send (hgo _ (by rw [hphase]; rfl)) rfl (by rw [hphase]; rfl)
        (by simp [hphase, Phase.inHand]) nofun⟩
    · have hsame := hgo .streamPolling (by rw [hphase]; rfl)
      refine ⟨_, _, .quiet ?_ (by rw [hphase]; rfl) (by simp [hphase, Phase.inHand])⟩
      exact ⟨rfl, ⟨hsame.fits.role, le_refl _, w.settings.reconnect_le⟩, hsame.group⟩
  | backingOff =>
    dsimp only
    split
    · next rest hcommands => exact ⟨_, _, .shutdown h (by rw [hphase]; rfl) hcommands⟩
    · next command rest hne hcommands =>
      exact ⟨_, _, (Stepped.ignore (hbacked hphase) (by rw [hphase]; rfl) rfl hne hcommands).1⟩
    · split
      · exact ⟨_, _, .quiet (hbacked hphase) (by rw [hphase]; rfl)
          (by simp [hphase, Phase.inHand])⟩
      · exact ⟨_, _, .quiet (same_of h rfl rfl rfl) rfl (by simp [hphase, Phase.inHand])⟩
  | streamPolling =>
    exact hpoll _ (hgo _ (by rw [hphase]; rfl)) (by rw [hphase]; rfl) (by rw [hphase]; rfl) rfl
  | beating =>
    dsimp only
    split
    · exact ⟨_, _, .quiet (hgo _ (by rw [hphase]; rfl)) (by rw [hphase]; rfl)
        (by simp [hphase, Phase.inHand])⟩
    · exact ⟨_, _, .quiet (hgo _ (by rw [hphase]; rfl)) (by rw [hphase]; rfl)
        (by simp [hphase, Phase.inHand])⟩
  | streaming => exact stepped_receive h hphase input
  | applying batch =>
    refine ⟨_, _, .send ?_ rfl (by rw [hphase]; rfl) (by simp [hphase, Phase.inHand]) nofun⟩
    exact same_of h rfl rfl (by rw [hphase]; rfl)
  | showing frame =>
    exact ⟨_, _, .offer (hgo _ (by rw [hphase]; rfl)) (by rw [hphase]; rfl) rfl _⟩
  | counting =>
    have hgroup : ∀ phase : Phase, (phase = .losing "cursor stream timed out" ∨
        phase = .streamPolling) → phase.group = w.phase.group ∧ phase.inHand = [] := by
      rintro phase (rfl | rfl)
      · exact ⟨by rw [hphase]; rfl, rfl⟩
      · exact ⟨by rw [hphase]; rfl, rfl⟩
    obtain ⟨hsame, hhand⟩ := hgroup
      (if input.streamTimedOut then .losing "cursor stream timed out" else .streamPolling)
      (by split <;> simp)
    exact ⟨_, _, .send (hgo _ hsame) rfl (by rw [hphase]; exact hhand.symm)
      (by simp [hphase, Phase.inHand]) nofun⟩
  | losing reason =>
    exact ⟨_, _, .reset (hgo _ (by rw [hphase]; rfl)) (by rw [hphase]; rfl) rfl _ _⟩
  | reconnecting reason =>
    exact ⟨_, _, .send (hgo _ (by rw [hphase]; rfl)) rfl (by rw [hphase]; rfl)
      (by simp [hphase, Phase.inHand]) nofun⟩
  | stopping => exact ⟨_, _, .stop h hphase⟩
  | done => exact ⟨_, _, .quiet (same_of h rfl rfl rfl) rfl (by simp [hphase, Phase.inHand])⟩
  | failed => exact ⟨_, _, .quiet (same_of h rfl rfl rfl) rfl (by simp [hphase, Phase.inHand])⟩

end

end FlyRuler.Godot.Runtime
