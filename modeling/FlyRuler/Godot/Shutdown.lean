import FlyRuler.Godot.RuntimeRuns

/-!
# The end of a shutdown

`shutdown_internal` blocks the game thread until the worker has ended.

* `remaining_step`: every step of the worker that does not wait brings it nearer to its end.
* `shutdown_returns`: the wait is over after a bounded number of steps of the worker.
-/

namespace FlyRuler.Godot.Runtime

open FlyRuler.Pb FlyRuler.Store FlyRuler.Playback FlyRuler.Cursor

/-! ## The end of a shutdown -/

/-- How many steps the worker takes at most until it looks at the commands, or ends. -/
def Phase.rank : Phase → ℕ
  | done | failed => 0
  | stopping => 1
  | receiving | polling | backingOff | streamPolling => 2
  | starting | connecting | reporting | reconnecting _ => 3
  | publishing | losing _ => 4
  | handling _ | counting => 5
  | applying _ | showing _ => 6
  | streaming => 7
  | beating => 8

theorem Phase.rank_le (phase : Phase) : phase.rank ≤ 8 := by
  cases phase <;> simp [rank]

/-- The steps that the worker takes at most until it ends, once `Shutdown` is there. -/
def remaining (w : Worker) (channels : Channels) : ℕ := w.phase.rank + 8 * channels.commands.length

@[simp] theorem Worker.phase_goTo (w : Worker) (phase : Phase) : (w.goTo phase).phase = phase := rfl

@[simp] theorem Worker.phase_backedOff (w : Worker) : w.backedOff.phase = .polling := rfl

@[simp] theorem Channels.commands_send (channels : Channels) (event : WorkerEvent) :
    (channels.send event).commands = channels.commands := rfl

@[simp] theorem Channels.commands_sendReset (channels : Channels) (reason epoch : String) :
    (channels.sendReset reason epoch).commands = channels.commands := rfl

@[simp] theorem Channels.commands_trySend (channels : Channels) (frame : FrameSnapshotData) :
    (channels.trySend frame).commands = channels.commands := by
  unfold Channels.trySend
  split <;> rfl

/-- **Every step brings the worker nearer to its end**, as long as a command waits or it is
stopping. -/
theorem remaining_step {w : Worker} {channels : Channels} (input : WorkerInput)
    (hrank : w.phase.rank ≠ 0)
    (htold : channels.commands ≠ [] ∨ w.phase = .stopping) :
    remaining (w.step input channels).1 (w.step input channels).2 < remaining w channels := by
  -- a phase in which the worker does not look at the commands
  have hmove : ∀ (phase : Phase) (w' : Worker) (channels' : Channels), w'.phase = phase →
      channels'.commands = channels.commands → phase.rank < w.phase.rank →
        remaining w' channels' < remaining w channels := by
    intro phase w' channels' hphase hcommands hlt
    rw [remaining, remaining, hcommands, hphase]
    exact Nat.add_lt_add_right hlt _
  have htake : ∀ (w' : Worker) (channels' : Channels) (command : Command) (rest : List Command),
      channels.commands = command :: rest → channels'.commands = rest → 2 ≤ w.phase.rank →
        remaining w' channels' < remaining w channels := by
    intro w' channels' command rest hcommands hrest hlow
    have := w'.phase.rank_le
    rw [remaining, remaining, hcommands, hrest, List.length_cons]
    omega
  have hpoll : ∀ next : Worker, w.phase ≠ .stopping → 2 ≤ w.phase.rank →
      remaining (w.pollCommand channels next).1 (w.pollCommand channels next).2 <
        remaining w channels := by
    intro next hnot hlow
    unfold Worker.pollCommand
    split
    · next rest hcommands => exact htake _ _ _ rest hcommands rfl hlow
    · next command rest _ hcommands => exact htake _ _ command rest hcommands rfl hlow
    · next hnil => exact absurd htold (not_or.mpr ⟨not_not.mpr hnil, hnot⟩)
  unfold Worker.step
  cases hphase : w.phase with
  | starting =>
    dsimp only
    split
    · exact hmove .failed _ _ rfl rfl (by simp [hphase, Phase.rank])
    · exact hmove .receiving _ _ rfl rfl (by simp [hphase, Phase.rank])
    · exact hmove .polling _ _ rfl rfl (by simp [hphase, Phase.rank])
  | receiving =>
    dsimp only
    split
    · next rest hcommands => exact htake _ _ _ rest hcommands rfl (by simp [hphase, Phase.rank])
    · next command rest _ hcommands =>
      exact htake _ _ command rest hcommands rfl (by simp [hphase, Phase.rank])
    · next hnil => simp [hnil, hphase] at htold
  | handling command =>
    refine hmove .publishing _ _ rfl ?_ (by simp [hphase, Phase.rank])
    dsimp only
    split <;> rfl
  | publishing =>
    dsimp only
    split
    · exact hmove .reporting _ _ rfl (Channels.commands_trySend _ _) (by simp [hphase, Phase.rank])
    · exact hmove .receiving _ _ rfl rfl (by simp [hphase, Phase.rank])
  | reporting => exact hmove .receiving _ _ rfl rfl (by simp [hphase, Phase.rank])
  | polling => exact hpoll _ (by simp [hphase]) (by simp [hphase, Phase.rank])
  | connecting =>
    dsimp only
    split
    · exact hmove .backingOff _ _ rfl rfl (by simp [hphase, Phase.rank])
    · exact hmove .streamPolling _ _ rfl rfl (by simp [hphase, Phase.rank])
  | backingOff =>
    dsimp only
    split
    · next rest hcommands => exact htake _ _ _ rest hcommands rfl (by simp [hphase, Phase.rank])
    · next command rest _ hcommands =>
      exact htake _ _ command rest hcommands rfl (by simp [hphase, Phase.rank])
    · next hnil => simp [hnil, hphase] at htold
  | streamPolling => exact hpoll _ (by simp [hphase]) (by simp [hphase, Phase.rank])
  | beating =>
    dsimp only
    split
    · next error _ => exact hmove (.losing error) _ _ rfl rfl (by simp [hphase, Phase.rank])
    · exact hmove .streaming _ _ rfl rfl (by simp [hphase, Phase.rank])
  | streaming =>
    unfold Worker.receive
    cases input.received with
    | reset reset => exact hmove .counting _ _ rfl rfl (by simp [hphase, Phase.rank])
    | eventBatch batch =>
      refine hmove (.applying batch) _ _ rfl ?_ (by simp [hphase, Phase.rank])
      dsimp only
      split <;> rfl
    | frame frame =>
      refine hmove (.showing frame) _ _ rfl ?_ (by simp [hphase, Phase.rank])
      dsimp only
      split <;> rfl
    | error error => exact hmove (.losing error) _ _ rfl rfl (by simp [hphase, Phase.rank])
    | nothing => exact hmove .counting _ _ rfl rfl (by simp [hphase, Phase.rank])
  | applying batch => exact hmove .counting _ _ rfl rfl (by simp [hphase, Phase.rank])
  | showing frame =>
    exact hmove .counting _ _ rfl (Channels.commands_trySend _ _) (by simp [hphase, Phase.rank])
  | counting =>
    have hlt : ∀ timedOut : Bool, (if timedOut then Phase.losing "cursor stream timed out"
        else .streamPolling).rank < w.phase.rank := by
      rintro (_ | _) <;> simp [hphase, Phase.rank]
    exact hmove _ _ _ rfl rfl (hlt input.streamTimedOut)
  | losing reason => exact hmove (.reconnecting reason) _ _ rfl rfl (by simp [hphase, Phase.rank])
  | reconnecting reason => exact hmove .polling _ _ rfl rfl (by simp [hphase, Phase.rank])
  | stopping => exact hmove .done _ _ rfl rfl (by simp [hphase, Phase.rank])
  | done => exact absurd (by rw [hphase]; rfl) hrank
  | failed => exact absurd (by rw [hphase]; rfl) hrank

/-- The worker has ended, or it needs at most `n` more steps. -/
def EndsWithin (s : System) (n : ℕ) : Prop :=
  s.ended = true ∨ ∃ w, s.worker = some w ∧ remaining w s.channels ≤ n

section
variable {s : System}

theorem ended_iff : s.ended = true ↔ ∀ w, s.worker = some w → w.phase.rank = 0 := by
  have hrank : ∀ w : Worker, (decide (w.phase = .done) || decide (w.phase = .failed)) = true ↔
      w.phase.rank = 0 := by
    intro w
    cases w.phase <;> simp [Phase.rank]
  unfold System.ended
  cases s.worker with
  | none => simp
  | some w => simpa using hrank w

/-- A step while the game waits for a worker that has not ended. -/
theorem EndsWithin.next {n : ℕ} (hinv : Inv s) (hjoin : s.Joining) (hnot : s.ended = false)
    {action : Action} (h : EndsWithin s (n + action.isWorker.toNat)) :
    (Runtime.next s action).Joining ∧ EndsWithin (Runtime.next s action) n := by
  rcases h with hended | ⟨w, hworker, hle⟩
  · rw [hended] at hnot
    cases hnot
  have hrank : w.phase.rank ≠ 0 := by
    intro hzero
    refine absurd (ended_iff.mpr fun w' hw' => ?_) (Bool.eq_false_iff.mp hnot)
    rw [← Option.some_inj.mp (hworker.symm.trans hw')]
    exact hzero
  have hgame : s.game = .joining := hjoin
  cases action with
  | call call =>
    have hsame : Runtime.next s (.call call) = s := by
      unfold Runtime.next
      rw [hgame]
    rw [hsame]
    exact ⟨hjoin, .inr ⟨w, hworker, hle⟩⟩
  | play =>
    have hsame : Runtime.next s .play = s := by
      unfold Runtime.next System.play
      rw [hgame]
      simp [hnot]
    rw [hsame]
    exact ⟨hjoin, .inr ⟨w, hworker, hle⟩⟩
  | worker input =>
    have hstep : Runtime.next s (.worker input) = s.work w input := by
      unfold Runtime.next
      rw [hworker]
      rfl
    rw [hstep]
    refine ⟨hjoin, .inr ⟨_, rfl, ?_⟩⟩
    have htold : s.channels.commands ≠ [] ∨ w.phase = .stopping := by
      rcases (hinv.working w hworker).ends hjoin with hmem | hgroup | hgroup
      · exact .inl (List.ne_nil_of_mem hmem)
      · refine .inr ?_
        cases hphase : w.phase <;> simp_all [Phase.group, Phase.rank]
      · cases hphase : w.phase <;> simp_all [Phase.group, Phase.rank]
    exact Nat.le_of_lt_succ ((remaining_step input hrank htold).trans_le hle)
  | kernel op now =>
    refine ⟨hjoin, .inr ⟨{ w with kernel := w.kernel.next (op, now) }, ?_, hle⟩⟩
    change s.worker.map _ = _
    rw [hworker]
    rfl

/-- A worker that has ended does nothing more. -/
theorem ended_next (hjoin : s.Joining) (hended : s.ended = true) {action : Action}
    (hplay : action ≠ .play) :
    (Runtime.next s action).Joining ∧ (Runtime.next s action).ended = true := by
  have hgame : s.game = .joining := hjoin
  cases action with
  | call call =>
    have hsame : Runtime.next s (.call call) = s := by
      unfold Runtime.next
      rw [hgame]
    rw [hsame]
    exact ⟨hjoin, hended⟩
  | play => exact absurd rfl hplay
  | worker input =>
    have hsame : Runtime.next s (.worker input) = s := by
      unfold Runtime.next
      cases hworker : s.worker with
      | none => rfl
      | some w =>
        have hzero := ended_iff.mp hended w hworker
        have hstep : w.step input s.channels = (w, s.channels) := by
          unfold Worker.step
          cases hphase : w.phase <;> simp_all [Phase.rank]
        dsimp only
        rw [hstep, ← hworker]
    rw [hsame]
    exact ⟨hjoin, hended⟩
  | kernel op now =>
    refine ⟨hjoin, ended_iff.mpr fun w hw => ?_⟩
    obtain ⟨w', hworker, rfl⟩ := Option.map_eq_some_iff.mp hw
    exact ended_iff.mp hended w' hworker

/-- When the worker has ended, the game thread goes on. -/
theorem stopped_play (hjoin : s.Joining) (hended : s.ended = true) :
    s.play.node.status = .stopped ∧ s.play.worker = none ∧ s.play.game = .idle := by
  have hgame : s.game = .joining := hjoin
  have hplay : s.play = s.join := by
    unfold System.play
    rw [hgame]
    simp [hended]
  rw [hplay]
  exact ⟨rfl, rfl, rfl⟩

/-- The steps that are enough. -/
theorem exists_stopped (hinv : Inv s) (hjoin : s.Joining) (actions : List Action)
    (h : EndsWithin s (actions.countP Action.isWorker)) :
    ∃ pre, pre <+: actions ++ [.play] ∧ (pre.foldl next s).node.status = .stopped ∧
      (pre.foldl next s).worker = none ∧ (pre.foldl next s).game = .idle := by
  induction actions generalizing s with
  | nil =>
    refine ⟨[.play], List.prefix_refl _, stopped_play hjoin ?_⟩
    rcases h with hended | ⟨w, hworker, hle⟩
    · exact hended
    · refine ended_iff.mpr fun w' hw' => ?_
      rw [← Option.some_inj.mp (hworker.symm.trans hw')]
      exact Nat.le_zero.mp ((Nat.le_add_right _ _).trans hle)
  | cons action actions ih =>
    rcases hended : s.ended with _ | _
    · have hcount : (action :: actions).countP Action.isWorker =
          actions.countP Action.isWorker + action.isWorker.toNat := by
        rw [List.countP_cons]
        cases action.isWorker <;> rfl
      rw [hcount] at h
      obtain ⟨hjoin', h'⟩ := h.next hinv hjoin hended
      obtain ⟨pre, hprefix, hstopped⟩ := ih (hinv.next action) hjoin' h'
      exact ⟨action :: pre, (List.prefix_cons_inj action).mpr hprefix, hstopped⟩
    · -- the worker has ended already: the game thread goes on at its next turn
      by_cases hplay : action = .play
      · rw [hplay]
        exact ⟨[Action.play], List.prefix_append [Action.play] _, stopped_play hjoin hended⟩
      · obtain ⟨hjoin', hended'⟩ := ended_next hjoin hended hplay
        obtain ⟨pre, hprefix, hstopped⟩ := ih (hinv.next action) hjoin' (.inl hended')
        exact ⟨action :: pre, (List.prefix_cons_inj action).mpr hprefix, hstopped⟩

end

/-- **A shutdown returns**: wherever the worker is and whatever the network does, the game thread is
free again once the worker has taken eight steps for every waiting command and eight more. -/
theorem shutdown_returns (before actions : List Action) (hjoin : (run before).game = .joining)
    (henough : 8 * ((run before).channels.commands.length + 1) ≤ actions.countP Action.isWorker) :
    ∃ pre, pre <+: actions ++ [.play] ∧ (run (before ++ pre)).node.status = .stopped ∧
      (run (before ++ pre)).worker = none ∧ (run (before ++ pre)).game = .idle := by
  have hrun : ∀ pre, run (before ++ pre) = pre.foldl next (run before) :=
    fun pre => List.foldl_append
  have hends : EndsWithin (run before) (actions.countP Action.isWorker) := by
    cases hworker : (run before).worker with
    | none => exact .inl (ended_iff.mpr (by simp [hworker]))
    | some w =>
      refine .inr ⟨w, hworker, ?_⟩
      have := w.phase.rank_le
      rw [remaining]
      omega
  simp only [hrun]
  exact exists_stopped (inv_run before) hjoin actions hends

def sampleSettings : RuntimeSettings where
  role := .client
  serverAddress := "127.0.0.1:18002"
  staleTimeoutSecs := 2
  replay := {}
  reconnectInitialSecs := 1
  reconnectMaxSecs := 10
  reconnect_pos := by decide +kernel
  reconnect_le := by decide +kernel

def sampleInput : WorkerInput where
  now := 0
  generatedAt := 0
  started := .ok ("", "")
  timedOut := false
  snapshotDue := false
  saved := .ok ()
  loaded := .error ""
  sessions := []
  connected := .error "no server"
  heartbeatError := none
  received := .nothing
  stats := {}
  streamTimedOut := false

/-- A client that never finds its server. -/
theorem shutdown_returns_unconnected :
    ∃ pre, pre <+: List.replicate 16 (Action.worker sampleInput) ++ [.play] ∧
      (run ([.call (.start (.ok sampleSettings)), .worker sampleInput, .call .shutdown] ++ pre)
        ).node.status = .stopped ∧
      (run ([.call (.start (.ok sampleSettings)), .worker sampleInput, .call .shutdown] ++ pre)
        ).worker = none ∧
      (run ([.call (.start (.ok sampleSettings)), .worker sampleInput, .call .shutdown] ++ pre)
        ).game = .idle :=
  shutdown_returns _ _ rfl (by decide)

end FlyRuler.Godot.Runtime
