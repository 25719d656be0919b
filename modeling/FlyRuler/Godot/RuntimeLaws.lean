import FlyRuler.Godot.RuntimeRuns

/-!
# The laws of the runtime node

The operations get ids, and every id that a call has returned is completed at most once.

* `numbered_run`: the ids and the completions in every state of a run.
* `node_laws`: one worker at a time, every operation in one place, a client that takes no commands,
  and no snapshot from before a reset that an earlier `process` has handled.
-/

namespace FlyRuler.Godot.Runtime

open FlyRuler.Pb FlyRuler.Store FlyRuler.Playback FlyRuler.Cursor

/-! ## The ids of the operations -/

theorem toI64_injOn {id id' : ℕ} (h : id < u64Size) (h' : id' < u64Size)
    (heq : toI64 id = toI64 id') : id = id' := by
  unfold toI64 u64Size at *
  split at heq <;> split at heq <;> omega

theorem toI64_ne_zero {id : ℕ} (hpos : 0 < id) (h : id < u64Size) : toI64 id ≠ 0 := by
  unfold toI64 u64Size at *
  split <;> omega

/-- The ids that the calls have returned belong to the operations, and every completion that was
signalled is one of them. -/
structure Numbered (s : System) : Prop where
  bounds : 0 < s.node.nextOperationId ∧ s.node.nextOperationId < u64Size
  returned : ∃ past, s.returned.filter (· ≠ 0) = past ++ s.launch.accepted.map toI64 ∧
    ∃ done, completedSignals s.signals = done ++ s.launch.completed.map toI64 ∧ done.Sublist past
  unused : s.returned.length + 1 < u64Size →
    s.node.nextOperationId ≤ s.returned.length + 1 ∧ ∃ ids : List ℕ,
      s.returned.filter (· ≠ 0) = ids.map toI64 ∧ ids.Pairwise (· < ·) ∧
        ∀ id ∈ ids, 0 < id ∧ id < s.node.nextOperationId

section
variable {s s' : System}

theorem completedSignals_append (signals signals' : List Signal) :
    completedSignals (signals ++ signals') =
      completedSignals signals ++ completedSignals signals' :=
  List.filterMap_append

/-- The ids, the answers and the completions are the same. -/
theorem Numbered.congr (h : Numbered s) (hnext : s'.node.nextOperationId = s.node.nextOperationId)
    (hreturned : s'.returned = s.returned) (haccepted : s'.launch.accepted = s.launch.accepted)
    (hcompleted : s'.launch.completed = s.launch.completed)
    (hsignals : completedSignals s'.signals = completedSignals s.signals) : Numbered s' where
  bounds := by
    rw [hnext]
    exact h.bounds
  returned := by
    rw [hreturned, haccepted, hcompleted, hsignals]
    exact h.returned
  unused := by
    rw [hnext, hreturned]
    exact h.unused

theorem Numbered.fail (h : Numbered s) (message : String) : Numbered (s.fail message) :=
  h.congr rfl rfl rfl rfl ((completedSignals_append _ _).trans (List.append_nil _))

/-- How `send` ends. -/
theorem send_cases (s : System) (command : Command) :
    (∃ message, s.send command = (s.fail message, false)) ∨
      s.send command = ({ s with
        channels := { s.channels with commands := s.channels.commands ++ [command] }
        launch :=
          { s.launch with accepted := s.launch.accepted ++ command.operation.toList } }, true) := by
  unfold System.send
  split
  · exact .inl ⟨_, rfl⟩
  split
  · exact .inl ⟨_, rfl⟩
  split
  · exact .inr rfl
  · exact .inl ⟨_, rfl⟩

theorem Numbered.send (h : Numbered s) {command : Command} (hcommand : command.operation = none) :
    Numbered (s.send command).1 := by
  rcases send_cases s command with ⟨message, heq⟩ | heq
  · rw [heq]
    exact h.fail message
  · rw [heq]
    refine h.congr rfl rfl ?_ rfl rfl
    rw [hcommand]
    exact List.append_nil _

/-- A refusal is `0`, and no id. -/
theorem Numbered.refuse (h : Numbered s) (nextOperationId : ℕ)
    (hnext : 0 < nextOperationId ∧ nextOperationId < u64Size)
    (hle : s.returned.length + 2 < u64Size → s.node.nextOperationId ≤ nextOperationId ∧
      nextOperationId ≤ s.returned.length + 2)
    (hnumber : s'.node.nextOperationId = nextOperationId)
    (hreturned : s'.returned = s.returned ++ [0])
    (haccepted : s'.launch.accepted = s.launch.accepted)
    (hcompleted : s'.launch.completed = s.launch.completed)
    (hsignals : completedSignals s'.signals = completedSignals s.signals) : Numbered s' := by
  have hfilter : s'.returned.filter (· ≠ 0) = s.returned.filter (· ≠ 0) := by
    rw [hreturned, List.filter_append]
    exact List.append_nil _
  refine ⟨by rwa [hnumber], ?_, fun hlength => ?_⟩
  · rw [hfilter, haccepted, hcompleted, hsignals]
    exact h.returned
  · have hcount : s'.returned.length = s.returned.length + 1 := by
      rw [hreturned, List.length_append, List.length_singleton]
    obtain ⟨-, ids, hids, hsorted, hbound⟩ := h.unused (by omega)
    obtain ⟨hlow, hhigh⟩ := hle (by omega)
    refine ⟨by omega, ids, hfilter.trans hids, hsorted, fun id hid => ⟨(hbound id hid).1, ?_⟩⟩
    rw [hnumber]
    exact (hbound id hid).2.trans_le hlow

/-- The next id. -/
theorem Numbered.allocate (h : Numbered s) :
    (0 < s.node.allocateOperation.2.nextOperationId ∧
        s.node.allocateOperation.2.nextOperationId < u64Size) ∧
      (s.returned.length + 2 < u64Size →
        s.node.allocateOperation.2.nextOperationId = s.node.nextOperationId + 1 ∧
          s.node.nextOperationId ≤ s.returned.length + 1) := by
  have hsize : 1 < u64Size := by decide
  have hmod : (s.node.nextOperationId + 1) % u64Size < u64Size := Nat.mod_lt _ (by omega)
  refine ⟨⟨Nat.lt_of_lt_of_le one_pos (le_max_right _ _), max_lt hmod hsize⟩, fun hlength => ?_⟩
  obtain ⟨hle, -⟩ := h.unused (by omega)
  refine ⟨?_, hle⟩
  change max ((s.node.nextOperationId + 1) % u64Size) 1 = _
  rw [Nat.mod_eq_of_lt (by omega)]
  exact max_eq_left (Nat.le_add_left 1 _)

theorem Numbered.operate (h : Numbered s) {make : ℕ → Command}
    (hmake : ∀ id, (make id).operation = some id) : Numbered (s.operate make) := by
  obtain ⟨hbounds, hsucc⟩ := h.allocate
  obtain ⟨hpos, hlt⟩ := h.bounds
  unfold System.operate
  rcases send_cases { s with node := s.node.allocateOperation.2 }
    (make s.node.allocateOperation.1) with ⟨message, heq⟩ | heq
  · simp only [heq]
    refine h.refuse _ hbounds (fun hlength => ?_) rfl rfl rfl rfl
      ((completedSignals_append _ _).trans (List.append_nil _))
    obtain ⟨hnext, hle⟩ := hsucc hlength
    omega
  · simp only [heq, if_true]
    have hne : toI64 s.node.nextOperationId ≠ 0 := toI64_ne_zero hpos hlt
    have hfilter : (s.returned ++ [toI64 s.node.nextOperationId]).filter (· ≠ 0) =
        s.returned.filter (· ≠ 0) ++ [toI64 s.node.nextOperationId] := by
      rw [List.filter_append]
      exact congrArg _ (List.filter_cons_of_pos (decide_eq_true hne))
    refine ⟨hbounds, ?_, fun hlength => ?_⟩
    · obtain ⟨past, hpast, done, hdone, hsub⟩ := h.returned
      refine ⟨past, ?_, done, hdone, hsub⟩
      change (s.returned ++ [toI64 s.node.nextOperationId]).filter (· ≠ 0) = past ++
        (s.launch.accepted ++ (make s.node.nextOperationId).operation.toList).map toI64
      rw [hfilter, hpast, hmake, List.map_append, ← List.append_assoc]
      rfl
    · change (s.returned ++ [toI64 s.node.nextOperationId]).length + 1 < u64Size at hlength
      rw [List.length_append, List.length_singleton] at hlength
      obtain ⟨hnext, hle⟩ := hsucc hlength
      obtain ⟨-, ids, hids, hsorted, hbound⟩ := h.unused (by omega)
      refine ⟨?_, ids ++ [s.node.nextOperationId], ?_, ?_, ?_⟩
      · change s.node.allocateOperation.2.nextOperationId ≤
          (s.returned ++ [toI64 s.node.nextOperationId]).length + 1
        rw [hnext, List.length_append, List.length_singleton]
        omega
      · change (s.returned ++ [toI64 s.node.nextOperationId]).filter (· ≠ 0) = _
        rw [hfilter, hids, List.map_append]
        rfl
      · refine List.pairwise_append.mpr ⟨hsorted, List.pairwise_singleton _ _, ?_⟩
        intro id hid other hother
        rw [List.mem_singleton.mp hother]
        exact (hbound id hid).2
      · intro id hid
        change 0 < id ∧ id < s.node.allocateOperation.2.nextOperationId
        rw [hnext]
        rcases List.mem_append.mp hid with hid | hid
        · exact ⟨(hbound id hid).1, Nat.lt_succ_of_lt (hbound id hid).2⟩
        · rw [List.mem_singleton.mp hid]
          exact ⟨hpos, Nat.lt_succ_self _⟩

theorem Numbered.sessionCommand (h : Numbered s) (path : String) {make : ℕ → String → Command}
    (hmake : ∀ id, (make id path).operation = some id) : Numbered (s.sessionCommand path make) := by
  unfold System.sessionCommand
  split
  · exact h.operate hmake
  · refine h.refuse _ h.bounds (fun hlength => ⟨le_refl _, ?_⟩) rfl rfl rfl rfl
      ((completedSignals_append _ _).trans (List.append_nil _))
    have := (h.unused (by omega)).1
    omega

/-- A launch begins a new list of operations. -/
theorem Numbered.launchWith (h : Numbered s) (hcompleted : s.launch.completed <+: s.launch.accepted)
    (settings : RuntimeSettings) : Numbered (s.launchWith settings) where
  bounds := h.bounds
  returned := by
    obtain ⟨past, hpast, done, hdone, hsub⟩ := h.returned
    refine ⟨s.returned.filter (· ≠ 0), (List.append_nil _).symm, completedSignals s.signals, ?_, ?_⟩
    · exact (completedSignals_append _ _).trans rfl
    · rw [hpast, hdone]
      exact hsub.append (hcompleted.sublist.map toI64)
  unused := h.unused

theorem Numbered.play (h : Numbered s) : Numbered s.play := by
  unfold System.play
  split
  · exact h
  · next events hgame =>
    split
    · exact h.congr rfl rfl rfl rfl rfl
    · have hnode := handled_handleEvents s.node events
      refine ⟨?_, ?_, ?_⟩
      · change 0 < (s.node.handleEvents events).1.nextOperationId ∧
          (s.node.handleEvents events).1.nextOperationId < u64Size
        rw [hnode.nextOperationId]
        exact h.bounds
      · obtain ⟨past, hpast, done, hdone, hsub⟩ := h.returned
        refine ⟨past, hpast, done, ?_, hsub⟩
        change completedSignals (s.signals ++ (s.node.handleEvents events).2) =
          done ++ (s.launch.completed ++ completions events).map toI64
        rw [completedSignals_append, hdone, hnode.completed, List.map_append, List.append_assoc]
      · intro hlength
        change (s.node.handleEvents events).1.nextOperationId ≤ s.returned.length + 1 ∧
          ∃ ids : List ℕ, s.returned.filter (· ≠ 0) = ids.map toI64 ∧ ids.Pairwise (· < ·) ∧
            ∀ id ∈ ids, 0 < id ∧ id < (s.node.handleEvents events).1.nextOperationId
        rw [hnode.nextOperationId]
        exact h.unused hlength
  · next resets newest hgame =>
    split
    · exact h.congr rfl rfl rfl rfl rfl
    · rcases newest with _ | ⟨epoch, frame⟩
      · exact h.congr rfl rfl rfl rfl rfl
      · exact h.congr rfl rfl rfl rfl ((completedSignals_append _ _).trans (List.append_nil _))
  · split
    · exact h.congr rfl rfl rfl rfl ((completedSignals_append _ _).trans (List.append_nil _))
    · exact h

theorem Numbered.call (h : Numbered s) (hcompleted : s.launch.completed <+: s.launch.accepted)
    (call : Call) : Numbered (s.call call) := by
  cases call with
  | start resolved =>
    change Numbered (s.start resolved)
    unfold System.start
    split
    · exact h.fail _
    · cases resolved with
      | error error => exact h.fail error
      | ok settings => exact h.launchWith hcompleted settings
  | setLive => exact h.send rfl
  | pause => exact h.send rfl
  | seek timestampSecs => exact h.send rfl
  | play speed => exact h.send rfl
  | setSpeed speed => exact h.send rfl
  | step unit direction count =>
    change Numbered (s.step unit direction count)
    unfold System.step
    split
    · exact h.fail _
    · exact h.fail _
    · split
      · exact h.fail _
      · exact h.send rfl
  | saveSession path => exact h.sessionCommand path fun _ => rfl
  | loadSession path => exact h.sessionCommand path fun _ => rfl
  | clearSession => exact h.operate fun _ => rfl
  | process => exact h.congr rfl rfl rfl rfl rfl
  | shutdown =>
    change Numbered s.beginShutdown
    unfold System.beginShutdown
    split
    · exact h
    · exact h.congr rfl rfl rfl rfl ((completedSignals_append _ _).trans (List.append_nil _))

theorem Numbered.next (h : Numbered s) (hcompleted : s.launch.completed <+: s.launch.accepted)
    (action : Action) : Numbered (next s action) := by
  cases action with
  | call call =>
    unfold Runtime.next
    dsimp only
    split
    · exact h.call hcompleted call
    · exact h
  | play => exact h.play
  | worker input =>
    unfold Runtime.next
    dsimp only
    split
    · exact h
    · exact h.congr rfl rfl rfl rfl rfl
  | kernel op now => exact h.congr rfl rfl rfl rfl rfl

end

theorem numbered_run (actions : List Action) : Numbered (run actions) := by
  have hempty : Numbered {} := by
    refine ⟨by decide, ⟨[], rfl, [], rfl, List.Sublist.refl _⟩, fun _ =>
      ⟨le_refl _, [], rfl, ?_, ?_⟩⟩
    · exact List.Pairwise.nil
    · exact fun id hid => absurd hid List.not_mem_nil
  have hboth : Inv (run actions) ∧ Numbered (run actions) :=
    List.foldlRecOn (motive := fun s => Inv s ∧ Numbered s) actions _ ⟨inv_empty, hempty⟩
      fun s hs action _ => ⟨hs.1.next action, hs.2.next hs.1.completed action⟩
  exact hboth.2

/-! ## The laws -/

/-- What a game may rely on. -/
structure Lawful (s : System) : Prop where
  -- there is a worker just when the node is not stopped, and never one that nobody waits for
  single : s.orphaned = 0 ∧ (s.node.status = .stopped ↔ s.worker = none)
  running : s.node.status = .running → s.reachable = true
  -- a client has no command to handle and answers none
  client : ∀ w, s.worker = some w → s.node.role = .client →
    (∀ command ∈ s.channels.commands, command = .shutdown) ∧
      ∀ event ∈ s.pending, event.isCommandError = false
  -- every accepted operation is completed or in one place, in the order of the calls
  operations : ∀ w, s.worker = some w → s.launch.accepted = s.launch.completed ++
    (completions s.pending ++ (w.phase.inHand ++ operationsOf s.channels.commands))
  signalled : (completedSignals s.signals).Sublist (s.returned.filter (· ≠ 0))
  distinct : s.returned.length + 1 < u64Size → (s.returned.filter (· ≠ 0)).Nodup
  delay : ∀ w, s.worker = some w → w.settings.reconnectInitialSecs ≤ w.reconnectDelay ∧
    w.reconnectDelay ≤ w.settings.reconnectMaxSecs
  -- what is published is newer than every reset that an earlier `process` has handled
  newest : ∀ resets frame, s.newest = some (resets, frame) → s.launch.settled ≤ resets

/-- **The runtime node keeps its laws** under every interleaving of the calls of the game, the steps
of `process` and `shutdown`, the steps of the worker and the changes of the kernel. -/
theorem node_laws (actions : List Action) : Lawful (run actions) := by
  have h := inv_run actions
  have hnumbered := numbered_run actions
  refine ⟨⟨h.orphaned, fun hstopped => ?_, fun hnone => (h.resting hnone).status⟩, h.reachable,
    fun w hw hclient => ?_, fun w hw => (h.working w hw).operations, ?_, fun hlength => ?_,
    fun w hw => ?_, fun resets frame hnewest => h.snapshot resets frame (.inr hnewest)⟩
  · rw [Option.eq_none_iff_forall_ne_some]
    exact fun w hw => (h.working w hw).status.1 hstopped
  · exact (h.working w hw).client ((h.working w hw).role.symm.trans hclient)
  · obtain ⟨past, hpast, done, hdone, hsub⟩ := hnumbered.returned
    rw [hpast, hdone]
    exact hsub.append (h.completed.sublist.map toI64)
  · obtain ⟨-, ids, hids, hsorted, hbound⟩ := hnumbered.unused hlength
    rw [hids]
    refine List.pairwise_map.mpr (hsorted.imp_of_mem fun {id id'} hid hid' hlt heq => ?_)
    have hsize := hnumbered.bounds.2
    exact hlt.ne (toI64_injOn ((hbound id hid).2.trans hsize) ((hbound id' hid').2.trans hsize) heq)
  · have hfits := (h.working w hw).fits
    exact ⟨hfits.lower, hfits.upper⟩

end FlyRuler.Godot.Runtime
