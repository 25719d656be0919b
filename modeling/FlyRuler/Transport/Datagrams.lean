import FlyRuler.Transport.Upload

/-!
# The datagrams of a client

A client sends its handshake, then heartbeats and messages about its aircraft; with a clock that
reads finite times, these are at finite times.

* `Wire.step`: what the tasks of the client have in hand.
* `ordinary_run`: what has been sent after any run.
-/

namespace FlyRuler.Transport.Upload

open FlyRuler.Pb FlyRuler.Store FlyRuler.Store.TimeSeriesStore FlyRuler.Transport.AircraftClient

variable {config : Config} {s : State}

/-! ## What the client sends -/

/-- The reading of the clock in a step of the client. -/
def clockOf : Action → Option F64
  | .operation now => some now
  | .tick now => some now
  | _ => none

/-- A message behind the handshake: a heartbeat, or one about the aircraft at a finite time. -/
def Ordinary (config : Config) (msg : Message) : Prop :=
  (∃ req heartbeat, commandOf msg = some (req, .heartbeat heartbeat)) ∨
    (∃ req event, commandOf msg = some (req, .aircraftEvent event)) ∧
      ∃ t info, messageCommand msg = some (aircraftId config, .finite t, info)

/-- The timestamp is finite, if there is one. -/
def Timely (timestamp : Option F64) : Prop := ∀ t ∈ timestamp, t.toFinite.isSome

instance (timestamp : Option F64) : Decidable (Timely timestamp) := by
  unfold Timely; infer_instance

theorem finite_getD {timestamp : Option F64} (h : Timely timestamp) {now : F64}
    (hnow : now.toFinite.isSome) : ∃ t, timestamp.getD now = .finite t := by
  rcases timestamp with _ | given
  · obtain ⟨t, ht⟩ := Option.isSome_iff_exists.mp hnow
    exact ⟨t, eq_finite_of_toFinite ht⟩
  · obtain ⟨t, ht⟩ := Option.isSome_iff_exists.mp (h given rfl)
    exact ⟨t, eq_finite_of_toFinite ht⟩

/-- **A message that an item becomes** is ordinary, if the item and the clock are at finite
times. -/
theorem ordinary_outbound {item : Item} (hgiven : Timely (givenTimestamp config item)) {now : F64}
    (hnow : now.toFinite.isSome) {msg : Message} (h : item.outbound config now = .send msg) :
    Ordinary config msg := by
  obtain ⟨t, ht⟩ := finite_getD hgiven hnow
  obtain ⟨info, -, hread⟩ := messageCommand_outbound h
  rw [ht] at hread
  refine .inr ⟨?_, t, info, hread⟩
  rcases item with _ | (⟨state, ts⟩ | ⟨eventName, ts⟩ | ⟨frame, ts⟩ | ⟨reason, ts⟩ | _)
  all_goals
    cases h
  all_goals
    exact ⟨_, _, rfl⟩

/-- What the tasks have in hand: the handshake and ordinary messages were sent, ordinary messages
are to be sent, and what is still to be turned into messages is at finite times. -/
structure Wire (config : Config) (now : F64) (s : State) : Prop where
  sent : ∃ rest, s.sent = buildHandshakeMessage now config.clientUuid :: rest ∧
    ∀ msg ∈ rest, Ordinary config msg
  given : ∀ msg, Outbound.send msg ∈ s.sender.inHand ++ s.outbound → Ordinary config msg
  pending : ∀ item ∈ s.pending, Timely (givenTimestamp config item)

variable {now : F64}

theorem wire_connected (hspawn : Timely config.spawnTimestamp) :
    Wire config now (connected config now) where
  sent := ⟨[], rfl, fun msg h => absurd h List.not_mem_nil⟩
  given msg h := absurd h List.not_mem_nil
  pending item h := by
    rw [show item = .spawn from List.mem_singleton.mp h]
    exact hspawn

/-- A step that gives the sender task nothing and adds one operation at most. -/
theorem Wire.queue (h : Wire config now s) {s' : State} (hsender : s'.sender = s.sender)
    (houtbound : s'.outbound = s.outbound) (hsent : s'.sent = s.sent)
    (hpending : ∀ item ∈ s'.pending, item ∈ s.pending ∨ Timely (givenTimestamp config item)) :
    Wire config now s' where
  sent := hsent ▸ h.sent
  given := by
    rw [hsender, houtbound]
    exact h.given
  pending item hitem := (hpending item hitem).elim (h.pending item) id

theorem pending_concat {op : Operation} {s' : State} (hoperation : s'.operation = s.operation)
    (hoperations : s'.operations = s.operations ++ [op])
    (hop : Timely (givenTimestamp config (.operation op))) :
    ∀ item ∈ s'.pending, item ∈ s.pending ∨ Timely (givenTimestamp config item) := by
  intro item hitem
  rw [State.pending, hoperation, hoperations, List.map_append, ← List.append_assoc] at hitem
  rcases List.mem_append.mp hitem with hold | hnew
  · exact .inl hold
  · rw [List.map_singleton, List.mem_singleton] at hnew
    exact .inr (hnew ▸ hop)

theorem Wire.sendOperation (h : Wire config now s) {op : Operation}
    (hop : Timely (givenTimestamp config (.operation op))) {s' : State}
    (hs' : s.sendOperation op = .ok s') : Wire config now s' := by
  obtain ⟨-, rfl⟩ := of_sendOperation hs'
  exact h.queue rfl rfl rfl (pending_concat rfl rfl hop)

theorem Wire.trySendOperation (h : Wire config now s) (op : Operation)
    (hop : Timely (givenTimestamp config (.operation op))) :
    Wire config now (s.trySendOperation op) := by
  rw [State.trySendOperation]
  split
  · next hsend => exact h.sendOperation hop hsend
  · exact h

theorem timely_of_validate {timestamp : Option F64} {u : Unit}
    (h : State.validateSourceTimestamp timestamp = .ok u) : Timely timestamp := by
  intro t ht
  rw [State.validateSourceTimestamp] at h
  split at h
  · cases h
  · next hfinite =>
    by_contra hnone
    exact hfinite (Option.any_eq_true _ _ |>.mpr ⟨t, ht, by simpa using hnone⟩)

theorem Wire.call (h : Wire config now s) (c : Call) : Wire config now (s.call c) := by
  rw [State.call]
  rcases hanswer : s.answer c with error | s'
  · exact h.queue rfl rfl rfl fun _ => .inl
  have hs' : Wire config now s' := by
    have henqueue : ∀ (op : Operation) {timestamp : Option F64},
        givenTimestamp config (.operation op) = timestamp →
        s.enqueue op timestamp = .ok s' → Wire config now s' := by
      intro op timestamp hgiven hok
      obtain ⟨_, -, hok⟩ := bind_eq_ok.mp hok
      obtain ⟨_, hvalid, hok⟩ := bind_eq_ok.mp hok
      exact h.sendOperation (hgiven ▸ timely_of_validate hvalid) hok
    cases c with
    | updateState state timestamp => exact henqueue (.updateState state timestamp) rfl hanswer
    | createEvent eventName timestamp =>
      exact henqueue (.createEvent eventName timestamp) rfl hanswer
    | publishTelemetry frame timestamp =>
      exact henqueue (.publishTelemetry frame timestamp) rfl hanswer
    | despawn reason timestamp =>
      obtain ⟨_, -, hok⟩ := bind_eq_ok.mp hanswer
      split at hok
      · exact Except.ok.inj hok ▸ h
      · obtain ⟨_, hvalid, hok⟩ := bind_eq_ok.mp hok
        obtain ⟨s₁, hsend, hok⟩ := bind_eq_ok.mp hok
        have hgiven : Timely (givenTimestamp config (.operation (.despawn reason timestamp))) :=
          timely_of_validate hvalid
        have h₁ := h.sendOperation hgiven hsend
        exact Except.ok.inj hok ▸ h₁.queue rfl rfl rfl fun _ => .inl
    | close =>
      obtain rfl : s.close = s' := Except.ok.inj hanswer
      rw [State.close]
      split
      · exact h
      · dsimp only
        split
        · exact h.queue rfl rfl rfl fun _ => .inl
        · have hqueued := h.trySendOperation (.despawn (some "client_close") none)
            (fun _ ht => by cases ht)
          exact hqueued.queue rfl rfl rfl fun _ => .inl
  exact hs'.queue rfl rfl rfl fun _ => .inl

theorem Wire.closeStep (h : Wire config now s) : Wire config now s.closeStep := by
  rw [State.closeStep]
  rcases s.caller with _ | _ | _ | _ | _ | _
  · exact h
  · exact h.queue rfl rfl rfl fun _ => .inl
  · have hqueued := h.trySendOperation .stop (fun _ ht => by cases ht)
    exact hqueued.queue rfl rfl rfl fun _ => .inl
  all_goals
    dsimp only
    split
    · exact h.queue rfl rfl rfl fun _ => .inl
    · exact h

/-- The sender task is given an ordinary message, or its marker. -/
theorem Wire.sendOutbound (h : Wire config now s) {outbound : Outbound}
    (houtbound : ∀ msg, outbound = .send msg → Ordinary config msg) :
    Wire config now (s.sendOutbound outbound) := by
  rw [State.sendOutbound]
  split
  · exact h
  · refine ⟨h.sent, fun msg hmsg => ?_, h.pending⟩
    rw [← List.append_assoc] at hmsg
    rcases List.mem_append.mp hmsg with hold | hnew
    · exact h.given msg hold
    · exact houtbound msg (List.mem_singleton.mp hnew).symm

/-- The operation task passes on what it has in hand. -/
theorem Wire.forward (h : Wire config now s) {item : Item} (hitem : s.operation.inHand = [item])
    {reading : F64} (hreading : reading.toFinite.isSome) {operation : OperationTask}
    (hoperation : operation.inHand = []) :
    Wire config now
      { s.sendOutbound (item.outbound config reading) with operation := operation } := by
  have hgiven : Timely (givenTimestamp config item) := by
    refine h.pending item ?_
    rw [State.pending, hitem]
    exact List.mem_cons_self
  have hsent := h.sendOutbound fun msg hmsg => ordinary_outbound hgiven hreading hmsg
  refine ⟨hsent.sent, hsent.given, fun other hother => h.pending other ?_⟩
  have hkept : (s.sendOutbound (item.outbound config reading)).operations = s.operations := by
    rw [State.sendOutbound]
    split <;> rfl
  rw [State.pending, hoperation, hkept, List.nil_append] at hother
  exact List.mem_append_right _ hother

theorem Wire.operationStep (h : Wire config now s) {reading : F64}
    (hreading : reading.toFinite.isSome) : Wire config now (s.operationStep config reading) := by
  rw [State.operationStep]
  rcases hoperation : s.operation with _ | _ | op | _
  · exact @Wire.forward _ _ _ h .spawn (by rw [hoperation]; rfl) _ hreading _ rfl
  · rcases hoperations : s.operations with _ | ⟨op, operations⟩
    · dsimp only
      split
      · exact h
      · exact h.queue rfl rfl rfl fun item hitem => absurd hitem List.not_mem_nil
    · refine h.queue rfl rfl rfl fun item hitem => .inl ?_
      rw [State.pending, hoperation, hoperations]
      exact hitem
  · refine @Wire.forward _ _ _ h (.operation op) (by rw [hoperation]; rfl) _ hreading _ ?_
    split <;> rfl
  · exact h

theorem Wire.tick (h : Wire config now s) (reading : F64) :
    Wire config now (s.tick config reading) := by
  rw [State.tick]
  split
  · exact h.queue rfl rfl rfl fun _ => .inl
  · exact h.queue rfl rfl rfl fun _ => .inl
  · next seqNum _ =>
    have hheartbeat : ∀ msg, Outbound.send (buildHeartbeatMessage reading
        (min (seqNum + 1) (u64Size - 1)) config.clientUuid) = .send msg → Ordinary config msg := by
      intro msg hmsg
      cases hmsg
      exact .inl ⟨_, _, rfl⟩
    have hsent := h.sendOutbound hheartbeat
    exact hsent.queue rfl rfl rfl fun _ => .inl
  · exact h

theorem Wire.changed (h : Wire config now s) : Wire config now s.changed := by
  rw [State.changed]
  split
  · split
    · exact h
    · exact h.queue rfl rfl rfl fun _ => .inl
  · exact h

theorem Wire.senderStep (h : Wire config now s) : Wire config now s.senderStep := by
  rw [State.senderStep]
  rcases hsender : s.sender with _ | msg | _
  · rcases houtbound : s.outbound with _ | ⟨msg | _, outbound⟩
    · dsimp only
      split
      · exact ⟨h.sent, fun msg hmsg => absurd hmsg (by simp [SenderTask.inHand]), h.pending⟩
      · exact h
    · refine ⟨h.sent, fun other hother => h.given other ?_, h.pending⟩
      rw [hsender, houtbound]
      exact hother
    · refine ⟨h.sent, fun other hother => h.given other ?_, h.pending⟩
      rw [hsender, houtbound]
      exact List.mem_cons_of_mem _ ((List.mem_cons.mp hother).resolve_left fun h => by cases h)
  · obtain ⟨rest, hsent, hrest⟩ := h.sent
    have hmsg : Ordinary config msg := h.given msg (by
      rw [hsender]
      exact List.mem_cons_self)
    refine ⟨⟨rest ++ [msg], ?_, fun other hother => ?_⟩, fun other hother => h.given other ?_,
      h.pending⟩
    · rw [hsent]
      rfl
    · rcases List.mem_append.mp hother with hold | hnew
      · exact hrest other hold
      · exact List.mem_singleton.mp hnew ▸ hmsg
    · rw [hsender]
      exact List.mem_cons_of_mem _ hother
  · exact h

theorem Wire.step (h : Wire config now s) {action : Action} (hclock : Timely (clockOf action)) :
    Wire config now (AircraftClient.step config s action) := by
  cases action with
  | call c =>
    rw [AircraftClient.step]
    split
    · exact h.call c
    · exact h
  | close => exact h.closeStep
  | operation reading => exact h.operationStep (hclock reading rfl)
  | tick reading => exact h.tick reading
  | changed => exact h.changed
  | sender => exact h.senderStep

/-- **The datagrams of a client**: the handshake, then heartbeats and messages about its
aircraft. -/
theorem ordinary_run (hspawn : Timely config.spawnTimestamp) {actions : List Action}
    (hclock : ∀ action ∈ actions, Timely (clockOf action)) :
    Wire config now (AircraftClient.run config (connected config now) actions) :=
  List.foldlRecOn actions _ (wire_connected hspawn) fun _ h action haction =>
    h.step (hclock action haction)

/-- A message with another command is not about an aircraft. -/
theorem not_about_of_heartbeat {msg : Message} {req : Request} {heartbeat : Heartbeat}
    (h : commandOf msg = some (req, .heartbeat heartbeat)) : about config msg = false := by
  obtain ⟨_ | envelope⟩ := msg
  · cases h
  · cases envelope with
    | request req' =>
      obtain ⟨kind, hkind, heq⟩ := Option.map_eq_some_iff.mp h
      cases heq
      unfold about messageCommand
      dsimp only
      rw [hkind]
      rfl
    | response value => cases h
    | serverPush value => cases h

end FlyRuler.Transport.Upload
