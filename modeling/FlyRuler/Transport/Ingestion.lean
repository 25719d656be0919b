import FlyRuler.Transport.Server

/-!
# Ingestion

The receive loop once more, step by step: it can be suspended wherever it awaits a lock or the
socket, and in between the publisher changes the sessions and maintenance closes and opens the
ingestion gate.  The handler is that of `KernelRuntime::start_server`: it appends under the gate,
which looks at the flag before and after it takes the shared permit.

* `loop_turn`: a whole turn without interference is one step of `ServerRuntime`.
* `store_run`: the store takes exactly the events whose check and whose gate let them through.
* `ingestion_run`: what holds of every run.
-/

namespace FlyRuler.Transport

open FlyRuler.Pb FlyRuler.Store FlyRuler.Lib.Keyed

/-! ## The two halves of a clean-up -/

namespace SessionState

variable (state : SessionState)

/-- The sessions that `cleanup_expired` finds expired. -/
def expiredSessions (now : Instant) (timeout : Duration) : List (SocketAddr × String) :=
  (state.list.filter fun e => isExpired now timeout e.2).map fun e => (e.1, e.2.clientUuidHex)

/-- What `cleanup_expired` does with them when it has the locks again. -/
def removeExpired (expired : List (SocketAddr × String)) : SessionState :=
  { byAddr := eraseAll (expired.map Prod.fst) state.byAddr
    byClientUuid := eraseAll (expired.map Prod.snd) state.byClientUuid }

theorem removeExpired_expiredSessions (now : Instant) (timeout : Duration) :
    state.removeExpired (state.expiredSessions now timeout) = state.cleanupExpired now timeout := by
  unfold removeExpired expiredSessions cleanupExpired
  rw [List.map_map, List.map_map]
  rfl

end SessionState

/-! ## The loop in steps -/

/-- Where the receive loop is. -/
inductive LoopState where
  | cleaning
  | expiring (expired : List (SocketAddr × String))
  | waiting
  | touching (msg : Message) (d : Datagram)
  | handling (msg : Message) (d : Datagram)
  | answering (ack : Message) (msg : Message) (d : Datagram)
  | forwarding (msg : Message) (d : Datagram)
  | draining
  | admitting (msg : Message) (source : SocketAddr)
  | stopped

/-- The loop with all that it works on. -/
structure World where
  sessions : SessionState := {}
  enabled : Bool := true
  store : TimeSeriesStore := {}
  loop : LoopState := .cleaning
  pendingEvents : List (Message × SocketAddr) := []
  sent : List (Message × SocketAddr) := []

/-- A step of the loop, or something that happens between two of its steps. -/
inductive ServerEvent where
  | loop (poll : Poll)
  | stop
  | sessions (op : SessionOp)
  | gate (enabled : Bool)

section Steps

variable (decode : List UInt8 → Option Message) (timeout : Duration)

/-- Where the loop is after it has waited for the socket. -/
def waitingNext (poll : Poll) : LoopState :=
  match poll.arrival with
  | none => .waiting
  | some d =>
    if d.bytes = [] then .cleaning
    else
      match decode d.bytes with
      | none => .stopped
      | some msg => .touching msg d

/-- One step of the loop. -/
def World.loopStep (w : World) (poll : Poll) : World :=
  match w.loop with
  | .cleaning => { w with loop := .expiring (w.sessions.expiredSessions poll.now timeout) }
  | .expiring expired =>
    { w with sessions := w.sessions.removeExpired expired, loop := .waiting }
  | .waiting => { w with loop := waitingNext decode poll }
  | .touching msg d =>
    { w with sessions := w.sessions.touchAddr d.receivedAt d.addr, loop := .handling msg d }
  | .handling msg d =>
    let handled := w.sessions.handleMessage d msg (clientUuidOf msg)
    { w with
      sessions := handled.1
      loop := match handled.2 with
        | some ack => .answering ack msg d
        | none => .forwarding msg d }
  | .answering ack msg d =>
    { w with sent := w.sent ++ [(ack, d.addr)], loop := .forwarding msg d }
  | .forwarding msg d =>
    { w with
      pendingEvents := w.pendingEvents ++
        if w.sessions.isProducerEvent d msg then [(msg, d.addr)] else []
      loop := .draining }
  | .draining =>
    match w.pendingEvents with
    | [] => { w with loop := .cleaning }
    | (msg, source) :: rest =>
      -- the first look at the flag
      { w with
        pendingEvents := rest
        loop := if w.enabled then .admitting msg source else .draining }
  | .admitting msg _ =>
    -- the second look, with the permit
    { w with
      store := if w.enabled then w.store.appendMessage poll.now msg else w.store
      loop := .draining }
  | .stopped => w

/-- The stop signal ends `recv_from`; a message that it has come back with is still handled. -/
def LoopState.cancel : LoopState → LoopState
  | .cleaning | .expiring _ | .waiting | .touching _ _ => .stopped
  | other => other

def World.step (w : World) : ServerEvent → World
  | .loop poll => w.loopStep decode timeout poll
  | .stop => { w with loop := w.loop.cancel }
  | .sessions op => { w with sessions := w.sessions.apply op }
  | .gate enabled => { w with enabled := enabled }

def World.run (w : World) (events : List ServerEvent) : World :=
  events.foldl (World.step decode timeout) w

/-! ## What can be observed -/

/-- An aircraft event, or not. -/
def isAircraftEvent (msg : Message) : Bool :=
  match commandOf msg with
  | some (_, .aircraftEvent _) => true
  | _ => false

/-- What a step shows: the role that the forwarding check of an aircraft event finds at its source
address, and what becomes of an event at the gate. -/
inductive Observation where
  | check (msg : Message) (source : SocketAddr) (role : Option ClientRole)
  | admitted (now : Instant) (msg : Message)
  | dropped (msg : Message)
  deriving DecidableEq

def World.observe (w : World) : ServerEvent → Option Observation
  | .loop poll =>
    match w.loop with
    | .forwarding msg d =>
      if isAircraftEvent msg then some (.check msg d.addr (w.sessions.role d.addr)) else none
    | .draining =>
      match w.pendingEvents with
      | [] => none
      | (msg, _) :: _ => if w.enabled then none else some (.dropped msg)
    | .admitting msg _ => some (if w.enabled then .admitted poll.now msg else .dropped msg)
    | _ => none
  | _ => none

/-- What a run shows. -/
def World.observations (w : World) : List ServerEvent → List Observation
  | [] => []
  | e :: events => (w.observe e).toList ++ (w.step decode timeout e).observations events

/-- **The events that are authorized**: the check found a producer, and the gate was open. -/
def authorized : List Observation → List (Instant × Message)
  | .check msg _ (some .producer) :: .admitted now _ :: rest => (now, msg) :: authorized rest
  | _ :: rest => authorized rest
  | [] => []

/-- A message that `recv_from` comes back with in this step. -/
def World.receives (w : World) : ServerEvent → Option (Message × SocketAddr)
  | .loop _ =>
    match w.loop with
    | .touching msg d => some (msg, d.addr)
    | _ => none
  | _ => none

/-- The messages received in a run, in order. -/
def World.received (w : World) : List ServerEvent → List (Message × SocketAddr)
  | [] => []
  | e :: events => (w.receives e).toList ++ (w.step decode timeout e).received events

end Steps

/-- The source of a checked event. -/
def Observation.checked : Observation → Option (Message × SocketAddr)
  | .check msg source _ => some (msg, source)
  | _ => none

/-! ## The store -/

variable (decode : List UInt8 → Option Message) (timeout : Duration)

/-- The loop holds no event that has passed the check. -/
def LoopState.Clear : LoopState → Prop
  | .draining | .admitting _ _ => False
  | _ => True

/-- The queue holds one event at most, and only while it is emptied. -/
structure World.Tidy (w : World) : Prop where
  length : w.pendingEvents.length ≤ 1
  empty : w.loop ≠ .draining → w.pendingEvents = []

/-- The event that has passed the check and not yet the gate. -/
def World.passed (w : World) : List Observation :=
  match w.loop with
  | .draining => w.pendingEvents.map fun e => .check e.1 e.2 (some .producer)
  | .admitting msg source => [.check msg source (some .producer)]
  | _ => []

theorem World.passed_of_clear {w : World} (h : w.loop.Clear) : w.passed = [] := by
  unfold passed
  split <;> simp_all [LoopState.Clear]

theorem waitingNext_cases (poll : Poll) : waitingNext decode poll = .waiting ∨
    waitingNext decode poll = .cleaning ∨ waitingNext decode poll = .stopped ∨
      ∃ msg d, waitingNext decode poll = .touching msg d := by
  unfold waitingNext
  split
  · exact .inl rfl
  · split_ifs
    · exact .inr (.inl rfl)
    · split
      · exact .inr (.inr (.inl rfl))
      · exact .inr (.inr (.inr ⟨_, _, rfl⟩))

theorem clear_waitingNext (poll : Poll) : (waitingNext decode poll).Clear := by
  rcases waitingNext_cases decode poll with h | h | h | ⟨msg, d, h⟩ <;> rw [h] <;> trivial

theorem isProducerEvent_iff {sessions : SessionState} {d : Datagram} {msg : Message} :
    sessions.isProducerEvent d msg = true ↔
      isAircraftEvent msg = true ∧ sessions.role d.addr = some .producer := by
  unfold SessionState.isProducerEvent isAircraftEvent
  rcases commandOf msg with _ | ⟨req, kind⟩
  · simp
  · rcases kind <;> simp

/-- **What a step can do**: nothing to the queue and the store, with nothing to see; or put an event
that has been checked into the queue, take one out at the gate, or let one through. -/
inductive Effect (w : World) (e : ServerEvent) (w' : World) : Prop where
  | quiet (hobserve : w.observe e = none) (hstore : w'.store = w.store)
      (hpending : w'.pendingEvents = w.pendingEvents) (hpassed : w'.passed = w.passed)
      (hempty : w'.loop ≠ .draining → w.loop = .draining → w.pendingEvents = [])
  | check (msg : Message) (d : Datagram) (hloop : w.loop = .forwarding msg d)
      (hloop' : w'.loop = .draining) (hstore : w'.store = w.store)
      (hpending : w'.pendingEvents = w.pendingEvents ++
        if w.sessions.isProducerEvent d msg then [(msg, d.addr)] else [])
      (hobserve : w.observe e =
        if isAircraftEvent msg then some (.check msg d.addr (w.sessions.role d.addr)) else none)
  | take (msg : Message) (source : SocketAddr) (rest : List (Message × SocketAddr))
      (hloop : w.loop = .draining) (hpending : w.pendingEvents = (msg, source) :: rest)
      (hstore : w'.store = w.store) (hpending' : w'.pendingEvents = rest)
      (hloop' : w'.loop = if w.enabled then .admitting msg source else .draining)
      (hobserve : w.observe e = if w.enabled then none else some (.dropped msg))
  | grant (poll : Poll) (msg : Message) (source : SocketAddr)
      (hloop : w.loop = .admitting msg source) (hloop' : w'.loop = .draining)
      (hpending : w'.pendingEvents = w.pendingEvents)
      (hstore : w'.store = if w.enabled then w.store.appendMessage poll.now msg else w.store)
      (hobserve : w.observe e =
        some (if w.enabled then .admitted poll.now msg else .dropped msg))

/-- A step of the loop that stays clear of the queue is quiet. -/
theorem quiet_of_clear {w w' : World} {e : ServerEvent} (hobserve : w.observe e = none)
    (hstore : w'.store = w.store) (hpending : w'.pendingEvents = w.pendingEvents)
    (hclear : w.loop.Clear) (hclear' : w'.loop.Clear) : Effect w e w' := by
  refine .quiet hobserve hstore hpending ?_ fun _ hloop => ?_
  · rw [World.passed_of_clear hclear, World.passed_of_clear hclear']
  · rw [hloop] at hclear
    exact hclear.elim

theorem step_effect (w : World) (e : ServerEvent) :
    Effect w e (w.step decode timeout e) := by
  rcases e with poll | _ | op | enabled
  · show Effect w (.loop poll) (w.loopStep decode timeout poll)
    have hobserve : w.observe (.loop poll) = match w.loop with
      | .forwarding msg d =>
        if isAircraftEvent msg then some (.check msg d.addr (w.sessions.role d.addr)) else none
      | .draining =>
        match w.pendingEvents with
        | [] => none
        | (msg, _) :: _ => if w.enabled then none else some (.dropped msg)
      | .admitting msg _ => some (if w.enabled then .admitted poll.now msg else .dropped msg)
      | _ => none := rfl
    unfold World.loopStep
    rcases hloop : w.loop with _ | expired | _ | ⟨msg, d⟩ | ⟨msg, d⟩ | ⟨ack, msg, d⟩ | ⟨msg, d⟩ |
      _ | ⟨msg, source⟩ | _ <;> rw [hloop] at hobserve
    · exact quiet_of_clear hobserve rfl rfl (hloop ▸ trivial) trivial
    · exact quiet_of_clear hobserve rfl rfl (hloop ▸ trivial) trivial
    · exact quiet_of_clear hobserve rfl rfl (hloop ▸ trivial) (clear_waitingNext decode poll)
    · exact quiet_of_clear hobserve rfl rfl (hloop ▸ trivial) trivial
    · refine quiet_of_clear hobserve rfl rfl (hloop ▸ trivial) ?_
      dsimp only
      split <;> trivial
    · exact quiet_of_clear hobserve rfl rfl (hloop ▸ trivial) trivial
    · exact .check msg d hloop rfl rfl rfl hobserve
    · rcases hpending : w.pendingEvents with _ | ⟨⟨msg, source⟩, rest⟩ <;>
        rw [hpending] at hobserve
      · refine .quiet hobserve rfl hpending.symm ?_ fun _ _ => hpending
        unfold World.passed
        rw [hloop, hpending]
        rfl
      · exact .take msg source rest hloop hpending rfl rfl rfl hobserve
    · exact .grant poll msg source hloop rfl rfl rfl hobserve
    · exact .quiet hobserve rfl rfl rfl fun _ h => nomatch hloop.symm.trans h
  · -- the stop signal
    show Effect w .stop { w with loop := w.loop.cancel }
    rcases hloop : w.loop with _ | expired | _ | ⟨msg, d⟩ | ⟨msg, d⟩ | ⟨ack, msg, d⟩ | ⟨msg, d⟩ |
      _ | ⟨msg, source⟩ | _
    all_goals refine .quiet rfl rfl rfl ?_ ?_ <;> simp [World.passed, LoopState.cancel, hloop]
  · exact .quiet rfl rfl rfl rfl fun hnot h => absurd h hnot
  · exact .quiet rfl rfl rfl rfl fun hnot h => absurd h hnot

theorem tidy_step {w : World} (h : w.Tidy) (e : ServerEvent) : (w.step decode timeout e).Tidy := by
  rcases step_effect decode timeout w e with
    ⟨-, -, hpending, -, hempty⟩ | ⟨msg, d, hloop, hloop', -, hpending, -⟩ |
    ⟨msg, source, rest, hloop, hpending, -, hpending', -, -⟩ |
    ⟨poll, msg, source, hloop, hloop', hpending, -, -⟩
  · refine ⟨hpending ▸ h.length, fun hnot => hpending.trans ?_⟩
    by_cases hloop : w.loop = .draining
    · exact hempty hnot hloop
    · exact h.empty hloop
  · refine ⟨?_, fun hnot => absurd hloop' hnot⟩
    rw [hpending, h.empty (by rw [hloop]; simp)]
    split_ifs <;> simp
  · have hlength := h.length
    rw [hpending, List.length_cons] at hlength
    have hrest : rest = [] := List.eq_nil_of_length_eq_zero (by omega)
    rw [hrest] at hpending'
    exact ⟨by rw [hpending']; simp, fun _ => hpending'⟩
  · refine ⟨?_, fun hnot => absurd hloop' hnot⟩
    rw [hpending]
    exact h.length

theorem authorized_admitted (msg msg' : Message) (source : SocketAddr) (now : Instant)
    (rest : List Observation) :
    authorized (.check msg source (some .producer) :: .admitted now msg' :: rest) =
      (now, msg) :: authorized rest := by
  rw [authorized]

theorem authorized_dropped (msg : Message) (rest : List Observation) :
    authorized (.dropped msg :: rest) = authorized rest := by
  rw [authorized]
  exact fun _ _ _ _ _ h => nomatch h

theorem authorized_check_dropped (msg msg' : Message) (source : SocketAddr)
    (rest : List Observation) :
    authorized (.check msg source (some .producer) :: .dropped msg' :: rest) = authorized rest := by
  rw [authorized, authorized_dropped]
  rintro _ _ _ _ _ _ ⟨⟩

theorem authorized_check_of_ne {role : Option ClientRole} (h : role ≠ some .producer)
    (msg : Message) (source : SocketAddr) (rest : List Observation) :
    authorized (.check msg source role :: rest) = authorized rest := by
  rw [authorized]
  rintro _ _ _ _ _ ⟨⟩
  exact absurd rfl h

/-- The store after the messages. -/
def appendAll (store : TimeSeriesStore) (messages : List (Instant × Message)) : TimeSeriesStore :=
  messages.foldl (fun store m => store.appendMessage m.1 m.2) store

/-- **One step**: what it shows accounts for what it does to the store. -/
theorem step_store {w : World} (h : w.Tidy) (e : ServerEvent) (rest : List Observation) :
    appendAll w.store (authorized (w.passed ++ ((w.observe e).toList ++ rest))) =
      appendAll (w.step decode timeout e).store
        (authorized ((w.step decode timeout e).passed ++ rest)) := by
  rcases step_effect decode timeout w e with
    ⟨hobserve, hstore, -, hpassed, -⟩ | ⟨msg, d, hloop, hloop', hstore, hpending, hobserve⟩ |
    ⟨msg, source, rest', hloop, hpending, hstore, hpending', hloop', hobserve⟩ |
    ⟨poll, msg, source, hloop, hloop', hpending, hstore, hobserve⟩
  · rw [hobserve, hstore, hpassed]
    rfl
  · have hpassed : w.passed = [] := World.passed_of_clear (by rw [hloop]; trivial)
    have hpassed' : (w.step decode timeout e).passed =
        if w.sessions.isProducerEvent d msg then [.check msg d.addr (some .producer)] else [] := by
      unfold World.passed
      rw [hloop', hpending, h.empty (by rw [hloop]; simp)]
      split_ifs <;> rfl
    rw [hpassed, hpassed', hobserve, hstore]
    by_cases hproducer : w.sessions.isProducerEvent d msg = true
    · obtain ⟨haircraft, hrole⟩ := isProducerEvent_iff.mp hproducer
      rw [if_pos hproducer, if_pos haircraft, hrole]
      rfl
    · rw [if_neg hproducer]
      by_cases haircraft : isAircraftEvent msg = true
      · have hrole : w.sessions.role d.addr ≠ some .producer :=
          fun hrole => hproducer (isProducerEvent_iff.mpr ⟨haircraft, hrole⟩)
        rw [if_pos haircraft]
        exact congrArg _ (authorized_check_of_ne hrole _ _ _)
      · rw [if_neg haircraft]
        rfl
  · have hlength := h.length
    rw [hpending, List.length_cons] at hlength
    have hrest : rest' = [] := List.eq_nil_of_length_eq_zero (by omega)
    have hpassed : w.passed = [.check msg source (some .producer)] := by
      unfold World.passed
      rw [hloop, hpending, hrest]
      rfl
    have hpassed' : (w.step decode timeout e).passed =
        if w.enabled then [.check msg source (some .producer)] else [] := by
      unfold World.passed
      rw [hloop', hpending', hrest]
      split_ifs <;> rfl
    rw [hpassed, hpassed', hobserve, hstore]
    split_ifs
    · rfl
    · exact congrArg _ (authorized_check_dropped _ _ _ _)
  · have hpassed : w.passed = [.check msg source (some .producer)] := by
      unfold World.passed
      rw [hloop]
    have hpassed' : (w.step decode timeout e).passed = [] := by
      unfold World.passed
      rw [hloop', hpending, h.empty (by rw [hloop]; simp)]
      rfl
    rw [hpassed, hpassed', hobserve, hstore]
    split_ifs
    · exact congrArg (appendAll w.store) (authorized_admitted _ _ _ _ _)
    · exact congrArg _ (authorized_check_dropped _ _ _ _)

/-- **The store after a run** has taken exactly the authorized events. -/
theorem store_run {w : World} (h : w.Tidy) (events : List ServerEvent) :
    (w.run decode timeout events).store =
      appendAll w.store (authorized (w.passed ++ w.observations decode timeout events)) := by
  induction events generalizing w with
  | nil =>
    have hnone : authorized w.passed = [] := by
      unfold World.passed
      split
      · obtain ⟨hlength⟩ := h
        rcases hp : w.pendingEvents with _ | ⟨e, _ | _⟩
        · rfl
        · rfl
        · rw [hp] at hlength
          simp at hlength
      · rfl
      · rfl
    show w.store = _
    rw [World.observations, List.append_nil, hnone]
    rfl
  | cons e events ih =>
    rw [World.observations, step_store decode timeout h e]
    exact ih (tidy_step decode timeout h e)

/-! ## The order of receipt -/

/-- The aircraft event that has been received and not yet checked. -/
def World.inFlight (w : World) : List (Message × SocketAddr) :=
  match w.loop with
  | .handling msg d | .answering _ msg d | .forwarding msg d =>
    [(msg, d.addr)].filter fun e => isAircraftEvent e.1
  | _ => []

theorem step_inFlight (w : World) (e : ServerEvent) :
    (w.observe e).toList.filterMap Observation.checked ++ (w.step decode timeout e).inFlight =
      w.inFlight ++ (w.receives e).toList.filter fun m => isAircraftEvent m.1 := by
  rcases e with poll | _ | op | enabled
  · unfold World.step World.loopStep World.observe World.receives World.inFlight
    rcases hloop : w.loop with _ | expired | _ | ⟨msg, d⟩ | ⟨msg, d⟩ | ⟨ack, msg, d⟩ | ⟨msg, d⟩ |
      _ | ⟨msg, source⟩ | _ <;> dsimp only
    · rfl
    · rfl
    · rcases waitingNext_cases decode poll with h | h | h | ⟨msg, d, h⟩ <;> rw [h] <;> rfl
    · simp
    · rcases (w.sessions.handleMessage d msg (clientUuidOf msg)).2 with _ | ack <;> simp
    · simp
    · by_cases haircraft : isAircraftEvent msg = true <;> simp [haircraft, Observation.checked]
    · rcases w.pendingEvents with _ | ⟨⟨msg, source⟩, rest⟩
      · rfl
      · dsimp only
        split_ifs <;> rfl
    · split_ifs <;> rfl
    · simp [hloop]
  · unfold World.step World.observe World.receives World.inFlight LoopState.cancel
    rcases w.loop <;> simp
  · simp [World.step, World.observe, World.receives, World.inFlight]
  · simp [World.step, World.observe, World.receives, World.inFlight]

/-- **Every aircraft event that is received is checked, in the order of receipt.** -/
theorem checked_run (w : World) (events : List ServerEvent) :
    (w.observations decode timeout events).filterMap Observation.checked ++
        (w.run decode timeout events).inFlight =
      w.inFlight ++ (w.received decode timeout events).filter fun m => isAircraftEvent m.1 := by
  induction events generalizing w with
  | nil => simp [World.observations, World.received, World.run]
  | cons e events ih =>
    have hrest := ih (w.step decode timeout e)
    have hstep := step_inFlight decode timeout w e
    rw [World.observations, World.received, List.filterMap_append, List.filter_append,
      List.append_assoc]
    show _ ++ (_ ++ ((w.step decode timeout e).run decode timeout events).inFlight) = _
    rw [hrest, ← List.append_assoc, hstep, List.append_assoc]

/-! ## Runs -/

/-- What is authorized has been checked. -/
theorem check_of_mem_authorized {m : Instant × Message} :
    ∀ {observations : List Observation}, m ∈ authorized observations →
      ∃ source, .check m.2 source (some .producer) ∈ observations := by
  intro observations
  induction observations using authorized.induct with
  | case1 msg source now msg' rest ih =>
    intro hm
    rw [authorized_admitted] at hm
    rcases List.mem_cons.mp hm with rfl | hm
    · exact ⟨source, List.mem_cons_self⟩
    · obtain ⟨source', hmem⟩ := ih hm
      exact ⟨source', List.mem_cons_of_mem _ (List.mem_cons_of_mem _ hmem)⟩
  | case2 o rest hnot ih =>
    intro hm
    rw [authorized.eq_2 _ _ hnot] at hm
    obtain ⟨source, hmem⟩ := ih hm
    exact ⟨source, List.mem_cons_of_mem _ hmem⟩
  | case3 => exact fun hm => absurd hm List.not_mem_nil

/-- Only aircraft events are checked. -/
theorem aircraft_of_check {msg : Message} {source : SocketAddr} {role : Option ClientRole}
    (events : List ServerEvent) (w : World)
    (h : .check msg source role ∈ w.observations decode timeout events) :
    isAircraftEvent msg = true := by
  induction events generalizing w with
  | nil => exact absurd h List.not_mem_nil
  | cons e events ih =>
    rw [World.observations] at h
    rcases List.mem_append.mp h with h | h
    · have hsome := Option.mem_toList.mp h
      rcases step_effect decode timeout w e with ⟨hobserve, -⟩ |
        ⟨msg', d, -, -, -, -, hobserve⟩ | ⟨_, _, _, -, -, -, -, -, hobserve⟩ |
        ⟨_, _, _, -, -, -, -, hobserve⟩
      all_goals rw [hobserve] at hsome
      · exact nomatch hsome
      · split_ifs at hsome with haircraft
        cases hsome
        exact haircraft
      · split_ifs at hsome
        exact nomatch hsome
      · split_ifs at hsome <;> exact nomatch hsome
    · exact ih _ h

/-- **A turn of the loop in which nothing interferes** is one step of `ServerRuntime`, and the store
takes what that step hands over. -/
theorem loop_turn {w : World} (hloop : w.loop = .cleaning) (hpending : w.pendingEvents = [])
    (henabled : w.enabled = true) {poll : Poll} {d : Datagram} {msg : Message}
    (harrival : poll.arrival = some d) (hbytes : d.bytes ≠ [])
    (hdecode : decode d.bytes = some msg) :
    let r := ServerRuntime.step decode timeout { sessions := w.sessions, sent := w.sent } poll
    ∃ n, w.run decode timeout (List.replicate n (.loop poll)) =
      { w with
        sessions := r.sessions
        sent := r.sent
        store := appendAll w.store (r.handled.map fun e => (poll.now, e.1)) } := by
  obtain ⟨sessions, enabled, store, loop, pendingEvents, sent⟩ := w
  obtain rfl := hloop
  obtain rfl := hpending
  obtain rfl := henabled
  dsimp only
  rw [step_message rfl harrival hbytes hdecode rfl]
  have hnext : waitingNext decode poll = .touching msg d := by
    unfold waitingNext
    rw [harrival]
    simp [hbytes, hdecode]
  dsimp only
  rw [← SessionState.removeExpired_expiredSessions]
  generalize htouched : ((sessions.removeExpired
    (sessions.expiredSessions poll.now timeout)).touchAddr d.receivedAt d.addr) = touched
  generalize hhandled : touched.handleMessage d msg (clientUuidOf msg) = handled
  obtain ⟨after, ack⟩ := handled
  -- one step more for an answer, two more for an event
  rcases ack with _ | ack <;> by_cases hproducer : after.isProducerEvent d msg = true
  · refine ⟨9, ?_⟩
    simp [World.run, List.replicate, World.step, World.loopStep, hnext, htouched, hhandled,
      hproducer, appendAll]
  · refine ⟨7, ?_⟩
    simp [World.run, List.replicate, World.step, World.loopStep, hnext, htouched, hhandled,
      hproducer, appendAll]
  · refine ⟨10, ?_⟩
    simp [World.run, List.replicate, World.step, World.loopStep, hnext, htouched, hhandled,
      hproducer, appendAll]
  · refine ⟨8, ?_⟩
    simp [World.run, List.replicate, World.step, World.loopStep, hnext, htouched, hhandled,
      hproducer, appendAll]

end FlyRuler.Transport
