import FlyRuler.Cursor.Publisher
import FlyRuler.Transport.Server
import Mathlib.Algebra.Order.Field.Basic

/-!
# Turns that may panic

A subscription is accepted in the receive loop of the server and its rate is used as a divisor in
the publisher (`core/src/cursor.rs`).  A panic in the turn of one subscriber ends the task of the
publisher for everybody.

* `receive_step`: what the receive loop does to the tables are accepted operations, which keep the
  rates positive.
* `foldl_running_iff`, `foldl_served`: a loop over subscribers goes on exactly if no turn panics,
  and then it has served everybody.
-/

namespace FlyRuler.Cursor

open FlyRuler.Pb FlyRuler.Store FlyRuler.Playback FlyRuler.Transport FlyRuler.Lib.Run

/-! ## What the receive loop accepts -/

/-- The operation is one that the server performs: it only subscribes with a positive rate. -/
def isAccepted : SessionOp → Prop
  | .subscribeCursor _ requestedHz => 0 < requestedHz
  | _ => True

instance : DecidablePred isAccepted := fun op => by
  cases op <;> unfold isAccepted <;> infer_instance

theorem handleCommand_step (sessions : SessionState) (d : Datagram) (req : Request)
    (clientUuid : Option String) (kind : RequestCommand.Kind) :
    ∃ ops : List SessionOp, (∀ op ∈ ops, isAccepted op) ∧
      (sessions.handleCommand d req clientUuid kind).1 = ops.foldl SessionState.apply sessions := by
  have hnone : ∃ ops : List SessionOp, (∀ op ∈ ops, isAccepted op) ∧
      sessions = ops.foldl SessionState.apply sessions := ⟨[], by simp, rfl⟩
  unfold SessionState.handleCommand
  split
  · next hs =>
    split_ifs
    · split
      · exact hnone
      · next uuid _ =>
        exact ⟨[.setSession d.receivedAt d.addr uuid
          ((ClientRole.tryFrom hs.role).getD .unspecified)], by simp [isAccepted], rfl⟩
      · exact hnone
    · exact hnone
  · exact hnone
  · split
    · next hz _ =>
      split_ifs with hle
      · exact hnone
      · refine ⟨[.subscribeCursor d.addr hz], by simpa [isAccepted] using hle, ?_⟩
        split <;> next heq => exact (congrArg Prod.fst heq).symm
    · exact hnone
  · next value =>
    exact ⟨[.acknowledgeCursorEvent d.addr value.serverEpoch value.eventSequence],
      by simp [isAccepted], rfl⟩
  · split_ifs <;> exact hnone

/-- **One turn of the receive loop** performs accepted operations on the tables. -/
theorem receive_step (decode : List UInt8 → Option Message) (timeout : Duration)
    (runtime : ServerRuntime) (poll : Poll) :
    ∃ ops : List SessionOp, (∀ op ∈ ops, isAccepted op) ∧
      (runtime.step decode timeout poll).sessions =
        ops.foldl SessionState.apply runtime.sessions := by
  have hclean : ∃ ops : List SessionOp, (∀ op ∈ ops, isAccepted op) ∧
      runtime.sessions.cleanupExpired poll.now timeout =
        ops.foldl SessionState.apply runtime.sessions :=
    ⟨[.cleanupExpired poll.now timeout], by simp [isAccepted], rfl⟩
  unfold ServerRuntime.step recvFrom
  split_ifs
  · rcases poll.arrival with _ | d
    · exact hclean
    · dsimp only
      split_ifs
      · exact hclean
      · rcases decode d.bytes with _ | msg
        · exact hclean
        · dsimp only
          unfold SessionState.handleMessage
          rcases commandOf msg with _ | ⟨req, kind⟩
          · exact ⟨[.cleanupExpired poll.now timeout, .touchAddr d.receivedAt d.addr],
              by simp [isAccepted], rfl⟩
          · obtain ⟨ops, hops, heq⟩ := handleCommand_step
              ((runtime.sessions.cleanupExpired poll.now timeout).touchAddr d.receivedAt d.addr)
              d req (clientUuidOf msg) kind
            refine ⟨.cleanupExpired poll.now timeout :: .touchAddr d.receivedAt d.addr :: ops,
              ?_, heq⟩
            simpa [isAccepted] using hops
  · exact ⟨[], by simp, rfl⟩

/-! ## Rates are positive -/

/-- Every session asks for a positive rate. -/
def PositiveRates (sessions : SessionState) : Prop :=
  ∀ a s, sessions.byAddr.lookup a = some s → 0 < s.cursorRequestedHz

theorem PositiveRates.apply {sessions : SessionState} (h : PositiveRates sessions) {op : SessionOp}
    (hop : isAccepted op) : PositiveRates (sessions.apply op) := by
  -- an operation in place keeps the rate
  have hplace : ∀ sessions' : SessionState, (∀ b, (sessions'.byAddr.lookup b).map
      Session.cursorRequestedHz = (sessions.byAddr.lookup b).map Session.cursorRequestedHz) →
      PositiveRates sessions' := by
    intro sessions' hmap a s hs
    have hrate := hmap a
    rw [hs, Option.map_some] at hrate
    obtain ⟨s₀, hs₀, heq⟩ := Option.map_eq_some_iff.mp hrate.symm
    rw [← heq]
    exact h a s₀ hs₀
  unfold SessionState.apply
  cases op with
  | touchAddr now addr =>
    exact hplace _ fun b => SessionState.map_lookup_of_lookup
      (f := fun s => { s with lastSeenAt := now }) _ (fun _ => rfl)
      (SessionState.lookup_touchAddr now addr b)
  | setSession now addr uuid role =>
    intro a s hs
    dsimp only at hs
    rw [SessionState.lookup_setSession] at hs
    split_ifs at hs
    · cases hs
      exact (by decide +kernel : (0 : ℚ) < 30)
    · exact h a s hs
  | subscribeCursor addr hz =>
    intro a s hs
    dsimp only at hs
    rw [SessionState.lookup_subscribeCursor] at hs
    split_ifs at hs
    · obtain ⟨s₀, hs₀, rfl⟩ := Option.map_eq_some_iff.mp hs
      split_ifs
      · exact hop
      · exact h addr s₀ hs₀
    · exact h a s hs
  | acknowledgeCursorEvent addr epoch sequence =>
    exact hplace _ fun b => SessionState.map_lookup_of_lookup _ (fun s => by split_ifs <;> rfl)
      (SessionState.lookup_acknowledgeCursorEvent addr b epoch sequence)
  | setCursorEpoch addr epoch =>
    exact hplace _ fun b => SessionState.map_lookup_of_lookup _ (fun s => by split_ifs <;> rfl)
      (SessionState.lookup_setCursorEpoch addr b epoch)
  | removeByAddr addr =>
    intro a s hs
    dsimp only at hs
    rw [SessionState.lookup_removeByAddr] at hs
    split_ifs at hs
    exact h a s hs
  | cleanupExpired now timeout =>
    intro a s hs
    dsimp only at hs
    rw [SessionState.lookup_cleanupExpired] at hs
    exact h a s (Option.filter_eq_some_iff.mp hs).1

theorem PositiveRates.foldl {sessions : SessionState} (h : PositiveRates sessions)
    {ops : List SessionOp} (hops : ∀ op ∈ ops, isAccepted op) :
    PositiveRates (ops.foldl SessionState.apply sessions) := by
  induction ops generalizing sessions with
  | nil => exact h
  | cons op ops ih =>
    exact ih (h.apply (hops op List.mem_cons_self)) fun op' hop' =>
      hops op' (List.mem_cons_of_mem _ hop')

/-- The event is a tick or an operation that the server accepts. -/
def isServerEvent : RoomEvent → Prop
  | .session op => isAccepted op
  | .tick .. => True

namespace Room

variable {env : Env} {turn : SubscriberState → ℕ → Session → Served} {room : Room}

theorem positiveRates_beginTick (h : PositiveRates room.sessions) :
    PositiveRates (room.beginTick env).sessions := by
  unfold beginTick
  dsimp only
  generalize room.subscribers.drop env.config.maxSubscribers = overflow
  have hfold : ∀ (overflow : List (SocketAddr × Session)) (sessions : SessionState),
      PositiveRates sessions → PositiveRates
        (overflow.foldl (fun sessions e => sessions.removeByAddr e.1) sessions) := by
    intro overflow
    induction overflow with
    | nil => exact fun _ h => h
    | cons e overflow ih =>
      exact fun sessions h => ih _ (h.apply (show isAccepted (.removeByAddr e.1) from trivial))
  exact hfold overflow _ h

theorem positiveRates_serveBy (h : PositiveRates room.sessions) (e : SocketAddr × Session) :
    PositiveRates (room.serveBy env turn e).sessions := by
  have hepoch : PositiveRates (room.sessions.setCursorEpoch e.1 env.epoch) :=
    h.apply (show isAccepted (.setCursorEpoch e.1 env.epoch) from trivial)
  unfold serveBy turned
  split_ifs
  · dsimp only
    split
    · exact hepoch
    · exact hepoch.apply (show isAccepted (.removeByAddr e.1) from trivial)
    · exact hepoch
  · exact h

theorem positiveRates_foldl (h : PositiveRates room.sessions) (l : List (SocketAddr × Session)) :
    PositiveRates (l.foldl (serveBy env turn) room).sessions := by
  induction l generalizing room with
  | nil => exact h
  | cons e l ih => exact ih (positiveRates_serveBy h e)

/-! ## The loop over the subscribers -/

theorem foldl_not_running (h : room.running = false) (l : List (SocketAddr × Session)) :
    l.foldl (serveBy env turn) room = room := by
  induction l with
  | nil => rfl
  | cons e l ih =>
    have hsame : room.serveBy env turn e = room := by
      unfold serveBy
      simp [h]
    rw [List.foldl_cons, hsame, ih]

theorem serveBy_running (env : Env) (turn : SubscriberState → ℕ → Session → Served)
    (hrun : room.running) (e : SocketAddr × Session) :
    (room.serveBy env turn e).running ↔
      (turn (room.stateAt e.1) room.frameSequence e.2).outcome ≠ .panicked := by
  unfold serveBy turned stateAt
  rw [if_pos hrun]
  dsimp only
  split
  · next heq => simp [heq, hrun]
  · next heq => simp [heq, hrun]
  · next heq => simp [heq]

/-- While the publisher runs, the turn of one address leaves the others as they are. -/
theorem serveBy_others {a : SocketAddr} {e : SocketAddr × Session} (hne : a ≠ e.1)
    (hrun : (room.serveBy env turn e).running) :
    (room.serveBy env turn e).stateAt a = room.stateAt a ∧
      (room.serveBy env turn e).sessionAt a = room.sessionAt a ∧
      (room.serveBy env turn e).historyAt a = room.historyAt a ∧
      (room.serveBy env turn e).frameSequence = room.frameSequence := by
  have hu : room.Untouched (room.serveBy env turn e) a :=
    untouched_serveBy env turn hne e.2
  refine ⟨?_, hu.session, hu.history, hu.frameSequence⟩
  rcases hu.state with ⟨-, hstate⟩ | ⟨hstop, -⟩
  · unfold stateAt
    rw [hstate]
  · exact absurd hrun (by rw [hstop]; decide)

/-- **The tick goes on** exactly if no turn panics. -/
theorem foldl_running_iff {l : List (SocketAddr × Session)} (hnodup : (l.map Prod.fst).Nodup)
    (hrun : room.running) :
    (l.foldl (serveBy env turn) room).running ↔ ∀ e ∈ l,
      (turn (room.stateAt e.1) room.frameSequence e.2).outcome ≠ .panicked := by
  induction l generalizing room with
  | nil => simp [hrun]
  | cons e l ih =>
    rw [List.map_cons, List.nodup_cons] at hnodup
    rw [List.foldl_cons, List.forall_mem_cons, ← serveBy_running env turn hrun]
    by_cases hstep : (room.serveBy env turn e).running
    · rw [ih hnodup.2 hstep]
      simp only [hstep, true_and]
      refine forall₂_congr fun e' he' => ?_
      have hne : e'.1 ≠ e.1 := fun h => hnodup.1 (h ▸ List.mem_map_of_mem he')
      obtain ⟨hstate, -, -, hframe⟩ := serveBy_others hne hstep
      rw [hstate, hframe]
    · rw [foldl_not_running (by simpa using hstep)]
      simp [hstep]

/-- **A tick that goes on serves everybody.** -/
theorem foldl_served {l : List (SocketAddr × Session)} (hnodup : (l.map Prod.fst).Nodup)
    (hrun : room.running) (hmem : ∀ e ∈ l, room.sessionAt e.1 = some e.2)
    (hend : (l.foldl (serveBy env turn) room).running) :
    ∀ e ∈ l, (l.foldl (serveBy env turn) room).historyAt e.1 = room.historyAt e.1 ++
      (turn (room.stateAt e.1) room.frameSequence e.2).acts := by
  induction l generalizing room with
  | nil => simp
  | cons e l ih =>
    rw [List.map_cons, List.nodup_cons] at hnodup
    rw [List.foldl_cons] at hend ⊢
    have hstep : (room.serveBy env turn e).running := by
      by_contra hstop
      rw [foldl_not_running (by simpa using hstop)] at hend
      exact hstop hend
    have hne : ∀ e' ∈ l, e'.1 ≠ e.1 := fun e' he' h => hnodup.1 (h ▸ List.mem_map_of_mem he')
    rw [List.forall_mem_cons]
    constructor
    · rw [(untouched_foldl_serveBy env turn l _ hnodup.1).history]
      exact (serveBy_self env turn hrun (hmem e List.mem_cons_self)).1
    · intro e' he'
      obtain ⟨hstate, -, hhistory, hframe⟩ := serveBy_others (hne e' he') hstep
      have hmem' : ∀ e' ∈ l, (room.serveBy env turn e).sessionAt e'.1 = some e'.2 := by
        intro e' he'
        rw [(serveBy_others (hne e' he') hstep).2.1]
        exact hmem e' (List.mem_cons_of_mem _ he')
      have hserved := ih hnodup.2 hstep hmem' hend e' he'
      rwa [hstate, hhistory, hframe] at hserved

/-- The sessions a tick serves. -/
def active (env : Env) (room : Room) : List (SocketAddr × Session) :=
  room.subscribers.take env.config.maxSubscribers

theorem active_nodup (env : Env) (room : Room) : ((room.active env).map Prod.fst).Nodup :=
  nodup_subscribers.sublist ((List.take_sublist _ _).map Prod.fst)

theorem active_session {e : SocketAddr × Session} (h : e ∈ room.active env) :
    room.sessionAt e.1 = some e.2 :=
  (mem_subscribers.mp ((List.take_sublist _ _).subset h)).1

/-- What the part of the tick before the loop leaves at an address that is served. -/
theorem beginTick_active {e : SocketAddr × Session} (h : e ∈ room.active env) :
    (room.beginTick env).stateAt e.1 = room.stateAt e.1 ∧
      (room.beginTick env).sessionAt e.1 = some e.2 := by
  have hmem : e.1 ∈ (room.subscribers.take env.config.maxSubscribers).map Prod.fst :=
    List.mem_map_of_mem h
  have hnodup : ((room.subscribers.take env.config.maxSubscribers).map Prod.fst ++
      (room.subscribers.drop env.config.maxSubscribers).map Prod.fst).Nodup := by
    rw [← List.map_append, List.take_append_drop]
    exact nodup_subscribers
  have hdrop : e.1 ∉ (room.subscribers.drop env.config.maxSubscribers).map Prod.fst :=
    fun hover => (List.nodup_append.mp hnodup).2.2 e.1 hmem e.1 hover rfl
  constructor
  · unfold stateAt
    rw [state_beginTick, if_pos hmem]
  · rw [sessionAt_beginTick, if_neg hdrop]
    exact active_session h

end Room

end FlyRuler.Cursor
