import FlyRuler.Cursor.Subscriber
import FlyRuler.Lib.Run

/-!
# The publisher and the session tables

`CursorStreamRuntime::start` of `core/src/cursor.rs` next to the session tables of the server: a
tick serves all subscribed sessions in the order of their addresses.  A tick reads the sessions once
and then only sets their epoch or removes them, so whatever the server does to the tables in the
middle of a tick it may as well do after it: ticks and table operations alternate freely.  The
publisher has started, and no id in the store makes a conversion panic; what else can happen, and
that nothing does in a run that is paced, is in `Survival`.

* `tick_at`: what a tick does for one address, in five cases.
* `quiet_apply`: the table operations that leave the counters of the sessions alone.
-/

namespace FlyRuler.Cursor

open FlyRuler.Pb FlyRuler.Store FlyRuler.Playback FlyRuler.Transport FlyRuler.Lib.Keyed

/-! ## Ticks -/

/-- The publisher and the session tables.  `history` is everything the publisher has done so far, to
the address it was for. -/
structure Room where
  sessions : SessionState := {}
  states : Table SocketAddr SubscriberState := ∅
  frameSequence : ℕ := 0
  running : Bool := true
  history : List (SocketAddr × Act) := []
  deriving DecidableEq

/-- The session is one of a cursor subscriber that has subscribed. -/
def isSubscribed (s : Session) : Bool := s.role == .cursorSubscriber && s.cursorSubscribed

namespace Room

variable (env : Env) (store : TimeSeriesStore) (t : Tick)

/-- The subscribed sessions, by address. -/
def subscribers (room : Room) : List (SocketAddr × Session) :=
  (room.sessions.list.filter fun e => isSubscribed e.2).insertionSort fun a b => a.1 ≤ b.1

/-- The part of a tick before the loop: sessions beyond the maximum are removed, and so are the
states of addresses that are not served. -/
def beginTick (room : Room) : Room :=
  let subscribers := room.subscribers
  let overflow := subscribers.drop env.config.maxSubscribers
  let active := (subscribers.take env.config.maxSubscribers).map Prod.fst
  { room with
    sessions := overflow.foldl (fun sessions e => sessions.removeByAddr e.1) room.sessions
    states := retain (fun addr _ => active.contains addr) room.states
    frameSequence := (room.frameSequence + 1) % u64Size }

/-- What a turn makes of the room.  A panic ends the task, and its states are gone. -/
def turned (room : Room) (addr : SocketAddr) (served : Served) : Room :=
  let sessions := room.sessions.setCursorEpoch addr env.epoch
  let history := room.history ++ served.acts.map (Prod.mk addr)
  match served.outcome with
  | .kept state =>
    { room with
      sessions := sessions
      states := room.states.insert addr state
      history := history }
  | .evicted =>
    { room with
      sessions := sessions.removeByAddr addr
      states := room.states.erase addr
      history := history }
  | .panicked =>
    { room with
      sessions := sessions
      states := ∅
      running := false
      history := history }

/-- One subscriber is served in the way of `turn`. -/
def serveBy (turn : SubscriberState → ℕ → Session → Served) (room : Room)
    (e : SocketAddr × Session) : Room :=
  if room.running then
    room.turned env e.1 (turn ((room.states.lookup e.1).getD {}) room.frameSequence e.2)
  else room

/-- The turn of one subscriber. -/
def serveAt (room : Room) (e : SocketAddr × Session) : Room :=
  room.serveBy env (fun st => st.serve env store t) e

def tick (room : Room) : Room :=
  if room.running then
    (room.subscribers.take env.config.maxSubscribers).foldl (serveAt env store t)
      (room.beginTick env)
  else room

end Room

/-- What can happen to the publisher and the tables. -/
inductive RoomEvent where
  | session (op : SessionOp)
  | tick (store : TimeSeriesStore) (t : Tick)

def Room.step (env : Env) (room : Room) : RoomEvent → Room
  | .session op => { room with sessions := room.sessions.apply op }
  | .tick store t => room.tick env store t

/-! ## Operations on the tables -/

/-- The operation does not change what a session has subscribed to and acknowledged. -/
def isQuiet : SessionOp → Bool
  | .touchAddr .. | .setCursorEpoch .. | .removeByAddr .. | .cleanupExpired .. => true
  | _ => false

theorem quiet_apply {op : SessionOp} (h : isQuiet op) {sessions : SessionState} {a : SocketAddr}
    {s : Session} (hs : s ∈ (sessions.apply op).byAddr.lookup a) :
    ∃ s₀ ∈ sessions.byAddr.lookup a,
      isSubscribed s = isSubscribed s₀ ∧ s.cursorEventAck = s₀.cursorEventAck := by
  unfold SessionState.apply at hs
  cases op with
  | touchAddr now addr =>
    dsimp only at hs
    rw [SessionState.lookup_touchAddr] at hs
    split_ifs at hs with ha
    · subst ha
      obtain ⟨s₀, hs₀, rfl⟩ := Option.map_eq_some_iff.mp hs
      exact ⟨s₀, hs₀, rfl, rfl⟩
    · exact ⟨s, hs, rfl, rfl⟩
  | setCursorEpoch addr epoch =>
    dsimp only at hs
    rw [SessionState.lookup_setCursorEpoch] at hs
    split_ifs at hs with ha
    · subst ha
      obtain ⟨s₀, hs₀, rfl⟩ := Option.map_eq_some_iff.mp hs
      exact ⟨s₀, hs₀, by split_ifs <;> rfl, by split_ifs <;> rfl⟩
    · exact ⟨s, hs, rfl, rfl⟩
  | removeByAddr addr =>
    dsimp only at hs
    rw [SessionState.lookup_removeByAddr] at hs
    split_ifs at hs with ha
    · cases hs
    · exact ⟨s, hs, rfl, rfl⟩
  | cleanupExpired now timeout =>
    dsimp only at hs
    rw [SessionState.lookup_cleanupExpired] at hs
    exact ⟨s, (Option.filter_eq_some_iff.mp hs).1, rfl, rfl⟩
  | setSession | subscribeCursor | acknowledgeCursorEvent => cases h

/-! ## One address -/

namespace Room

/-- The session at an address. -/
def sessionAt (room : Room) (a : SocketAddr) : Option Session := room.sessions.byAddr.lookup a

/-- The state of the subscriber at an address. -/
def stateAt (room : Room) (a : SocketAddr) : SubscriberState := (room.states.lookup a).getD {}

/-- What the publisher has done for an address. -/
def historyAt (room : Room) (a : SocketAddr) : List Act :=
  (room.history.filter fun e => e.1 == a).map Prod.snd

/-- A session with the epoch of the publisher. -/
def withEpoch (env : Env) (s : Session) : Session :=
  if s.role = .cursorSubscriber then { s with cursorEpoch := env.epoch } else s

theorem isSubscribed_withEpoch (env : Env) (s : Session) :
    isSubscribed (withEpoch env s) = isSubscribed s ∧
      (withEpoch env s).cursorEventAck = s.cursorEventAck := by
  unfold withEpoch
  split_ifs <;> exact ⟨rfl, rfl⟩

variable {env : Env} {store : TimeSeriesStore} {t : Tick} {room : Room} {a b : SocketAddr}

theorem stateAt_of_none (h : room.states.lookup a = none) : room.stateAt a = {} := by
  unfold stateAt
  rw [h]
  rfl

theorem stateAt_of_some {st : SubscriberState} (h : room.states.lookup a = some st) :
    room.stateAt a = st := by
  unfold stateAt
  rw [h]
  rfl

theorem mem_subscribers {s : Session} :
    (a, s) ∈ room.subscribers ↔ room.sessionAt a = some s ∧ isSubscribed s := by
  unfold subscribers sessionAt SessionState.list
  rw [List.mem_insertionSort, List.mem_filter, mem_toPairs]

theorem nodup_subscribers : (room.subscribers.map Prod.fst).Nodup := by
  unfold subscribers
  refine ((List.perm_insertionSort _ _).map Prod.fst).nodup_iff.mpr ?_
  exact (nodup_keys_toPairs _).sublist (List.filter_sublist.map _)

/-! ## One turn -/

/-- Nothing that concerns the address has changed, but for its state being gone if the publisher
has stopped. -/
structure Untouched (room room' : Room) (a : SocketAddr) : Prop where
  session : room'.sessionAt a = room.sessionAt a
  history : room'.historyAt a = room.historyAt a
  frameSequence : room'.frameSequence = room.frameSequence
  state : (room'.running = room.running ∧ room'.states.lookup a = room.states.lookup a) ∨
    (room'.running = false ∧ room'.states.lookup a = none)

/-- The address is not served any more. -/
def Ended (room : Room) (a : SocketAddr) : Prop :=
  room.states.lookup a = none ∧ (room.running = false ∨ room.sessionAt a = none)

theorem historyAt_append_of_ne {acts : List Act} (h : a ≠ b) :
    ((room.history ++ acts.map (Prod.mk b)).filter fun e => e.1 == a).map Prod.snd =
      room.historyAt a := by
  unfold historyAt
  have hnone : (acts.map (Prod.mk b)).filter (fun e => e.1 == a) = [] :=
    List.filter_eq_nil_iff.mpr fun e he => by
      obtain ⟨act, -, rfl⟩ := List.mem_map.mp he
      simpa using Ne.symm h
  rw [List.filter_append, hnone, List.append_nil]

theorem historyAt_append_self {acts : List Act} :
    ((room.history ++ acts.map (Prod.mk a)).filter fun e => e.1 == a).map Prod.snd =
      room.historyAt a ++ acts := by
  unfold historyAt
  have hall : (acts.map (Prod.mk a)).filter (fun e => e.1 == a) = acts.map (Prod.mk a) :=
    List.filter_eq_self.mpr fun e he => by
      obtain ⟨act, -, rfl⟩ := List.mem_map.mp he
      simp
  rw [List.filter_append, hall, List.map_append, List.map_map]
  simp [Function.comp_def]

theorem untouched_refl (room : Room) (a : SocketAddr) : room.Untouched room a :=
  ⟨rfl, rfl, rfl, Or.inl ⟨rfl, rfl⟩⟩

theorem Untouched.trans {room₁ room₂ room₃ : Room} (h₁ : room₁.Untouched room₂ a)
    (h₂ : room₂.Untouched room₃ a) : room₁.Untouched room₃ a where
  session := h₂.session.trans h₁.session
  history := h₂.history.trans h₁.history
  frameSequence := h₂.frameSequence.trans h₁.frameSequence
  state := by
    rcases h₂.state with ⟨hrun, hstate⟩ | h
    · rw [hrun, hstate]
      exact h₁.state
    · exact Or.inr h

theorem sessionAt_setCursorEpoch (sessions : SessionState) (a b : SocketAddr) :
    (sessions.setCursorEpoch b env.epoch).byAddr.lookup a =
      if a = b then (sessions.byAddr.lookup a).map (withEpoch env)
      else sessions.byAddr.lookup a := by
  rw [SessionState.lookup_setCursorEpoch]
  split_ifs with h
  · rw [h]; rfl
  · rfl

/-- **The turn of another subscriber** does not touch the address. -/
theorem untouched_serveBy (env : Env) (turn : SubscriberState → ℕ → Session → Served) (h : a ≠ b)
    (s : Session) :
    room.Untouched (room.serveBy env turn (b, s)) a := by
  unfold serveBy turned
  by_cases hrun : room.running
  · rw [if_pos hrun]
    dsimp only
    split
    · refine ⟨?_, historyAt_append_of_ne h, rfl, Or.inl ⟨rfl, ?_⟩⟩
      · unfold sessionAt
        rw [sessionAt_setCursorEpoch, if_neg h]
      · rw [lookup_insert, if_neg h]
    · refine ⟨?_, historyAt_append_of_ne h, rfl, Or.inl ⟨rfl, ?_⟩⟩
      · unfold sessionAt
        rw [SessionState.lookup_removeByAddr, if_neg h, sessionAt_setCursorEpoch, if_neg h]
      · rw [lookup_erase, if_neg h]
    · refine ⟨?_, historyAt_append_of_ne h, rfl, Or.inr ⟨rfl, lookup_empty a⟩⟩
      unfold sessionAt
      rw [sessionAt_setCursorEpoch, if_neg h]
  · rw [if_neg hrun]
    exact untouched_refl room a

/-- **A loop over other subscribers** does not touch the address. -/
theorem untouched_foldl_serveBy (env : Env) (turn : SubscriberState → ℕ → Session → Served) :
    ∀ (l : List (SocketAddr × Session)) (room : Room), a ∉ l.map Prod.fst →
    room.Untouched (l.foldl (serveBy env turn) room) a
  | [], room, _ => untouched_refl room a
  | (b, s) :: l, room, h => by
    simp only [List.map_cons, List.mem_cons, not_or] at h
    rw [List.foldl_cons]
    exact (untouched_serveBy env turn h.1 s).trans (untouched_foldl_serveBy env turn l _ h.2)

theorem untouched_foldl (env : Env) (store : TimeSeriesStore) (t : Tick)
    (l : List (SocketAddr × Session)) (room : Room) (h : a ∉ l.map Prod.fst) :
    room.Untouched (l.foldl (serveAt env store t) room) a :=
  untouched_foldl_serveBy env (fun st => st.serve env store t) l room h

/-- **What a turn does at its own address.** -/
theorem serveBy_self (env : Env) (turn : SubscriberState → ℕ → Session → Served)
    (hrun : room.running) {s : Session} (hs : room.sessionAt a = some s) :
    let served := turn (room.stateAt a) room.frameSequence s
    let room' := room.serveBy env turn (a, s)
    room'.historyAt a = room.historyAt a ++ served.acts ∧
      ((∃ st', served.outcome = .kept st' ∧ room'.running ∧ room'.states.lookup a = some st' ∧
          room'.sessionAt a = some (withEpoch env s)) ∨
        room'.Ended a) := by
  unfold serveBy turned
  rw [if_pos hrun]
  dsimp only [stateAt]
  split
  · next st' hout =>
    refine ⟨historyAt_append_self, Or.inl ⟨st', hout, hrun, ?_, ?_⟩⟩
    · rw [lookup_insert, if_pos rfl]
    · unfold sessionAt at hs ⊢
      rw [sessionAt_setCursorEpoch, if_pos rfl, hs]
      rfl
  · refine ⟨historyAt_append_self, Or.inr ⟨?_, Or.inr ?_⟩⟩
    · rw [lookup_erase, if_pos rfl]
    · unfold sessionAt
      rw [SessionState.lookup_removeByAddr, if_pos rfl]
  · exact ⟨historyAt_append_self, Or.inr ⟨lookup_empty a, Or.inl rfl⟩⟩

/-- **What the turn of a subscriber does at its address.** -/
theorem serveAt_self (env : Env) (store : TimeSeriesStore) (t : Tick) (hrun : room.running)
    {s : Session} (hs : room.sessionAt a = some s) :
    let served := (room.stateAt a).serve env store t room.frameSequence s
    let room' := room.serveAt env store t (a, s)
    room'.historyAt a = room.historyAt a ++ served.acts ∧
      ((∃ st', served.outcome = .kept st' ∧ room'.running ∧ room'.states.lookup a = some st' ∧
          room'.sessionAt a = some (withEpoch env s)) ∨
        room'.Ended a) :=
  serveBy_self env (fun st => st.serve env store t) hrun hs

/-! ## The whole tick -/

theorem lookup_removeAll (a : SocketAddr) :
    ∀ (l : List (SocketAddr × Session)) (sessions : SessionState),
      (l.foldl (fun sessions e => sessions.removeByAddr e.1) sessions).byAddr.lookup a =
        if a ∈ l.map Prod.fst then none else sessions.byAddr.lookup a
  | [], sessions => by simp
  | e :: l, sessions => by
    rw [List.foldl_cons, lookup_removeAll a l, SessionState.lookup_removeByAddr]
    by_cases hl : a ∈ l.map Prod.fst
    · simp [hl]
    · by_cases he : a = e.1 <;> simp [hl, he]

theorem historyAt_beginTick : (room.beginTick env).historyAt a = room.historyAt a := rfl

theorem sessionAt_beginTick : (room.beginTick env).sessionAt a =
    if a ∈ (room.subscribers.drop env.config.maxSubscribers).map Prod.fst then none
    else room.sessionAt a :=
  lookup_removeAll a _ _

theorem state_beginTick : (room.beginTick env).states.lookup a =
    if a ∈ (room.subscribers.take env.config.maxSubscribers).map Prod.fst then
      room.states.lookup a
    else none := by
  unfold beginTick
  dsimp only
  rw [lookup_retain]
  generalize (room.subscribers.take env.config.maxSubscribers).map Prod.fst = active
  cases room.states.lookup a <;> simp [Option.filter]

theorem Ended.of_untouched {room' : Room} (h : room.Ended a) (hu : room.Untouched room' a) :
    room'.Ended a := by
  obtain ⟨hstate, hend⟩ := h
  rcases hu.state with ⟨hrun, hstate'⟩ | ⟨hrun, hstate'⟩
  · refine ⟨hstate'.trans hstate, ?_⟩
    rw [hrun, hu.session]
    exact hend
  · exact ⟨hstate', Or.inl hrun⟩

/-- The turn of the session at an address in a tick of the room. -/
def serving (room : Room) (env : Env) (store : TimeSeriesStore) (t : Tick) (a : SocketAddr)
    (s : Session) : Served :=
  (room.stateAt a).serve env store t ((room.frameSequence + 1) % u64Size) s

/-- The pages of a turn. -/
theorem pagesOf_serving (env : Env) (store : TimeSeriesStore) (t : Tick) (a : SocketAddr)
    (room : Room) (s : Session) : pagesOf (room.serving env store t a s).acts =
      (room.stateAt a).newPages env store t s.cursorEventAck := by
  obtain ⟨sends, hacts, -, -⟩ := serve_spec (room.stateAt a) env store t
    ((room.frameSequence + 1) % u64Size) s
  unfold serving
  rw [hacts]
  simp

/-- **What a tick does for one address.** -/
inductive TickAt (env : Env) (store : TimeSeriesStore) (t : Tick) (room room' : Room)
    (a : SocketAddr) : Prop
  | stopped (hrun : room.running = false) (same : room' = room)
  | idle (hrun : room.running) (hsub : ∀ s, room.sessionAt a = some s → isSubscribed s = false)
      (session : room'.sessionAt a = room.sessionAt a) (state : room'.states.lookup a = none)
      (history : room'.historyAt a = room.historyAt a)
  | gone (history : room'.historyAt a = room.historyAt a) (ended : room'.Ended a)
  | kept (s : Session) (hs : room.sessionAt a = some s) (hsub : isSubscribed s)
      (hrun : room.running) (st' : SubscriberState)
      (outcome : (room.serving env store t a s).outcome = .kept st')
      (history : room'.historyAt a = room.historyAt a ++ (room.serving env store t a s).acts)
      (running : room'.running) (state : room'.states.lookup a = some st')
      (session : room'.sessionAt a = some (withEpoch env s))
  | ended (s : Session) (hs : room.sessionAt a = some s) (hsub : isSubscribed s)
      (hrun : room.running)
      (history : room'.historyAt a = room.historyAt a ++ (room.serving env store t a s).acts)
      (ended : room'.Ended a)

/-- The tick for an address that is served. -/
theorem tick_at_active (hrun : room.running) {s : Session} (hs : room.sessionAt a = some s)
    (hsub : isSubscribed s)
    (hactive : (a, s) ∈ room.subscribers.take env.config.maxSubscribers) :
    TickAt env store t room (room.tick env store t) a := by
  unfold tick
  rw [if_pos hrun]
  have hnodup : ((room.subscribers.take env.config.maxSubscribers).map Prod.fst ++
      (room.subscribers.drop env.config.maxSubscribers).map Prod.fst).Nodup := by
    rw [← List.map_append, List.take_append_drop]
    exact nodup_subscribers
  have hmem : a ∈ (room.subscribers.take env.config.maxSubscribers).map Prod.fst :=
    List.mem_map_of_mem hactive
  have hdrop : a ∉ (room.subscribers.drop env.config.maxSubscribers).map Prod.fst :=
    fun h => (List.nodup_append.mp hnodup).2.2 a hmem a h rfl
  have hstate : (room.beginTick env).states.lookup a = room.states.lookup a := by
    rw [state_beginTick, if_pos hmem]
  have hsession : (room.beginTick env).sessionAt a = some s := by
    rw [sessionAt_beginTick, if_neg hdrop, hs]
  obtain ⟨before, after, hsplit⟩ := List.append_of_mem hactive
  have hnotMem : a ∉ before.map Prod.fst ∧ a ∉ after.map Prod.fst := by
    have hnd := (List.nodup_append.mp hnodup).1
    rw [hsplit, List.map_append, List.map_cons, List.nodup_append, List.nodup_cons] at hnd
    exact ⟨fun h => hnd.2.2 a h a List.mem_cons_self rfl, hnd.2.1.1⟩
  rw [hsplit, List.foldl_append, List.foldl_cons]
  have h₁ := untouched_foldl env store t before (room.beginTick env) hnotMem.1
  generalize before.foldl (serveAt env store t) (room.beginTick env) = room₁ at h₁ ⊢
  have h₃ := untouched_foldl env store t after (room₁.serveAt env store t (a, s)) hnotMem.2
  generalize after.foldl (serveAt env store t) (room₁.serveAt env store t (a, s)) = room₃ at h₃ ⊢
  by_cases hrun₁ : room₁.running
  · -- nobody has stopped the publisher before
    have hstate₁ : room₁.stateAt a = room.stateAt a := by
      rcases h₁.state with ⟨-, h⟩ | ⟨h, -⟩
      · unfold stateAt
        rw [h, hstate]
      · rw [hrun₁] at h
        cases h
    obtain ⟨hhist, hcase⟩ := serveAt_self env store t hrun₁ (h₁.session.trans hsession)
    have hframe : room₁.frameSequence = (room.frameSequence + 1) % u64Size := h₁.frameSequence
    rw [hstate₁, hframe] at hhist hcase
    have hhistory : room₃.historyAt a =
        room.historyAt a ++ (room.serving env store t a s).acts := by
      rw [h₃.history, hhist, h₁.history, historyAt_beginTick]
      rfl
    rcases hcase with ⟨st', hout, hrun₂, hst', hs'⟩ | hend
    · rcases h₃.state with ⟨hrun₃, hst₃⟩ | ⟨hrun₃, hst₃⟩
      · exact .kept s hs hsub hrun st' hout hhistory (hrun₃.trans hrun₂) (hst₃.trans hst')
          (h₃.session.trans hs')
      · exact .ended s hs hsub hrun hhistory ⟨hst₃, Or.inl hrun₃⟩
    · exact .ended s hs hsub hrun hhistory (hend.of_untouched h₃)
  · -- the publisher has stopped before the turn
    have hrun₁' : room₁.running = false := by simpa using hrun₁
    have hsame : room₁.serveAt env store t (a, s) = room₁ := by
      unfold serveAt serveBy
      rw [if_neg hrun₁]
    have hnone : room₁.states.lookup a = none := by
      rcases h₁.state with ⟨h, -⟩ | ⟨-, h⟩
      · rw [hrun₁'] at h
        exact absurd (show room.running = false from h.symm) (by simp [hrun])
      · exact h
    rw [hsame] at h₃
    refine .gone ?_ (Ended.of_untouched ⟨hnone, Or.inl hrun₁'⟩ h₃)
    rw [h₃.history, h₁.history, historyAt_beginTick]

/-- **What a tick does for one address**, in five cases. -/
theorem tick_at (room : Room) (env : Env) (store : TimeSeriesStore) (t : Tick) (a : SocketAddr) :
    TickAt env store t room (room.tick env store t) a := by
  by_cases hrun : room.running
  · by_cases hmem : ∃ s, (a, s) ∈ room.subscribers
    · obtain ⟨s, hs⟩ := hmem
      obtain ⟨hsession, hsub⟩ := mem_subscribers.mp hs
      rw [← List.take_append_drop env.config.maxSubscribers room.subscribers,
        List.mem_append] at hs
      rcases hs with hactive | hover
      · exact tick_at_active hrun hsession hsub hactive
      · -- one of the sessions beyond the maximum
        have hmem : a ∈ (room.subscribers.drop env.config.maxSubscribers).map Prod.fst :=
          List.mem_map_of_mem hover
        have hnot : a ∉ (room.subscribers.take env.config.maxSubscribers).map Prod.fst := fun h =>
          (List.nodup_append.mp (by
            rw [← List.map_append, List.take_append_drop]
            exact nodup_subscribers)).2.2 a h a hmem rfl
        have hu := untouched_foldl env store t _ (room.beginTick env) hnot
        unfold tick
        rw [if_pos hrun]
        refine .gone hu.history (Ended.of_untouched ⟨?_, Or.inr ?_⟩ hu)
        · rw [state_beginTick, if_neg hnot]
        · rw [sessionAt_beginTick, if_pos hmem]
    · have hnot : a ∉ room.subscribers.map Prod.fst := by
        intro hmem'
        obtain ⟨⟨b, s⟩, hs, rfl⟩ := List.mem_map.mp hmem'
        exact hmem ⟨s, hs⟩
      have htake : a ∉ (room.subscribers.take env.config.maxSubscribers).map Prod.fst := fun h =>
        hnot ((List.take_sublist _ _).map Prod.fst |>.subset h)
      have hdrop : a ∉ (room.subscribers.drop env.config.maxSubscribers).map Prod.fst := fun h =>
        hnot ((List.drop_sublist _ _).map Prod.fst |>.subset h)
      have hu := untouched_foldl env store t _ (room.beginTick env) htake
      unfold tick
      rw [if_pos hrun]
      refine .idle hrun (fun s hs => ?_) ?_ ?_ hu.history
      · by_contra hsub
        exact hmem ⟨s, mem_subscribers.mpr ⟨hs, by simpa using hsub⟩⟩
      · rw [hu.session, sessionAt_beginTick, if_neg hdrop]
      · rcases hu.state with ⟨-, h⟩ | ⟨-, h⟩
        · rw [h, state_beginTick, if_neg htake]
        · exact h
  · unfold tick
    rw [if_neg hrun]
    exact .stopped (by simpa using hrun) rfl

end Room

end FlyRuler.Cursor
