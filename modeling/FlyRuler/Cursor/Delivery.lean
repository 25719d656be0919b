import FlyRuler.Cursor.Client
import FlyRuler.Cursor.Publisher
import FlyRuler.Cursor.Queue
import FlyRuler.Lib.StopAndWait

/-!
# The publisher, one client, and the network between them

A `World` is the room and one client at the address `a`.  Whatever the publisher has ever sent to
`a` can arrive at any time, in any order and any number of times, or never; so can the client's
acknowledgements at the server.  The client subscribes once; the other sessions do what they like.

Publisher and client are a stop-and-wait link for the pages (`Linked`): only the page at the front
of the queue is transmitted, and it is taken off the queue once the session has its acknowledgement.

* `World.stepped`: what one event does to the world.
* `Carries.serve`: one turn of the publisher.
* `Linked.deliver`: one payload arrives.
* `Linked.step`: every event.
-/

namespace FlyRuler.Cursor

open FlyRuler.Pb FlyRuler.Store FlyRuler.Playback FlyRuler.Transport FlyRuler.Lib.Keyed
open FlyRuler.Lib.StopAndWait FlyRuler.Lib.Run

/-! ## The world -/

structure World where
  room : Room := {}
  client : CursorClient := {}
  waiting : Bool := false
  acks : List CursorEventAck := []
  returned : List CursorClientEvent := []
  deriving DecidableEq

/-- What can happen: a tick; an operation on the session tables that does not come from the client;
the `i`-th acknowledgement of the client reaches the server; the consumer calls `recv`; the `i`-th
payload sent to the client reaches it. -/
inductive WorldEvent where
  | tick (store : TimeSeriesStore) (t : Tick)
  | session (op : SessionOp)
  | acknowledge (i : ℕ)
  | call
  | deliver (i : ℕ)

/-- The operation is not a handshake or an acknowledgement from `a`. -/
def spares (a : SocketAddr) : SessionOp → Bool
  | .setSession _ addr _ _ => addr ≠ a
  | .acknowledgeCursorEvent addr _ _ => addr ≠ a
  | _ => true

namespace World

variable (env : Env) (a : SocketAddr)

/-- What has been sent to the client. -/
def payloads (w : World) : List Payload := payloadsOf (w.room.historyAt a)

/-- The payload that arrives at the client, if it is waiting for one. -/
def arriving (w : World) (i : ℕ) : Option Payload :=
  if w.waiting then (w.payloads a)[i]? else none

/-- The client is in the state `result.1`, and its `recv` returns `result.2`, if anything. -/
def recv (w : World) (result : CursorClient × Option CursorClientEvent) : World :=
  { w with
    client := result.1
    waiting := result.2.isNone
    returned := w.returned ++ result.2.toList }

def step (w : World) : WorldEvent → World
  | .tick store t => { w with room := w.room.step env (.tick store t) }
  | .session op => if spares a op then { w with room := w.room.step env (.session op) } else w
  | .acknowledge i =>
    match w.acks[i]? with
    | none => w
    | some ack =>
      let op := .acknowledgeCursorEvent a ack.serverEpoch ack.eventSequence
      { w with room := w.room.step env (.session op) }
  | .call => if w.waiting then w else w.recv w.client.recvPendingFrame
  | .deliver i =>
    match w.arriving a i with
    | none => w
    | some payload =>
      { w.recv (w.client.recvPayload payload) with acks := w.acks ++ payload.ack.toList }

/-- **What an event does.**  It does nothing if it is an operation of the client itself, if there is
nothing to arrive, or if `recv` has already been called. -/
inductive Stepped (w : World) : WorldEvent → World → Prop
  | same (event : WorldEvent) (hcall : event = .call → w.waiting = true)
      (hdeliver : ∀ i, event = .deliver i → w.arriving a i = none) : Stepped w event w
  | tick (store : TimeSeriesStore) (t : Tick) :
      Stepped w (.tick store t) { w with room := w.room.tick env store t }
  | session (op : SessionOp) (hop : spares a op) :
      Stepped w (.session op) { w with room := w.room.step env (.session op) }
  | acknowledge (i : ℕ) (ack : CursorEventAck) (hack : ack ∈ w.acks) :
      Stepped w (.acknowledge i)
        { w with
          room := w.room.step env
            (.session (.acknowledgeCursorEvent a ack.serverEpoch ack.eventSequence)) }
  | call (hwaiting : w.waiting = false) : Stepped w .call (w.recv w.client.recvPendingFrame)
  | deliver (i : ℕ) (payload : Payload) (hp : w.arriving a i = some payload) :
      Stepped w (.deliver i)
        { w.recv (w.client.recvPayload payload) with acks := w.acks ++ payload.ack.toList }

theorem stepped (w : World) (event : WorldEvent) : Stepped env a w event (w.step env a event) := by
  unfold step
  cases event with
  | tick store t => exact .tick store t
  | session op =>
    dsimp only
    split_ifs with hop
    · exact .session op hop
    · exact .same _ (fun h => nomatch h) fun _ h => nomatch h
  | acknowledge i =>
    dsimp only
    split
    · exact .same _ (fun h => nomatch h) fun _ h => nomatch h
    · next ack hack => exact .acknowledge i ack (List.mem_of_getElem? hack)
  | call =>
    dsimp only
    split_ifs with hwaiting
    · exact .same _ (fun _ => hwaiting) fun _ h => nomatch h
    · exact .call (by simpa using hwaiting)
  | deliver i =>
    dsimp only
    split
    · next hnone =>
      refine .same _ (fun h => nomatch h) fun j h => ?_
      rw [← WorldEvent.deliver.inj h]
      exact hnone
    · next payload hp => exact .deliver i payload hp

/-- The batches that `recv` has returned. -/
def batches (w : World) : List CursorEventBatch := w.returned.filterMap CursorClientEvent.batch?

/-- The batches are returned in strictly increasing order of their sequences. -/
def InOrder (w : World) : Prop :=
  (w.batches.map CursorEventBatch.eventSequence).Pairwise (· < ·)

instance (w : World) : Decidable w.InOrder := by unfold InOrder; infer_instance

/-- **The client has just subscribed**: nothing has been done for its address. -/
structure Start (w : World) : Prop where
  session : ∃ s, w.room.sessionAt a = some s ∧ isSubscribed s ∧ s.cursorEventAck = 0
  state : w.room.states.lookup a = none
  history : w.room.historyAt a = []
  running : w.room.running
  client : w.client = {}
  acks : w.acks = []
  returned : w.returned = []

/-- No sequence of the client's batches wraps around in the event. -/
def NoWrap (w : World) : WorldEvent → Prop
  | .tick store t => ∀ s ∈ w.room.sessionAt a, isSubscribed s →
      ((w.room.stateAt a).completeFront s.cursorEventAck).SequencesFit store t
  | _ => True

instance (w : World) : (event : WorldEvent) → Decidable (w.NoWrap a event)
  | .tick .. => by unfold NoWrap; infer_instance
  | .session _ | .acknowledge _ | .call | .deliver _ => isTrue trivial

end World

/-! ## The link -/

/-- **The link carries what the publisher has done**: its log are the pages queued, in the order of
their sequences, and everything sent is a frame or belongs to a page transmitted. -/
structure Carries (env : Env) (history : List Act) (link : Link Page) : Prop where
  sound : link.Sound
  log : link.log = pagesOf history
  increasing : (link.log.map Page.sequence).Pairwise (· < ·)
  labelled : ∀ page ∈ link.log, page.Labelled env
  sent : ∀ p ∈ payloadsOf history,
    (∃ page ∈ link.sent, p ∈ page.payloads) ∨ ∃ frame, p = .frame frame

variable {env : Env} {store : TimeSeriesStore} {t : Tick} {a : SocketAddr}

/-- Taking the acknowledged page off the queue. -/
theorem Carries.completeFront {history : List Act} {link : Link Page}
    (h : Carries env history link) {st : SubscriberState} (hq : st.queue = link.queue) {ack : ℕ}
    (hack : ack = 0 ∨ ∃ page ∈ link.seen, page.sequence = ack) :
    ∃ link', Carries env history link' ∧ link'.seen = link.seen ∧ link'.log = link.log ∧
      link'.queue = (st.completeFront ack).queue := by
  rcases SubscriberState.completeFront_queue st ack with ⟨hsame, -⟩ | ⟨front, hfront, hle⟩
  · exact ⟨link, h, rfl, rfl, by rw [hsame, hq]⟩
  · rw [hq] at hfront
    have hmem : front ∈ link.log := by
      unfold Link.log
      rw [hfront]
      simp
    have hseen : front ∈ link.seen := by
      have hpos := (h.labelled front hmem).pos
      rcases hack with rfl | ⟨page, hpage, hpack⟩
      · omega
      · exact h.sound.seen_of_le h.increasing hmem hpage (by omega)
    refine ⟨link.confirm front _, ?_, rfl, Link.log_confirm hfront, rfl⟩
    refine ⟨h.sound.confirm hfront hseen, ?_, ?_, ?_, h.sent⟩
    · rw [Link.log_confirm hfront]
      exact h.log
    · rw [Link.log_confirm hfront]
      exact h.increasing
    · rw [Link.log_confirm hfront]
      exact h.labelled

/-- Putting new pages into the queue. -/
theorem Carries.offer {history : List Act} {link : Link Page} (h : Carries env history link)
    {r : Refill} {next : ℕ} (hmax : ∀ page ∈ link.log, page.sequence ≤ next) :
    Carries env (history ++ (r.pages env next).map Act.queue)
      (link.offer (r.pages env next)) := by
  refine ⟨h.sound.offer _, ?_, ?_, ?_, ?_⟩
  · rw [Link.log_offer, h.log, pagesOf_append, pagesOf_queue]
  · rw [Link.log_offer, List.map_append, List.pairwise_append, SubscriberState.sequences_pages]
    refine ⟨h.increasing, List.pairwise_lt_range', fun x hx y hy => ?_⟩
    obtain ⟨page, hpage, rfl⟩ := List.mem_map.mp hx
    have hle := hmax page hpage
    have hlt := (List.mem_range'_1.mp hy).1
    omega
  · intro page hpage
    rw [Link.log_offer] at hpage
    rcases List.mem_append.mp hpage with hold | hnew
    · exact h.labelled page hold
    · exact labelled_of_mem_pages hnew
  · rw [payloadsOf_append, payloadsOf_queue, List.append_nil]
    exact h.sent

/-- Sending the page at the front, and frames. -/
theorem Carries.transmit {history : List Act} {link : Link Page} (h : Carries env history link)
    {sends : List Payload} (hsends : ∀ p ∈ sends,
      (∃ front ∈ link.queue.head?, p ∈ front.payloads) ∨ ∃ frame, p = .frame frame) :
    Carries env (history ++ sends.map Act.send) (link.transmit link.queue.head?.toList) := by
  refine ⟨h.sound.transmit fun x hx => by simpa using hx, ?_, h.increasing, h.labelled, ?_⟩
  · rw [pagesOf_append, pagesOf_send, List.append_nil]
    exact h.log
  · rw [payloadsOf_append, payloadsOf_send]
    intro p hp
    rcases List.mem_append.mp hp with hold | hnew
    · refine (h.sent p hold).imp_left fun hpage => ?_
      obtain ⟨page, hpage, hmem⟩ := hpage
      exact ⟨page, List.mem_append_left _ hpage, hmem⟩
    · refine (hsends p hnew).imp_left fun hfront => ?_
      obtain ⟨front, hfront, hmem⟩ := hfront
      exact ⟨front, List.mem_append_right _ (by simpa using hfront), hmem⟩

/-- **One turn of the publisher.** -/
theorem Carries.serve {history : List Act} {link : Link Page} (h : Carries env history link)
    {st : SubscriberState} (hq : st.queue = link.queue)
    (hmax : ∀ page ∈ link.log, page.sequence ≤ st.nextEventSequence) (frameSequence : ℕ)
    {s : Session}
    (hack : s.cursorEventAck = 0 ∨ ∃ page ∈ link.seen, page.sequence = s.cursorEventAck)
    (hseq : (st.completeFront s.cursorEventAck).SequencesFit store t) :
    ∃ link', Carries env (history ++ (st.serve env store t frameSequence s).acts) link' ∧
      link'.seen = link.seen ∧
      link'.queue = (st.advance env store t s.cursorEventAck).queue ∧
      ∀ page ∈ link'.log,
        page.sequence ≤ (st.advance env store t s.cursorEventAck).nextEventSequence := by
  obtain ⟨link₁, h₁, hseen₁, hlog₁, hq₁⟩ := h.completeFront hq hack
  have hadv := SubscriberState.advance_queue st env store t s.cursorEventAck
  -- the new pages
  obtain ⟨link₂, h₂, hseen₂, hq₂, hmax₂⟩ : ∃ link₂,
      Carries env (history ++ (st.newPages env store t s.cursorEventAck).map Act.queue) link₂ ∧
      link₂.seen = link.seen ∧ link₂.queue = (st.advance env store t s.cursorEventAck).queue ∧
      ∀ page ∈ link₂.log,
        page.sequence ≤ (st.advance env store t s.cursorEventAck).nextEventSequence := by
    rcases SubscriberState.newPages_cases env hseq with ⟨hnew, hnext⟩ |
      ⟨-, -, -, hnew, hnext⟩ | ⟨-, -, -, hnew, hnext⟩
    · refine ⟨link₁, ?_, hseen₁, ?_, fun page hpage => ?_⟩
      · rw [hnew, List.map_nil, List.append_nil]
        exact h₁
      · rw [hadv, hnew, List.append_nil, hq₁]
      · rw [hlog₁] at hpage
        exact (hmax page hpage).trans hnext.ge
    · refine ⟨link₁, ?_, hseen₁, ?_, fun page hpage => ?_⟩
      · rw [hnew, List.map_nil, List.append_nil]
        exact h₁
      · rw [hadv, hnew, List.append_nil, hq₁]
      · rw [hlog₁] at hpage
        exact (hmax page hpage).trans hnext
    · refine ⟨link₁.offer (st.newPages env store t s.cursorEventAck), ?_, hseen₁, ?_,
        fun page hpage => ?_⟩
      · rw [hnew]
        exact h₁.offer (by rw [hlog₁]; exact hmax)
      · rw [hadv, ← hq₁]
        rfl
      · rw [Link.log_offer, hlog₁, hnew] at hpage
        rcases List.mem_append.mp hpage with hold | hpage
        · exact (hmax page hold).trans (by omega)
        · have hmem := List.mem_map_of_mem (f := Page.sequence) hpage
          rw [SubscriberState.sequences_pages] at hmem
          have hlt := (List.mem_range'_1.mp hmem).2
          omega
  -- what is sent
  obtain ⟨sends, hacts, hsends, -⟩ := serve_spec st env store t frameSequence s
  refine ⟨link₂.transmit link₂.queue.head?.toList, ?_, hseen₂, hq₂, hmax₂⟩
  rw [hacts, ← List.append_assoc]
  refine h₂.transmit fun p hp => ?_
  rw [hq₂]
  exact (hsends p hp).imp_right fun hframe => ⟨_, hframe⟩

/-! ## Publisher and client -/

/-- The publisher serves the client, and its queue is that of the link. -/
structure Serving (a : SocketAddr) (room : Room) (link : Link Page) : Prop where
  running : room.running
  session : ∃ s ∈ room.sessionAt a, isSubscribed s ∧
    (s.cursorEventAck = 0 ∨ ∃ page ∈ link.seen, page.sequence = s.cursorEventAck)
  queue : (room.stateAt a).queue = link.queue
  latest : ∀ page ∈ link.log, page.sequence ≤ (room.stateAt a).nextEventSequence

/-- The client will not be served any more. -/
def Over (a : SocketAddr) (room : Room) : Prop :=
  room.running = false ∨ room.sessionAt a = none

theorem not_over {room : Room} (hrun : room.running) {s : Session}
    (hs : room.sessionAt a = some s) : ¬Over a room := by
  rintro (hstop | hnone)
  · rw [hrun] at hstop
    cases hstop
  · rw [hs] at hnone
    cases hnone

/-- **Publisher and client are linked**: the pages the client has seen are those whose batches
`recv` has returned; what it has applied and acknowledged, and what the session knows of it, is
about these pages. -/
structure Linked (env : Env) (a : SocketAddr) (w : World) (link : Link Page) : Prop where
  carries : Carries env (w.room.historyAt a) link
  seen : link.seen.map Page.batch = w.batches
  acks : ∀ ack ∈ w.acks, ∃ page ∈ link.seen, page.sequence = ack.eventSequence
  applied : w.client.appliedEventSequence = 0 ∨
    ∃ page ∈ link.seen, page.sequence = w.client.appliedEventSequence
  epoch : link.seen ≠ [] → w.client.streamEpoch = env.epoch
  served : Serving a w.room link ∨ Over a w.room

variable {w : World} {link : Link Page}

/-- The client sees what it has seen, whatever the publisher does. -/
theorem Linked.of_room (h : Linked env a w link) {room : Room} {link' : Link Page}
    (hcarries : Carries env (room.historyAt a) link') (hseen : link'.seen = link.seen)
    (hserved : Serving a room link' ∨ Over a room) :
    Linked env a { w with room := room } link' where
  carries := hcarries
  seen := by rw [hseen]; exact h.seen
  acks := by rw [hseen]; exact h.acks
  applied := by rw [hseen]; exact h.applied
  epoch := by rw [hseen]; exact h.epoch
  served := hserved

/-- The turn of the client. -/
theorem Linked.turn (h : Linked env a w link) (hserving : Serving a w.room link) {s : Session}
    (hs : w.room.sessionAt a = some s) (hsub : isSubscribed s)
    (hok : w.NoWrap a (.tick store t)) :
    (s.cursorEventAck = 0 ∨ ∃ page ∈ link.seen, page.sequence = s.cursorEventAck) ∧
      ∃ link', Carries env (w.room.historyAt a ++ (w.room.serving env store t a s).acts) link' ∧
        link'.seen = link.seen ∧
        link'.queue = ((w.room.stateAt a).advance env store t s.cursorEventAck).queue ∧
        ∀ page ∈ link'.log, page.sequence ≤
          ((w.room.stateAt a).advance env store t s.cursorEventAck).nextEventSequence := by
  obtain ⟨s₀, hs₀, -, hack⟩ := hserving.session
  have hss : s₀ = s := Option.some.inj (hs₀.symm.trans hs)
  subst hss
  exact ⟨hack, h.carries.serve hserving.queue hserving.latest _ hack (hok s₀ hs hsub)⟩

/-- Where the client is served, it is served. -/
theorem Linked.serving (h : Linked env a w link) (hrun : w.room.running) {s : Session}
    (hs : w.room.sessionAt a = some s) : Serving a w.room link :=
  h.served.resolve_right (not_over hrun hs)

/-- The publisher has nothing for the client, and will not have anything. -/
def Dropped (a : SocketAddr) (room : Room) : Prop := room.stateAt a = {} ∧ Over a room

/-- What a tick has done for the client: nothing, or one turn. -/
def Ticked (env : Env) (store : TimeSeriesStore) (t : Tick) (a : SocketAddr) (room room' : Room)
    (link' : Link Page) : Prop :=
  (room'.historyAt a = room.historyAt a ∧ (room' = room ∨ Dropped a room')) ∨
    ¬Over a room ∧ ∃ s ∈ room.sessionAt a, isSubscribed s ∧
      room'.historyAt a = room.historyAt a ++ (room.serving env store t a s).acts ∧
      link'.queue = ((room.stateAt a).advance env store t s.cursorEventAck).queue ∧
      (Dropped a room' ∨ (room'.sessionAt a = some (Room.withEpoch env s) ∧
        ((room.stateAt a).advance env store t s.cursorEventAck).SameQueue (room'.stateAt a)))

/-- **A tick.** -/
theorem Linked.tick (h : Linked env a w link) (hok : w.NoWrap a (.tick store t)) :
    ∃ link', Linked env a (w.step env a (.tick store t)) link' ∧ link'.seen = link.seen ∧
      Ticked env store t a w.room (w.room.tick env store t) link' := by
  show ∃ link', Linked env a { w with room := w.room.tick env store t } link' ∧
    link'.seen = link.seen ∧ Ticked env store t a w.room (w.room.tick env store t) link'
  rcases Room.tick_at w.room env store t a with ⟨-, hsame⟩ | ⟨hrun, hsub, hs', hst', hhist⟩ |
    ⟨hhist, hend⟩ | ⟨s, hs, hsub, hrun, st', hout, hhist, hrun', hst', hs'⟩ |
    ⟨s, hs, hsub, hrun, hhist, hend⟩
  · rw [hsame]
    exact ⟨link, h, rfl, Or.inl ⟨rfl, Or.inl rfl⟩⟩
  · -- nobody at the address has subscribed: the client is not served
    have hover : Over a (w.room.tick env store t) := by
      refine Or.inr ?_
      rcases h.served with hserving | hstop | hnone
      · obtain ⟨s, hs, hsub', -⟩ := hserving.session
        rw [hsub s hs] at hsub'
        cases hsub'
      · rw [hrun] at hstop
        cases hstop
      · rw [hs', hnone]
    exact ⟨link, h.of_room (by rw [hhist]; exact h.carries) rfl (Or.inr hover), rfl,
      Or.inl ⟨hhist, Or.inr ⟨Room.stateAt_of_none hst', hover⟩⟩⟩
  · exact ⟨link, h.of_room (by rw [hhist]; exact h.carries) rfl (Or.inr hend.2), rfl,
      Or.inl ⟨hhist, Or.inr ⟨Room.stateAt_of_none hend.1, hend.2⟩⟩⟩
  · -- one turn
    obtain ⟨hack, link', hcarries, hseen, hqueue, hmax⟩ := h.turn (h.serving hrun hs) hs hsub hok
    rw [← hhist] at hcarries
    have hsame := serve_kept hout
    have hstate := Room.stateAt_of_some hst'
    refine ⟨link', h.of_room hcarries hseen (Or.inl ⟨hrun', ⟨_, hs', ?_, ?_⟩, ?_, ?_⟩), hseen,
      Or.inr ⟨not_over hrun hs, s, hs, hsub, hhist, hqueue,
        Or.inr ⟨hs', by rw [hstate]; exact hsame⟩⟩⟩
    · rw [(Room.isSubscribed_withEpoch env s).1]
      exact hsub
    · rw [(Room.isSubscribed_withEpoch env s).2, hseen]
      exact hack
    · rw [hstate, hsame.queue, hqueue]
    · rw [hstate, hsame.nextEventSequence]
      exact hmax
  · -- the last turn
    obtain ⟨-, link', hcarries, hseen, hqueue, -⟩ := h.turn (h.serving hrun hs) hs hsub hok
    rw [← hhist] at hcarries
    exact ⟨link', h.of_room hcarries hseen (Or.inr hend.2), hseen,
      Or.inr ⟨not_over hrun hs, s, hs, hsub, hhist, hqueue,
        Or.inl ⟨Room.stateAt_of_none hend.1, hend.2⟩⟩⟩

/-- An operation that spares `a` leaves the session there subscribed, if it leaves it. -/
theorem spares_apply {op : SessionOp} (h : spares a op) {sessions : SessionState} {s : Session}
    (hs : s ∈ (sessions.apply op).byAddr.lookup a) :
    ∃ s₀ ∈ sessions.byAddr.lookup a,
      (isSubscribed s₀ → isSubscribed s) ∧ s.cursorEventAck = s₀.cursorEventAck := by
  cases op with
  | setSession now addr uuid role =>
    have hne : a ≠ addr := fun heq => by simp [spares, heq] at h
    unfold SessionState.apply at hs
    rw [SessionState.lookup_setSession, if_neg hne] at hs
    split_ifs at hs
    · cases hs
    · exact ⟨s, hs, id, rfl⟩
  | acknowledgeCursorEvent addr epoch seq =>
    have hne : a ≠ addr := fun heq => by simp [spares, heq] at h
    unfold SessionState.apply at hs
    rw [SessionState.lookup_acknowledgeCursorEvent, if_neg hne] at hs
    exact ⟨s, hs, id, rfl⟩
  | subscribeCursor addr hz =>
    unfold SessionState.apply at hs
    rw [SessionState.lookup_subscribeCursor] at hs
    split_ifs at hs with ha
    · subst ha
      obtain ⟨s₀, hs₀, rfl⟩ := Option.map_eq_some_iff.mp hs
      refine ⟨s₀, hs₀, fun hsub => ?_, by split_ifs <;> rfl⟩
      split_ifs with hrole
      · simpa [isSubscribed] using hrole
      · exact hsub
    · exact ⟨s, hs, id, rfl⟩
  | touchAddr | setCursorEpoch | removeByAddr | cleanupExpired =>
    obtain ⟨s₀, hs₀, hsub, hack⟩ := quiet_apply rfl hs
    exact ⟨s₀, hs₀, fun h => hsub ▸ h, hack⟩

/-- A client that is not served will not be, whatever somebody else does. -/
theorem Over.session {room : Room} (h : Over a room) {op : SessionOp} (hop : spares a op) :
    Over a (room.step env (.session op)) := by
  rcases h with hstop | hnone
  · exact Or.inl hstop
  · refine Or.inr ?_
    rcases hs' : (room.sessions.apply op).byAddr.lookup a with _ | s'
    · exact hs'
    · obtain ⟨s₀, hs₀, -⟩ := spares_apply hop hs'
      unfold Room.sessionAt at hnone
      rw [hnone] at hs₀
      cases hs₀

/-- **An operation of somebody else.** -/
theorem Linked.session (h : Linked env a w link) {op : SessionOp} (hop : spares a op) :
    Linked env a { w with room := w.room.step env (.session op) } link := by
  refine h.of_room h.carries rfl ?_
  rcases h.served with hserving | hover
  · obtain ⟨s₀, hs₀, hsub, hack⟩ := hserving.session
    rcases hs' : (w.room.sessions.apply op).byAddr.lookup a with _ | s'
    · exact Or.inr (Or.inr hs')
    · obtain ⟨s₁, hs₁, hsub', hack'⟩ := spares_apply hop hs'
      have hss : s₁ = s₀ := Option.some.inj (hs₁.symm.trans hs₀)
      subst hss
      exact Or.inl ⟨hserving.running, ⟨s', hs', hsub' hsub, hack' ▸ hack⟩, hserving.queue,
        hserving.latest⟩
  · exact Or.inr (hover.session hop)

/-- An acknowledgement from the client leaves its session as it is, or counts one batch more. -/
theorem acknowledge_apply {room : Room} {ack : CursorEventAck} {s : Session}
    (hs : s ∈ (room.step env (.session
      (.acknowledgeCursorEvent a ack.serverEpoch ack.eventSequence))).sessionAt a) :
    ∃ s₀ ∈ room.sessionAt a, isSubscribed s = isSubscribed s₀ ∧
      (s.cursorEventAck = s₀.cursorEventAck ∨ (s.cursorEventAck = ack.eventSequence ∧
        ack.eventSequence = (s₀.cursorEventAck + 1) % u64Size)) := by
  change s ∈ (room.sessions.acknowledgeCursorEvent a ack.serverEpoch
    ack.eventSequence).1.byAddr.lookup a at hs
  rw [SessionState.lookup_acknowledgeCursorEvent, if_pos rfl] at hs
  obtain ⟨s₀, hs₀, rfl⟩ := Option.map_eq_some_iff.mp hs
  refine ⟨s₀, hs₀, ?_⟩
  split_ifs with hacc
  · unfold SessionState.acceptsAck at hacc
    simp only [Bool.and_eq_true, beq_iff_eq] at hacc
    exact ⟨rfl, Or.inr ⟨rfl, hacc.2⟩⟩
  · exact ⟨rfl, Or.inl rfl⟩

theorem Over.acknowledge {room : Room} (h : Over a room) (ack : CursorEventAck) :
    Over a (room.step env (.session
      (.acknowledgeCursorEvent a ack.serverEpoch ack.eventSequence))) := by
  rcases h with hstop | hnone
  · exact Or.inl hstop
  · refine Or.inr (Option.eq_none_iff_forall_not_mem.mpr fun s hs => ?_)
    obtain ⟨s₀, hs₀, -⟩ := acknowledge_apply hs
    rw [hnone] at hs₀
    cases hs₀

/-- **An acknowledgement arrives** at the server. -/
theorem Linked.acknowledge (h : Linked env a w link) {ack : CursorEventAck} (hack : ack ∈ w.acks) :
    let op := .acknowledgeCursorEvent a ack.serverEpoch ack.eventSequence
    Linked env a { w with room := w.room.step env (.session op) } link := by
  refine h.of_room h.carries rfl ?_
  rcases h.served with hserving | hover
  · rcases hs' : (w.room.step env (.session (.acknowledgeCursorEvent a ack.serverEpoch
        ack.eventSequence))).sessionAt a with _ | s'
    · exact Or.inr (Or.inr hs')
    · obtain ⟨s, hs, hsub, hcount⟩ := acknowledge_apply hs'
      obtain ⟨s₀, hs₀, hsub₀, hseen⟩ := hserving.session
      have hss : s₀ = s := Option.mem_unique hs₀ hs
      subst hss
      refine Or.inl ⟨hserving.running, ⟨s', hs', hsub ▸ hsub₀, ?_⟩, hserving.queue,
        hserving.latest⟩
      rcases hcount with hsame | ⟨hnew, -⟩
      · rw [hsame]
        exact hseen
      · rw [hnew]
        exact Or.inr (h.acks ack hack)
  · exact Or.inr (hover.acknowledge ack)

/-! ## The client -/

theorem batches_recv (w : World) (result : CursorClient × Option CursorClientEvent) :
    (w.recv result).batches =
      w.batches ++ (result.2.bind CursorClientEvent.batch?).toList := by
  unfold World.batches World.recv
  rw [List.filterMap_append]
  congr 1
  rcases result.2 with _ | event
  · rfl
  · rcases hbatch : event.batch? with _ | batch <;> simp [hbatch]

/-- The call returns no batch. -/
theorem batches_recv_of_none {w : World} {result : CursorClient × Option CursorClientEvent}
    (h : result.2.bind CursorClientEvent.batch? = none) : (w.recv result).batches = w.batches := by
  rw [batches_recv, h]
  exact List.append_nil _

/-- The client does something that concerns no batch. -/
theorem Linked.of_client (h : Linked env a w link) {w' : World} (hroom : w'.room = w.room)
    (hacks : w'.acks = w.acks) (hbatches : w'.batches = w.batches)
    (happlied : w'.client.appliedEventSequence = w.client.appliedEventSequence ∨
      w'.client.appliedEventSequence = 0)
    (hepoch : w'.client.streamEpoch = w.client.streamEpoch ∨
      w'.client.streamEpoch = env.epoch) : Linked env a w' link where
  carries := by rw [hroom]; exact h.carries
  seen := by rw [hbatches]; exact h.seen
  acks := by rw [hacks]; exact h.acks
  applied := by
    rcases happlied with happ | happ
    · rw [happ]
      exact h.applied
    · exact Or.inl happ
  epoch hne := by
    rcases hepoch with he | he
    · rw [he]
      exact h.epoch hne
    · exact he
  served := by rw [hroom]; exact h.served

/-- **The consumer calls** `recv`. -/
theorem Linked.call (h : Linked env a w link) :
    Linked env a (w.recv w.client.recvPendingFrame) link := by
  obtain ⟨happ, hepoch, -, -⟩ := w.client.recvPendingFrame_cases
  exact h.of_client rfl rfl (batches_recv_of_none w.client.recvPendingFrame_batch?)
    (Or.inl happ) (Or.inl hepoch)

theorem recvPayload_frame_batch? (client : CursorClient) (frame : CursorFrame) :
    (client.recvFrame frame).2.bind CursorClientEvent.batch? = none := by
  rcases client.recvPayload_batch? (.frame frame) with h | ⟨batch, h, -⟩
  · exact h
  · cases h

theorem recvPayload_reset_batch? (client : CursorClient) (reset : CursorReset) :
    (client.recvReset reset).2.bind CursorClientEvent.batch? = none := by
  rcases client.recvPayload_batch? (.reset reset) with h | ⟨batch, h, -⟩
  · exact h
  · cases h

/-- A frame arrives. -/
theorem Linked.recv_frame (h : Linked env a w link) (frame : CursorFrame) :
    Linked env a { w.recv (w.client.recvFrame frame) with acks := w.acks ++ [] } link := by
  obtain ⟨happ, hepoch, -, -⟩ := w.client.recvFrame_cases frame
  exact h.of_client rfl (List.append_nil _)
    (batches_recv_of_none (recvPayload_frame_batch? w.client frame)) (Or.inl happ) (Or.inl hepoch)

/-- A reset arrives. -/
theorem Linked.recv_reset (h : Linked env a w link) {reset : CursorReset}
    (hreset : reset.serverEpoch = env.serverEpoch) :
    Linked env a { w.recv (w.client.recvReset reset) with acks := w.acks ++ [] } link := by
  have hepoch := w.client.recvReset_epoch reset
  rw [hreset] at hepoch
  have happ : (w.client.recvReset reset).1.appliedEventSequence = w.client.appliedEventSequence ∨
      (w.client.recvReset reset).1.appliedEventSequence = 0 := by
    rcases w.client.recvReset_cases reset with hsame | ⟨-, happ, -⟩
    · rw [hsame]
      exact Or.inl rfl
    · exact Or.inr happ
  exact h.of_client rfl (List.append_nil _)
    (batches_recv_of_none (recvPayload_reset_batch? w.client reset)) happ (Or.inr hepoch)

theorem epochOf_serverEpoch (env : Env) : epochOf env.serverEpoch = env.epoch := rfl

/-- The session and the queue do not depend on what the client has seen last. -/
theorem Serving.receive {room : Room} (h : Serving a room link) (page : Page) :
    Serving a room (link.receive page) where
  running := h.running
  session := by
    obtain ⟨s, hs, hsub, hack⟩ := h.session
    refine ⟨s, hs, hsub, hack.imp_right fun hseen => ?_⟩
    obtain ⟨page', hpage', hseq⟩ := hseen
    exact ⟨page', List.mem_append_left _ hpage', hseq⟩
  queue := h.queue
  latest := h.latest

/-- A batch that is not returned has been seen. -/
theorem Linked.seen_of_kept (h : Linked env a w link) {page : Page} (hpage : page ∈ link.sent)
    (hle : page.batch.eventSequence ≤ (w.client.enter page.batch).appliedEventSequence) :
    page ∈ link.seen ∧ (w.client.enter page.batch).appliedEventSequence =
      w.client.appliedEventSequence := by
  have hlog := h.carries.sound.mem_log hpage
  have hlabel := h.carries.labelled page hlog
  have hpos := hlabel.pos
  rw [hlabel.sequence] at hle
  rcases w.client.enter_applied page.batch with happ | happ
  · rw [happ] at hle
    rcases h.applied with hzero | ⟨page', hpage', hseq⟩
    · omega
    · exact ⟨h.carries.sound.seen_of_le h.carries.increasing hlog hpage' (by omega), happ⟩
  · omega

/-- **A batch arrives**: it is returned, or it has been before. -/
theorem Linked.recv_batch (h : Linked env a w link) {page : Page} (hpage : page ∈ link.sent) :
    ∃ link', Linked env a { w.recv (w.client.recvBatch page.batch) with
        acks := w.acks ++ (Payload.eventBatch page.batch).ack.toList } link' ∧
      link'.log = link.log ∧ link.seen ⊆ link'.seen := by
  have hlabel := h.carries.labelled page (h.carries.sound.mem_log hpage)
  have hepoch : (w.client.recvBatch page.batch).1.streamEpoch = env.epoch := by
    rw [(w.client.recvBatch_kept page.batch).1, w.client.enter_epoch, hlabel.epoch,
      epochOf_serverEpoch]
  rcases w.client.recvBatch_cases page.batch with ⟨hret, happ⟩ | ⟨hret, hle, happ⟩
  · refine ⟨link.receive page, ⟨?_, ?_, ?_, ?_, fun _ => hepoch, ?_⟩, rfl,
      List.subset_append_left _ _⟩
    · exact ⟨h.carries.sound.receive hpage, h.carries.log, h.carries.increasing,
        h.carries.labelled, h.carries.sent⟩
    · show _ = (w.recv (w.client.recvBatch page.batch)).batches
      rw [batches_recv, hret, ← h.seen]
      simp [Link.receive, CursorClientEvent.batch?]
    · intro ack hack
      rcases List.mem_append.mp hack with hold | hnew
      · obtain ⟨page', hpage', hseq⟩ := h.acks ack hold
        exact ⟨page', List.mem_append_left _ hpage', hseq⟩
      · refine ⟨page, List.mem_append_right _ (by simp), ?_⟩
        simp only [Payload.ack, Option.toList_some, List.mem_singleton] at hnew
        rw [hnew, ← hlabel.sequence]
    · refine Or.inr ⟨page, List.mem_append_right _ (by simp), ?_⟩
      exact hlabel.sequence.symm.trans happ.symm
    · exact h.served.imp_left fun hserving => hserving.receive page
  · obtain ⟨hseen, hkept⟩ := h.seen_of_kept hpage hle
    refine ⟨link, ⟨h.carries, ?_, ?_, ?_, fun _ => hepoch, h.served⟩, rfl, List.Subset.refl _⟩
    · show _ = (w.recv (w.client.recvBatch page.batch)).batches
      rw [batches_recv_of_none (by rw [hret]; rfl), h.seen]
    · intro ack hack
      rcases List.mem_append.mp hack with hold | hnew
      · exact h.acks ack hold
      · refine ⟨page, hseen, ?_⟩
        simp only [Payload.ack, Option.toList_some, List.mem_singleton] at hnew
        rw [hnew, ← hlabel.sequence]
    · show (w.client.recvBatch page.batch).1.appliedEventSequence = 0 ∨
        ∃ page' ∈ link.seen,
          page'.sequence = (w.client.recvBatch page.batch).1.appliedEventSequence
      rw [happ, hkept]
      exact h.applied

theorem mem_payloads_of_arriving {i : ℕ} {payload : Payload}
    (h : w.arriving a i = some payload) : payload ∈ w.payloads a := by
  unfold World.arriving at h
  split_ifs at h
  exact List.mem_of_getElem? h

/-- **A payload arrives.** -/
theorem Linked.deliver (h : Linked env a w link) {payload : Payload}
    (hp : payload ∈ w.payloads a) :
    ∃ link', Linked env a { w.recv (w.client.recvPayload payload) with
        acks := w.acks ++ payload.ack.toList } link' ∧
      link'.log = link.log ∧ link.seen ⊆ link'.seen := by
  rcases h.carries.sent payload hp with ⟨page, hpage, hmem⟩ | ⟨frame, rfl⟩
  · unfold Page.payloads at hmem
    rcases List.mem_append.mp hmem with hreset | hbatch
    · simp only [Option.mem_toList, Option.map_eq_some_iff] at hreset
      obtain ⟨reset, hreset, rfl⟩ := hreset
      have hlabel := h.carries.labelled page (h.carries.sound.mem_log hpage)
      exact ⟨link, h.recv_reset (hlabel.reset reset hreset).1, rfl, List.Subset.refl _⟩
    · rw [List.mem_singleton.mp hbatch]
      exact h.recv_batch hpage
  · exact ⟨link, h.recv_frame frame, rfl, List.Subset.refl _⟩

/-- **Every event** keeps publisher and client linked. -/
theorem Linked.step (h : Linked env a w link) {event : WorldEvent} (hok : w.NoWrap a event) :
    ∃ link', Linked env a (w.step env a event) link' := by
  have hstep := w.stepped env a event
  generalize w.step env a event = w' at hstep ⊢
  cases hstep with
  | same => exact ⟨link, h⟩
  | tick store t =>
    obtain ⟨link', h', -, -⟩ := h.tick hok
    exact ⟨link', h'⟩
  | session op hop => exact ⟨link, h.session hop⟩
  | acknowledge i ack hack => exact ⟨link, h.acknowledge hack⟩
  | call => exact ⟨link, h.call⟩
  | deliver i payload hp =>
    obtain ⟨link', h', -, -⟩ := h.deliver (mem_payloads_of_arriving hp)
    exact ⟨link', h'⟩

/-- A client that has just subscribed is linked. -/
theorem World.Start.linked (h : w.Start a) : Linked env a w {} := by
  obtain ⟨s, hs, hsub, hack⟩ := h.session
  refine ⟨⟨Link.sound_empty, ?_, by simp [Link.log], by simp [Link.log], ?_⟩, ?_, ?_, ?_, ?_, ?_⟩
  · rw [h.history]
    rfl
  · rw [h.history]
    simp [payloadsOf]
  · unfold World.batches
    rw [h.returned]
    rfl
  · rw [h.acks]
    simp
  · rw [h.client]
    exact Or.inl rfl
  · simp
  · refine Or.inl ⟨h.running, ⟨s, hs, hsub, Or.inl hack⟩, ?_, by simp [Link.log]⟩
    rw [Room.stateAt_of_none h.state]
    rfl

/-- A room in which the client has subscribed from `a`. -/
def World.connected (a : SocketAddr) (now : Instant) (uuid : String) (hz : ℚ) : World where
  room := { sessions :=
    ((({} : SessionState).setSession now a uuid .cursorSubscriber).subscribeCursor a hz).1 }

theorem World.start_connected (a : SocketAddr) (now : Instant) (uuid : String) (hz : ℚ) :
    (World.connected a now uuid hz).Start a where
  session := by
    have hlookup : ((({} : SessionState).setSession now a uuid .cursorSubscriber).subscribeCursor a
        hz).1.byAddr.lookup a = some
          { clientUuidHex := uuid
            role := .cursorSubscriber
            cursorSubscribed := true
            cursorRequestedHz := hz
            lastSeenAt := now } := by
      rw [SessionState.lookup_subscribeCursor, if_pos rfl, SessionState.lookup_setSession,
        if_pos rfl]
      rfl
    exact ⟨_, hlookup, rfl, rfl⟩
  state := rfl
  history := rfl
  running := rfl
  client := rfl
  acks := rfl
  returned := rfl

end FlyRuler.Cursor
