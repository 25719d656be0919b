import FlyRuler.Cursor.Publisher
import FlyRuler.Cursor.Queue

/-!
# What an acknowledgement is worth

The session tables accept an acknowledgement if it is the next one after the last, under the epoch
of the session; they do not know what has been sent.  So a client can run ahead of the publisher.
The publisher takes only the page at the front of a queue off it, one in a tick, and the page at the
front has always been sent: it never completes a batch that it has not sent.

* `Accounted.serve`: after a turn the page at the front of the queue has been sent.
* `accounted_run`: so it is in every state of a run, whatever the clients acknowledge.
-/

namespace FlyRuler.Cursor

open FlyRuler.Pb FlyRuler.Store FlyRuler.Playback FlyRuler.Transport FlyRuler.Lib.Keyed
open FlyRuler.Lib.Run

/-! ## Sent pages -/

/-- The batch of the page has been sent since the page was last put into the queue. -/
def SentSinceQueued (acts : List Act) (page : Page) : Prop :=
  ∃ before after, acts = before ++ .queue page :: after ∧ .queue page ∉ after ∧
    .send (.eventBatch page.batch) ∈ after

theorem SentSinceQueued.append {acts : List Act} {page : Page} (h : SentSinceQueued acts page)
    (sends : List Payload) : SentSinceQueued (acts ++ sends.map Act.send) page := by
  obtain ⟨before, after, rfl, hlast, hsent⟩ := h
  refine ⟨before, after ++ sends.map Act.send, by simp, ?_, List.mem_append_left _ hsent⟩
  rw [List.mem_append, not_or]
  exact ⟨hlast, by simp⟩

/-- A page that has been queued and is now sent. -/
theorem sentSinceQueued_of_send {acts : List Act} {page : Page} (hq : .queue page ∈ acts)
    {sends : List Payload} (hsend : .eventBatch page.batch ∈ sends) :
    SentSinceQueued (acts ++ sends.map Act.send) page := by
  -- the last time that it was queued is the first time from the end
  obtain ⟨after, before, hsplit, hlast⟩ :=
    List.eq_append_cons_of_mem (List.mem_reverse.mpr hq)
  refine ⟨before.reverse, after.reverse ++ sends.map Act.send, ?_, ?_, ?_⟩
  · rw [← List.reverse_reverse acts, hsplit]
    simp
  · rw [List.mem_append, not_or]
    exact ⟨by simpa using hlast, by simp⟩
  · exact List.mem_append_right _ (List.mem_map_of_mem hsend)

/-- **The queue is accounted for**: its pages have been put into it, those counted as sent have been
sent since, and the one at the front has been. -/
structure Accounted (st : SubscriberState) (acts : List Act) : Prop where
  queued : ∀ p ∈ st.pending, .queue p.toPage ∈ acts
  sent : ∀ p ∈ st.pending, p.attempts ≠ 0 → SentSinceQueued acts p.toPage
  front : ∀ p ∈ st.pending.head?, p.attempts ≠ 0

theorem accounted_empty (acts : List Act) : Accounted {} acts where
  queued p hp := absurd hp List.not_mem_nil
  sent p hp := absurd hp List.not_mem_nil
  front p hp := absurd hp (by simp)

theorem Accounted.sent_front {st : SubscriberState} {acts : List Act} (h : Accounted st acts)
    {page : Page} (hpage : page ∈ st.queue.head?) : SentSinceQueued acts page := by
  unfold SubscriberState.queue at hpage
  rw [List.head?_map] at hpage
  obtain ⟨p, hp, rfl⟩ := Option.map_eq_some_iff.mp hpage
  exact h.sent p (List.mem_of_mem_head? hp) (h.front p hp)

/-! ## One turn -/

variable {env : Env} {store : TimeSeriesStore} {t : Tick} {st st' : SubscriberState} {ack : ℕ}

/-- New pages have not been sent. -/
theorem queuePages_attempts (env : Env) (r : Refill) : ∀ (n k : ℕ) (st : SubscriberState),
    (∀ p ∈ st.pending, p.attempts = 0) → ∀ p ∈ (r.queuePages env n k st).pending, p.attempts = 0
  | 0, _, _, h => h
  | n + 1, k, st, h => by
    unfold Refill.queuePages
    dsimp only
    split_ifs
    · refine queuePages_attempts env r n (k + 1) _ fun p hp => ?_
      rcases List.mem_append.mp hp with hold | hnew
      · exact h p hold
      · rw [List.mem_singleton.mp hnew]
    · exact fun p hp => absurd hp List.not_mem_nil

theorem completeFront_subset (st : SubscriberState) (ack : ℕ) :
    ∀ p ∈ (st.completeFront ack).pending, p ∈ st.pending := by
  intro p hp
  rcases completeFront_cases st ack with ⟨hsame, -⟩ | ⟨front, rest, hpending, -, hrest⟩
  · rwa [hsame] at hp
  · rw [hrest] at hp
    rw [hpending]
    exact List.mem_cons_of_mem _ hp

/-- After the queue part of a turn: what counts as sent was so before, and everything is queued. -/
theorem Accounted.advance {acts : List Act} (h : Accounted st acts) (env : Env)
    (store : TimeSeriesStore) (t : Tick) (ack : ℕ) :
    let acts' := acts ++ (st.newPages env store t ack).map Act.queue
    ∀ p ∈ (st.advance env store t ack).pending, .queue p.toPage ∈ acts' ∧
      (p.attempts ≠ 0 → SentSinceQueued acts' p.toPage) := by
  intro acts' p hp
  by_cases hempty : (st.completeFront ack).pending.isEmpty
  · have hnew : st.newPages env store t ack = (st.advance env store t ack).queue := by
      unfold SubscriberState.newPages
      rw [if_pos hempty]
    refine ⟨?_, fun hsent => absurd ?_ hsent⟩
    · refine List.mem_append_right _ (List.mem_map_of_mem ?_)
      rw [hnew]
      exact List.mem_map_of_mem hp
    · have hnil : (st.completeFront ack).pending = [] := List.isEmpty_iff.mp hempty
      unfold SubscriberState.advance SubscriberState.refill at hp
      rw [if_pos hempty] at hp
      dsimp only at hp
      split_ifs at hp
      · exact queuePages_attempts env _ _ _ _ (by rw [hnil]; simp) p hp
      · rw [hnil] at hp
        exact absurd hp List.not_mem_nil
  · have hsame : st.advance env store t ack = st.completeFront ack := by
      unfold SubscriberState.advance SubscriberState.refill
      rw [if_neg hempty]
    have hacts : acts' = acts := by
      unfold acts' SubscriberState.newPages
      rw [if_neg hempty, List.map_nil, List.append_nil]
    rw [hsame] at hp
    have hold := completeFront_subset st ack p hp
    rw [hacts]
    exact ⟨h.queued p hold, h.sent p hold⟩

/-- **What a transmission does to the queue**: the page at the front counts as sent, and if it did
not before, it is. -/
theorem retryFront_pending {now : Instant} {payloads : List Payload}
    (h : st.retryFront env now = some (st', payloads)) :
    (st.pending = [] ∧ st'.pending = []) ∨
      ∃ front rest front', st.pending = front :: rest ∧ st'.pending = front' :: rest ∧
        front'.toPage = front.toPage ∧ front'.attempts ≠ 0 ∧
        (front.attempts = 0 → .eventBatch front.batch ∈ payloads) := by
  unfold SubscriberState.retryFront at h
  split at h
  · next hp =>
    obtain ⟨rfl, -⟩ := Prod.mk.inj (Option.some.inj h)
    exact .inl ⟨hp, hp⟩
  · next front rest hp =>
    right
    split_ifs at h with hdue
    · obtain ⟨rfl, rfl⟩ := Prod.mk.inj (Option.some.inj h)
      refine ⟨front, rest, _, hp, rfl, rfl, by simp, fun _ => ?_⟩
      unfold Page.payloads
      simp
    · obtain ⟨rfl, -⟩ := Prod.mk.inj (Option.some.inj h)
      rw [not_or] at hdue
      exact ⟨front, rest, front, hp, hp, rfl, hdue.1, fun hzero => absurd hzero hdue.1⟩

/-- A turn after which the subscriber is kept. -/
theorem serve_eq_of_kept {frameSequence : ℕ} {session : Session}
    (h : (st.serve env store t frameSequence session).outcome = .kept st') :
    ∃ st₁ batches frames,
      (st.advance env store t session.cursorEventAck).retryFront env t.now = some (st₁, batches) ∧
      st'.pending = st₁.pending ∧ (st.serve env store t frameSequence session).acts =
        (st.newPages env store t session.cursorEventAck).map Act.queue ++
          (batches ++ frames).map Act.send := by
  unfold SubscriberState.serve at h ⊢
  dsimp only at h ⊢
  split at h
  · cases h
  · next st₁ batches hretry =>
    rw [hretry]
    split at h
    · cases h
    · next interval hinterval =>
      obtain rfl := Outcome.kept.inj h
      refine ⟨st₁, batches, _, rfl, ?_, by rw [List.map_append, ← List.append_assoc]⟩
      unfold SubscriberState.sendFrame
      dsimp only
      split_ifs <;> rfl

/-- **A turn keeps the queue accounted for.** -/
theorem Accounted.serve {acts : List Act} (h : Accounted st acts) {frameSequence : ℕ}
    {session : Session} (hkept : (st.serve env store t frameSequence session).outcome = .kept st') :
    Accounted st' (acts ++ (st.serve env store t frameSequence session).acts) := by
  obtain ⟨st₁, batches, frames, hretry, hpending, hacts⟩ := serve_eq_of_kept hkept
  have hadv := h.advance env store t session.cursorEventAck
  rw [hacts, ← List.append_assoc]
  generalize acts ++ (st.newPages env store t session.cursorEventAck).map Act.queue = acts'
    at hadv ⊢
  have hqueued : ∀ page, .queue page ∈ acts' →
      .queue page ∈ acts' ++ (batches ++ frames).map Act.send :=
    fun page hpage => List.mem_append_left _ hpage
  rcases retryFront_pending hretry with ⟨-, hnil⟩ |
    ⟨front, rest, front', hadvanced, hsent, hsame, hattempts, hnew⟩
  · rw [hnil] at hpending
    refine ⟨fun p hp => ?_, fun p hp => ?_, fun p hp => ?_⟩ <;> rw [hpending] at hp <;> simp at hp
  · rw [hsent] at hpending
    have hfront := hadv front (by rw [hadvanced]; exact List.mem_cons_self)
    have hrest : ∀ p ∈ rest, _ := fun p hp =>
      hadv p (by rw [hadvanced]; exact List.mem_cons_of_mem _ hp)
    refine ⟨fun p hp => ?_, fun p hp hne => ?_, fun p hp => ?_⟩ <;> rw [hpending] at hp
    · rcases List.mem_cons.mp hp with rfl | hp
      · rw [hsame]
        exact hqueued _ hfront.1
      · exact hqueued _ (hrest p hp).1
    · rcases List.mem_cons.mp hp with rfl | hp
      · rw [hsame]
        by_cases hzero : front.attempts = 0
        · exact sentSinceQueued_of_send hfront.1 (List.mem_append_left _ (hnew hzero))
        · exact (hfront.2 hzero).append _
      · exact ((hrest p hp).2 hne).append _
    · rw [List.head?_cons, Option.mem_some_iff] at hp
      rw [← hp]
      exact hattempts

/-! ## One event -/

namespace Room

variable {room : Room} {a : SocketAddr}

/-- **An acknowledgement never exceeds what has been sent.** -/
def AckSent (room : Room) (a : SocketAddr) : Prop :=
  ∀ s ∈ room.sessionAt a, s.cursorEventAck = 0 ∨
    ∃ batch, .eventBatch batch ∈ payloadsOf (room.historyAt a) ∧
      s.cursorEventAck ≤ batch.eventSequence

/-- The event is a handshake from `a`. -/
def IsHandshake (a : SocketAddr) (event : RoomEvent) : Prop :=
  ∃ now uuid role, event = .session (.setSession now a uuid role)

/-- **The counter of acknowledgements goes up one by one**: a handshake sets it to 0, and every
other event leaves it as it was or moves it to the next number, which the session then acknowledges
under its epoch. -/
def AckInOrder (env : Env) (a : SocketAddr) (room : Room) (event : RoomEvent) : Prop :=
  ∀ s' ∈ (room.step env event).sessionAt a,
    (IsHandshake a event → s'.cursorEventAck = 0) ∧
    (¬IsHandshake a event → ∃ s ∈ room.sessionAt a,
      s'.cursorEventAck = s.cursorEventAck ∨
        s'.cursorEventAck = (s.cursorEventAck + 1) % u64Size ∧ isSubscribed s ∧
        event = .session (.acknowledgeCursorEvent a (some ⟨s.cursorEpoch⟩) s'.cursorEventAck))

/-- **Only sent batches are completed**: a page that the turn of a tick takes off the queue has been
sent since it was put there. -/
def CompletesSent (a : SocketAddr) (room : Room) (event : RoomEvent) : Prop :=
  ∀ store t, event = .tick store t → ∀ s ∈ room.sessionAt a, isSubscribed s →
    ∀ page, (room.stateAt a).queue =
        page :: ((room.stateAt a).completeFront s.cursorEventAck).queue →
      SentSinceQueued (room.historyAt a) page

/-- An acknowledgement from `a` is for a batch that has been sent there. -/
def HonestAt (a : SocketAddr) (room : Room) : RoomEvent → Prop
  | .session (.acknowledgeCursorEvent addr _ sequence) => addr = a →
      ∃ batch, .eventBatch batch ∈ payloadsOf (room.historyAt a) ∧ batch.eventSequence = sequence
  | _ => True

/-- A turn leaves the counters of all sessions as they are. -/
theorem ack_serveAt (env : Env) (store : TimeSeriesStore) (t : Tick) (e : SocketAddr × Session) :
    ∀ s' ∈ (room.serveAt env store t e).sessionAt a, ∃ s ∈ room.sessionAt a,
      s'.cursorEventAck = s.cursorEventAck := by
  intro s' hs'
  have hepoch : ∀ s₁ ∈ (room.sessions.setCursorEpoch e.1 env.epoch).byAddr.lookup a,
      ∃ s ∈ room.sessionAt a, s₁.cursorEventAck = s.cursorEventAck := fun s₁ hs₁ => by
    obtain ⟨s, hs, -, hack⟩ := quiet_apply
      (show isQuiet (.setCursorEpoch e.1 env.epoch) from rfl) hs₁
    exact ⟨s, hs, hack⟩
  unfold serveAt serveBy turned at hs'
  split_ifs at hs' with hrun
  · dsimp only at hs'
    split at hs'
    · exact hepoch s' hs'
    · obtain ⟨s₁, hs₁, -, hack⟩ := quiet_apply
        (show isQuiet (.removeByAddr e.1) from rfl) hs'
      obtain ⟨s, hs, hack'⟩ := hepoch s₁ hs₁
      exact ⟨s, hs, hack.trans hack'⟩
    · exact hepoch s' hs'
  · exact ⟨s', hs', rfl⟩

theorem ack_foldl (env : Env) (store : TimeSeriesStore) (t : Tick) :
    ∀ (l : List (SocketAddr × Session)) (room : Room),
      ∀ s' ∈ (l.foldl (serveAt env store t) room).sessionAt a, ∃ s ∈ room.sessionAt a,
        s'.cursorEventAck = s.cursorEventAck
  | [], room, s', hs' => ⟨s', hs', rfl⟩
  | e :: l, room, s', hs' => by
    obtain ⟨s₁, hs₁, hack₁⟩ := ack_foldl env store t l (room.serveAt env store t e) s' hs'
    obtain ⟨s, hs, hack⟩ := ack_serveAt env store t e s₁ hs₁
    exact ⟨s, hs, hack₁.trans hack⟩

/-- **So does a tick.** -/
theorem ack_tick (env : Env) (store : TimeSeriesStore) (t : Tick) :
    ∀ s' ∈ (room.tick env store t).sessionAt a, ∃ s ∈ room.sessionAt a,
      s'.cursorEventAck = s.cursorEventAck := by
  intro s' hs'
  unfold tick at hs'
  split_ifs at hs' with hrun
  · obtain ⟨s, hs, hack⟩ := ack_foldl env store t _ _ s' hs'
    rw [sessionAt_beginTick] at hs
    split_ifs at hs
    · cases hs
    · exact ⟨s, hs, hack⟩
  · exact ⟨s', hs', rfl⟩

theorem history_tick (env : Env) (store : TimeSeriesStore) (t : Tick) :
    room.historyAt a <+: (room.tick env store t).historyAt a := by
  rcases tick_at room env store t a with ⟨-, hsame⟩ | ⟨-, -, -, -, hhist⟩ | ⟨hhist, -⟩ |
    ⟨s, -, -, -, st', -, hhist, -, -, -⟩ | ⟨s, -, -, -, hhist, -⟩
  · exact hsame.symm ▸ List.prefix_refl (room.historyAt a)
  · exact hhist.symm ▸ List.prefix_refl (room.historyAt a)
  · exact hhist.symm ▸ List.prefix_refl (room.historyAt a)
  · exact hhist.symm ▸ List.prefix_append _ _
  · exact hhist.symm ▸ List.prefix_append _ _

/-- A handshake sets the counter to 0. -/
theorem ack_handshake {event : RoomEvent} (h : IsHandshake a event) {s' : Session}
    (hs' : s' ∈ (room.step env event).sessionAt a) : s'.cursorEventAck = 0 := by
  obtain ⟨now, uuid, role, rfl⟩ := h
  change s' ∈ (room.sessions.setSession now a uuid role).byAddr.lookup a at hs'
  rw [SessionState.lookup_setSession, if_pos rfl] at hs'
  cases hs'
  rfl

/-- Every other event leaves the counter or moves it to the next number. -/
theorem ack_next {event : RoomEvent} (h : ¬IsHandshake a event) {s' : Session}
    (hs' : s' ∈ (room.step env event).sessionAt a) :
    ∃ s ∈ room.sessionAt a, s'.cursorEventAck = s.cursorEventAck ∨
      s'.cursorEventAck = (s.cursorEventAck + 1) % u64Size ∧ isSubscribed s ∧
      event = .session (.acknowledgeCursorEvent a (some ⟨s.cursorEpoch⟩) s'.cursorEventAck) := by
  cases event with
  | tick store t =>
    obtain ⟨s, hs, hack⟩ := ack_tick env store t s' hs'
    exact ⟨s, hs, .inl hack⟩
  | session op =>
    cases op with
    | setSession now addr uuid role =>
      change s' ∈ (room.sessions.setSession now addr uuid role).byAddr.lookup a at hs'
      rw [SessionState.lookup_setSession] at hs'
      split_ifs at hs' with ha
      · exact absurd ⟨now, uuid, role, by rw [ha]⟩ h
      · cases hs'
      · exact ⟨s', hs', .inl rfl⟩
    | subscribeCursor addr hz =>
      change s' ∈ (room.sessions.subscribeCursor addr hz).1.byAddr.lookup a at hs'
      rw [SessionState.lookup_subscribeCursor] at hs'
      split_ifs at hs' with ha
      · subst ha
        obtain ⟨s, hs, rfl⟩ := Option.map_eq_some_iff.mp hs'
        exact ⟨s, hs, .inl (by split_ifs <;> rfl)⟩
      · exact ⟨s', hs', .inl rfl⟩
    | acknowledgeCursorEvent addr epoch seq =>
      change s' ∈ (room.sessions.acknowledgeCursorEvent addr epoch seq).1.byAddr.lookup a at hs'
      rw [SessionState.lookup_acknowledgeCursorEvent] at hs'
      split_ifs at hs' with ha
      · subst ha
        obtain ⟨s, hs, rfl⟩ := Option.map_eq_some_iff.mp hs'
        refine ⟨s, hs, ?_⟩
        split_ifs with hacc
        · unfold SessionState.acceptsAck at hacc
          simp only [Bool.and_eq_true, beq_iff_eq, Option.any_eq_true] at hacc
          obtain ⟨⟨⟨hrole, hsub⟩, ⟨value⟩, rfl, rfl⟩, hseq⟩ := hacc
          exact .inr ⟨hseq, by simp [isSubscribed, hrole, hsub], rfl⟩
        · exact .inl rfl
      · exact ⟨s', hs', .inl rfl⟩
    | touchAddr | setCursorEpoch | removeByAddr | cleanupExpired =>
      obtain ⟨s, hs, -, hack⟩ := quiet_apply rfl hs'
      exact ⟨s, hs, .inl hack⟩

/-- **Every event moves the counter of acknowledgements in order.** -/
theorem ackInOrder (env : Env) (a : SocketAddr) (room : Room) (event : RoomEvent) :
    room.AckInOrder env a event := fun _ hs' =>
  ⟨fun h => ack_handshake h hs', fun h => ack_next h hs'⟩

/-- An honest event keeps the acknowledgement below what has been sent. -/
theorem AckSent.step (h : room.AckSent a) {event : RoomEvent} (hhonest : room.HonestAt a event) :
    (room.step env event).AckSent a := by
  have hgrows : room.historyAt a <+: (room.step env event).historyAt a := by
    cases event with
    | session op => exact List.prefix_refl _
    | tick store t => exact history_tick env store t
  obtain ⟨acts, hacts⟩ := hgrows
  have hsent : ∀ batch, .eventBatch batch ∈ payloadsOf (room.historyAt a) →
      .eventBatch batch ∈ payloadsOf ((room.step env event).historyAt a) := fun batch hbatch => by
    rw [← hacts, payloadsOf_append]
    exact List.mem_append_left _ hbatch
  intro s' hs'
  by_cases hshake : IsHandshake a event
  · exact .inl (ack_handshake hshake hs')
  obtain ⟨s, hs, hsame | ⟨-, -, rfl⟩⟩ := ack_next hshake hs'
  · rw [hsame]
    refine (h s hs).imp_right fun hbound => ?_
    obtain ⟨batch, hbatch, hle⟩ := hbound
    exact ⟨batch, hsent batch hbatch, hle⟩
  · obtain ⟨batch, hbatch, hseq⟩ := hhonest rfl
    exact .inr ⟨batch, hsent batch hbatch, hseq.ge⟩

/-- **Every event keeps the queue accounted for.** -/
theorem accounted_step (h : Accounted (room.stateAt a) (room.historyAt a)) (event : RoomEvent) :
    Accounted ((room.step env event).stateAt a) ((room.step env event).historyAt a) := by
  cases event with
  | session op => exact h
  | tick store t =>
    have hnone : ∀ room' : Room, room'.states.lookup a = none →
        Accounted (room'.stateAt a) (room'.historyAt a) := fun room' hstate => by
      rw [stateAt_of_none hstate]
      exact accounted_empty _
    show Accounted ((room.tick env store t).stateAt a) ((room.tick env store t).historyAt a)
    rcases tick_at room env store t a with ⟨-, hsame⟩ | ⟨-, -, -, hstate, -⟩ | ⟨-, hend⟩ |
      ⟨s, -, -, -, st', hkept, hhist, -, hstate, -⟩ | ⟨s, -, -, -, -, hend⟩
    · rw [hsame]
      exact h
    · exact hnone _ hstate
    · exact hnone _ hend.1
    · rw [stateAt_of_some hstate, hhist]
      exact h.serve hkept
    · exact hnone _ hend.1

/-! ## Whole runs -/

/-- **In every state of a run the queue is accounted for**, whatever the clients acknowledge. -/
theorem accounted_run (env : Env) (a : SocketAddr) (events : List RoomEvent) :
    Accounted ((events.foldl (Room.step env) {} : Room).stateAt a)
      ((events.foldl (Room.step env) {} : Room).historyAt a) := by
  induction events using List.reverseRecOn with
  | nil => exact accounted_empty _
  | append_singleton events event ih =>
    rw [List.foldl_concat]
    exact accounted_step ih event

/-- **What an acknowledgement is worth**, in every run: the counter of a session goes up one by one
under the epoch of the session, and only batches that have been sent are completed, whatever the
clients acknowledge; and where they acknowledge nothing else than what has been sent, the counter
never exceeds that. -/
theorem acknowledged_run (env : Env) (a : SocketAddr) (events : List RoomEvent) :
    (∀ pre event, pre ++ [event] <+: events →
      (pre.foldl (Room.step env) {} : Room).AckInOrder env a event ∧
        (pre.foldl (Room.step env) {} : Room).CompletesSent a event) ∧
      (Meets (Room.step env) (HonestAt a) {} events →
        ∀ pre, pre <+: events → (pre.foldl (Room.step env) {} : Room).AckSent a) := by
  refine ⟨fun pre event _ => ⟨ackInOrder env a _ event, ?_⟩, fun hhonest pre hpre => ?_⟩
  · intro store t _ s _ _ page hpage
    refine (accounted_run env a pre).sent_front ?_
    rw [hpage]
    rfl
  · exact hhonest.inv_prefix (I := fun room => room.AckSent a) (fun _ _ h hok => h.step hok)
      (fun s hs => by cases hs) hpre

/-- A client receives the first batch and acknowledges three. -/
def ackAheadRun : List RoomEvent :=
  [.session (.setSession 0 1 "u" .cursorSubscriber), .session (.subscribeCursor 1 30),
    .tick {} ⟨emptySnapshot 0, 0, 0, .plain⟩,
    .session (.acknowledgeCursorEvent 1 Env.small.serverEpoch 1),
    .session (.acknowledgeCursorEvent 1 Env.small.serverEpoch 2),
    .session (.acknowledgeCursorEvent 1 Env.small.serverEpoch 3)]

/-- The number of a batch. -/
def batchNumber : Payload → Option ℕ
  | .eventBatch batch => some batch.eventSequence
  | _ => none

/-- **A client that runs ahead**: all three acknowledgements are accepted. -/
theorem not_ackSent_ackAhead : ¬(ackAheadRun.foldl (Room.step Env.small) {} : Room).AckSent 1 := by
  intro h
  have hsession : ∃ s ∈ (ackAheadRun.foldl (Room.step Env.small) {} : Room).sessionAt 1,
      s.cursorEventAck = 3 := by decide +kernel
  have hsent : ∀ n ∈ (payloadsOf ((ackAheadRun.foldl (Room.step Env.small) {} : Room).historyAt
      1)).filterMap batchNumber, n = 1 := by decide +kernel
  obtain ⟨s, hs, hack⟩ := hsession
  rcases h s hs with hzero | ⟨batch, hbatch, hle⟩
  · omega
  · have hone : batch.eventSequence = 1 :=
      hsent _ (List.mem_filterMap.mpr ⟨_, hbatch, rfl⟩)
    omega

end Room

end FlyRuler.Cursor
