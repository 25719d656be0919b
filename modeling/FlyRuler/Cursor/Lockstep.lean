import FlyRuler.Cursor.Publisher
import FlyRuler.Cursor.Queue

/-!
# When the queue and the acknowledgement go in step

The publisher counts the batches of an address in `SubscriberState`, the server counts their
acknowledgements in the session.  A handshake sets the second counter back and leaves the first, a
refill with a page that is too large moves the first and leaves the second, and an acknowledgement
from an earlier subscription can move the second past the first.  Apart from that the batch at the
front of the queue is the last one acknowledged or the next (`InLockstep`).

* `Aligned.advance`, `LockstepInv.step`: what one turn and one event preserve.
* `lockstep_run`: the two counters are in step in every run whose events are `CountersAgree`.
-/

namespace FlyRuler.Cursor

open FlyRuler.Pb FlyRuler.Store FlyRuler.Playback FlyRuler.Transport FlyRuler.Lib.Keyed
open FlyRuler.Lib.Run

/-! ## The two counters -/

/-- The last acknowledgement is that of the batch at the front, or of the one before it. -/
def SubscriberState.Aligned (st : SubscriberState) (ack : ℕ) : Prop :=
  ack = st.frontSequence ∨ ack + 1 = st.frontSequence

/-- The server has accepted the acknowledgement of the batch at the front, or will. -/
def SubscriberState.FrontAccepted (st : SubscriberState) (s : Session) : Prop :=
  st.frontSequence < u64Size → s.cursorEventAck = st.frontSequence ∨
    SessionState.acceptsAck (some ⟨s.cursorEpoch⟩) st.frontSequence s

namespace Room

/-- **A queue with batches in it is in step with the session**: its sequences are consecutive, they
end at the last one handed out, the first is the one acknowledged last or the next, and its
acknowledgement is one that the server accepts. -/
def InLockstep (room : Room) (a : SocketAddr) : Prop :=
  ∀ s ∈ room.sessionAt a, isSubscribed s → (room.stateAt a).queue ≠ [] →
    (room.stateAt a).Contiguous ∧ (room.stateAt a).Aligned s.cursorEventAck ∧
      (room.stateAt a).FrontAccepted s

/-- The event does not pull the two counters at `a` apart: no session subscribes anew in front of a
queue that has moved on, no acknowledgement of a batch behind the front of the queue is accepted,
and no page of a refill is too large.  Neither counter wraps around. -/
def CountersAgree (env : Env) (a : SocketAddr) (room : Room) : RoomEvent → Prop
  | .session (.subscribeCursor addr _) => addr = a → ∀ s ∈ room.sessionAt a,
      s.role = .cursorSubscriber → s.cursorSubscribed = false → (room.stateAt a).frontSequence ≤ 1
  | .session (.acknowledgeCursorEvent addr epoch sequence) => addr = a →
      ∀ s ∈ room.sessionAt a, SessionState.acceptsAck epoch sequence s →
        s.cursorEventAck < sequence ∧ sequence ≤ (room.stateAt a).frontSequence
  | .session _ => True
  | .tick store t => ∀ s ∈ room.sessionAt a, isSubscribed s →
      let st := (room.stateAt a).completeFront s.cursorEventAck
      st.SequencesFit store t ∧ (st.pending = [] → (st.refillOf store t).hasPages →
        (st.refillOf store t).Fits env st.nextEventSequence)

instance (room : Room) (a : SocketAddr) : Decidable (room.InLockstep a) := by
  unfold InLockstep SubscriberState.Contiguous SubscriberState.Aligned
    SubscriberState.FrontAccepted
  infer_instance

instance (env : Env) (a : SocketAddr) (room : Room) : (event : RoomEvent) →
    Decidable (room.CountersAgree env a event)
  | .session (.touchAddr ..) | .session (.setSession ..) | .session (.setCursorEpoch ..)
  | .session (.removeByAddr ..) | .session (.cleanupExpired ..) => isTrue trivial
  | .session (.subscribeCursor ..) | .session (.acknowledgeCursorEvent ..) | .tick .. => by
    unfold CountersAgree; infer_instance

end Room

/-! ## One turn -/

variable {env : Env} {store : TimeSeriesStore} {t : Tick} {st st' : SubscriberState} {ack : ℕ}

namespace SubscriberState

theorem Contiguous.frontSequence_pos (h : st.Contiguous) : 1 ≤ st.frontSequence := by
  have hlen := h.1
  rw [h.frontSequence_eq]
  omega

/-- Taking the acknowledged page off the queue keeps the counters aligned. -/
theorem Aligned.completeFront (hcont : st.Contiguous) (h : st.Aligned ack) :
    (st.completeFront ack).Aligned ack := by
  unfold Aligned at h ⊢
  rw [hcont.frontSequence_eq] at h
  rw [(hcont.completeFront ack).frontSequence_eq, completeFront_next]
  have hlen := hcont.1
  rcases completeFront_queue st ack with ⟨hq, -⟩ | ⟨front, hq, hack⟩
  · rw [hq]
    exact h
  · have hfront : front.sequence = st.nextEventSequence + 1 - st.queue.length := by
      have hseq := hcont.frontSequence_eq
      unfold frontSequence at hseq
      rw [hq] at hseq ⊢
      simpa using hseq
    rw [hq, List.length_cons] at h hfront hlen
    omega

/-- **A turn whose refill fits keeps the counters aligned.** -/
theorem Aligned.advance (hcont : st.Contiguous) (h : st.Aligned ack)
    (hseq : (st.completeFront ack).SequencesFit store t)
    (hfits : (st.completeFront ack).pending = [] →
      ((st.completeFront ack).refillOf store t).hasPages →
        ((st.completeFront ack).refillOf store t).Fits env st.nextEventSequence) :
    (st.advance env store t ack).Aligned ack := by
  have hfront := h.completeFront hcont
  unfold Aligned at hfront ⊢
  rw [(hcont.completeFront ack).frontSequence_eq, completeFront_next] at hfront
  rw [(hcont.advance env hseq).frontSequence_eq, advance_queue]
  rcases newPages_cases env hseq with ⟨hnew, hnext⟩ | ⟨hp, hpages, hnot, -⟩ |
    ⟨hp, -, -, hnew, hnext⟩
  · rw [hnew, hnext, List.append_nil]
    exact hfront
  · exact absurd (hfits hp hpages) hnot
  · rw [queue_eq_nil.mpr hp] at hfront ⊢
    rw [hnew, hnext, List.nil_append, length_pages]
    simp only [List.length_nil, Nat.sub_zero] at hfront
    omega

theorem Aligned.of_sameQueue (h : st.Aligned ack) (hsame : st.SameQueue st') : st'.Aligned ack := by
  unfold Aligned frontSequence at h ⊢
  rw [hsame.queue, hsame.nextEventSequence]
  exact h

/-- The next acknowledgement that the server waits for is that of the batch at the front. -/
theorem Aligned.frontAccepted {s : Session} (h : st.Aligned s.cursorEventAck)
    (hsub : isSubscribed s) : st.FrontAccepted s := by
  intro hlt
  refine h.imp id fun hnext => ?_
  obtain ⟨hrole, hsubscribed⟩ : s.role = .cursorSubscriber ∧ s.cursorSubscribed = true := by
    simpa [isSubscribed] using hsub
  unfold SessionState.acceptsAck
  rw [hnext, Nat.mod_eq_of_lt hlt]
  simp [hrole, hsubscribed]

end SubscriberState

/-! ## One event -/

namespace Room

variable {room : Room} {a : SocketAddr}

/-- The session is in step with the queue of `a`: one that has not subscribed has acknowledged
nothing. -/
def SessionInStep (room : Room) (a : SocketAddr) (s : Session) : Prop :=
  if isSubscribed s then (room.stateAt a).Aligned s.cursorEventAck else s.cursorEventAck = 0

/-- What every event preserves. -/
structure LockstepInv (room : Room) (a : SocketAddr) : Prop where
  contiguous : (room.stateAt a).Contiguous
  session : room.running → ∀ s ∈ room.sessionAt a, room.SessionInStep a s
  stopped : room.running = false → room.states.lookup a = none

theorem LockstepInv.inLockstep (h : room.LockstepInv a) : room.InLockstep a := by
  intro s hs hsub hq
  have hrun : room.running := by
    by_contra hrun
    have hnone := h.stopped (by simpa using hrun)
    unfold stateAt at hq
    rw [hnone] at hq
    exact hq rfl
  have hstep := h.session hrun s hs
  unfold SessionInStep at hstep
  rw [if_pos hsub] at hstep
  exact ⟨h.contiguous, hstep, hstep.frontAccepted hsub⟩

/-- An operation on the tables, from what it leaves at the address. -/
theorem LockstepInv.of_session (h : room.LockstepInv a) {sessions : SessionState}
    (hs : room.running → ∀ s ∈ sessions.byAddr.lookup a, room.SessionInStep a s) :
    LockstepInv { room with sessions := sessions } a :=
  ⟨h.contiguous, hs, h.stopped⟩

/-- An operation that leaves the counter of every session as it is. -/
theorem LockstepInv.of_same (h : room.LockstepInv a) {sessions : SessionState}
    (hs : ∀ s ∈ sessions.byAddr.lookup a, ∃ s₀ ∈ room.sessionAt a,
      isSubscribed s = isSubscribed s₀ ∧ s.cursorEventAck = s₀.cursorEventAck) :
    LockstepInv { room with sessions := sessions } a := by
  refine h.of_session fun hrun s hmem => ?_
  obtain ⟨s₀, hs₀, hsub, hack⟩ := hs s hmem
  have hstep := h.session hrun s₀ hs₀
  unfold SessionInStep at hstep ⊢
  rw [hsub, hack]
  exact hstep

/-- A new subscription finds the queue at its beginning. -/
theorem LockstepInv.subscribe (h : room.LockstepInv a) (hrun : room.running) {s : Session}
    (hs : s ∈ room.sessionAt a) (hz : ℚ) (hok : s.role = .cursorSubscriber →
      s.cursorSubscribed = false → (room.stateAt a).frontSequence ≤ 1) :
    room.SessionInStep a (if s.role == .cursorSubscriber then
      { s with cursorSubscribed := true, cursorRequestedHz := hz } else s) := by
  have hstep := h.session hrun s hs
  split_ifs with hrole
  · have hsub' : isSubscribed { s with cursorSubscribed := true, cursorRequestedHz := hz } := by
      simpa [isSubscribed] using hrole
    unfold SessionInStep at hstep ⊢
    rw [if_pos hsub']
    by_cases hsub : s.cursorSubscribed
    · rw [if_pos (by simpa [isSubscribed, hsub] using hrole)] at hstep
      exact hstep
    · rw [if_neg (by simp [isSubscribed, hsub])] at hstep
      have hfront := hok (by simpa using hrole) (by simpa using hsub)
      have hpos := h.contiguous.frontSequence_pos
      unfold SubscriberState.Aligned
      dsimp only
      omega
  · exact hstep

/-- An acknowledgement that is accepted is that of the batch at the front. -/
theorem LockstepInv.acknowledge (h : room.LockstepInv a) (hrun : room.running) {s : Session}
    (hs : s ∈ room.sessionAt a) {epoch : Option Uuid} {seq : ℕ}
    (hok : SessionState.acceptsAck epoch seq s →
      s.cursorEventAck < seq ∧ seq ≤ (room.stateAt a).frontSequence) :
    room.SessionInStep a (if SessionState.acceptsAck epoch seq s then
      { s with cursorEventAck := seq } else s) := by
  have hstep := h.session hrun s hs
  split_ifs with hacc
  · obtain ⟨hlt, hle⟩ := hok hacc
    unfold SessionState.acceptsAck at hacc
    simp only [Bool.and_eq_true, beq_iff_eq] at hacc
    obtain ⟨⟨⟨hrole, hsub⟩, -⟩, hseq⟩ := hacc
    have hsub' : isSubscribed s := by simp [isSubscribed, hrole, hsub]
    have hmod := Nat.mod_le (s.cursorEventAck + 1) u64Size
    unfold SessionInStep SubscriberState.Aligned at hstep ⊢
    rw [if_pos hsub'] at hstep
    rw [if_pos (show isSubscribed { s with cursorEventAck := seq } from hsub')]
    dsimp only
    omega
  · exact hstep

/-- **An operation on the tables** keeps the invariant. -/
theorem LockstepInv.apply (h : room.LockstepInv a) {op : SessionOp}
    (hok : room.CountersAgree env a (.session op)) :
    LockstepInv { room with sessions := room.sessions.apply op } a := by
  cases op with
  | setSession now addr uuid role =>
    refine h.of_session fun hrun s hs => ?_
    unfold SessionState.apply at hs
    rw [SessionState.lookup_setSession] at hs
    split_ifs at hs with ha hold
    · -- a handshake starts with nothing acknowledged
      cases hs
      unfold SessionInStep
      rw [if_neg (by simp [isSubscribed])]
    · cases hs
    · exact h.session hrun s hs
  | subscribeCursor addr hz =>
    refine h.of_session fun hrun s hs => ?_
    unfold SessionState.apply at hs
    rw [SessionState.lookup_subscribeCursor] at hs
    split_ifs at hs with ha
    · subst ha
      obtain ⟨s₀, hs₀, rfl⟩ := Option.map_eq_some_iff.mp hs
      exact h.subscribe hrun hs₀ hz (hok rfl s₀ hs₀)
    · exact h.session hrun s hs
  | acknowledgeCursorEvent addr epoch seq =>
    refine h.of_session fun hrun s hs => ?_
    unfold SessionState.apply at hs
    rw [SessionState.lookup_acknowledgeCursorEvent] at hs
    split_ifs at hs with ha
    · subst ha
      obtain ⟨s₀, hs₀, rfl⟩ := Option.map_eq_some_iff.mp hs
      exact h.acknowledge hrun hs₀ (hok rfl s₀ hs₀)
    · exact h.session hrun s hs
  | touchAddr | setCursorEpoch | removeByAddr | cleanupExpired =>
    exact h.of_same fun s hs => quiet_apply rfl hs

theorem LockstepInv.of_ended {room : Room} (h : room.Ended a) : room.LockstepInv a := by
  refine ⟨?_, fun hrun s hs => ?_, fun _ => h.1⟩
  · rw [stateAt_of_none h.1]
    exact SubscriberState.contiguous_empty
  · rcases h.2 with hrun' | hnone
    · rw [hrun] at hrun'
      cases hrun'
    · rw [hnone] at hs
      cases hs

/-- **A tick** keeps the invariant. -/
theorem LockstepInv.tick (h : room.LockstepInv a)
    (hok : room.CountersAgree env a (.tick store t)) :
    (room.tick env store t).LockstepInv a := by
  rcases tick_at room env store t a with ⟨hrun, hsame⟩ | ⟨hrun, hsub, hs', hst', -⟩ |
    ⟨-, hend⟩ | ⟨s, hs, hsub, hrun, st', hout, -, hrun', hst', hs'⟩ |
    ⟨s, hs, hsub, hrun, -, hend⟩
  · rw [hsame]
    exact h
  · -- nobody at the address has subscribed
    refine ⟨?_, fun _ s hmem => ?_, fun _ => hst'⟩
    · rw [stateAt_of_none hst']
      exact SubscriberState.contiguous_empty
    · rw [hs'] at hmem
      have hack := h.session hrun s hmem
      have hsub' : ¬isSubscribed s := by simp [hsub s hmem]
      unfold SessionInStep at hack ⊢
      rw [if_neg hsub'] at hack ⊢
      exact hack
  · exact .of_ended hend
  · -- one turn
    obtain ⟨hseq, hfits⟩ := hok s hs hsub
    have hal := h.session hrun s hs
    unfold SessionInStep at hal
    rw [if_pos hsub] at hal
    have hsame := serve_kept hout
    have hstate := stateAt_of_some hst'
    refine ⟨?_, fun _ s' hmem => ?_, fun hstop => ?_⟩
    · rw [hstate]
      exact (h.contiguous.advance env hseq).of_sameQueue hsame
    · rw [hs'] at hmem
      cases hmem
      unfold SessionInStep
      rw [(isSubscribed_withEpoch env s).1, (isSubscribed_withEpoch env s).2, if_pos hsub, hstate]
      rw [SubscriberState.completeFront_next] at hfits
      exact (hal.advance h.contiguous hseq hfits).of_sameQueue hsame
    · rw [hrun'] at hstop
      cases hstop
  · exact .of_ended hend

theorem LockstepInv.step (h : room.LockstepInv a) {event : RoomEvent}
    (hok : room.CountersAgree env a event) : (room.step env event).LockstepInv a := by
  cases event with
  | session op => exact h.apply hok
  | tick store t => exact h.tick hok

theorem lockstepInv_empty : ({} : Room).LockstepInv a where
  contiguous := SubscriberState.contiguous_empty
  session _ s hs := by cases hs
  stopped _ := rfl

/-! ## Whole runs -/

/-- **In every run that does not pull the counters at `a` apart, the queue of `a` is in step with
its session**, in every state the run reaches. -/
theorem lockstep_run (env : Env) (a : SocketAddr) (events : List RoomEvent)
    (h : Meets (Room.step env) (CountersAgree env a) {} events) :
    ∀ pre, pre <+: events → (pre.foldl (Room.step env) {} : Room).InLockstep a := by
  intro pre hpre
  have hinv : (pre.foldl (Room.step env) {} : Room).LockstepInv a :=
    h.inv_prefix (I := fun room => room.LockstepInv a)
      (fun _ _ hinv hok => hinv.step hok) lockstepInv_empty hpre
  exact hinv.inLockstep

/-- A client subscribes, acknowledges its baseline, and the revision changes. -/
def subscribedRun : List RoomEvent :=
  [.session (.setSession 0 1 "u" .cursorSubscriber), .session (.subscribeCursor 1 30),
    .tick {} ⟨emptySnapshot 0, 0, 0, .plain⟩,
    .session (.acknowledgeCursorEvent 1 Env.small.serverEpoch 1),
    .tick {} ⟨emptySnapshot 0, 1, 1, .plain⟩]

theorem lockstep_run_subscribed :
    let events := subscribedRun ++ [.tick {} ⟨emptySnapshot 1, 2, 2, .plain⟩]
    Meets (Room.step Env.small) (CountersAgree Env.small 1) {} events ∧
      (events.foldl (Room.step Env.small) {} : Room).InLockstep 1 := by
  have h : Meets (Room.step Env.small) (CountersAgree Env.small 1) {}
      (subscribedRun ++ [.tick {} ⟨emptySnapshot 1, 2, 2, .plain⟩]) := by decide +kernel
  exact ⟨h, lockstep_run Env.small 1 _ h _ (List.prefix_refl _)⟩

/-- The client shakes hands and subscribes a second time before the revision changes. -/
def resubscribedRun : List RoomEvent :=
  subscribedRun ++ [.session (.setSession 2 1 "u" .cursorSubscriber),
    .session (.subscribeCursor 1 30), .tick {} ⟨emptySnapshot 1, 2, 2, .plain⟩]

/-- **A second handshake**: the next batch is the second one of the publisher, and the session waits
for the first. -/
theorem lockstep_resubscribed :
    ¬(resubscribedRun.foldl (Room.step Env.small) {} : Room).InLockstep 1 := by decide +kernel

end Room

end FlyRuler.Cursor
