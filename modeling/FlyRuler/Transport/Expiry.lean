import FlyRuler.Transport.Server
import FlyRuler.Lib.Run
import Mathlib.Data.List.Induction

/-!
# When a session that was silent for too long is still served

`recv_from` removes the expired sessions when it is entered, then waits, and refreshes the session
of the sender when a datagram has arrived.  A session that expires during the wait is therefore
still served, and with that alive again.  Expiry is enforced exactly in the runs in which
`recv_from` has been entered late enough for every such datagram (`Swept`).

* `seenAt_run`: a session in the table was last seen when its address was last heard of.
* `takenAsSession_iff`: a message is taken as its session's iff the session survives the clean-up.
-/

namespace FlyRuler.Transport

open FlyRuler.Pb FlyRuler.Store FlyRuler.Lib.Keyed FlyRuler.Lib.Run

/-! ## What is to be enforced -/

/-- The datagram of a poll, if there is a message in it. -/
def Poll.message (decode : List UInt8 → Option Message) (poll : Poll) :
    Option (Datagram × Message) :=
  poll.arrival.bind fun d =>
    if d.bytes = [] then none else (decode d.bytes).map fun msg => (d, msg)

/-- When the address was last heard of. -/
def lastActivity (decode : List UInt8 → Option Message) (polls : List Poll) (addr : SocketAddr) :
    Option Instant :=
  (((polls.filterMap (Poll.message decode)).filter fun e => e.1.addr = addr).getLast?).map
    fun e => e.1.receivedAt

/-- The message is a handshake that registers a session, whatever was at its address before. -/
def registers (msg : Message) : Bool :=
  match commandOf msg with
  | some (_, .handshake hs) => hs.version = protocolVersion &&
      (ClientRole.tryFrom hs.role).getD .unspecified ≠ .unspecified && hs.clientUuid.isSome
  | _ => false

/-- **The message is taken as coming from the session at its address**: as an aircraft event, a
subscription or an acknowledgement of that session, or as a sign of life of it. -/
inductive TakenAsSession (r r' : ServerRuntime) (d : Datagram) (msg : Message) : Prop where
  | aircraftEvent (h : r'.handled = r.handled ++ [(msg, d.addr)])
  | subscription (req : Request) (value : CursorSubscribe)
      (hc : commandOf msg = some (req, .cursorSubscribe value))
      (h : r'.sent = r.sent ++ [(makeAckForRequest d.wallClock req, d.addr)])
  | acknowledgement (s s' : Session) (hs : r.sessions.byAddr.lookup d.addr = some s)
      (hs' : r'.sessions.byAddr.lookup d.addr = some s') (h : s'.cursorEventAck ≠ s.cursorEventAck)
  | revived (s' : Session) (hs' : r'.sessions.byAddr.lookup d.addr = some s')

section
variable (decode : List UInt8 → Option Message) (timeout : Duration)

/-- **Expiry is enforced at the poll after `pre`**: what is not a new handshake is taken as its
session's only within `timeout` after the last activity at its address. -/
def ExpiryEnforced (pre : List Poll) (poll : Poll) : Prop :=
  (ServerRuntime.run decode timeout pre).running = true →
    ∀ d msg, poll.message decode = some (d, msg) → registers msg = false →
      TakenAsSession (ServerRuntime.run decode timeout pre)
          (ServerRuntime.run decode timeout (pre ++ [poll])) d msg →
        ∃ t, lastActivity decode pre d.addr = some t ∧ d.receivedAt - t ≤ timeout

/-- **The clean-up has come late enough**: if the session at the address of the datagram has been
silent for longer than `timeout` when it arrives, it has been so when `recv_from` was entered. -/
def Swept (r : ServerRuntime) (poll : Poll) : Prop :=
  r.running = true → ∀ d msg, poll.message decode = some (d, msg) → registers msg = false →
    ∀ s, r.sessions.byAddr.lookup d.addr = some s →
      SessionState.isExpired d.receivedAt timeout s = true →
        SessionState.isExpired poll.now timeout s = true

end

variable {decode : List UInt8 → Option Message} {timeout : Duration}

theorem Poll.message_eq_some {poll : Poll} {d : Datagram} {msg : Message} :
    poll.message decode = some (d, msg) ↔
      poll.arrival = some d ∧ d.bytes ≠ [] ∧ decode d.bytes = some msg := by
  unfold Poll.message
  rw [Option.bind_eq_some_iff]
  constructor
  · rintro ⟨d', hd', h⟩
    split_ifs at h with hne
    obtain ⟨msg', hdec, heq⟩ := Option.map_eq_some_iff.mp h
    obtain ⟨rfl, rfl⟩ := Prod.mk.inj heq
    exact ⟨hd', hne, hdec⟩
  · rintro ⟨hd, hne, hdec⟩
    refine ⟨d, hd, ?_⟩
    rw [if_neg hne, hdec]
    rfl

theorem lastActivity_concat (polls : List Poll) (poll : Poll) (addr : SocketAddr) :
    lastActivity decode (polls ++ [poll]) addr =
      match poll.message decode with
      | some (d, _) =>
        if d.addr = addr then some d.receivedAt else lastActivity decode polls addr
      | none => lastActivity decode polls addr := by
  unfold lastActivity
  rw [List.filterMap_append, List.filter_append]
  cases h : poll.message decode with
  | none => simp [h]
  | some e =>
    by_cases haddr : e.1.addr = addr <;> simp [h, haddr]

/-! ## When a session was last seen -/

namespace SessionState

variable {sessions : SessionState}

/-- When the session at an address was last seen. -/
def seenAt (sessions : SessionState) (addr : SocketAddr) : Option Instant :=
  (sessions.byAddr.lookup addr).map Session.lastSeenAt

/-- A message that does not register a session leaves the times as they are. -/
theorem seenAt_handleMessage {msg : Message} (h : registers msg = false) (d : Datagram)
    (b : SocketAddr) :
    (sessions.handleMessage d msg (clientUuidOf msg)).1.seenAt b = sessions.seenAt b := by
  unfold handleMessage
  unfold registers at h
  cases hc : commandOf msg with
  | none => rfl
  | some c =>
    obtain ⟨req, kind⟩ := c
    rw [hc] at h
    cases kind with
    | handshake hs =>
      simp only [handleCommand, clientUuidOf_handshake hc]
      split_ifs with hversion
      · cases hr : (ClientRole.tryFrom hs.role).getD .unspecified <;>
          cases hu : hs.clientUuid <;> simp_all
      · rfl
    | heartbeat hb => rfl
    | aircraftEvent event =>
      simp only [handleCommand]
      split_ifs <;> rfl
    | cursorSubscribe value =>
      simp only [handleCommand]
      split
      · rename_i hz _
        split_ifs
        · rfl
        · have hsame : (sessions.subscribeCursor d.addr hz).1.seenAt b = sessions.seenAt b :=
            map_lookup_of_lookup Session.lastSeenAt (fun s => by split_ifs <;> rfl)
              (lookup_subscribeCursor d.addr b hz)
          split <;> rename_i hsub <;> rw [hsub] at hsame <;> exact hsame
      · rfl
    | cursorEventAck value =>
      exact map_lookup_of_lookup Session.lastSeenAt (fun s => by split_ifs <;> rfl)
        (lookup_acknowledgeCursorEvent d.addr b value.serverEpoch value.eventSequence)

/-- A message that registers one does so at its address, at the time it arrived. -/
theorem seenAt_of_handleMessage {d : Datagram} {msg : Message} {b : SocketAddr} {t : Instant}
    (h : (sessions.handleMessage d msg (clientUuidOf msg)).1.seenAt b = some t) :
    sessions.seenAt b = some t ∨ b = d.addr ∧ t = d.receivedAt := by
  by_cases hreg : registers msg = false
  · rw [seenAt_handleMessage hreg] at h
    exact .inl h
  · unfold registers at hreg
    split at hreg
    · rename_i req hs hc
      have huuid : clientUuidOf msg = hs.clientUuid.map uuidToHex := clientUuidOf_handshake hc
      simp only [Bool.not_eq_false, Bool.and_eq_true, decide_eq_true_eq] at hreg
      obtain ⟨⟨hversion, hrole⟩, hsome⟩ := hreg
      obtain ⟨uuid, hu⟩ := Option.isSome_iff_exists.mp hsome
      have hset : (sessions.handleMessage d msg (clientUuidOf msg)).1 =
          sessions.setSession d.receivedAt d.addr (uuidToHex uuid)
            ((ClientRole.tryFrom hs.role).getD .unspecified) := by
        unfold handleMessage
        rw [hc, huuid, hu]
        simp only [handleCommand, if_pos hversion, Option.map_some]
      unfold seenAt at h ⊢
      rw [hset, lookup_setSession] at h
      split_ifs at h with hb hold
      · exact .inr ⟨hb, (Option.some.inj h).symm⟩
      · cases h
      · exact .inl h
    · exact absurd rfl hreg

theorem seenAt_cleanupExpired {now : Instant} {b : SocketAddr} {t : Instant}
    (h : (sessions.cleanupExpired now timeout).seenAt b = some t) : sessions.seenAt b = some t := by
  unfold seenAt at *
  rw [lookup_cleanupExpired] at h
  obtain ⟨s, hs, hseen⟩ := Option.map_eq_some_iff.mp h
  rw [(Option.filter_eq_some_iff.mp hs).1, Option.map_some, hseen]

theorem seenAt_touchAddr {now : Instant} {addr b : SocketAddr} {t : Instant}
    (h : (sessions.touchAddr now addr).seenAt b = some t) :
    if b = addr then t = now else sessions.seenAt b = some t := by
  unfold seenAt at *
  rw [lookup_touchAddr] at h
  split_ifs at h ⊢
  · obtain ⟨s, hs, hseen⟩ := Option.map_eq_some_iff.mp h
    obtain ⟨s₀, -, rfl⟩ := Option.map_eq_some_iff.mp hs
    exact hseen.symm
  · exact h

end SessionState

/-- A turn without a message only cleans up. -/
theorem sessions_step_of_no_message {r : ServerRuntime} (hrun : r.running = true) {poll : Poll}
    (h : poll.message decode = none) :
    (r.step decode timeout poll).sessions = r.sessions.cleanupExpired poll.now timeout := by
  unfold Poll.message at h
  unfold ServerRuntime.step recvFrom
  rw [if_pos hrun]
  cases ha : poll.arrival with
  | none => rfl
  | some d =>
    rw [ha] at h
    by_cases hne : d.bytes = []
    · simp [hne]
    · have hdec : decode d.bytes = none := by simpa [hne] using h
      simp [hne, hdec]

/-- **A session in the table was last seen when its address was last heard of.** -/
theorem seenAt_run (polls : List Poll) :
    (ServerRuntime.run decode timeout polls).running = true → ∀ addr t,
      (ServerRuntime.run decode timeout polls).sessions.seenAt addr = some t →
        lastActivity decode polls addr = some t := by
  induction polls using List.reverseRecOn with
  | nil => exact fun _ addr t h => absurd h (by simp [ServerRuntime.run, SessionState.seenAt])
  | append_singleton polls poll ih =>
    intro hrun addr t hseen
    rw [run_concat] at hrun hseen
    have hbefore : (ServerRuntime.run decode timeout polls).running = true := by
      by_contra hnot
      rw [step_of_not_running (by simpa using hnot)] at hrun
      exact hnot hrun
    rw [lastActivity_concat]
    cases hm : poll.message decode with
    | none =>
      rw [sessions_step_of_no_message hbefore hm] at hseen
      exact ih hbefore addr t (SessionState.seenAt_cleanupExpired hseen)
    | some e =>
      obtain ⟨d, msg⟩ := e
      obtain ⟨hd, hne, hdec⟩ := Poll.message_eq_some.mp hm
      rw [step_message hbefore hd hne hdec rfl] at hseen
      show (if d.addr = addr then some d.receivedAt else lastActivity decode polls addr) = some t
      rcases SessionState.seenAt_of_handleMessage hseen with htouched | ⟨rfl, rfl⟩
      · have hat := SessionState.seenAt_touchAddr htouched
        split_ifs at hat with haddr
        · rw [if_pos haddr.symm, hat]
        · rw [if_neg (Ne.symm haddr)]
          exact ih hbefore addr t (SessionState.seenAt_cleanupExpired hat)
      · rw [if_pos rfl]

/-! ## One message -/

/-- Only the session of a subscriber is told that it has subscribed. -/
theorem lookup_of_subscribed {sessions : SessionState} {d : Datagram} {req : Request}
    {uuid : Option String} {value : CursorSubscribe}
    (h : (sessions.handleCommand d req uuid (.cursorSubscribe value)).2 =
      some (makeAckForRequest d.wallClock req)) :
    ∃ s, sessions.byAddr.lookup d.addr = some s := by
  by_contra hnone
  have hlookup : sessions.byAddr.lookup d.addr = none :=
    Option.eq_none_iff_forall_ne_some.mpr fun s hs => hnone ⟨s, hs⟩
  unfold SessionState.handleCommand makeAckForRequest makeErrForRequest at h
  have hrefused : ∀ hz, (sessions.subscribeCursor d.addr hz).2 = false := fun hz => by
    unfold SessionState.subscribeCursor
    simp [hlookup]
  simp only at h
  split at h
  · rename_i hz _
    split_ifs at h
    · simp at h
    · split at h
      · rename_i hsub
        have := hrefused hz
        rw [hsub] at this
        cases this
      · simp at h
  · simp at h

/-- **A message is taken as its session's iff the session survives the clean-up** at the entrance of
`recv_from`. -/
theorem takenAsSession_iff {r : ServerRuntime} (hrun : r.running = true) {poll : Poll}
    {d : Datagram} {msg : Message} (hm : poll.message decode = some (d, msg))
    (hreg : registers msg = false) :
    TakenAsSession r (r.step decode timeout poll) d msg ↔
      ∃ s, r.sessions.byAddr.lookup d.addr = some s ∧
        SessionState.isExpired poll.now timeout s = false := by
  obtain ⟨hd, hne, hdec⟩ := Poll.message_eq_some.mp hm
  rw [step_message hrun hd hne hdec rfl]
  generalize htouched :
    (r.sessions.cleanupExpired poll.now timeout).touchAddr d.receivedAt d.addr = touched
  -- a session is at the address after the turn iff one survives the clean-up
  have hsurvives : (∃ s, touched.byAddr.lookup d.addr = some s) ↔
      ∃ s, r.sessions.byAddr.lookup d.addr = some s ∧
        SessionState.isExpired poll.now timeout s = false := by
    rw [← htouched, SessionState.lookup_touchAddr, if_pos rfl,
      SessionState.lookup_cleanupExpired]
    simp [Option.filter_eq_some_iff]
  have hsame : (touched.handleMessage d msg (clientUuidOf msg)).1.seenAt d.addr =
      touched.seenAt d.addr := SessionState.seenAt_handleMessage hreg d d.addr
  have hafter : (∃ s, (touched.handleMessage d msg (clientUuidOf msg)).1.byAddr.lookup d.addr =
      some s) ↔ ∃ s, touched.byAddr.lookup d.addr = some s := by
    unfold SessionState.seenAt at hsame
    simpa only [Option.isSome_map, Option.isSome_iff_exists] using
      Eq.to_iff (congrArg (fun o : Option Instant => (o.isSome : Prop)) hsame)
  rw [← hsurvives]
  constructor
  · rintro (h | ⟨req, value, hc, h⟩ | ⟨s, s', hs, hs', h⟩ | ⟨s', hs'⟩)
    · have hev :
          (touched.handleMessage d msg (clientUuidOf msg)).1.isProducerEvent d msg = true := by
        by_contra hnot
        simp [hnot] at h
      refine hafter.mp ?_
      unfold SessionState.isProducerEvent SessionState.role at hev
      split at hev
      · obtain ⟨s, hs, -⟩ := Option.map_eq_some_iff.mp (beq_iff_eq.mp hev)
        exact ⟨s, hs⟩
      · cases hev
    · have hanswer : (touched.handleMessage d msg (clientUuidOf msg)).2 =
          some (makeAckForRequest d.wallClock req) := by
        have := List.append_cancel_left h
        cases ha : (touched.handleMessage d msg (clientUuidOf msg)).2 with
        | none => simp [ha] at this
        | some answer => simpa [ha] using this
      unfold SessionState.handleMessage at hanswer
      rw [hc] at hanswer
      exact lookup_of_subscribed hanswer
    · exact hafter.mp ⟨s', hs'⟩
    · exact hafter.mp ⟨s', hs'⟩
  · intro h
    obtain ⟨s', hs'⟩ := hafter.mpr h
    exact .revived s' hs'

/-! ## Whole runs -/

/-- **Expiry is enforced exactly when the clean-up always comes late enough.** -/
theorem expiryEnforced_iff (decode : List UInt8 → Option Message) (timeout : Duration)
    (polls : List Poll) :
    (∀ pre poll, pre ++ [poll] <+: polls → ExpiryEnforced decode timeout pre poll) ↔
      Meets (ServerRuntime.step decode timeout) (Swept decode timeout) {} polls := by
  rw [meets_iff]
  refine forall_congr' fun pre => forall_congr' fun poll => imp_congr_right fun _ => ?_
  show _ ↔ Swept decode timeout (ServerRuntime.run decode timeout pre) poll
  unfold ExpiryEnforced Swept
  refine imp_congr_right fun hrun => forall_congr' fun d => forall_congr' fun msg =>
    imp_congr_right fun hm => imp_congr_right fun hreg => ?_
  rw [run_concat, takenAsSession_iff hrun hm hreg]
  have hlast : ∀ s, (ServerRuntime.run decode timeout pre).sessions.byAddr.lookup d.addr = some s →
      lastActivity decode pre d.addr = some s.lastSeenAt := fun s hs =>
    seenAt_run pre hrun d.addr _ (by unfold SessionState.seenAt; rw [hs]; rfl)
  constructor
  · intro h s hs hexp
    by_contra hkept
    obtain ⟨t, ht, hle⟩ := h ⟨s, hs, by simpa using hkept⟩
    rw [hlast s hs, Option.some.injEq] at ht
    unfold SessionState.isExpired at hexp
    rw [decide_eq_true_eq, ht] at hexp
    exact absurd hle (not_le.mpr hexp)
  · rintro h ⟨s, hs, hkept⟩
    refine ⟨s.lastSeenAt, hlast s hs, ?_⟩
    by_contra hlate
    have hexp := h s hs (decide_eq_true (not_le.mp hlate))
    rw [hkept] at hexp
    cases hexp

/-- A producer's handshake. -/
def producerHandshake : Message :=
  ⟨some (.request ⟨none, .finite 0,
    some ⟨some (.handshake ⟨protocolVersion, some ⟨List.replicate 16 7⟩, 1⟩)⟩⟩)⟩

def producerHandshakeBytes : List UInt8 :=
  [0x0a, 0x21, 0x1a, 0x1f, 0x0a, 0x1d, 0x0a, 0x05, 0x30, 0x2e, 0x34, 0x2e, 0x30, 0x12, 0x12, 0x0a,
    0x10] ++ List.replicate 16 7 ++ [0x18, 0x01]

/-- An aircraft event. -/
def emptyAircraftEvent : Message :=
  ⟨some (.request ⟨none, .finite 0, some ⟨some (.aircraftEvent ⟨none, none⟩)⟩⟩)⟩

def emptyAircraftEventBytes : List UInt8 := [0x0a, 0x04, 0x1a, 0x02, 0x1a, 0x00]

/-- Decodes these two messages, and nothing else. -/
def decodeProducer (bytes : List UInt8) : Option Message :=
  if bytes = producerHandshakeBytes then some producerHandshake
  else if bytes = emptyAircraftEventBytes then some emptyAircraftEvent
  else none

/-- A handshake, and an aircraft event a thousand seconds later, for which the loop has waited. -/
def lateEvent : List Poll :=
  [⟨0, some ⟨1, producerHandshakeBytes, 0, 0⟩⟩,
    ⟨0, some ⟨1, emptyAircraftEventBytes, 1000, 1000⟩⟩]

/-- **An event of a session that was silent for far too long is handed over.** -/
theorem not_expiryEnforced_lateEvent :
    ¬∀ pre poll, pre ++ [poll] <+: lateEvent → ExpiryEnforced decodeProducer 15 pre poll := by
  intro h
  obtain ⟨t, ht, hle⟩ := h [⟨0, some ⟨1, producerHandshakeBytes, 0, 0⟩⟩]
    ⟨0, some ⟨1, emptyAircraftEventBytes, 1000, 1000⟩⟩ (List.prefix_refl _) (by decide)
    ⟨1, emptyAircraftEventBytes, 1000, 1000⟩ emptyAircraftEvent (by decide) (by decide)
    (.aircraftEvent (by decide +kernel))
  have hlast : lastActivity decodeProducer [⟨0, some ⟨1, producerHandshakeBytes, 0, 0⟩⟩] 1 =
      some 0 := by decide
  rw [hlast] at ht
  cases ht
  exact absurd hle (by decide +kernel)

end FlyRuler.Transport
