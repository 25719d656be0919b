import FlyRuler.Transport.Server
import FlyRuler.Lib.Run
import Mathlib.Data.List.Induction

/-!
# What a datagram that does not decode does to the server

The receive loop ends at the first datagram that does not decode, and with it everything that later
polls would have done: answers, handshakes, ingestion, expiry.  Leaving such datagrams out of a
sequence therefore changes nothing exactly when all polls after the end of the loop are `Quiet`: no
session is due to expire, and no datagram touches a session, is answered or is handed over.

* `step_withoutMalformed_iff`: a turn of the running loop changes nothing iff the poll is quiet.
-/

namespace FlyRuler.Transport

open FlyRuler.Pb FlyRuler.Store FlyRuler.Lib.Keyed FlyRuler.Lib.Run

/-! ## Leaving out what does not decode -/

section
variable (decode : List UInt8 → Option Message)

/-- The datagram does not decode.  The empty string encodes the empty message. -/
def Datagram.malformed (d : Datagram) : Bool := d.bytes ≠ [] && (decode d.bytes).isNone

/-- The poll without its datagram, if that does not decode. -/
def Poll.withoutMalformed (poll : Poll) : Poll :=
  { poll with arrival := poll.arrival.filter fun d => !d.malformed decode }

end

/-- Same session tables, same messages handed over, same answers. -/
structure SameEffects (r r' : ServerRuntime) : Prop where
  sessions : r.sessions = r'.sessions
  handled : r.handled = r'.handled
  sent : r.sent = r'.sent

/-- **Malformed datagrams are harmless in a sequence of polls**: at no time can one tell whether
they were left out. -/
def Harmless (decode : List UInt8 → Option Message) (timeout : Duration) (polls : List Poll) :
    Prop :=
  ∀ pre, pre <+: polls → SameEffects (ServerRuntime.run decode timeout pre)
    (ServerRuntime.run decode timeout (pre.map (Poll.withoutMalformed decode)))

/-! ## Polls that do nothing -/

/-- A command that is neither answered nor handed over, nor registers a session. -/
def Silent (msg : Message) : Prop :=
  match commandOf msg with
  | none => True
  | some (_, .handshake hs) => hs.version = protocolVersion ∧
      (ClientRole.tryFrom hs.role).getD .unspecified ≠ .unspecified ∧ hs.clientUuid = none
  | some (_, .cursorEventAck _) => True
  | some _ => False

/-- The message is not an acknowledgement that the session at its address accepts. -/
def AckRejected (sessions : SessionState) (addr : SocketAddr) (msg : Message) : Prop :=
  match commandOf msg with
  | some (_, .cursorEventAck value) => ∀ s, sessions.byAddr.lookup addr = some s →
      SessionState.acceptsAck value.serverEpoch value.eventSequence s = false
  | _ => True

/-- A decoded datagram that leaves no trace. -/
structure Inert (sessions : SessionState) (d : Datagram) (msg : Message) : Prop where
  untouched : ∀ s, sessions.byAddr.lookup d.addr = some s → s.lastSeenAt = d.receivedAt
  silent : Silent msg
  ackRejected : AckRejected sessions d.addr msg

/-- **A poll that leaves no trace.** -/
structure Quiet (decode : List UInt8 → Option Message) (timeout : Duration)
    (sessions : SessionState) (poll : Poll) : Prop where
  noneExpired : ∀ addr s, sessions.byAddr.lookup addr = some s →
    SessionState.isExpired poll.now timeout s = false
  inert : ∀ d msg, poll.arrival = some d → d.bytes ≠ [] → decode d.bytes = some msg →
    Inert sessions d msg

namespace SessionState

variable {sessions : SessionState}

theorem cleanupExpired_eq_self {now : Instant} {timeout : Duration}
    (h : ∀ addr s, sessions.byAddr.lookup addr = some s → isExpired now timeout s = false) :
    sessions.cleanupExpired now timeout = sessions := by
  have hnil : sessions.list.filter (fun e => isExpired now timeout e.2) = [] := by
    refine List.filter_eq_nil_iff.mpr fun ⟨addr, s⟩ he => ?_
    simp [h addr s (mem_toPairs.mp he)]
  unfold cleanupExpired
  rw [hnil]
  rfl

theorem noneExpired_of_lookup {now : Instant} {timeout : Duration}
    (h : ∀ b, (sessions.cleanupExpired now timeout).byAddr.lookup b = none →
      sessions.byAddr.lookup b = none) :
    ∀ addr s, sessions.byAddr.lookup addr = some s → isExpired now timeout s = false := by
  intro addr s hs
  by_contra hexp
  have hnone := h addr (by rw [lookup_cleanupExpired, hs]; simp [Option.filter, hexp])
  rw [hs] at hnone
  cases hnone

theorem touchAddr_eq_self {now : Instant} {addr : SocketAddr}
    (h : ∀ s, sessions.byAddr.lookup addr = some s → s.lastSeenAt = now) :
    sessions.touchAddr now addr = sessions := by
  unfold touchAddr
  rw [adjust_eq_self fun s hs => by rw [← h s hs]]

theorem acknowledgeCursorEvent_eq_self {addr : SocketAddr} {epoch : Option Uuid} {seq : ℕ}
    (h : ∀ s, sessions.byAddr.lookup addr = some s → acceptsAck epoch seq s = false) :
    (sessions.acknowledgeCursorEvent addr epoch seq).1 = sessions := by
  unfold acknowledgeCursorEvent
  have hany : (sessions.byAddr.lookup addr).any (acceptsAck epoch seq) = false := by
    cases hs : sessions.byAddr.lookup addr with
    | none => rfl
    | some s => exact h s hs
  simp [hany]

/-- An accepted acknowledgement is of the next batch. -/
theorem ne_of_acceptsAck {epoch : Option Uuid} {seq : ℕ} {s : Session}
    (h : acceptsAck epoch seq s = true) : s.cursorEventAck ≠ seq := by
  unfold acceptsAck at h
  simp only [Bool.and_eq_true, beq_iff_eq] at h
  have hseq := h.2
  unfold u64Size at hseq
  omega

/-- What a silent command leaves of the tables. -/
theorem handleMessage_of_silent {d : Datagram} {msg : Message} (h : Silent msg) :
    sessions.handleMessage d msg (clientUuidOf msg) =
      match commandOf msg with
      | some (_, .cursorEventAck value) =>
        ((sessions.acknowledgeCursorEvent d.addr value.serverEpoch value.eventSequence).1, none)
      | _ => (sessions, none) := by
  unfold handleMessage Silent at *
  cases hc : commandOf msg with
  | none => rfl
  | some c =>
    obtain ⟨req, kind⟩ := c
    rw [hc] at h
    cases kind with
    | handshake hs =>
      have huuid : clientUuidOf msg = hs.clientUuid.map uuidToHex := clientUuidOf_handshake hc
      obtain ⟨hversion, hrole, hnone⟩ := h
      simp only [handleCommand]
      rw [if_pos hversion, huuid, hnone]
      cases hr : (ClientRole.tryFrom hs.role).getD .unspecified with
      | unspecified => exact absurd hr hrole
      | _ => rfl
    | cursorEventAck value => rfl
    | heartbeat | aircraftEvent | cursorSubscribe => exact h.elim

theorem answer_of_silent {d : Datagram} {msg : Message} (h : Silent msg) :
    (sessions.handleMessage d msg (clientUuidOf msg)).2 = none := by
  rw [handleMessage_of_silent h]
  split <;> rfl

theorem isProducerEvent_of_silent {msg : Message} (h : Silent msg) (d : Datagram) :
    sessions.isProducerEvent d msg = false := by
  unfold isProducerEvent Silent at *
  split
  · rename_i hc
    rw [hc] at h
    exact h.elim
  · rfl

/-- A session after the message, if that is an acknowledgement. -/
def acknowledged (msg : Message) (s : Session) : Session :=
  match commandOf msg with
  | some (_, .cursorEventAck value) =>
    if acceptsAck value.serverEpoch value.eventSequence s then
      { s with cursorEventAck := value.eventSequence }
    else s
  | _ => s

theorem lookup_handleMessage_of_silent {d : Datagram} {msg : Message} (h : Silent msg)
    (b : SocketAddr) :
    (sessions.handleMessage d msg (clientUuidOf msg)).1.byAddr.lookup b =
      if b = d.addr then (sessions.byAddr.lookup d.addr).map (acknowledged msg)
      else sessions.byAddr.lookup b := by
  rw [handleMessage_of_silent h]
  unfold acknowledged
  split
  · exact lookup_acknowledgeCursorEvent _ _ _ _
  · split_ifs with hb
    · subst hb
      simp
    · rfl

theorem lastSeenAt_acknowledged (msg : Message) (s : Session) :
    (acknowledged msg s).lastSeenAt = s.lastSeenAt := by
  unfold acknowledged
  repeat' split
  all_goals rfl

/-- A session that is the same after the message did not accept an acknowledgement. -/
theorem ackRejected_of_acknowledged {addr : SocketAddr} {msg : Message}
    (h : ∀ s, sessions.byAddr.lookup addr = some s → acknowledged msg s = s) :
    AckRejected sessions addr msg := by
  unfold AckRejected acknowledged at *
  split
  · rename_i value hc
    intro s hs
    by_contra hacc
    simp only [hc, Bool.not_eq_false] at h hacc
    have hsame := congrArg Session.cursorEventAck (h s hs)
    rw [if_pos hacc] at hsame
    exact ne_of_acceptsAck hacc hsame.symm
  · trivial

/-- **No answer and no hand-over** means a silent command, whatever the tables are. -/
theorem silent_of_handleMessage {d : Datagram} {msg : Message}
    (hanswer : (sessions.handleMessage d msg (clientUuidOf msg)).2 = none)
    (hhand : (sessions.handleMessage d msg (clientUuidOf msg)).1.isProducerEvent d msg = false) :
    Silent msg := by
  unfold handleMessage isProducerEvent Silent at *
  cases hc : commandOf msg with
  | none => trivial
  | some c =>
    obtain ⟨req, kind⟩ := c
    rw [hc] at hanswer hhand
    cases kind with
    | handshake hs =>
      rw [clientUuidOf_handshake hc] at hanswer
      simp only [handleCommand] at hanswer
      split_ifs at hanswer with hversion
      · cases hr : (ClientRole.tryFrom hs.role).getD .unspecified <;>
          cases hu : hs.clientUuid <;> simp_all
    | heartbeat hb => cases hanswer
    | aircraftEvent event =>
      simp only [handleCommand] at hanswer hhand
      by_cases hrole : sessions.role d.addr = some .producer
      · simp [hrole] at hhand
      · simp [hrole] at hanswer
    | cursorSubscribe value =>
      simp only [handleCommand] at hanswer
      repeat' split at hanswer
      all_goals cases hanswer
    | cursorEventAck value => trivial

end SessionState

/-! ## One turn of the loop -/

variable {decode : List UInt8 → Option Message} {timeout : Duration}

/-- A poll with a datagram that decodes is the same with and without the malformed. -/
theorem withoutMalformed_eq {poll : Poll}
    (h : ∀ d, poll.arrival = some d → d.malformed decode = false) :
    poll.withoutMalformed decode = poll := by
  obtain ⟨now, arrival⟩ := poll
  unfold Poll.withoutMalformed
  cases arrival with
  | none => rfl
  | some d => simp [Option.filter, h d rfl]

theorem withoutMalformed_of_malformed {poll : Poll} {d : Datagram} (hd : poll.arrival = some d)
    (h : d.malformed decode = true) : poll.withoutMalformed decode = ⟨poll.now, none⟩ := by
  unfold Poll.withoutMalformed
  simp [hd, Option.filter, h]

theorem step_malformed {r : ServerRuntime} (hrun : r.running = true) {poll : Poll} {d : Datagram}
    (hd : poll.arrival = some d) (h : d.malformed decode = true) :
    r.step decode timeout poll =
      { r with sessions := r.sessions.cleanupExpired poll.now timeout, running := false } := by
  unfold Datagram.malformed at h
  simp only [Bool.and_eq_true, decide_eq_true_eq, Option.isNone_iff_eq_none] at h
  unfold ServerRuntime.step recvFrom
  simp [hrun, hd, h.1, h.2]

/-- **A turn with a message leaves everything as it is iff the message is inert** and no session is
due to expire. -/
theorem step_message_iff {r : ServerRuntime} (hrun : r.running = true) {poll : Poll} {d : Datagram}
    {msg : Message} (hd : poll.arrival = some d) (hne : d.bytes ≠ [])
    (hdec : decode d.bytes = some msg) :
    SameEffects r (r.step decode timeout poll) ↔
      (∀ addr s, r.sessions.byAddr.lookup addr = some s →
        SessionState.isExpired poll.now timeout s = false) ∧ Inert r.sessions d msg := by
  rw [step_message hrun hd hne hdec rfl]
  constructor
  · rintro ⟨hsessions, hhandled, hsent⟩
    rw [List.self_eq_append_right] at hhandled hsent
    have hsilent : Silent msg := SessionState.silent_of_handleMessage
      (by simpa using hsent) (by simpa using hhandled)
    -- what is left at an address, and that it is what was there
    have hlookup := fun b => (congrArg (fun t => t.byAddr.lookup b) hsessions).trans
      (SessionState.lookup_handleMessage_of_silent hsilent b)
    simp only [SessionState.lookup_touchAddr, if_true] at hlookup
    have hexp : ∀ addr s, r.sessions.byAddr.lookup addr = some s →
        SessionState.isExpired poll.now timeout s = false :=
      SessionState.noneExpired_of_lookup fun b hb => by
        rw [hlookup b]
        split_ifs with hbd
        · subst hbd; rw [hb]; rfl
        · exact hb
    rw [SessionState.cleanupExpired_eq_self hexp] at hlookup
    have hat : ∀ s, r.sessions.byAddr.lookup d.addr = some s →
        SessionState.acknowledged msg { s with lastSeenAt := d.receivedAt } = s := by
      intro s hs
      have := hlookup d.addr
      rw [if_pos rfl, hs] at this
      exact (Option.some.inj this).symm
    have huntouched : ∀ s, r.sessions.byAddr.lookup d.addr = some s →
        s.lastSeenAt = d.receivedAt := fun s hs => by
      rw [← hat s hs, SessionState.lastSeenAt_acknowledged]
    refine ⟨hexp, huntouched, hsilent, SessionState.ackRejected_of_acknowledged fun s hs => ?_⟩
    have := hat s hs
    rwa [← huntouched s hs] at this
  · rintro ⟨hexp, huntouched, hsilent, hack⟩
    rw [SessionState.cleanupExpired_eq_self hexp, SessionState.touchAddr_eq_self huntouched]
    have hsame : (r.sessions.handleMessage d msg (clientUuidOf msg)).1 = r.sessions := by
      rw [SessionState.handleMessage_of_silent hsilent]
      unfold AckRejected at hack
      split
      · rename_i value hc
        rw [hc] at hack
        exact SessionState.acknowledgeCursorEvent_eq_self hack
      · rfl
    refine ⟨hsame.symm, ?_, ?_⟩
    · simp [SessionState.isProducerEvent_of_silent hsilent]
    · simp [SessionState.answer_of_silent hsilent]

/-- **A turn of the running loop, the malformed left out, changes nothing iff the poll is quiet.**
-/
theorem step_withoutMalformed_iff {r : ServerRuntime} (hrun : r.running = true) (poll : Poll) :
    SameEffects r (r.step decode timeout (poll.withoutMalformed decode)) ↔
      Quiet decode timeout r.sessions poll := by
  have hidle : ∀ poll' : Poll, poll'.now = poll.now →
      (∀ d, poll'.arrival = some d → d.bytes = []) →
      (SameEffects r (r.step decode timeout poll') ↔ ∀ addr s,
        r.sessions.byAddr.lookup addr = some s →
          SessionState.isExpired poll.now timeout s = false) := by
    intro poll' hnow hempty
    rw [step_idle hrun hempty, hnow]
    constructor
    · rintro ⟨hsessions, -, -⟩
      exact SessionState.noneExpired_of_lookup fun b hb => by rw [hsessions]; exact hb
    · intro hexp
      exact ⟨(SessionState.cleanupExpired_eq_self hexp).symm, rfl, rfl⟩
  by_cases hmal : ∃ d, poll.arrival = some d ∧ d.malformed decode = true
  · obtain ⟨d, hd, hmal⟩ := hmal
    rw [withoutMalformed_of_malformed hd hmal,
      hidle ⟨poll.now, none⟩ rfl fun _ h => absurd h (Option.some_ne_none _).symm]
    refine ⟨fun hexp => ⟨hexp, fun d' msg hd' hne hdec => ?_⟩, Quiet.noneExpired⟩
    rw [hd] at hd'
    cases hd'
    unfold Datagram.malformed at hmal
    rw [hdec] at hmal
    simp at hmal
  · push Not at hmal
    have hdecodes : ∀ d, poll.arrival = some d → d.malformed decode = false :=
      fun d hd => by simpa using hmal d hd
    rw [withoutMalformed_eq hdecodes]
    by_cases hmsg : ∃ d msg, poll.arrival = some d ∧ d.bytes ≠ [] ∧ decode d.bytes = some msg
    · obtain ⟨d, msg, hd, hne, hdec⟩ := hmsg
      rw [step_message_iff hrun hd hne hdec]
      refine ⟨fun h => ⟨h.1, fun d' msg' hd' _ hdec' => ?_⟩, fun h => ⟨h.1, h.2 d msg hd hne hdec⟩⟩
      rw [hd] at hd'
      cases hd'
      rw [hdec] at hdec'
      cases hdec'
      exact h.2
    · push Not at hmsg
      have hempty : ∀ d, poll.arrival = some d → d.bytes = [] := by
        intro d hd
        by_contra hne
        have hnone := Option.eq_none_iff_forall_ne_some.mpr fun msg => hmsg d msg hd hne
        have := hdecodes d hd
        unfold Datagram.malformed at this
        simp [hne, hnone] at this
      rw [hidle poll rfl hempty]
      exact ⟨fun hexp => ⟨hexp, fun d msg hd hne hdec => absurd hdec (hmsg d msg hd hne)⟩,
        Quiet.noneExpired⟩

/-- A turn without a malformed datagram does not end the loop. -/
theorem running_step {r : ServerRuntime} (hrun : r.running = true) {poll : Poll}
    (h : ∀ d, poll.arrival = some d → d.malformed decode = false) :
    (r.step decode timeout poll).running = true := by
  by_cases hempty : ∀ d, poll.arrival = some d → d.bytes = []
  · rw [step_idle hrun hempty]
    exact hrun
  · push Not at hempty
    obtain ⟨d, hd, hne⟩ := hempty
    have hmal := h d hd
    unfold Datagram.malformed at hmal
    cases hdec : decode d.bytes with
    | none => simp [hne, hdec] at hmal
    | some msg => rw [step_message hrun hd hne hdec rfl]

theorem malformed_withoutMalformed {poll : Poll} {d : Datagram}
    (h : (poll.withoutMalformed decode).arrival = some d) : d.malformed decode = false := by
  unfold Poll.withoutMalformed at h
  simpa using (Option.filter_eq_some_iff.mp h).2

/-! ## Whole runs -/

theorem SameEffects.symm {r r' : ServerRuntime} (h : SameEffects r r') : SameEffects r' r :=
  ⟨h.sessions.symm, h.handled.symm, h.sent.symm⟩

theorem SameEffects.trans {r₁ r₂ r₃ : ServerRuntime} (h : SameEffects r₁ r₂)
    (h' : SameEffects r₂ r₃) : SameEffects r₁ r₃ :=
  ⟨h.sessions.trans h'.sessions, h.handled.trans h'.handled, h.sent.trans h'.sent⟩

theorem SameEffects.eq_of_running {r r' : ServerRuntime} (h : SameEffects r r')
    (hr : r.running = true) (hr' : r'.running = true) : r = r' := by
  obtain ⟨hsessions, hhandled, hsent⟩ := h
  cases r
  cases r'
  simp_all

/-- Without the malformed datagrams the loop does not end. -/
theorem running_run_withoutMalformed (polls : List Poll) :
    (ServerRuntime.run decode timeout
      (polls.map (Poll.withoutMalformed decode))).running = true := by
  induction polls using List.reverseRecOn with
  | nil => rfl
  | append_singleton polls poll ih =>
    rw [List.map_append, List.map_singleton, run_concat]
    exact running_step ih fun d hd => malformed_withoutMalformed hd

/-- **One poll more**, while the loop runs: the same with and without the malformed. -/
theorem SameEffects.step_running {r r' : ServerRuntime} (h : SameEffects r r')
    (hr : r.running = true) (hr' : r'.running = true) (poll : Poll) :
    SameEffects (r.step decode timeout poll)
      (r'.step decode timeout (poll.withoutMalformed decode)) := by
  obtain rfl := h.eq_of_running hr hr'
  by_cases hmal : ∃ d, poll.arrival = some d ∧ d.malformed decode = true
  · obtain ⟨d, hd, hmal⟩ := hmal
    rw [step_malformed hr hd hmal, withoutMalformed_of_malformed hd hmal,
      step_waiting hr]
    exact ⟨rfl, rfl, rfl⟩
  · push Not at hmal
    rw [withoutMalformed_eq fun d hd => by simpa using hmal d hd]
    exact ⟨rfl, rfl, rfl⟩

/-- **Malformed datagrams are harmless exactly when every poll after the end of the loop is quiet
for the tables as the loop left them.** -/
theorem harmless_iff (decode : List UInt8 → Option Message) (timeout : Duration)
    (polls : List Poll) :
    Harmless decode timeout polls ↔ Meets (ServerRuntime.step decode timeout)
      (fun r poll => r.running = false → Quiet decode timeout r.sessions poll) {} polls := by
  constructor
  · intro h
    refine meets_iff.mpr fun pre poll hpre hend => ?_
    have hbefore := h pre ((List.prefix_append pre [poll]).trans hpre)
    have hafter := h (pre ++ [poll]) hpre
    change (ServerRuntime.run decode timeout pre).running = false at hend
    rw [List.map_append, List.map_singleton, run_concat, run_concat,
      step_of_not_running hend] at hafter
    have hquiet := (step_withoutMalformed_iff (running_run_withoutMalformed pre) poll).mp
      (hbefore.symm.trans hafter)
    rwa [← hbefore.sessions] at hquiet
  · intro h pre hpre
    replace h := h.of_prefix hpre
    clear hpre
    induction pre using List.reverseRecOn with
    | nil => exact ⟨rfl, rfl, rfl⟩
    | append_singleton pre poll ih =>
      obtain ⟨hpre, hquiet, -⟩ := meets_append.mp h
      have hbefore := ih hpre
      have hrun' : (ServerRuntime.run decode timeout
          (pre.map (Poll.withoutMalformed decode))).running = true :=
        running_run_withoutMalformed pre
      rw [List.map_append, List.map_singleton, run_concat, run_concat]
      cases hend : (ServerRuntime.run decode timeout pre).running with
      | true => exact hbefore.step_running hend hrun' poll
      | false =>
        rw [step_of_not_running hend]
        have hquiet' := hquiet hend
        change Quiet decode timeout (ServerRuntime.run decode timeout pre).sessions poll at hquiet'
        rw [hbefore.sessions] at hquiet'
        exact hbefore.trans ((step_withoutMalformed_iff hrun' poll).mpr hquiet')

/-- The encoding of a heartbeat request. -/
def heartbeatBytes : List UInt8 := [0x0a, 0x06, 0x1a, 0x04, 0x12, 0x02, 0x08, 0x01]

/-- Decodes that heartbeat, and nothing else. -/
def decodeHeartbeat (bytes : List UInt8) : Option Message :=
  if bytes = heartbeatBytes then
    some ⟨some (.request ⟨none, .finite 0, some ⟨some (.heartbeat ⟨1, none⟩)⟩⟩)⟩
  else none

/-- **One byte ends the loop**: after it a heartbeat from another address is not answered. -/
theorem not_harmless_one_byte : ¬Harmless decodeHeartbeat 5
    [⟨0, some ⟨1, [0xff], 0, 0⟩⟩, ⟨1, some ⟨2, heartbeatBytes, 1, 1⟩⟩] := by
  intro h
  have hsent := (h _ (List.prefix_refl _)).sent
  exact absurd hsent (by decide)

end FlyRuler.Transport
