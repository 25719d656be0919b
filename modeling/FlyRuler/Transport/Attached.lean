import FlyRuler.Transport.Datagrams

/-!
# A server that is left alone with a client

The receive loop takes the datagrams of a client in order, among those of others that neither use
its UUID nor speak of its aircraft, and hears of it in time.

* `Attached`: the session of the client.
* `Expects.step_other`, `Expects.step_heard`: one turn of the loop.
* `Expects.run`: what the server hands over of the aircraft.
-/

namespace FlyRuler.Transport.Upload

open FlyRuler.Pb FlyRuler.Store FlyRuler.Lib.Keyed FlyRuler.Transport.AircraftClient

variable {config : Config} {now : F64}

/-! ## The session of the client -/

/-- The session of the client, last heard of at `last`, if it has been heard of: a producer session
at its address, which no other client has had. -/
structure Attached (config : Config) (a : SocketAddr) (last : Option Instant)
    (sessions : SessionState) : Prop where
  session : ∀ t ∈ last, ∃ session, sessions.byAddr.lookup a = some session ∧
    session.role = .producer ∧ session.lastSeenAt = t
  own : ∀ uuid, sessions.byClientUuid.lookup uuid = some a → uuid = uuidToHex config.clientUuid

variable {a : SocketAddr} {last : Option Instant} {sessions : SessionState}

theorem attached_empty : Attached config a none {} where
  session _ h := nomatch h
  own _ h := nomatch h

theorem Attached.role (h : Attached config a last sessions) {t : Instant} (hlast : t ∈ last) :
    sessions.role a = some .producer := by
  obtain ⟨session, hsession, hrole, -⟩ := h.session t hlast
  rw [SessionState.role, hsession, Option.map_some, hrole]

theorem lookup_eraseAll_subset {κ β : Type} [DecidableEq κ] (keys : List κ) (table : Table κ β)
    {k : κ} {v : β} (h : (eraseAll keys table).lookup k = some v) : table.lookup k = some v := by
  rw [lookup_eraseAll] at h
  split_ifs at h
  exact h

theorem Attached.cleanupExpired (h : Attached config a last sessions) {now timeout : ℚ}
    (hheard : ∀ t ∈ last, now - t ≤ timeout) :
    Attached config a last (sessions.cleanupExpired now timeout) := by
  refine ⟨fun t ht => ?_, fun uuid huuid => h.own uuid (lookup_eraseAll_subset _ _ huuid)⟩
  obtain ⟨session, hsession, hrole, hseen⟩ := h.session t ht
  refine ⟨session, ?_, hrole, hseen⟩
  rw [SessionState.lookup_cleanupExpired, hsession]
  simp [Option.filter, SessionState.isExpired, hseen, hheard t ht]

theorem Attached.touchAddr_self (h : Attached config a last sessions) (now : Instant) :
    Attached config a (last.map fun _ => now) (sessions.touchAddr now a) := by
  refine ⟨fun t ht => ?_, h.own⟩
  obtain ⟨t', ht', rfl⟩ := Option.mem_map.mp ht
  obtain ⟨session, hsession, hrole, -⟩ := h.session t' ht'
  exact ⟨{ session with lastSeenAt := now },
    by rw [SessionState.lookup_touchAddr, if_pos rfl, hsession]; rfl, hrole, rfl⟩

/-- What leaves the session at the address and the table of the UUIDs as they are. -/
theorem Attached.of_same (h : Attached config a last sessions) {sessions' : SessionState}
    (haddr : sessions'.byAddr.lookup a = sessions.byAddr.lookup a)
    (huuid : sessions'.byClientUuid = sessions.byClientUuid) : Attached config a last sessions' :=
  ⟨by rw [haddr]; exact h.session, by rw [huuid]; exact h.own⟩

theorem Attached.touchAddr_other (h : Attached config a last sessions) (now : Instant)
    {b : SocketAddr} (hb : b ≠ a) : Attached config a last (sessions.touchAddr now b) :=
  h.of_same (by rw [SessionState.lookup_touchAddr, if_neg (Ne.symm hb)]) rfl

/-- Another client takes a session at its own address. -/
theorem Attached.setSession_other (h : Attached config a last sessions) (now : Instant)
    {b : SocketAddr} (hb : b ≠ a) {uuid : String} (huuid : uuid ≠ uuidToHex config.clientUuid)
    (role : ClientRole) : Attached config a last (sessions.setSession now b uuid role) := by
  constructor
  · rw [SessionState.lookup_setSession, if_neg (Ne.symm hb),
      if_neg fun hown => huuid (h.own uuid hown)]
    exact h.session
  · intro uuid' huuid'
    rw [SessionState.setSession] at huuid'
    simp only [lookup_insert] at huuid'
    split_ifs at huuid'
    · exact absurd (Option.some.inj huuid') hb
    · exact h.own uuid' huuid'

theorem attached_setSession (h : Attached config a last sessions) (now : Instant) :
    Attached config a (some now)
      (sessions.setSession now a (uuidToHex config.clientUuid) .producer) := by
  constructor
  · intro t ht
    obtain rfl := Option.some.inj ht
    refine ⟨{ clientUuidHex := uuidToHex config.clientUuid, role := .producer, lastSeenAt := now },
      ?_, rfl, rfl⟩
    rw [SessionState.lookup_setSession, if_pos rfl]
  · intro uuid huuid
    rw [SessionState.setSession] at huuid
    simp only [lookup_insert] at huuid
    split_ifs at huuid with hsame
    · exact hsame
    · exact h.own uuid huuid

/-- **A message of another client** leaves the session alone. -/
theorem Attached.handleMessage_other (h : Attached config a last sessions) {d : Datagram}
    (hd : d.addr ≠ a) {msg : Message}
    (hother : clientUuidOf msg ≠ some (uuidToHex config.clientUuid)) :
    Attached config a last (sessions.handleMessage d msg (clientUuidOf msg)).1 := by
  unfold SessionState.handleMessage
  rcases hcommand : commandOf msg with _ | ⟨req, kind⟩
  · exact h
  cases kind with
  | handshake hs =>
    rw [clientUuidOf_handshake hcommand] at hother ⊢
    generalize hs.clientUuid.map uuidToHex = named at hother ⊢
    simp only [SessionState.handleCommand]
    split
    · split
      · exact h
      · next uuid _ =>
        exact h.setSession_other d.receivedAt hd (fun heq => hother (congrArg some heq)) _
      · exact h
    · exact h
  | heartbeat hb => exact h
  | cursorSubscribe value =>
    simp only [SessionState.handleCommand]
    split
    · split
      · exact h
      · next hz _ _ =>
        have hsame : Attached config a last (sessions.subscribeCursor d.addr hz).1 :=
          h.of_same (by rw [SessionState.lookup_subscribeCursor, if_neg (Ne.symm hd)]) rfl
        split <;> next heq => rwa [heq] at hsame
    · exact h
  | cursorEventAck value =>
    refine h.of_same ?_ rfl
    exact (SessionState.lookup_acknowledgeCursorEvent _ _ _ _).trans (if_neg (Ne.symm hd))
  | aircraftEvent event =>
    simp only [SessionState.handleCommand]
    split <;> exact h

/-- **An ordinary message of the client** changes no session, and is handed over if it is about the
aircraft. -/
theorem Attached.handleMessage_ordinary {t : Instant} (h : Attached config a (some t) sessions)
    {d : Datagram} (hd : d.addr = a) {msg : Message} (hmsg : Ordinary config msg) :
    (sessions.handleMessage d msg (clientUuidOf msg)).1 = sessions ∧
      sessions.isProducerEvent d msg = about config msg := by
  have hrole := h.role rfl
  rcases hmsg with ⟨req, heartbeat, hcommand⟩ | ⟨⟨req, event, hcommand⟩, t', info, habout⟩
  · rw [not_about_of_heartbeat hcommand]
    unfold SessionState.handleMessage SessionState.isProducerEvent
    rw [hcommand]
    exact ⟨rfl, rfl⟩
  · rw [about_of_command habout]
    unfold SessionState.handleMessage SessionState.isProducerEvent
    rw [hcommand]
    dsimp only [SessionState.handleCommand]
    rw [hd, hrole]
    exact ⟨rfl, rfl⟩

/-- **The handshake of the client** makes it a producer at its address. -/
theorem handleMessage_handshake (sessions : SessionState) {d : Datagram} (now : F64) :
    let msg := buildHandshakeMessage now config.clientUuid
    (sessions.handleMessage d msg (clientUuidOf msg)).1 =
        sessions.setSession d.receivedAt d.addr (uuidToHex config.clientUuid) .producer ∧
      (∀ sessions : SessionState, sessions.isProducerEvent d msg = false) ∧
        about config msg = false := by
  refine ⟨?_, fun _ => rfl, rfl⟩
  have hversion : (⟨protocolVersion, some config.clientUuid, 1⟩ : Handshake).version =
    protocolVersion := rfl
  simp only [SessionState.handleMessage, commandOf, buildHandshakeMessage, makeRequest,
    Option.bind_some, Option.map_some, SessionState.handleCommand, if_pos, clientUuidOf]
  rfl

/-! ## The server and the network -/

/-- The datagram that the server hears of the client in a turn. -/
def heardOf (a : SocketAddr) (poll : Poll) : Option Datagram :=
  poll.arrival.filter fun d => d.addr == a && !d.bytes.isEmpty

section Network

variable (config : Config) (decode : List UInt8 → Option Message) (timeout : Duration)
  (a : SocketAddr)

/-- The messages that arrive from the client, in order. -/
def deliveries (polls : List Poll) : List Message :=
  polls.filterMap fun poll => (heardOf a poll).bind fun d => decode d.bytes

/-- Every datagram decodes, and the others neither use the UUID of the client nor speak of its
aircraft. -/
def Undisturbed (poll : Poll) : Prop :=
  ∀ d ∈ poll.arrival, d.bytes ≠ [] → ∃ msg ∈ decode d.bytes, d.addr = a ∨
    clientUuidOf msg ≠ some (uuidToHex config.clientUuid) ∧ about config msg = false

instance (poll : Poll) : Decidable (Undisturbed config decode a poll) := by
  unfold Undisturbed; infer_instance

/-- When the client was heard of last, after a turn. -/
def lastHeard (last : Option Instant) (poll : Poll) : Option Instant :=
  match heardOf a poll with
  | some d => some d.receivedAt
  | none => last

/-- As long as something is to come from the client, it is not silent for longer than the
timeout. -/
def Heard : Option Instant → List Poll → Prop
  | _, [] => True
  | last, poll :: polls =>
    (deliveries decode a (poll :: polls) ≠ [] → ∀ t ∈ last, poll.now - t ≤ timeout) ∧
      Heard (lastHeard a last poll) polls

instance decidableHeard : (last : Option Instant) → (polls : List Poll) →
    Decidable (Heard decode timeout a last polls)
  | _, [] => .isTrue trivial
  | last, poll :: polls =>
    @instDecidableAnd _ _ inferInstance (decidableHeard (lastHeard a last poll) polls)

/-- What is still to come from a client that was heard of or not. -/
def Script (now : F64) (last : Option Instant) (messages : List Message) : Prop :=
  match last with
  | none => ∃ rest, messages = buildHandshakeMessage now config.clientUuid :: rest ∧
      ∀ msg ∈ rest, Ordinary config msg
  | some _ => ∀ msg ∈ messages, Ordinary config msg

end Network

variable {decode : List UInt8 → Option Message} {timeout : Duration} {r : ServerRuntime}
  {poll : Poll} {polls : List Poll}

theorem heardOf_of_arrival {d : Datagram} (harrival : poll.arrival = some d)
    (hbytes : d.bytes ≠ []) : heardOf a poll = if d.addr = a then some d else none := by
  unfold heardOf
  rw [harrival]
  by_cases haddr : d.addr = a
  · simp [Option.filter, haddr, hbytes]
  · simp [Option.filter, haddr]

theorem deliveries_cons (poll : Poll) (polls : List Poll) :
    deliveries decode a (poll :: polls) =
      ((heardOf a poll).bind fun d => decode d.bytes).toList ++ deliveries decode a polls := by
  rw [deliveries, List.filterMap_cons]
  rcases (heardOf a poll).bind fun d => decode d.bytes with _ | msg <;> rfl

/-- What is to be expected before a number of turns. -/
structure Expects (config : Config) (decode : List UInt8 → Option Message) (timeout : Duration)
    (a : SocketAddr) (now : F64) (last : Option Instant) (r : ServerRuntime) (polls : List Poll) :
    Prop where
  running : r.running = true
  attached : deliveries decode a polls ≠ [] → Attached config a last r.sessions
  script : Script config now last (deliveries decode a polls)
  heard : Heard decode timeout a last polls
  undisturbed : ∀ poll ∈ polls, Undisturbed config decode a poll

/-- The events about the aircraft that were handed over. -/
def handedOver (config : Config) (r : ServerRuntime) : List (Message × SocketAddr) :=
  r.handled.filter fun e => about config e.1

/-- A turn in which nothing is heard of the client: what comes of others changes nothing for it. -/
theorem Expects.step_other (h : Expects config decode timeout a now last r (poll :: polls))
    (hnone : heardOf a poll = none) :
    Expects config decode timeout a now last (r.step decode timeout poll) polls ∧
      handedOver config (r.step decode timeout poll) = handedOver config r := by
  have hsame : deliveries decode a (poll :: polls) = deliveries decode a polls := by
    rw [deliveries_cons, hnone]
    rfl
  have hlast : lastHeard a last poll = last := by rw [lastHeard, hnone]
  obtain ⟨hnow, hheard⟩ := h.heard
  rw [hlast] at hheard
  have hscript := h.script
  rw [hsame] at hscript hnow
  have hattached : deliveries decode a polls ≠ [] →
      Attached config a last (r.sessions.cleanupExpired poll.now timeout) := by
    intro hmore
    exact (h.attached (hsame ▸ hmore)).cleanupExpired (hnow hmore)
  have hrest := fun poll' hpoll' => h.undisturbed poll' (List.mem_cons_of_mem _ hpoll')
  by_cases hidle : ∀ d, poll.arrival = some d → d.bytes = []
  · rw [step_idle h.running hidle]
    exact ⟨⟨h.running, hattached, hscript, hheard, hrest⟩, rfl⟩
  · push Not at hidle
    obtain ⟨d, harrival, hbytes⟩ := hidle
    have haddr : d.addr ≠ a := by
      intro haddr
      rw [heardOf_of_arrival harrival hbytes, if_pos haddr] at hnone
      cases hnone
    obtain ⟨msg, hdecode, hother⟩ :=
      h.undisturbed poll List.mem_cons_self d harrival hbytes
    obtain ⟨huuid, habout⟩ := hother.resolve_left haddr
    rw [step_message h.running harrival hbytes hdecode rfl]
    refine ⟨⟨rfl, fun hmore => ?_, hscript, hheard, hrest⟩, ?_⟩
    · exact ((hattached hmore).touchAddr_other _ haddr).handleMessage_other haddr huuid
    · rw [handedOver, List.filter_append]
      split_ifs
      · rw [List.filter_cons_of_neg (by simp [habout]), List.filter_nil, List.append_nil]
        rfl
      · rw [List.filter_nil, List.append_nil]
        rfl

/-- A turn in which the next message of the client arrives. -/
theorem Expects.step_heard (h : Expects config decode timeout a now last r (poll :: polls))
    {d : Datagram} (hd : heardOf a poll = some d) :
    ∃ msg ∈ decode d.bytes,
      Expects config decode timeout a now (some d.receivedAt) (r.step decode timeout poll) polls ∧
        handedOver config (r.step decode timeout poll) =
          handedOver config r ++ [(msg, a)].filter fun e => about config e.1 := by
  obtain ⟨harrival, hpred⟩ := Option.filter_eq_some_iff.mp hd
  simp only [Bool.and_eq_true, beq_iff_eq, Bool.not_eq_true', List.isEmpty_eq_false_iff] at hpred
  obtain ⟨haddr, hbytes⟩ := hpred
  obtain ⟨msg, hdecode, -⟩ := h.undisturbed poll List.mem_cons_self d harrival hbytes
  have hmsgs : deliveries decode a (poll :: polls) = msg :: deliveries decode a polls := by
    rw [deliveries_cons, hd, Option.bind_some, Option.mem_def.mp hdecode]
    rfl
  have hlast : lastHeard a last poll = some d.receivedAt := by rw [lastHeard, hd]
  obtain ⟨hnow, hheard⟩ := h.heard
  rw [hlast] at hheard
  have hmore : deliveries decode a (poll :: polls) ≠ [] := by
    rw [hmsgs]
    exact List.cons_ne_nil _ _
  have hattached : Attached config a (last.map fun _ => d.receivedAt)
      ((r.sessions.cleanupExpired poll.now timeout).touchAddr d.receivedAt d.addr) := by
    rw [haddr]
    exact ((h.attached hmore).cleanupExpired (hnow hmore)).touchAddr_self d.receivedAt
  have hrest := fun poll' hpoll' => h.undisturbed poll' (List.mem_cons_of_mem _ hpoll')
  have hscript := h.script
  rw [hmsgs] at hscript
  refine ⟨msg, hdecode, ?_⟩
  rw [step_message h.running harrival hbytes hdecode rfl]
  rcases last with _ | t
  · -- the handshake
    obtain ⟨rest, heq, hordinary⟩ := hscript
    obtain ⟨rfl, rfl⟩ := List.cons.inj heq
    obtain ⟨hset, hevent, habout⟩ := handleMessage_handshake
      ((r.sessions.cleanupExpired poll.now timeout).touchAddr d.receivedAt d.addr) now
    refine ⟨⟨rfl, fun _ => ?_, hordinary, hheard, hrest⟩, ?_⟩
    · rw [hset, haddr]
      exact attached_setSession (haddr ▸ hattached) d.receivedAt
    · rw [handedOver, hevent, if_neg Bool.false_ne_true, List.append_nil,
        List.filter_cons_of_neg (by simp [habout]), List.filter_nil, List.append_nil]
      rfl
  · obtain ⟨hmsg, hordinary⟩ := List.forall_mem_cons.mp hscript
    obtain ⟨hkept, hevent⟩ := hattached.handleMessage_ordinary haddr hmsg
    rw [hkept]
    refine ⟨⟨rfl, fun _ => hattached, hordinary, hheard, hrest⟩, ?_⟩
    rw [handedOver, hevent, List.filter_append, haddr]
    rcases hover : about config msg with _ | _
    · simp [hover, handedOver]
    · simp [hover, handedOver]

/-- **What the server hands over** of the aircraft is what arrives of it, in order. -/
theorem Expects.run (h : Expects config decode timeout a now last r polls) :
    handedOver config (polls.foldl (ServerRuntime.step decode timeout) r) =
      handedOver config r ++
        ((deliveries decode a polls).filter (about config)).map fun msg => (msg, a) := by
  induction polls generalizing last r with
  | nil => simp [deliveries]
  | cons poll polls ih =>
    rw [List.foldl_cons, deliveries_cons, List.filter_append, List.map_append]
    rcases hd : heardOf a poll with _ | d
    · obtain ⟨hnext, hover⟩ := h.step_other hd
      rw [ih hnext, hover]
      rfl
    · obtain ⟨msg, hdecode, hnext, hover⟩ := h.step_heard hd
      rw [ih hnext, hover, Option.bind_some, Option.mem_def.mp hdecode, List.append_assoc]
      rcases hmsg : about config msg with _ | _ <;> simp [hmsg]

end FlyRuler.Transport.Upload
