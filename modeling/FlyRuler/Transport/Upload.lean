import FlyRuler.Store.Order
import FlyRuler.Store.Query
import FlyRuler.Transport.AircraftClient
import FlyRuler.Transport.Ingestion

/-!
# From the calls of a client to the store of a server

The caller of an `AircraftClient` asks for states, events and telemetry frames; they end up in the
store of a server.  In between are the tasks of the client, a network that loses, repeats and
reorders datagrams, the steps of the receive loop, other clients, the publisher and the gate.

* `messageCommand_outbound`: what the server reads off a message is what the caller asked for.
* `Sound.step`: what every step of the client and of the server keeps.
* `upload_sound`: under the id of the aircraft the store holds nothing that was not asked for.
-/

namespace FlyRuler.Transport.Upload

open FlyRuler.Pb FlyRuler.Store FlyRuler.Store.TimeSeriesStore FlyRuler.Lib.TimeOrder
open FlyRuler.Lib.Relay FlyRuler.Transport.AircraftClient

/-! ## What the caller asks for -/

/-- The id under which the server knows the aircraft. -/
def aircraftId (config : Config) : AircraftId := uuidToHex config.aircraftUuid

def spawnInfo (config : Config) : AircraftSpawnInfo :=
  ⟨config.aircraftName, config.tomlConfig, some config.initialState, config.telemetrySchemas⟩

/-- The command that an item is sent as. -/
def command (config : Config) : Item → Option AircraftCommandInfo.Kind
  | .spawn => some (.spawn (spawnInfo config))
  | .operation (.updateState state _) => some (.stateUpdate state)
  | .operation (.createEvent eventName _) => some (.customEvent eventName)
  | .operation (.publishTelemetry frame _) => some (.telemetryFrame frame)
  | .operation (.despawn reason _) => some (.despawn ⟨reason⟩)
  | .operation .stop => none

/-- The timestamp that is given for an item; without one the clock is read. -/
def givenTimestamp (config : Config) : Item → Option F64
  | .spawn => config.spawnTimestamp
  | .operation (.updateState _ timestamp) => timestamp
  | .operation (.createEvent _ timestamp) => timestamp
  | .operation (.publishTelemetry _ timestamp) => timestamp
  | .operation (.despawn _ timestamp) => timestamp
  | .operation .stop => none

/-- The items of the calls accepted so far, with the spawn. -/
def items (s : State) : List Item := .spawn :: (accepted s.calls).2.map .operation

/-- The caller has asked for this entry of the store, at this time if one was given. -/
def Asked (config : Config) (s : State) (t : Secs) (entry : Entry) : Prop :=
  ∃ item ∈ items s, ∃ info, command config item = some info ∧ entry ∈ commandEntries info ∧
    ∀ given ∈ givenTimestamp config item, given = .finite t

/-- The message is about the aircraft. -/
def about (config : Config) (msg : Message) : Bool :=
  (messageCommand msg).any fun c => c.1 == aircraftId config

variable {config : Config} {s : State}

theorem about_of_command {msg : Message} {timestamp : F64} {info : AircraftCommandInfo.Kind}
    (h : messageCommand msg = some (aircraftId config, timestamp, info)) :
    about config msg = true := by
  rw [about, h, Option.any_some, beq_self_eq_true]

/-- **What the server reads off a message** is what its item asks for. -/
theorem messageCommand_outbound {item : Item} {now : F64} {msg : Message}
    (h : item.outbound config now = .send msg) :
    ∃ info, command config item = some info ∧ messageCommand msg =
      some (aircraftId config, (givenTimestamp config item).getD now, info) := by
  rcases item with _ | (⟨state, ts⟩ | ⟨eventName, ts⟩ | ⟨frame, ts⟩ | ⟨reason, ts⟩ | _)
  all_goals
    cases h
  all_goals
    exact ⟨_, rfl, rfl⟩

theorem isAircraftEvent_of_command {msg : Message}
    {c : AircraftId × F64 × AircraftCommandInfo.Kind} (h : messageCommand msg = some c) :
    AircraftClient.isAircraftEvent msg = true := by
  obtain ⟨_ | ⟨⟨reqId, timestamp, _ | ⟨_ | kind⟩⟩⟩ | _ | _⟩ := msg <;> try cases h
  rcases kind with _ | _ | _ | _ | event <;> first | rfl | cases h

/-- **Every message about the aircraft** that the client has sent is that of an item. -/
theorem item_of_sent (h : AircraftClient.Inv config s) {msg : Message} (hsent : msg ∈ s.sent)
    (haircraft : AircraftClient.isAircraftEvent msg = true) :
    ∃ item ∈ items s, item.Becomes config (.send msg) := by
  have hmem : Outbound.send msg ∈ s.traffic.filter Outbound.isEvent := by
    refine List.mem_filter.mpr ⟨?_, haircraft⟩
    rw [State.traffic, List.append_assoc]
    exact List.mem_append_left _ (List.mem_map_of_mem hsent)
  obtain ⟨front, hdue, hpassed⟩ := h.relayed
  obtain ⟨item, hitem, hbecomes⟩ := exists_of_mem_right hpassed hmem
  refine ⟨item, ?_, hbecomes⟩
  have hdue' : item ∈ s.due := by
    rw [hdue]
    exact List.mem_append_left _ hitem
  rcases List.mem_append.mp hdue' with hasked | hstop
  · exact hasked
  · -- the marker is no message
    have heq : item = .operation .stop := by
      split at hstop
      · exact absurd hstop List.not_mem_nil
      · exact List.mem_singleton.mp hstop
    subst heq
    obtain ⟨now, hnow⟩ := hbecomes
    cases hnow

/-- A message that the client has sent asks the server for what the caller asked for. -/
theorem asked_of_sent (h : AircraftClient.Inv config s) {msg : Message} (hsent : msg ∈ s.sent)
    {id : AircraftId} {t : Secs} {info : AircraftCommandInfo.Kind}
    (hcommand : messageCommand msg = some (id, .finite t, info)) {entry : Entry}
    (hentry : entry ∈ commandEntries info) : Asked config s t entry := by
  obtain ⟨item, hitem, hbecomes⟩ := item_of_sent h hsent (isAircraftEvent_of_command hcommand)
  obtain ⟨now, houtbound⟩ := hbecomes
  obtain ⟨info', hinfo, hread⟩ := messageCommand_outbound houtbound.symm
  rw [hread] at hcommand
  obtain ⟨-, htime, rfl⟩ : aircraftId config = id ∧
      (givenTimestamp config item).getD now = F64.finite t ∧ info' = info := by
    simpa using hcommand
  refine ⟨item, hitem, info', hinfo, hentry, fun given hgiven => ?_⟩
  rw [Option.mem_def.mp hgiven] at htime
  exact htime

/-- The only spawn among the entries of an item is the one of the configuration. -/
theorem spawn_of_item {item : Item} {info : AircraftCommandInfo.Kind}
    (hinfo : command config item = some info) {spawn : AircraftSpawnInfo}
    (hentry : Entry.event (.spawn spawn) ∈ commandEntries info) : spawn = spawnInfo config := by
  rcases item with _ | (_ | _ | _ | _ | _)
  all_goals
    cases hinfo
  · simp only [commandEntries] at hentry
    split at hentry
    · exact absurd hentry List.not_mem_nil
    · simpa [spawnInfo] using hentry
  all_goals
    simp [commandEntries] at hentry

theorem Asked.spawn {t : Secs} {spawn : AircraftSpawnInfo}
    (h : Asked config s t (.event (.spawn spawn))) : spawn = spawnInfo config := by
  obtain ⟨item, -, info, hinfo, hentry, -⟩ := h
  exact spawn_of_item hinfo hentry

/-! ## The client only adds -/

theorem calls_trySendOperation (s : State) (op : Operation) :
    (s.trySendOperation op).calls = s.calls := by
  rw [State.trySendOperation]
  split
  · next hsend =>
    obtain ⟨-, rfl⟩ := of_sendOperation hsend
    rfl
  · rfl

theorem calls_sendOutbound (s : State) (outbound : Outbound) :
    (s.sendOutbound outbound).calls = s.calls := by
  rw [State.sendOutbound]
  split <;> rfl

theorem calls_closeStep (s : State) : s.closeStep.calls = s.calls := by
  rw [State.closeStep]
  rcases s.caller with _ | _ | _ | _ | _ | _
  · rfl
  · rfl
  · exact calls_trySendOperation s _
  all_goals
    dsimp only
    split <;> rfl

/-- **A step** adds to what was sent and to what was called. -/
theorem prefix_step (config : Config) (s : State) (action : Action) :
    s.sent <+: (step config s action).sent ∧ s.calls <+: (step config s action).calls := by
  have hkept : ∀ {s' : State}, s'.sent = s.sent → s'.calls = s.calls →
      s.sent <+: s'.sent ∧ s.calls <+: s'.calls := by
    intro s' hsent hcalls
    exact ⟨hsent ▸ List.prefix_refl _, hcalls ▸ List.prefix_refl _⟩
  cases action with
  | call c =>
    rw [AircraftClient.step]
    split
    · refine ⟨(sent_call s c).2 ▸ List.prefix_refl _, ?_⟩
      rw [State.call]
      split <;> exact List.prefix_append _ _
    · exact hkept rfl rfl
  | close => exact hkept (sent_closeStep s).2 (calls_closeStep s)
  | operation now =>
    rw [AircraftClient.step, State.operationStep]
    split
    · exact hkept (sent_sendOutbound s _).2 (calls_sendOutbound s _)
    · split
      · split <;> exact hkept rfl rfl
      · exact hkept rfl rfl
    · exact hkept (sent_sendOutbound s _).2 (calls_sendOutbound s _)
    · exact hkept rfl rfl
  | tick now =>
    rw [AircraftClient.step, State.tick]
    split
    · exact hkept rfl rfl
    · exact hkept rfl rfl
    · exact hkept (sent_sendOutbound s _).2 (calls_sendOutbound s _)
    · exact hkept rfl rfl
  | changed =>
    rw [AircraftClient.step, State.changed]
    split
    · split <;> exact hkept rfl rfl
    · exact hkept rfl rfl
  | sender =>
    rw [AircraftClient.step, State.senderStep]
    split
    · split
      · split <;> exact hkept rfl rfl
      · exact hkept rfl rfl
      · exact hkept rfl rfl
    · exact ⟨List.prefix_append _ _, List.prefix_refl _⟩
    · exact hkept rfl rfl

theorem prefix_accept (asked : Bool × List Operation) (c : Call × Except ClientError Unit) :
    asked.2 <+: (accept asked c).2 := by
  rcases accept_cases asked c with h | ⟨op, -, -, h⟩ | ⟨-, reason, timestamp, h⟩
  · exact ⟨[], by rw [h, List.append_nil]⟩
  · exact ⟨_, by rw [h]⟩
  · exact ⟨_, by rw [h]⟩

theorem prefix_accepted (calls more : List (Call × Except ClientError Unit)) :
    (accepted calls).2 <+: (accepted (calls ++ more)).2 := by
  induction more using List.reverseRecOn with
  | nil => exact ⟨[], by rw [List.append_nil, List.append_nil]⟩
  | append_singleton more c ih =>
    rw [← List.append_assoc, accepted_concat]
    exact ih.trans (prefix_accept _ c)

/-- What was asked for stays asked for. -/
theorem Asked.step {t : Secs} {entry : Entry} (h : Asked config s t entry) (action : Action) :
    Asked config (AircraftClient.step config s action) t entry := by
  obtain ⟨item, hitem, hrest⟩ := h
  obtain ⟨more, hmore⟩ := (prefix_step config s action).2
  refine ⟨item, ?_, hrest⟩
  rw [items, ← hmore]
  refine (List.cons_subset_cons _ ?_) hitem
  exact List.map_subset _ (prefix_accepted s.calls more).subset

/-! ## What the server holds -/

/-- The message that the server takes from the socket in this step. -/
def taken (decode : List UInt8 → Option Message) (w : World) : ServerEvent → Option Message
  | .loop poll =>
    match w.loop with
    | .waiting => poll.arrival.bind fun d => if d.bytes = [] then none else decode d.bytes
    | _ => none
  | _ => none

/-- The messages that the loop holds. -/
def hand (w : World) : List Message :=
  (match w.loop with
    | .touching msg _ | .handling msg _ | .answering _ msg _ | .forwarding msg _
    | .admitting msg _ => [msg]
    | _ => []) ++ w.pendingEvents.map Prod.fst

section Server

variable {decode : List UInt8 → Option Message} {timeout : Duration}

/-- A message that the loop holds was held before, or has just been taken. -/
theorem hand_step (w : World) (event : ServerEvent) {msg : Message}
    (h : msg ∈ hand (w.step decode timeout event)) :
    msg ∈ hand w ∨ msg ∈ taken decode w event := by
  rcases event with poll | _ | op | enabled
  · unfold World.step World.loopStep at h
    unfold hand taken
    rcases hloop : w.loop with _ | expired | _ | ⟨msg', d⟩ | ⟨msg', d⟩ | ⟨ack, msg', d⟩ |
      ⟨msg', d⟩ | _ | ⟨msg', source⟩ | _ <;> rw [hloop] at h
    · exact .inl (by simpa [hand] using h)
    · exact .inl (by simpa [hand] using h)
    · simp only [hand, waitingNext] at h
      rcases harrival : poll.arrival with _ | d
      · rw [harrival] at h
        exact .inl (by simpa using h)
      · rw [harrival] at h
        dsimp only at h
        by_cases hbytes : d.bytes = []
        · rw [if_pos hbytes] at h
          exact .inl (by simpa using h)
        · rw [if_neg hbytes] at h
          rcases hdecode : decode d.bytes with _ | msg'
          · rw [hdecode] at h
            exact .inl (by simpa using h)
          · rw [hdecode] at h
            rcases List.mem_append.mp h with h | h
            · refine .inr ?_
              rw [List.mem_singleton.mp h]
              show poll.arrival.bind _ = some msg'
              rw [harrival, Option.bind_some, if_neg hbytes, hdecode]
            · exact .inl (List.mem_append_right _ h)
    · exact .inl (by simpa [hand] using h)
    · refine .inl ?_
      rcases hack : (w.sessions.handleMessage d msg' (clientUuidOf msg')).2 with _ | ack <;>
        simpa [hand, hack] using h
    · exact .inl (by simpa [hand] using h)
    · refine .inl ?_
      simp only [hand, List.nil_append, List.map_append, List.mem_append] at h
      rcases h with h | h
      · exact List.mem_append_right _ h
      · refine List.mem_append_left _ ?_
        split_ifs at h
        · simpa using h
        · simp at h
    · refine .inl ?_
      rcases hpending : w.pendingEvents with _ | ⟨⟨msg', source⟩, rest⟩
      · rw [hpending] at h
        simp [hand] at h
      · rw [hpending] at h
        dsimp only at h
        split_ifs at h <;> simp [hand] at h ⊢ <;> tauto
    · exact .inl (by simp [hand] at h ⊢; tauto)
    · exact .inl (by simpa [hand, hloop] using h)
  · refine .inl ?_
    unfold World.step hand LoopState.cancel at h
    unfold hand
    rcases hloop : w.loop with _ | expired | _ | ⟨msg', d⟩ | ⟨msg', d⟩ | ⟨ack, msg', d⟩ |
      ⟨msg', d⟩ | _ | ⟨msg', source⟩ | _ <;> rw [hloop] at h
    all_goals
      simp only [List.mem_append] at h ⊢
      first | exact h | exact .inr (h.resolve_left List.not_mem_nil)
  · exact .inl h
  · exact .inl h

/-- The store only takes messages that the loop holds. -/
theorem store_step (w : World) (event : ServerEvent) :
    (w.step decode timeout event).store = w.store ∨
      ∃ now, ∃ msg ∈ hand w,
        (w.step decode timeout event).store = w.store.appendMessage now msg := by
  rcases step_effect decode timeout w event with ⟨-, hstore, -⟩ | ⟨_, _, -, -, hstore, -⟩ |
    ⟨_, _, _, -, -, hstore, -⟩ | ⟨poll, msg, source, hloop, -, -, hstore, -⟩
  · exact .inl hstore
  · exact .inl hstore
  · exact .inl hstore
  · split_ifs at hstore
    · refine .inr ⟨poll.now, msg, ?_, hstore⟩
      unfold hand
      rw [hloop]
      exact List.mem_append_left _ List.mem_cons_self
    · exact .inl hstore

end Server

/-! ## What the store holds -/

/-- The entry is in the series, at this time. -/
def Holds (series : AircraftTimeSeries) (t : Secs) : Entry → Prop
  | .state state => ⟨t, state⟩ ∈ series.states.entries
  | .event event => ⟨t, event⟩ ∈ series.events.entries
  | .telemetry frame => ⟨t, frame⟩ ∈ series.telemetry.entries

theorem holds_add {series : AircraftTimeSeries} {t t' : Secs} {entry entry' : Entry}
    (h : Holds (series.add t entry) t' entry') :
    t' = t ∧ entry' = entry ∨ Holds series t' entry' := by
  cases entry <;> cases entry' <;>
    simp only [Holds, AircraftTimeSeries.add, Timeline.mem_append, Stamped.mk.injEq] at h ⊢ <;>
    first
      | exact .inr h
      | exact h.elim (fun h => .inl ⟨h.1, by rw [h.2]⟩) .inr

/-- What the store may hold of the aircraft, `Claimed` being what it may hold at some time: frames
that fit the schemas of the configuration, which the series has or not. -/
structure Conforms (config : Config) (Claimed : Secs → Entry → Prop)
    (series : AircraftTimeSeries) : Prop where
  claimed : ∀ t entry, Holds series t entry → Claimed t entry
  fits : ∀ t frame, Holds series t (.telemetry frame) →
    validateTelemetryFrame config.telemetrySchemas frame = .ok ()
  config : series.config = none ∨ series.config =
    some ⟨config.aircraftName, config.tomlConfig, config.telemetrySchemas⟩

variable {Claimed Claimed' : Secs → Entry → Prop} {series : AircraftTimeSeries}

theorem Conforms.mono (h : Conforms config Claimed series)
    (hclaimed : ∀ t entry, Claimed t entry → Claimed' t entry) : Conforms config Claimed' series :=
  ⟨fun t entry hholds => hclaimed t entry (h.claimed t entry hholds), h.fits, h.config⟩

theorem conforms_empty : Conforms config Claimed {} where
  claimed t entry h := by cases entry <;> exact absurd h List.not_mem_nil
  fits t frame h := absurd h List.not_mem_nil
  config := .inl rfl

theorem Conforms.add (h : Conforms config Claimed series) {t : Secs} {entry : Entry}
    (hclaimed : Claimed t entry)
    (hspawn : ∀ spawn, entry = .event (.spawn spawn) → spawn = spawnInfo config)
    (hfits : ∀ frame, entry = .telemetry frame →
      validateTelemetryFrame config.telemetrySchemas frame = .ok ()) :
    Conforms config Claimed (series.add t entry) := by
  refine ⟨fun t' entry' hholds => ?_, fun t' frame hholds => ?_, ?_⟩
  · rcases holds_add hholds with ⟨rfl, rfl⟩ | hold
    · exact hclaimed
    · exact h.claimed t' entry' hold
  · rcases holds_add hholds with ⟨-, heq⟩ | hold
    · exact hfits frame heq.symm
    · exact h.fits t' frame hold
  · rcases entry with state | (spawn | despawn | name) | frame
    · exact h.config
    · obtain rfl := hspawn spawn rfl
      exact .inr rfl
    · exact h.config
    · exact h.config
    · exact h.config

/-- A frame that the series accepts fits the schemas of the configuration. -/
theorem Conforms.fits_of_accepts (h : Conforms config Claimed series) {frame : TelemetryFrame}
    (hfits : (validateTelemetryFrame (schemas series) frame).isOk = true) :
    validateTelemetryFrame config.telemetrySchemas frame = .ok () := by
  rcases h.config with hnone | hsome
  · unfold schemas at hfits
    rw [hnone] at hfits
    exact absurd hfits (by simp [validateTelemetryFrame, Except.isOk, Except.toBool])
  · unfold schemas at hfits
    rw [hsome] at hfits
    rcases ok_or_error (validateTelemetryFrame config.telemetrySchemas frame) with hok | ⟨e, he⟩
    · exact hok
    · rw [he] at hfits
      exact absurd hfits (by simp [Except.isOk, Except.toBool])

theorem series_foldl_add {store : TimeSeriesStore} {id : AircraftId} {l : List Arrival}
    (h : Conforms config Claimed (store.series id))
    (hclaimed : ∀ a ∈ l, a.id = id → Claimed a.stamp a.entry)
    (hspawn : ∀ a ∈ l, a.id = id → ∀ spawn, a.entry = .event (.spawn spawn) →
      spawn = spawnInfo config)
    (hfits : ∀ a ∈ l, a.id = id → ∀ frame, a.entry = .telemetry frame →
      validateTelemetryFrame config.telemetrySchemas frame = .ok ()) :
    Conforms config Claimed ((l.foldl TimeSeriesStore.add store).series id) := by
  induction l generalizing store with
  | nil => exact h
  | cons a l ih =>
    rw [List.forall_mem_cons] at hclaimed hspawn hfits
    refine ih ?_ hclaimed.2 hspawn.2 hfits.2
    rw [series_add]
    split_ifs with hid
    · exact h.add (hclaimed.1 hid.symm) (hspawn.1 hid.symm) (hfits.1 hid.symm)
    · exact h

/-- What arrives with a message. -/
theorem mem_arrivals_message {store : TimeSeriesStore} {now : Instant} {msg : Message}
    {a : Arrival} (h : a ∈ store.arrivals (.message now msg)) :
    ∃ info, messageCommand msg = some (a.id, .finite a.stamp, info) ∧
      a.entry ∈ commandEntries info ∧ store.accepts a.id a.entry = true := by
  simp only [TimeSeriesStore.arrivals, AppendOp.requested] at h
  rcases hcommand : messageCommand msg with _ | ⟨id, timestamp, info⟩
  · rw [hcommand] at h
    exact absurd h List.not_mem_nil
  · rw [hcommand] at h
    dsimp only [Option.map_some] at h
    rcases htime : timestamp.toFinite with _ | t
    · rw [htime] at h
      exact absurd h List.not_mem_nil
    · rw [htime] at h
      obtain ⟨entry, hentry, rfl⟩ := List.mem_map.mp h
      obtain ⟨hentry, haccepts⟩ := List.mem_filter.mp hentry
      rw [eq_finite_of_toFinite htime]
      exact ⟨info, rfl, hentry, haccepts⟩

/-- **A message** adds to the series of the aircraft what was asked for and what fits. -/
theorem Conforms.appendMessage {store : TimeSeriesStore}
    (h : Conforms config (Asked config s) (store.series (aircraftId config))) (now : Instant)
    {msg : Message} (hasked : ∀ t info,
      messageCommand msg = some (aircraftId config, .finite t, info) →
        ∀ entry ∈ commandEntries info, Asked config s t entry) :
    Conforms config (Asked config s)
      ((store.appendMessage now msg).series (aircraftId config)) := by
  have hdata := data_apply store (.message now msg)
  rw [show store.appendMessage now msg = store.apply (.message now msg) from rfl,
    series_congr hdata]
  -- everything that arrives for the aircraft was asked for
  have harrived : ∀ a ∈ store.arrivals (.message now msg), a.id = aircraftId config →
      Asked config s a.stamp a.entry ∧ store.accepts (aircraftId config) a.entry = true := by
    intro a ha hid
    obtain ⟨info, hcommand, hentry, haccepts⟩ := mem_arrivals_message ha
    rw [hid] at hcommand haccepts
    exact ⟨hasked _ info hcommand _ hentry, haccepts⟩
  refine series_foldl_add h (fun a ha hid => (harrived a ha hid).1)
    (fun a ha hid spawn hspawn => ?_) (fun a ha hid frame hframe => ?_)
  · exact Asked.spawn (hspawn ▸ (harrived a ha hid).1)
  · have haccepts := (harrived a ha hid).2
    rw [hframe, TimeSeriesStore.accepts] at haccepts
    rcases hlookup : store.data.lookup (aircraftId config) with _ | found
    · rw [hlookup] at haccepts
      exact absurd haccepts (by simp)
    · rw [hlookup, Option.any_some] at haccepts
      refine h.fits_of_accepts ?_
      rwa [TimeSeriesStore.series_of_lookup hlookup]

/-! ## The client and the server together -/

structure Uplink where
  client : State
  server : World

inductive UplinkEvent where
  | client (action : Action)
  | server (event : ServerEvent)

section System

variable (config : Config) (decode : List UInt8 → Option Message) (timeout : Duration)

def Uplink.step (u : Uplink) : UplinkEvent → Uplink
  | .client action => { u with client := AircraftClient.step config u.client action }
  | .server event => { u with server := u.server.step decode timeout event }

def Uplink.run (u : Uplink) (events : List UplinkEvent) : Uplink :=
  events.foldl (Uplink.step config decode timeout) u

/-- What the server takes from the socket in a step of the two. -/
def Uplink.taken (u : Uplink) : UplinkEvent → Option Message
  | .client _ => none
  | .server event => Upload.taken decode u.server event

/-- The network may lose, delay, repeat and reorder what the client sends, and whoever else is
connected may send what they like, but nothing about its aircraft. -/
def Uplink.Genuine (u : Uplink) : List UplinkEvent → Prop
  | [] => True
  | event :: events =>
    (∀ msg ∈ u.taken decode event, about config msg = true → msg ∈ u.client.sent) ∧
      (u.step config decode timeout event).Genuine events

instance Uplink.decidableGenuine : (u : Uplink) → (events : List UplinkEvent) →
    Decidable (u.Genuine config decode timeout events)
  | _, [] => .isTrue trivial
  | u, event :: events =>
    @instDecidableAnd _ _ inferInstance
      (Uplink.decidableGenuine (u.step config decode timeout event) events)

end System

/-- What holds of the two at any time. -/
structure Sound (config : Config) (u : Uplink) : Prop where
  client : AircraftClient.Inv config u.client
  hand : ∀ msg ∈ hand u.server, about config msg = true → msg ∈ u.client.sent
  store : Conforms config (Asked config u.client) (u.server.store.series (aircraftId config))

variable {decode : List UInt8 → Option Message} {timeout : Duration} {u : Uplink}

theorem Sound.client_step (h : Sound config u) (action : Action) :
    Sound config { u with client := AircraftClient.step config u.client action } where
  client := h.client.step action
  hand msg hmsg habout := (prefix_step config u.client action).1.subset (h.hand msg hmsg habout)
  store := h.store.mono fun _ _ hasked => hasked.step action

theorem Sound.server_step (h : Sound config u) (event : ServerEvent)
    (hgenuine : ∀ msg ∈ taken decode u.server event, about config msg = true →
      msg ∈ u.client.sent) :
    Sound config { u with server := u.server.step decode timeout event } := by
  refine ⟨h.client, fun msg hmsg habout => ?_, ?_⟩
  · rcases hand_step u.server event hmsg with hheld | htaken
    · exact h.hand msg hheld habout
    · exact hgenuine msg htaken habout
  · rcases store_step u.server event with hstore | ⟨now, msg, hheld, hstore⟩
    · show Conforms config _ ((u.server.step decode timeout event).store.series _)
      rw [hstore]
      exact h.store
    · show Conforms config _ ((u.server.step decode timeout event).store.series _)
      rw [hstore]
      refine h.store.appendMessage now fun t info hcommand entry hentry => ?_
      exact asked_of_sent h.client (h.hand msg hheld (about_of_command hcommand)) hcommand hentry

/-- **A step of the client or of the server.** -/
theorem Sound.step (h : Sound config u) {event : UplinkEvent}
    (hgenuine : ∀ msg ∈ u.taken decode event, about config msg = true → msg ∈ u.client.sent) :
    Sound config (u.step config decode timeout event) := by
  rcases event with action | event
  · exact h.client_step action
  · exact h.server_step event hgenuine

theorem Sound.run (h : Sound config u) (events : List UplinkEvent)
    (hgenuine : u.Genuine config decode timeout events) :
    Sound config (u.run config decode timeout events) := by
  induction events generalizing u with
  | nil => exact h
  | cons event events ih => exact ih (h.step hgenuine.1) hgenuine.2

/-- **Nothing is invented on the way**: after every run of a client and a server, under every
behaviour of the network, of the other clients, of the publisher and of the gate, what the store
holds under the id of the aircraft was asked for by the caller, at the time that was given; the
frames fit the schemas of the configuration, and the series has this configuration or none. -/
theorem upload_sound (config : Config) (decode : List UInt8 → Option Message) (timeout : Duration)
    (now : F64) (sessions : SessionState) (enabled : Bool) (store : TimeSeriesStore)
    (hnew : store.data.lookup (aircraftId config) = none) (events : List UplinkEvent)
    (hgenuine : Uplink.Genuine config decode timeout
      ⟨connected config now, { sessions := sessions, enabled := enabled, store := store }⟩ events) :
    let u := Uplink.run config decode timeout
      ⟨connected config now, { sessions := sessions, enabled := enabled, store := store }⟩ events
    Conforms config (Asked config u.client) (u.server.store.series (aircraftId config)) := by
  refine (Sound.run ⟨inv_connected config now, ?_, ?_⟩ events hgenuine).store
  · exact fun msg hmsg => absurd hmsg List.not_mem_nil
  · have hseries : store.series (aircraftId config) = {} := by
      unfold TimeSeriesStore.series
      rw [hnew]
      rfl
    show Conforms config _ (store.series (aircraftId config))
    rw [hseries]
    exact conforms_empty

/-- A client whose aircraft has sixteen bytes of two. -/
def plainConfig : Config where
  aircraftName := "a"
  initialState := {}
  tomlConfig := ""
  heartbeatIntervalSecs := 1
  clientUuid := ⟨List.replicate 16 1⟩
  aircraftUuid := ⟨List.replicate 16 2⟩

/-- One byte stands for the spawn. -/
def plainDecode (bytes : List UInt8) : Option Message :=
  if bytes = [1] then some (spawnMessage plainConfig (.finite 5)) else none

/-- The spawn is sent once and arrives twice. -/
def repeatedSpawn : List UplinkEvent :=
  [.client (.operation (.finite 5)), .client .sender, .client .sender] ++
    List.replicate 18 (.server (.loop ⟨0, some ⟨1, [1], 0, 0⟩⟩))

theorem upload_sound_repeated :
    let sessions := SessionState.setSession {} 0 1 "u" .producer
    let u := Uplink.run plainConfig plainDecode 30
      ⟨connected plainConfig (.finite 0), { sessions := sessions }⟩ repeatedSpawn
    Conforms plainConfig (Asked plainConfig u.client)
        (u.server.store.series (aircraftId plainConfig)) ∧
      (u.server.store.series (aircraftId plainConfig)).states.entries.length = 2 :=
  ⟨upload_sound plainConfig plainDecode 30 (.finite 0)
    (SessionState.setSession {} 0 1 "u" .producer) true {} (by decide +kernel) repeatedSpawn
    (by decide +kernel), by decide +kernel⟩

end FlyRuler.Transport.Upload
