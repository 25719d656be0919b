import FlyRuler.Transport.Attached

/-!
# What arrives is what was asked for

The store of a server that is left alone with a client holds what the caller of the
`AircraftClient` asked for.

* `SentAt.apply`: one message about the aircraft.
* `arrivals_appends`: all messages, those of others among them.
* `upload_complete`: the series of the aircraft are the stable sorts of what was asked for.
-/

namespace FlyRuler.Transport.Upload

open FlyRuler.Pb FlyRuler.Store FlyRuler.Store.TimeSeriesStore FlyRuler.Lib.TimeOrder
open FlyRuler.Lib.Relay FlyRuler.Transport.AircraftClient

variable {config : Config} {s : State} {now : F64} {a : SocketAddr}

/-! ## The store -/

/-- The configuration that the spawn leaves. -/
def configured (config : Config) : AircraftConfig :=
  ⟨config.aircraftName, config.tomlConfig, config.telemetrySchemas⟩

/-- A telemetry frame fits the schemas of the configuration; everything else is accepted. -/
def fits (config : Config) : Entry → Bool
  | .telemetry frame => (validateTelemetryFrame config.telemetrySchemas frame).isOk
  | _ => true

/-- What an item is to be in the store, at its time. -/
def arrivalsOfItem (config : Config) (p : Item × Secs) : List Arrival :=
  match command config p.1 with
  | none => []
  | some info => ((commandEntries info).filter (fits config)).map fun entry =>
      ⟨aircraftId config, p.2, entry⟩

/-- The message is that of the item at this time, which is the one that was given. -/
structure SentAt (config : Config) (p : Item × Secs) (msg : Message) : Prop where
  read : ∃ info, command config p.1 = some info ∧
    messageCommand msg = some (aircraftId config, .finite p.2, info)
  given : ∀ given ∈ givenTimestamp config p.1, given = .finite p.2

def Registered (config : Config) (store : TimeSeriesStore) : Prop :=
  ∃ series, store.data.lookup (aircraftId config) = some series ∧
    series.config = some (configured config)

variable {store : TimeSeriesStore}

theorem Registered.accepts (h : Registered config store) (entry : Entry) :
    store.accepts (aircraftId config) entry = fits config entry := by
  obtain ⟨series, hlookup, hconfig⟩ := h
  rcases entry with state | event | frame
  · rfl
  · rfl
  · rw [TimeSeriesStore.accepts, hlookup, Option.any_some, schemas, hconfig]
    rfl

theorem Registered.add (h : Registered config store) {arrival : Arrival}
    (hspawn : ∀ spawn, arrival.entry = .event (.spawn spawn) → arrival.id = aircraftId config →
      spawn = spawnInfo config) : Registered config (store.add arrival) := by
  obtain ⟨series, hlookup, hconfig⟩ := h
  unfold Registered TimeSeriesStore.add
  rw [lookup_modifySeries]
  split_ifs with hid
  · refine ⟨_, rfl, ?_⟩
    rw [← hid, series_of_lookup hlookup]
    rcases hentry : arrival.entry with state | (spawn | despawn | name) | frame
    · exact hconfig
    · rw [hspawn spawn hentry hid.symm]
      rfl
    · exact hconfig
    · exact hconfig
    · exact hconfig
  · exact ⟨series, hlookup, hconfig⟩

theorem Registered.foldl_add {l : List Arrival} (h : Registered config store)
    (hspawn : ∀ arrival ∈ l, ∀ spawn, arrival.entry = .event (.spawn spawn) →
      arrival.id = aircraftId config → spawn = spawnInfo config) :
    Registered config (l.foldl TimeSeriesStore.add store) :=
  List.foldlRecOn l _ h fun _ hstore arrival harrival => hstore.add (hspawn arrival harrival)

/-- Once the spawn is in, the aircraft is registered. -/
theorem registered_add_spawn (store : TimeSeriesStore) (t : Secs) :
    Registered config
      (store.add ⟨aircraftId config, t, .event (.spawn (spawnInfo config))⟩) := by
  unfold Registered TimeSeriesStore.add
  rw [lookup_modifySeries, if_pos rfl]
  exact ⟨_, rfl, rfl⟩

theorem registered_congr {store store' : TimeSeriesStore} (h : store.data = store'.data) :
    Registered config store ↔ Registered config store' := by
  unfold Registered
  rw [h]

theorem arrivals_eq {msg : Message} {t : Secs} {info : AircraftCommandInfo.Kind}
    (hread : messageCommand msg = some (aircraftId config, .finite t, info)) (now : Instant) :
    store.arrivals (.message now msg) =
      ((commandEntries info).filter (store.accepts (aircraftId config))).map fun entry =>
        ⟨aircraftId config, t, entry⟩ := by
  simp only [TimeSeriesStore.arrivals, AppendOp.requested, hread, Option.map_some]
  rfl

/-- **A message of the aircraft**, which is registered or is spawned by it. -/
theorem SentAt.apply {p : Item × Secs} {msg : Message} (h : SentAt config p msg)
    (hschemas : validateTelemetrySchemas config.telemetrySchemas = .ok ())
    (hregistered : Registered config store ∨ p.1 = .spawn) (now : Instant) :
    store.arrivals (.message now msg) = arrivalsOfItem config p ∧
      Registered config (store.apply (.message now msg)) := by
  obtain ⟨info, hinfo, hread⟩ := h.read
  have hexpected : arrivalsOfItem config p = ((commandEntries info).filter (fits config)).map
      fun entry => ⟨aircraftId config, p.2, entry⟩ := by
    rw [arrivalsOfItem, hinfo]
  have harrivals : store.arrivals (.message now msg) = arrivalsOfItem config p := by
    rw [arrivals_eq hread, hexpected]
    refine congrArg _ (List.filter_congr fun entry hentry => ?_)
    rcases hregistered with hregistered | hspawn
    · exact hregistered.accepts entry
    · -- a spawn has no telemetry
      rw [hspawn] at hinfo
      cases hinfo
      rcases entry with state | event | frame
      · rfl
      · rfl
      · simp only [commandEntries, spawnInfo, hschemas] at hentry
        exact absurd hentry (by simp)
  refine ⟨harrivals, ?_⟩
  rw [registered_congr (data_apply store _), harrivals, hexpected]
  rcases hregistered with hregistered | hspawn
  · refine hregistered.foldl_add fun arrival harrival spawn hentry _ => ?_
    obtain ⟨entry, hmem, rfl⟩ := List.mem_map.mp harrival
    exact spawn_of_item hinfo (hentry ▸ (List.mem_filter.mp hmem).1)
  · rw [hspawn] at hinfo
    cases hinfo
    have hentries : (commandEntries (.spawn (spawnInfo config))).filter (fits config) =
        [.state config.initialState, .event (.spawn (spawnInfo config))] := by
      have hvalid : validateTelemetrySchemas (spawnInfo config).telemetrySchemas = .ok () :=
        hschemas
      rw [commandEntries, hvalid]
      rfl
    rw [hentries]
    exact registered_add_spawn _ p.2

/-- A message about another aircraft, or none. -/
theorem apply_other (store : TimeSeriesStore) {msg : Message} (h : about config msg = false)
    (now : Instant) :
    ((store.arrivals (.message now msg)).filter fun arrival =>
        arrival.id == aircraftId config) = [] ∧
      (store.apply (.message now msg)).data.lookup (aircraftId config) =
        store.data.lookup (aircraftId config) := by
  constructor
  · refine List.filter_eq_nil_iff.mpr fun arrival harrival hid => ?_
    obtain ⟨info, hread, -⟩ := mem_arrivals_message harrival
    rw [beq_iff_eq.mp hid] at hread
    rw [about_of_command hread] at h
    cases h
  · refine lookup_apply_of_ne store fun hid => ?_
    rw [AppendOp.requested] at hid
    obtain ⟨requested, hrequested, hfirst⟩ := Option.map_eq_some_iff.mp hid
    obtain ⟨c, hread, rfl⟩ := Option.map_eq_some_iff.mp hrequested
    rw [about, hread, Option.any_some, show c.1 = aircraftId config from hfirst] at h
    simp at h

/-- The messages as calls of the store. -/
def appends (messages : List (Instant × Message)) : List AppendOp :=
  messages.map fun m => .message m.1 m.2

/-- **Everything that is handed over**: of the aircraft there arrives what its items ask for. -/
theorem arrivals_appends (store : TimeSeriesStore) {messages : List (Instant × Message)}
    {script : List (Item × Secs)}
    (hschemas : validateTelemetrySchemas config.telemetrySchemas = .ok ())
    (hsent : List.Forall₂ (SentAt config) script ((messages.map Prod.snd).filter (about config)))
    (hregistered : Registered config store ∨ ∀ p ∈ script.head?, p.1 = .spawn) :
    ((store.arrivalsOf (appends messages)).filter fun arrival =>
        arrival.id == aircraftId config) = script.flatMap (arrivalsOfItem config) ∧
      (script ≠ [] ∨ Registered config store →
        Registered config ((appends messages).foldl TimeSeriesStore.apply store)) := by
  induction messages generalizing store script with
  | nil =>
    rw [List.map_nil, List.filter_nil, List.forall₂_nil_right_iff] at hsent
    subst hsent
    exact ⟨rfl, fun h => h.resolve_left fun hne => hne rfl⟩
  | cons m messages ih =>
    obtain ⟨now, msg⟩ := m
    rw [List.map_cons] at hsent
    show ((store.arrivals (.message now msg) ++ (store.apply (.message now msg)).arrivalsOf
      (appends messages)).filter _) = _ ∧ (_ → Registered config
        ((appends messages).foldl TimeSeriesStore.apply (store.apply (.message now msg))))
    rw [List.filter_append]
    by_cases habout : about config msg = true
    · rw [List.filter_cons_of_pos habout] at hsent
      obtain ⟨p, rest, hp, hrest, rfl⟩ := List.forall₂_cons_right_iff.mp hsent
      obtain ⟨harrivals, hnext⟩ := hp.apply hschemas
        (hregistered.imp_right fun hfirst => hfirst p rfl) now
      obtain ⟨hothers, hend⟩ := ih _ hrest (.inl hnext)
      refine ⟨?_, fun _ => hend (.inr hnext)⟩
      rw [hothers, harrivals, List.flatMap_cons]
      refine congrArg (· ++ _) (List.filter_eq_self.mpr fun arrival harrival => ?_)
      unfold arrivalsOfItem at harrival
      split at harrival
      · exact absurd harrival List.not_mem_nil
      · obtain ⟨entry, -, rfl⟩ := List.mem_map.mp harrival
        exact beq_self_eq_true _
    · rw [List.filter_cons_of_neg (by simpa using habout)] at hsent
      obtain ⟨hnone, hsame⟩ := apply_other store (eq_false_of_ne_true habout) now
      have hkept : Registered config (store.apply (.message now msg)) ↔
          Registered config store := by
        unfold Registered
        rw [hsame]
      obtain ⟨hothers, hend⟩ := ih _ hsent (hregistered.imp_left hkept.mpr)
      rw [hnone, hothers, List.nil_append]
      exact ⟨rfl, fun h => hend (h.imp_right hkept.mpr)⟩

/-! ## From the calls to the store -/

/-- The series holds what arrived for the aircraft, each part in the stable order of time. -/
structure Complete (config : Config) (arrived : List Arrival) (series : AircraftTimeSeries) :
    Prop where
  states : StableSort (arrived.filterMap (Arrival.state? (aircraftId config))) series.states.entries
  events : StableSort (arrived.filterMap (Arrival.event? (aircraftId config))) series.events.entries
  telemetry : StableSort (arrived.filterMap (Arrival.telemetry? (aircraftId config)))
    series.telemetry.entries

/-- Only what arrives for the aircraft is in its series. -/
theorem complete_appends (messages : List (Instant × Message)) :
    Complete config (((arrivalsOf {} (appends messages)).filter fun arrival =>
        arrival.id == aircraftId config))
      (((appends messages).foldl TimeSeriesStore.apply {}).series (aircraftId config)) := by
  have honly : ∀ {β : Type} (f : Arrival → Option β),
      (∀ arrival, arrival.id ≠ aircraftId config → f arrival = none) → ∀ l : List Arrival,
        (l.filter fun arrival => arrival.id == aircraftId config).filterMap f =
          l.filterMap f := by
    intro β f hf l
    rw [List.filterMap_filter]
    refine List.filterMap_congr fun arrival _ => ?_
    split_ifs with hid
    · rfl
    · exact (hf arrival fun heq => hid (beq_iff_eq.mpr heq)).symm
  obtain ⟨hstates, hevents, htelemetry⟩ :=
    stableSort_foldl (aircraftId config) (arrivalsOf {} (appends messages))
  rw [series_congr (data_foldl_apply (appends messages) {})]
  refine ⟨?_, ?_, ?_⟩
  · rwa [honly]
    intro arrival hid
    unfold Arrival.state?
    cases arrival.entry <;> simp [hid]
  · rwa [honly]
    intro arrival hid
    unfold Arrival.event?
    cases arrival.entry <;> simp [hid]
  · rwa [honly]
    intro arrival hid
    unfold Arrival.telemetry?
    cases arrival.entry <;> simp [hid]

/-- The messages about the aircraft are the ones that are sent of it. -/
theorem Wire.filter_about (h : Wire config now s) :
    s.sent.filter (about config) = s.sent.filter AircraftClient.isAircraftEvent := by
  obtain ⟨rest, hsent, hordinary⟩ := h.sent
  rw [hsent]
  refine List.filter_congr fun msg hmsg => ?_
  rcases List.mem_cons.mp hmsg with rfl | hmsg
  · rfl
  · rcases hordinary msg hmsg with ⟨req, heartbeat, hcommand⟩ | ⟨-, t, info, hread⟩
    · rw [not_about_of_heartbeat hcommand]
      by_contra hevent
      have haircraft : AircraftClient.isAircraftEvent msg = true := by
        simpa using Ne.symm hevent
      obtain ⟨envelope⟩ := msg
      unfold commandOf at hcommand
      unfold AircraftClient.isAircraftEvent AircraftClient.aircraftEvent at haircraft
      split at haircraft
      · next henvelope =>
        rw [henvelope] at hcommand
        cases hcommand
      · cases haircraft
    · rw [about_of_command hread, isAircraftEvent_of_command hread]

/-- The items whose messages were sent: the first ones, and all of them once the client is
closed. -/
theorem items_sent (h : AircraftClient.Inv config s) : ∃ done, done <+: items s ∧
    (s.closed = true → done = items s) ∧
      List.Forall₂ (fun item msg => Item.Becomes config item (.send msg)) done
        (s.sent.filter AircraftClient.isAircraftEvent) := by
  by_cases hclosed : s.closed = true
  · exact ⟨items s, List.prefix_refl _, fun _ => rfl, h.trace hclosed⟩
  obtain ⟨front, hdue, hpassed⟩ := h.relayed
  have htraffic : s.traffic.filter Outbound.isEvent =
      (s.sent.filter AircraftClient.isAircraftEvent).map .send ++
        (s.sender.inHand ++ s.outbound).filter Outbound.isEvent := by
    rw [State.traffic, List.append_assoc, List.filter_append, List.filter_map]
    rfl
  rw [htraffic] at hpassed
  have htaken := List.forall₂_take_append _ _ _ hpassed
  generalize htake : front.take _ = done at htaken
  have hdone : List.Forall₂ (fun item msg => Item.Becomes config item (.send msg)) done
      (s.sent.filter AircraftClient.isAircraftEvent) := List.forall₂_map_right_iff.mp htaken
  refine ⟨done, ?_, fun hclosed' => absurd hclosed' hclosed, hdone⟩
  have hprefix : done <+: items s ++ if s.opTx then [] else [.operation .stop] := by
    have hfront : front <+: s.due := by
      rw [hdue]
      exact List.prefix_append _ _
    exact (htake ▸ List.take_prefix _ _).trans hfront
  rcases hopen : s.opTx with _ | _
  · rw [hopen, if_neg Bool.false_ne_true] at hprefix
    rcases List.prefix_concat_iff.mp hprefix with heq | hprefix
    · -- the marker is no message
      have hstop : Item.operation .stop ∈ done := by
        rw [heq]
        exact List.mem_append_right _ (List.mem_singleton_self _)
      obtain ⟨msg, -, reading, hread⟩ := exists_of_mem_right (R := flip _) hdone.flip hstop
      cases hread
    · exact hprefix
  · rw [hopen, if_pos rfl, List.append_nil] at hprefix
    exact hprefix

/-- Items and the messages they became, with the times that the messages carry. -/
theorem exists_script {done : List Item} {messages : List Message}
    (hbecomes : List.Forall₂ (fun item msg => Item.Becomes config item (.send msg)) done messages)
    (hordinary : ∀ msg ∈ messages, about config msg = true ∧ Ordinary config msg) :
    ∃ script : List (Item × Secs), script.map Prod.fst = done ∧
      List.Forall₂ (SentAt config) script messages := by
  induction hbecomes with
  | nil => exact ⟨[], rfl, .nil⟩
  | @cons item msg done messages hitem _ ih =>
    rw [List.forall_mem_cons] at hordinary
    obtain ⟨script, rfl, hscript⟩ := ih hordinary.2
    obtain ⟨habout, hmsg⟩ := hordinary.1
    obtain ⟨now, houtbound⟩ := hitem
    obtain ⟨info, hinfo, hread⟩ := messageCommand_outbound houtbound.symm
    rcases hmsg with ⟨req, heartbeat, hcommand⟩ | ⟨-, t, info', hread'⟩
    · rw [not_about_of_heartbeat hcommand] at habout
      cases habout
    · rw [hread] at hread'
      obtain ⟨htime, rfl⟩ : (givenTimestamp config item).getD now = F64.finite t ∧
          info = info' := by
        simpa using hread'
      rw [htime] at hread
      refine ⟨(item, t) :: script, rfl,
        .cons ⟨⟨info, hinfo, hread⟩, fun given hgiven => ?_⟩ hscript⟩
      rw [Option.mem_def.mp hgiven] at htime
      exact htime

/-- **What the caller asked for is what the server stores**: at any time of any run of a client, if
its datagrams have arrived once and in order at a server that the others leave alone and that heard
of it in time, then the series of its aircraft are the stable sorts of the first items asked for, at
the times given for them, and of all of them when the client is closed; of the telemetry frames,
those that fit the schemas. -/
theorem upload_complete (config : Config) (hspawn : Timely config.spawnTimestamp)
    (hschemas : validateTelemetrySchemas config.telemetrySchemas = .ok ()) (now : F64)
    (actions : List Action) (hclock : ∀ action ∈ actions, Timely (clockOf action))
    (decode : List UInt8 → Option Message) (timeout : Duration) (a : SocketAddr)
    (polls : List Poll) (hothers : ∀ poll ∈ polls, Undisturbed config decode a poll)
    (hheard : Heard decode timeout a none polls)
    (hall : deliveries decode a polls =
      (AircraftClient.run config (connected config now) actions).sent)
    (clock : Message × SocketAddr → Instant) :
    let s := AircraftClient.run config (connected config now) actions
    let messages := (ServerRuntime.run decode timeout polls).handled.map fun e => (clock e, e.1)
    let series := (appendAll {} messages).series (aircraftId config)
    ∃ script : List (Item × Secs),
      script.map Prod.fst <+: items s ∧ (s.closed = true → script.map Prod.fst = items s) ∧
      (∀ p ∈ script, ∀ given ∈ givenTimestamp config p.1, given = .finite p.2) ∧
      Complete config (script.flatMap (arrivalsOfItem config)) series ∧
      (script ≠ [] → series.config = some (configured config)) := by
  intro s messages series
  have hinv : AircraftClient.Inv config s := inv_run config now actions
  have hwire : Wire config now s := ordinary_run hspawn hclock
  obtain ⟨rest, hsent, hordinary⟩ := hwire.sent
  have hexpects : Expects config decode timeout a now none {} polls :=
    ⟨rfl, fun _ => attached_empty, ⟨rest, hall.trans hsent, hordinary⟩, hheard, hothers⟩
  have hhanded : (messages.map Prod.snd).filter (about config) =
      s.sent.filter AircraftClient.isAircraftEvent := by
    have hrun := congrArg (List.map Prod.fst) hexpects.run
    have hnone : handedOver config {} = [] := rfl
    rw [hnone, List.nil_append, List.map_map, hall] at hrun
    rw [← hwire.filter_about, List.map_map]
    refine Eq.trans ?_ (hrun.trans (List.map_id _))
    rw [handedOver, ServerRuntime.run]
    exact List.filter_map
  obtain ⟨done, hprefix, hdone, hbecomes⟩ := items_sent hinv
  obtain ⟨script, rfl, hscript⟩ := exists_script hbecomes fun msg hmsg => by
    rw [← hwire.filter_about, List.mem_filter] at hmsg
    refine ⟨hmsg.2, ?_⟩
    rw [hsent] at hmsg
    rcases List.mem_cons.mp hmsg.1 with rfl | hmem
    · cases hmsg.2
    · exact hordinary msg hmem
  rw [← hhanded] at hscript
  have hfirst : ∀ p ∈ script.head?, p.1 = .spawn := by
    intro p hp
    obtain ⟨more, rfl⟩ := List.head?_eq_some_iff.mp hp
    exact (List.cons_prefix_cons.mp hprefix).1
  obtain ⟨harrivals, hregistered⟩ := arrivals_appends {} hschemas hscript (.inr hfirst)
  have hstore : appendAll {} messages = (appends messages).foldl TimeSeriesStore.apply {} := by
    rw [appends, List.foldl_map]
    rfl
  refine ⟨script, hprefix, hdone, fun p hp => ?_, ?_, fun hne => ?_⟩
  · obtain ⟨msg, -, hmsg⟩ := exists_of_mem_right (R := flip _) hscript.flip hp
    exact hmsg.given
  · have hcomplete := @complete_appends config messages
    rw [harrivals] at hcomplete
    show Complete config _ ((appendAll {} messages).series _)
    rwa [hstore]
  · obtain ⟨found, hlookup, hconfig⟩ := hregistered (.inl hne)
    show ((appendAll {} messages).series _).config = _
    rw [hstore, series_of_lookup hlookup]
    exact hconfig

/-! ## A run -/

/-- One byte for each of three messages. -/
def threeMessages (bytes : List UInt8) : Option Message :=
  if bytes = [0] then some (buildHandshakeMessage (.finite 0) plainConfig.clientUuid)
  else if bytes = [1] then some (spawnMessage plainConfig (.finite 5))
  else if bytes = [2] then
    some (buildStateUpdateMessage (.finite 6) plainConfig.aircraftUuid {} (some (.finite 3)))
  else none

/-- The spawn and a state of an earlier time. -/
def twoItems : List Action :=
  [.operation (.finite 5), .call (.updateState {} (some (.finite 3))), .operation (.finite 6),
    .operation (.finite 6), .sender, .sender, .sender, .sender]

/-- The three datagrams, within the timeout. -/
def threePolls : List Poll :=
  [⟨0, some ⟨1, [0], 0, 0⟩⟩, ⟨20, some ⟨1, [1], 20, 0⟩⟩, ⟨40, some ⟨1, [2], 40, 0⟩⟩]

theorem upload_complete_two :
    let s := AircraftClient.run plainConfig (connected plainConfig (.finite 0)) twoItems
    let messages := (ServerRuntime.run threeMessages 30 threePolls).handled.map fun e => (0, e.1)
    let series := (appendAll {} messages).series (aircraftId plainConfig)
    (∃ script : List (Item × Secs),
      script.map Prod.fst <+: items s ∧ (s.closed = true → script.map Prod.fst = items s) ∧
      (∀ p ∈ script, ∀ given ∈ givenTimestamp plainConfig p.1, given = .finite p.2) ∧
      Complete plainConfig (script.flatMap (arrivalsOfItem plainConfig)) series ∧
      (script ≠ [] → series.config = some (configured plainConfig))) ∧
      series.states.entries.map Stamped.stamp = [3, 5] :=
  ⟨upload_complete plainConfig nofun (by decide +kernel) (.finite 0) twoItems (by decide +kernel)
    threeMessages 30 1 threePolls (by decide +kernel) (by decide +kernel) (by decide +kernel)
    fun _ => 0, by decide +kernel⟩

end FlyRuler.Transport.Upload
