import FlyRuler.Python.Producer
import FlyRuler.Transport.Delivery

/-!
# From Python to the store

A run of a Python producer is one of its `AircraftClient` (`exists_actions`); so what it publishes
ends up in the store, and the server refuses none of it (`producer_delivered`).
-/

namespace FlyRuler.Python

open FlyRuler.Pb FlyRuler.Store FlyRuler.Store.TimeSeriesStore FlyRuler.Lib.TimeOrder
open FlyRuler.Transport FlyRuler.Transport.AircraftClient FlyRuler.Transport.Upload
open FlyRuler.Lib.Keyed

variable {fields : Table String (List PyTelemetryValueType)} {config : Config} {client : PyClient}

/-! ## The inner client -/

/-- The reading of the clock in a step. -/
def PyAction.clock (action : PyAction) : Option F64 := action.inner.bind clockOf

theorem aircraft_innerCall (client : PyClient) (call : Call) :
    (client.innerCall call).1.aircraft = client.aircraft ∨
      (client.innerCall call).1.aircraft = client.aircraft.call call := by
  rw [PyClient.innerCall]
  split
  · exact .inr rfl
  · exact .inl rfl

theorem aircraft_request (client : PyClient) (timestamp : Option F64) (call : Call) :
    (client.request timestamp call).1.aircraft = client.aircraft ∨
      (client.request timestamp call).1.aircraft = client.aircraft.call call := by
  rw [PyClient.request]
  split
  · exact .inl rfl
  · exact aircraft_innerCall client call

/-- A method calls one of the inner client, or none. -/
theorem aircraft_call (client : PyClient) (c : PyCall) :
    (client.call c).aircraft = client.aircraft ∨
      ∃ call, (client.call c).aircraft = client.aircraft.call call := by
  have hone : ∀ call, ((client.answer c).1.aircraft = client.aircraft ∨
      (client.answer c).1.aircraft = client.aircraft.call call) →
      (client.call c).aircraft = client.aircraft ∨
        ∃ call, (client.call c).aircraft = client.aircraft.call call := fun call h =>
    h.imp id fun h => ⟨call, h⟩
  cases c with
  | updateState state timestamp => exact hone _ (aircraft_request client timestamp _)
  | createEvent eventName timestamp => exact hone _ (aircraft_request client timestamp _)
  | publishTelemetry streamId values timestamp =>
    rw [PyClient.call, PyClient.answer, PyClient.publishTelemetry]
    split
    · exact .inl rfl
    · next converted _ =>
      rcases aircraft_innerCall { client with
        telemetrySequences := client.telemetrySequences.insert streamId
          (min ((client.telemetrySequences.lookup streamId).getD 0 + 1) (u64Size - 1)) }
        (.publishTelemetry ⟨streamId,
          min ((client.telemetrySequences.lookup streamId).getD 0 + 1) (u64Size - 1),
          converted⟩ timestamp) with h | h
      · exact .inl h
      · exact .inr ⟨_, h⟩
  | despawn reason timestamp => exact hone _ (aircraft_request client timestamp _)
  | close =>
    refine hone .close ?_
    rw [PyClient.answer, PyClient.close]
    split
    · exact .inl rfl
    · split
      · exact .inr rfl
      · exact .inl rfl

/-- A step of the producer is one of the inner client, or none. -/
theorem aircraft_step (h : Inv fields config client) {action : PyAction}
    (hclock : Timely action.clock) :
    (step config client action).aircraft = client.aircraft ∨ ∃ inner, Timely (clockOf inner) ∧
      (step config client action).aircraft =
        AircraftClient.step config client.aircraft inner := by
  cases action with
  | call c =>
    rw [step]
    split
    · exact .inl rfl
    · next hclosing =>
      obtain ⟨hidle, -⟩ := h.idle (eq_false_of_ne_true hclosing)
      rcases aircraft_call client c with hsame | ⟨call, hcall⟩
      · exact .inl hsame
      · refine .inr ⟨.call call, (fun _ ht => by cases ht), ?_⟩
        rw [hcall, AircraftClient.step, if_pos hidle]
  | closeReturns =>
    left
    rw [step, PyClient.closeReturns]
    split <;> rfl
  | close => exact .inr ⟨.close, hclock, rfl⟩
  | operation now => exact .inr ⟨.operation now, hclock, rfl⟩
  | tick now => exact .inr ⟨.tick now, hclock, rfl⟩
  | changed => exact .inr ⟨.changed, hclock, rfl⟩
  | sender => exact .inr ⟨.sender, hclock, rfl⟩

/-- **A run of the producer** is one of its inner client. -/
theorem exists_actions (h : Inv fields config client) {actions : List PyAction}
    (hclock : ∀ action ∈ actions, Timely action.clock) :
    ∃ inner : List Action, (∀ action ∈ inner, Timely (clockOf action)) ∧
      (run config client actions).aircraft = AircraftClient.run config client.aircraft inner := by
  induction actions generalizing client with
  | nil => exact ⟨[], List.forall_mem_nil _, rfl⟩
  | cons action actions ih =>
    rw [List.forall_mem_cons] at hclock
    obtain ⟨rest, hrest, hrun⟩ := ih (h.step action) hclock.2
    rcases aircraft_step h hclock.1 with hsame | ⟨first, hfirst, hstep⟩
    · rw [hsame] at hrun
      exact ⟨rest, hrest, hrun⟩
    · rw [hstep] at hrun
      exact ⟨first :: rest, List.forall_mem_cons.mpr ⟨hfirst, hrest⟩, hrun⟩

/-! ## The frames -/

/-- The frame that an item publishes, with the time given for it. -/
def frameOf : Item → Option (TelemetryFrame × Option F64)
  | .spawn => none
  | .operation op => telemetryOf op

theorem givenTimestamp_of_frameOf {item : Item} {frame : TelemetryFrame × Option F64}
    (h : frameOf item = some frame) : givenTimestamp config item = frame.2 := by
  rcases item with _ | (_ | _ | _ | _ | _)
  all_goals
    cases h
  rfl

/-- The frames of the items that were sent, with their times. -/
def framesAt (script : List (Item × Secs)) : List ((TelemetryFrame × Option F64) × Secs) :=
  script.filterMap fun p => (frameOf p.1).map fun frame => (frame, p.2)

theorem framesAt_cons (p : Item × Secs) (script : List (Item × Secs)) :
    framesAt (p :: script) =
      ((frameOf p.1).map fun frame => (frame, p.2)).toList ++ framesAt script := by
  rw [framesAt, List.filterMap_cons]
  rcases frameOf p.1 with _ | frame
  · rfl
  · rfl

theorem map_framesAt (script : List (Item × Secs)) :
    (framesAt script).map Prod.fst = (script.map Prod.fst).filterMap frameOf := by
  rw [framesAt, List.map_filterMap, List.filterMap_map]
  refine List.filterMap_congr fun p _ => ?_
  rw [Option.map_map]
  exact congrFun Option.map_id _

theorem filterMap_frameOf (operations : List Operation) :
    (Item.spawn :: operations.map Item.operation).filterMap frameOf =
      operations.filterMap telemetryOf := by
  rw [List.filterMap_cons, List.filterMap_map]
  rfl

/-- Of an item whose frame fits, there arrives the frame. -/
theorem telemetry_arrivalsOfItem (p : Item × Secs)
    (hfits : ∀ frame timestamp, p.1 = .operation (.publishTelemetry frame timestamp) →
      validateTelemetryFrame config.telemetrySchemas frame = .ok ()) :
    (arrivalsOfItem config p).filterMap (Arrival.telemetry? (aircraftId config)) =
      ((frameOf p.1).map fun frame => (⟨p.2, frame.1⟩ : TimestampedTelemetryFrame)).toList := by
  obtain ⟨item, t⟩ := p
  rcases item with _ | (⟨state, ts⟩ | ⟨eventName, ts⟩ | ⟨frame, ts⟩ | ⟨reason, ts⟩ | _)
  · have hnone : ∀ entry ∈ commandEntries (.spawn (spawnInfo config)),
        Arrival.telemetry? (aircraftId config) ⟨aircraftId config, t, entry⟩ = none := by
      intro entry hentry
      rw [commandEntries] at hentry
      split at hentry
      · exact absurd hentry List.not_mem_nil
      · rcases List.mem_append.mp hentry with hstate | hevent
        · obtain ⟨state, -, rfl⟩ := Option.map_eq_some_iff.mp (Option.mem_toList.mp hstate)
          rfl
        · rw [List.mem_singleton.mp hevent]
          rfl
    show List.filterMap _ (List.map _ _) = []
    rw [List.filterMap_map, List.filterMap_eq_nil_iff]
    exact fun entry hentry => hnone entry (List.mem_filter.mp hentry).1
  · rfl
  · rfl
  · have hok : fits config (.telemetry frame) = true := by
      rw [fits, hfits frame ts rfl]
      rfl
    show List.filterMap _ (List.map _ (List.filter _ [Entry.telemetry frame])) = [_]
    rw [List.filter_cons_of_pos hok]
    simp [Arrival.telemetry?]
  · rfl
  · rfl

theorem telemetry_arrivals {script : List (Item × Secs)}
    (hfits : ∀ p ∈ script, ∀ frame timestamp,
      p.1 = .operation (.publishTelemetry frame timestamp) →
        validateTelemetryFrame config.telemetrySchemas frame = .ok ()) :
    (script.flatMap (arrivalsOfItem config)).filterMap (Arrival.telemetry? (aircraftId config)) =
      (framesAt script).map fun p => ⟨p.2, p.1.1⟩ := by
  induction script with
  | nil => rfl
  | cons p script ih =>
    rw [List.forall_mem_cons] at hfits
    rw [List.flatMap_cons, List.filterMap_append, telemetry_arrivalsOfItem p hfits.1, ih hfits.2,
      framesAt_cons, List.map_append]
    rcases frameOf p.1 with _ | frame
    · rfl
    · rfl

/-- **What Python publishes is in the store**: at any time of any run of a producer, if its
datagrams have arrived once and in order at a server that the others leave alone and that heard of
it in time, the telemetry of its aircraft is the stable sort of the first frames published, at the
times given for them, and of all of them once the client is closed: the server has refused none. -/
theorem producer_delivered (outside : Except String (Uuid × Uuid)) (now : F64)
    (args : PyClientArgs) (hnew : PyClient.new outside now args = .ok (config, client))
    (actions : List PyAction) (hclock : ∀ action ∈ actions, Timely action.clock)
    (decode : List UInt8 → Option Message) (timeout : Duration) (a : SocketAddr)
    (polls : List Poll) (hothers : ∀ poll ∈ polls, Undisturbed config decode a poll)
    (hheard : Heard decode timeout a none polls)
    (hall : deliveries decode a polls = (run config client actions).aircraft.sent)
    (clock : Message × SocketAddr → Instant) :
    let c := run config client actions
    let messages := (ServerRuntime.run decode timeout polls).handled.map fun e => (clock e, e.1)
    let series := (appendAll {} messages).series (aircraftId config)
    let published := (accepted c.aircraft.calls).2.filterMap telemetryOf
    ∃ sent : List ((TelemetryFrame × Option F64) × Secs),
      sent.map Prod.fst <+: published ∧ (c.closed = true → sent.map Prod.fst = published) ∧
      (∀ p ∈ sent, ∀ given ∈ p.1.2, given = .finite p.2) ∧
      StableSort (sent.map fun p => ⟨p.2, p.1.1⟩) series.telemetry.entries := by
  intro c messages series published
  have hconforms := (producer_run outside now args hnew actions).2.2
  obtain ⟨fields, hfields, rfl, hschemas, hspawn⟩ := of_new hnew
  have hstart := inv_start fields config now
  obtain ⟨inner, hinner, hrun⟩ := exists_actions hstart hclock
  have hvalid : validateTelemetrySchemas config.telemetrySchemas = .ok () := by
    rw [hschemas]
    exact (registerSchemas_ok_iff _).mp ⟨fields, hfields⟩
  have haircraft : c.aircraft = AircraftClient.run config (connected config now) inner := hrun
  obtain ⟨script, hprefix, hdone, hgiven, hcomplete, -⟩ :=
    upload_complete config (timely_of_validate hspawn) hvalid now inner hinner decode timeout a
      polls hothers hheard (hall.trans (congrArg State.sent hrun)) clock
  rw [← haircraft] at hprefix hdone
  have hitems : (items c.aircraft).filterMap frameOf = published :=
    filterMap_frameOf (accepted c.aircraft.calls).2
  refine ⟨framesAt script, ?_, fun hclosed => ?_, fun p hp => ?_, ?_⟩
  · rw [map_framesAt, ← hitems]
    exact hprefix.filterMap frameOf
  · have hinv := hstart.run actions
    have hinner' : c.aircraft.closed = true := by
      refine (hinv.idle ?_).2.trans hclosed
      refine eq_false_of_ne_true fun hclosing => ?_
      exact absurd (hclosed.symm.trans (hinv.waiting hclosing)) (by simp)
    rw [map_framesAt, hdone hinner', hitems]
  · obtain ⟨q, hq, hmap⟩ := List.mem_filterMap.mp hp
    obtain ⟨frame, hframe, rfl⟩ := Option.map_eq_some_iff.mp hmap
    refine fun given hgiven' => hgiven q hq given ?_
    rw [givenTimestamp_of_frameOf hframe]
    exact hgiven'
  · rw [← telemetry_arrivals fun p hp frame timestamp hframe => ?_]
    · exact hcomplete.telemetry
    · refine hconforms frame timestamp ?_
      have hmem := hprefix.subset (List.mem_map_of_mem hp)
      rw [hframe, items] at hmem
      obtain ⟨op, hop, heq⟩ := List.mem_map.mp
        ((List.mem_cons.mp hmem).resolve_left fun h => by cases h)
      cases heq
      exact hop

/-- The spawn and one frame, from the call to the socket. -/
def engineRun : List PyAction :=
  [.operation (.finite 5),
    .call (.publishTelemetry "engine" [pyFloat 1500, pyBool true] (some (.finite 1))),
    .operation (.finite 6), .operation (.finite 6), .sender, .sender, .sender, .sender]

def engineFrame : TelemetryFrame :=
  ⟨"engine", 1, [⟨some (.f64Value (.finite 1500))⟩, ⟨some (.boolValue true)⟩]⟩

/-- One byte for each of three messages. -/
def engineMessages (bytes : List UInt8) : Option Message :=
  if bytes = [0] then some (buildHandshakeMessage (.finite 0) engineConfig.clientUuid)
  else if bytes = [1] then some (spawnMessage engineConfig (.finite 5))
  else if bytes = [2] then
    some (buildTelemetryFrameMessage (.finite 6) engineConfig.aircraftUuid engineFrame
      (some (.finite 1)))
  else none

theorem producer_delivered_engine :
    let c := run engineConfig engineClient engineRun
    let messages := (ServerRuntime.run engineMessages 30 threePolls).handled.map fun e => (0, e.1)
    let series := (appendAll {} messages).series (aircraftId engineConfig)
    let published := (accepted c.aircraft.calls).2.filterMap telemetryOf
    (∃ sent : List ((TelemetryFrame × Option F64) × Secs),
      sent.map Prod.fst <+: published ∧ (c.closed = true → sent.map Prod.fst = published) ∧
      (∀ p ∈ sent, ∀ given ∈ p.1.2, given = .finite p.2) ∧
      StableSort (sent.map fun p => ⟨p.2, p.1.1⟩) series.telemetry.entries) ∧
      series.telemetry.entries = [⟨1, engineFrame⟩] :=
  ⟨producer_delivered (.ok engineUuids) (.finite 0) engineArgs rfl engineRun (by decide +kernel)
    engineMessages 30 1 threePolls (by decide +kernel) (by decide +kernel) (by decide +kernel)
    fun _ => 0, by decide +kernel⟩

end FlyRuler.Python
