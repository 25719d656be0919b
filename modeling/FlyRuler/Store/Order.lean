import FlyRuler.Store.Basic
import Mathlib.Data.List.Induction

/-!
# What a sequence of appends leaves in the store

Every call of an append function asks to add entries to the series of one aircraft: one entry, or
the initial state and the event of a `Spawn`, or none if the message is not for the store.  An entry
with a finite timestamp arrives; a telemetry frame arrives only if it fits the schema of its stream.

* `data_apply`: a call adds what arrives, and changes nothing else.
* `stableSort_foldl`: the series of an aircraft are the stable sorts of what has arrived for it.
-/

namespace FlyRuler.Store

open FlyRuler.Pb FlyRuler.Lib.Keyed FlyRuler.Lib.TimeOrder

/-! ## Calls and arrivals -/

/-- A call of an append function. -/
inductive AppendOp where
  | state (id : AircraftId) (timestamp : F64) (state : AircraftState)
  | event (id : AircraftId) (timestamp : F64) (event : Event)
  | telemetry (id : AircraftId) (timestamp : F64) (frame : TelemetryFrame)
  | message (now : Instant) (msg : Message)
  deriving DecidableEq

/-- An entry of one of the three series of an aircraft. -/
inductive Entry where
  | state (state : AircraftState)
  | event (event : Event)
  | telemetry (frame : TelemetryFrame)
  deriving DecidableEq

/-- An entry that is added to the series of an aircraft. -/
structure Arrival where
  id : AircraftId
  stamp : Secs
  entry : Entry
  deriving DecidableEq

def Arrival.state? (id : AircraftId) (a : Arrival) : Option TimestampedState :=
  match a.entry with
  | .state state => if a.id = id then some ⟨a.stamp, state⟩ else none
  | _ => none

def Arrival.event? (id : AircraftId) (a : Arrival) : Option TimestampedEvent :=
  match a.entry with
  | .event event => if a.id = id then some ⟨a.stamp, event⟩ else none
  | _ => none

def Arrival.telemetry? (id : AircraftId) (a : Arrival) : Option TimestampedTelemetryFrame :=
  match a.entry with
  | .telemetry frame => if a.id = id then some ⟨a.stamp, frame⟩ else none
  | _ => none

/-- The entries that a command asks to add. -/
def commandEntries : AircraftCommandInfo.Kind → List Entry
  | .stateUpdate state => [.state state]
  | .spawn spawn =>
    match validateTelemetrySchemas spawn.telemetrySchemas with
    | .error _ => []
    | .ok () => (spawn.initialState.map Entry.state).toList ++ [.event (.spawn spawn)]
  | .despawn despawn => [.event (.despawn despawn)]
  | .customEvent custom => [.event (.custom custom)]
  | .telemetryFrame frame => [.telemetry frame]

/-- The aircraft of a message, its timestamp, and its command. -/
def messageCommand (msg : Message) : Option (AircraftId × F64 × AircraftCommandInfo.Kind) :=
  match msg.envelope with
  | some (.request req) =>
    match req.command.bind RequestCommand.kind with
    | some (.aircraftEvent event) => (event.info.bind AircraftCommandInfo.kind).map fun info =>
        (TimeSeriesStore.aircraftIdOf event, req.timestamp, info)
    | _ => none
  | _ => none

/-- The aircraft that a call is for, the timestamp, and the entries that it asks to add. -/
def AppendOp.requested : AppendOp → Option (AircraftId × F64 × List Entry)
  | .state id timestamp value => some (id, timestamp, [.state value])
  | .event id timestamp value => some (id, timestamp, [.event value])
  | .telemetry id timestamp frame => some (id, timestamp, [.telemetry frame])
  | .message _ msg => (messageCommand msg).map fun command =>
      (command.1, command.2.1, commandEntries command.2.2)

namespace TimeSeriesStore

variable (store : TimeSeriesStore)

def apply : AppendOp → TimeSeriesStore
  | .state id timestamp state => store.appendState id timestamp state
  | .event id timestamp event => store.appendEvent id timestamp event
  | .telemetry id timestamp frame =>
    match store.appendTelemetry id timestamp frame with
    | .ok store => store
    | .error _ => store
  | .message now msg => store.appendMessage now msg

/-- A telemetry frame must fit the schema of its stream; everything else is accepted. -/
def accepts (id : AircraftId) : Entry → Bool
  | .telemetry frame =>
    (store.data.lookup id).any fun s => (validateTelemetryFrame (schemas s) frame).isOk
  | _ => true

/-- **What arrives in a call**: the entries accepted, if the timestamp is finite. -/
def arrivals (op : AppendOp) : List Arrival :=
  match op.requested with
  | none => []
  | some (id, timestamp, entries) =>
    match timestamp.toFinite with
    | none => []
    | some t => (entries.filter (store.accepts id)).map fun entry => ⟨id, t, entry⟩

/-- What arrives in a sequence of calls. -/
def arrivalsOf : TimeSeriesStore → List AppendOp → List Arrival
  | _, [] => []
  | store, op :: ops => store.arrivals op ++ arrivalsOf (store.apply op) ops

end TimeSeriesStore

/-- Add an entry to a series. -/
def AircraftTimeSeries.add (s : AircraftTimeSeries) (t : Secs) : Entry → AircraftTimeSeries
  | .state state => { s with states := s.states.append ⟨t, state⟩ }
  | .event event =>
    { s with
      config := TimeSeriesStore.configAfter s.config event
      events := s.events.append ⟨t, event⟩ }
  | .telemetry frame => { s with telemetry := s.telemetry.append ⟨t, frame⟩ }

def TimeSeriesStore.add (store : TimeSeriesStore) (a : Arrival) : TimeSeriesStore :=
  store.modifySeries a.id fun s => s.add a.stamp a.entry

/-! ## One call -/

namespace TimeSeriesStore

variable {store store' : TimeSeriesStore}

theorem data_modifySeries (h : store.data = store'.data) (id : AircraftId)
    (f : AircraftTimeSeries → AircraftTimeSeries) :
    (store.modifySeries id f).data = (store'.modifySeries id f).data := by
  unfold modifySeries series
  rw [h]

theorem data_add (h : store.data = store'.data) (a : Arrival) :
    (store.add a).data = (store'.add a).data :=
  data_modifySeries h _ _

theorem data_foldl_add (l : List Arrival) {store store' : TimeSeriesStore}
    (h : store.data = store'.data) : (l.foldl add store).data = (l.foldl add store').data := by
  induction l generalizing store store' with
  | nil => exact h
  | cons a l ih => exact ih (data_add h a)

theorem data_appendTelemetry (id : AircraftId) (t : Secs) (frame : TelemetryFrame) :
    (match store.appendTelemetry id (.finite t) frame with
      | .ok store => store
      | .error _ => store) =
      if store.accepts id (.telemetry frame) then store.add ⟨id, t, .telemetry frame⟩
      else store := by
  unfold accepts
  cases hs : store.data.lookup id with
  | none =>
    unfold appendTelemetry
    simp [F64.toFinite, hs]
  | some s =>
    rw [appendTelemetry_finite hs]
    rcases ok_or_error (validateTelemetryFrame (schemas s) frame) with hv | ⟨e, hv⟩
    · simp [hv, Except.isOk, Except.toBool, add, AircraftTimeSeries.add]
    · simp [hv, Except.isOk, Except.toBool]

/-- **A command** adds the entries that are accepted. -/
theorem data_appendCommand (now : Instant) (id : AircraftId) (t : Secs)
    (info : AircraftCommandInfo.Kind) :
    (store.appendCommand now id (.finite t) info).data =
      ((((commandEntries info).filter (store.accepts id)).map fun entry =>
        (⟨id, t, entry⟩ : Arrival)).foldl add store).data := by
  cases info with
  | stateUpdate state => rfl
  | spawn spawn =>
    unfold appendCommand commandEntries
    dsimp only
    cases validateTelemetrySchemas spawn.telemetrySchemas with
    | error e => rfl
    | ok u => cases spawn.initialState <;> rfl
  | despawn despawn => rfl
  | customEvent custom => rfl
  | telemetryFrame frame =>
    show (match store.appendTelemetry id (.finite t) frame with
      | .ok store => store
      | .error _ => store).data = _
    rw [data_appendTelemetry]
    unfold commandEntries
    by_cases hacc : store.accepts id (.telemetry frame) <;> simp [hacc]

theorem eq_finite_of_toFinite {x : F64} {t : Secs} (h : x.toFinite = some t) : x = .finite t := by
  cases x with
  | finite q => rw [Option.some.inj h]
  | _ => cases h

theorem appendMessage_eq (now : Instant) (msg : Message) :
    store.appendMessage now msg =
      match messageCommand msg with
      | some (id, timestamp, info) =>
        match timestamp.toFinite with
        | some _ => store.appendCommand now id timestamp info
        | none => store
      | none => store := by
  obtain ⟨_ | ⟨req⟩ | _ | _⟩ := msg <;> try rfl
  unfold appendMessage messageCommand
  dsimp only
  cases req.command.bind RequestCommand.kind with
  | none => cases req.timestamp.toFinite <;> rfl
  | some kind =>
    cases kind with
    | aircraftEvent event =>
      dsimp only
      cases event.info.bind AircraftCommandInfo.kind <;>
        cases hfin : req.timestamp.toFinite <;> simp [hfin]
    | _ => cases req.timestamp.toFinite <;> rfl

/-- **A call adds what arrives**, and changes nothing else in the series. -/
theorem data_apply (store : TimeSeriesStore) (op : AppendOp) :
    (store.apply op).data = ((store.arrivals op).foldl add store).data := by
  cases op with
  | state id timestamp value => cases timestamp <;> rfl
  | event id timestamp value => cases timestamp <;> rfl
  | telemetry id timestamp frame =>
    cases timestamp with
    | finite t =>
      show (match store.appendTelemetry id (.finite t) frame with
        | .ok store => store
        | .error _ => store).data = _
      rw [data_appendTelemetry]
      unfold arrivals AppendOp.requested
      by_cases hacc : store.accepts id (.telemetry frame) <;> simp [hacc, F64.toFinite]
    | _ => rfl
  | message now msg =>
    show (store.appendMessage now msg).data = _
    rw [appendMessage_eq]
    unfold arrivals AppendOp.requested
    dsimp only
    rcases messageCommand msg with _ | ⟨id, timestamp, info⟩
    · rfl
    · cases timestamp with
      | finite t => exact data_appendCommand now id t info
      | _ => rfl

/-- The call is refused: its timestamp is not finite, its telemetry frame does not fit, or it is a
message with another kind of content or with a `Spawn` whose schemas are not valid. -/
def Refused (store : TimeSeriesStore) : AppendOp → Prop
  | .state _ timestamp _ | .event _ timestamp _ => timestamp.toFinite = none
  | .telemetry id timestamp frame => ∃ e, store.appendTelemetry id timestamp frame = .error e
  | .message _ msg => ∀ id timestamp info, messageCommand msg = some (id, timestamp, info) →
      timestamp.toFinite = none ∨
        (∃ spawn e, info = .spawn spawn ∧
          validateTelemetrySchemas spawn.telemetrySchemas = .error e) ∨
        ∃ frame e, info = .telemetryFrame frame ∧
          store.appendTelemetry id timestamp frame = .error e

theorem error_iff_not_accepts (store : TimeSeriesStore) (id : AircraftId) (t : Secs)
    (frame : TelemetryFrame) :
    (∃ e, store.appendTelemetry id (.finite t) frame = .error e) ↔
      store.accepts id (.telemetry frame) = false := by
  unfold accepts
  cases hs : store.data.lookup id with
  | none =>
    unfold appendTelemetry
    simp [F64.toFinite, hs]
  | some s =>
    rw [appendTelemetry_finite hs]
    rcases ok_or_error (validateTelemetryFrame (schemas s) frame) with hv | ⟨e, hv⟩ <;>
      simp [hv, Except.isOk, Except.toBool]

/-- **Nothing arrives in a call iff it is refused.** -/
theorem arrivals_eq_nil_iff (store : TimeSeriesStore) (op : AppendOp) :
    store.arrivals op = [] ↔ store.Refused op := by
  unfold arrivals AppendOp.requested
  cases op with
  | state id timestamp value => cases timestamp <;> simp [Refused, F64.toFinite, accepts]
  | event id timestamp value => cases timestamp <;> simp [Refused, F64.toFinite, accepts]
  | telemetry id timestamp frame =>
    cases timestamp with
    | finite t =>
      show _ ↔ ∃ e, store.appendTelemetry id (.finite t) frame = .error e
      rw [error_iff_not_accepts]
      simp [F64.toFinite]
    | _ => simp [Refused, F64.toFinite, appendTelemetry]
  | message now msg =>
    unfold Refused
    dsimp only
    rcases messageCommand msg with _ | ⟨id, timestamp, info⟩
    · simp
    · cases timestamp with
      | finite t =>
        simp only [Option.map_some, F64.toFinite, List.map_eq_nil_iff, Option.some.injEq,
          Prod.mk.injEq, and_imp]
        cases info with
        | telemetryFrame frame =>
          have herr := store.error_iff_not_accepts id t frame
          simpa [commandEntries, List.filter_eq_nil_iff] using herr.symm
        | spawn spawn =>
          unfold commandEntries
          dsimp only
          cases hv : validateTelemetrySchemas spawn.telemetrySchemas <;>
            simp [hv, accepts, List.filter_append]
        | _ => simp [commandEntries, accepts]
      | _ => simp [F64.toFinite]

end TimeSeriesStore

/-! ## Whole sequences -/

namespace TimeSeriesStore

theorem series_add (store : TimeSeriesStore) (a : Arrival) (id : AircraftId) :
    (store.add a).series id =
      if id = a.id then (store.series id).add a.stamp a.entry else store.series id := by
  unfold add
  rw [series_modifySeries]
  split_ifs with hid
  · rw [hid]
  · rfl

/-- **The series of an aircraft are the stable sorts of what has arrived for it.** -/
theorem stableSort_foldl (id : AircraftId) (l : List Arrival) :
    let s := (l.foldl add {}).series id
    StableSort (l.filterMap (Arrival.state? id)) s.states.entries ∧
      StableSort (l.filterMap (Arrival.event? id)) s.events.entries ∧
      StableSort (l.filterMap (Arrival.telemetry? id)) s.telemetry.entries := by
  induction l using List.reverseRecOn with
  | nil => exact ⟨stableSort_nil, stableSort_nil, stableSort_nil⟩
  | append_singleton l a ih =>
    obtain ⟨hstates, hevents, htelemetry⟩ := ih
    rw [List.foldl_concat]
    dsimp only
    rw [series_add, List.filterMap_append, List.filterMap_append, List.filterMap_append]
    by_cases hid : id = a.id
    · rw [if_pos hid]
      obtain ⟨aid, t, entry⟩ := a
      obtain rfl := hid
      simp only [List.filterMap_cons, List.filterMap_nil, Arrival.state?, Arrival.event?,
        Arrival.telemetry?, if_true]
      cases entry with
      | state value =>
        refine ⟨hstates.append ⟨t, value⟩, ?_, ?_⟩ <;> rw [List.append_nil]
        · exact hevents
        · exact htelemetry
      | event value =>
        refine ⟨?_, hevents.append ⟨t, value⟩, ?_⟩ <;> rw [List.append_nil]
        · exact hstates
        · exact htelemetry
      | telemetry value =>
        refine ⟨?_, ?_, htelemetry.append ⟨t, value⟩⟩ <;> rw [List.append_nil]
        · exact hstates
        · exact hevents
    · rw [if_neg hid]
      have hnone : a.state? id = none ∧ a.event? id = none ∧ a.telemetry? id = none := by
        unfold Arrival.state? Arrival.event? Arrival.telemetry?
        refine ⟨?_, ?_, ?_⟩ <;> cases a.entry <;> simp [Ne.symm hid]
      simpa [hnone] using ⟨hstates, hevents, htelemetry⟩

/-- The store after a sequence of calls. -/
def stored (ops : List AppendOp) : TimeSeriesStore := ops.foldl apply {}

/-- **A sequence of calls adds what arrives.** -/
theorem data_foldl_apply (ops : List AppendOp) (store : TimeSeriesStore) :
    (ops.foldl apply store).data = ((store.arrivalsOf ops).foldl add store).data := by
  induction ops generalizing store with
  | nil => rfl
  | cons op ops ih =>
    rw [List.foldl_cons, ih, arrivalsOf, List.foldl_append]
    exact data_foldl_add _ (data_apply store op)

theorem series_congr {store store' : TimeSeriesStore} (h : store.data = store'.data)
    (id : AircraftId) : store.series id = store'.series id := by
  unfold series
  rw [h]

/-- A call only touches the aircraft that it is for. -/
theorem lookup_apply_of_ne (store : TimeSeriesStore) {op : AppendOp} {j : AircraftId}
    (hj : op.requested.map Prod.fst ≠ some j) :
    (store.apply op).data.lookup j = store.data.lookup j := by
  have hfor : ∀ a ∈ store.arrivals op, a.id ≠ j := by
    intro a ha
    unfold arrivals at ha
    split at ha
    · exact absurd ha List.not_mem_nil
    · next id timestamp entries hreq =>
      rw [hreq] at hj
      split at ha
      · exact absurd ha List.not_mem_nil
      · obtain ⟨entry, -, rfl⟩ := List.mem_map.mp ha
        exact fun hid => hj (congrArg some hid)
  rw [data_apply]
  generalize store.arrivals op = l at hfor
  induction l generalizing store with
  | nil => rfl
  | cons a l ih =>
    rw [List.foldl_cons, ih (store.add a) (fun b hb => hfor b (List.mem_cons_of_mem _ hb))]
    unfold add
    rw [lookup_modifySeries, if_neg (Ne.symm (hfor a List.mem_cons_self))]

/-- **The law of the store**, for every sequence of calls: the series are the stable sorts of what
has arrived; a call that is refused changes no series; and a call for one aircraft leaves the series
and the configuration of every other as they are. -/
theorem stableSort_stored (ops : List AppendOp) :
    (∀ id, StableSort ((arrivalsOf {} ops).filterMap (Arrival.state? id))
        ((stored ops).series id).states.entries ∧
      StableSort ((arrivalsOf {} ops).filterMap (Arrival.event? id))
        ((stored ops).series id).events.entries ∧
      StableSort ((arrivalsOf {} ops).filterMap (Arrival.telemetry? id))
        ((stored ops).series id).telemetry.entries) ∧
    ∀ pre op, pre ++ [op] <+: ops →
      ((stored pre).Refused op → (stored (pre ++ [op])).data = (stored pre).data) ∧
      ∀ j, op.requested.map Prod.fst ≠ some j →
        (stored (pre ++ [op])).data.lookup j = (stored pre).data.lookup j := by
  refine ⟨fun id => ?_, fun pre op _ => ?_⟩
  · have hseries := series_congr (data_foldl_apply ops {}) id
    unfold stored
    rw [hseries]
    exact stableSort_foldl id _
  · have hlast : stored (pre ++ [op]) = (stored pre).apply op := List.foldl_concat _ _ _ _
    rw [hlast]
    refine ⟨fun hrefused => ?_, fun j hj => lookup_apply_of_ne _ hj⟩
    rw [data_apply, (arrivals_eq_nil_iff _ _).mpr hrefused]
    rfl

/-- A `Spawn` with a nameless stream. -/
def namelessStream : AircraftSpawnInfo := { telemetrySchemas := [{ streamId := "", fields := [] }] }

/-- **An event that is appended directly is not checked**: a `Spawn` whose schemas are not valid can
change the series of its aircraft. -/
theorem appendEvent_invalid_spawn :
    ¬∀ (store : TimeSeriesStore) (id : AircraftId) (timestamp : F64) (spawn : AircraftSpawnInfo),
      (∃ e, validateTelemetrySchemas spawn.telemetrySchemas = .error e) →
        (store.apply (.event id timestamp (.spawn spawn))).data = store.data := by
  intro h
  have hsame := h {} "a" (.finite 1) namelessStream ⟨_, rfl⟩
  have hlookup := congrArg (fun data => (data.lookup "a").isSome) hsame
  exact absurd hlookup (by decide)

end TimeSeriesStore

end FlyRuler.Store
