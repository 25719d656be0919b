import FlyRuler.Msfs.Session
import Mathlib.Data.List.TakeWhile

/-!
# The freeze flags of the aircraft of the user

`SimConnectClient` of `bindings/msfs/src/simconnect.rs` freezes an aircraft by one event for each of
three flags.  The flags of the aircraft of the user are read when the connection is opened; a
release, and the end of the client, put them back.  Here the loop of `bindings/msfs/src/bridge.rs`
moves the aircraft of the user with an `ObjectSession` of `aircraft.rs`, beside others, and every
call may fail.  A call that fails has no effect, and nobody else moves the flags.

* `flags_after_run`: after any number of connections a flag is set just if it was set before or an
  acquisition was cut short after it.
* `frozen_writes_iff`: the aircraft of the user is moved only while all its flags are set, unless a
  release is cut short.
-/

namespace FlyRuler.Msfs.Freeze

open FlyRuler.Pb FlyRuler.Lib.Run FlyRuler.Msfs.Session

/-! ## The client -/

inductive FreezeAxis where
  | latLon
  | altitude
  | attitude
  deriving DecidableEq

/-- The flags of an aircraft. -/
abbrev Flags := FreezeAxis → Bool

/-- The events that set the flags, in the order they are sent. -/
def axes : List FreezeAxis := [.latLon, .altitude, .attitude]

def OBJECT_USER : ℕ := 0

/-- The calls of the simulator's library: an event for a flag, or the other calls as they are. -/
inductive SimCall where
  | freeze (objectId : ℕ) (axis : FreezeAxis) (value : Bool)
  | write (objectId : ℕ) (call : SimulatorCall)
  deriving DecidableEq

/-- Which of the calls succeed. -/
abbrev Answers := SimCall → Bool

structure SimConnectClient where
  originalFreeze : Flags
  acquiredFreeze : Bool := false
  engineCount : ℕ := 4

/-- The client, the flags in the simulator, and the writes that went through, each with the flags of
its object at the time. -/
structure Device where
  client : SimConnectClient
  flags : ℕ → Flags
  written : List (ℕ × SimulatorCall × Flags) := []

namespace Device

variable (answers : Answers) (device : Device)

/-- What a call does. -/
def perform : SimCall → Device
  | .freeze objectId axis value =>
    { device with flags := fun object other =>
        if object = objectId ∧ other = axis then value else device.flags object other }
  | .write objectId call =>
    { device with written := device.written ++ [(objectId, call, device.flags objectId)] }

/-- One call, which may fail. -/
def send (call : SimCall) : Device × Bool :=
  if answers call then (device.perform call, true) else (device, false)

/-- The events for the flags of an object, up to the first that fails. -/
def transmit (objectId : ℕ) (values : Flags) : Device × Bool :=
  loopWhile (send answers) device (axes.map fun axis => .freeze objectId axis (values axis))

def setFrozenForObject (objectId : ℕ) (frozen : Bool) : Device × Bool :=
  let values : Flags :=
    if objectId = OBJECT_USER ∧ frozen = false then device.client.originalFreeze
    else fun _ => frozen
  match device.transmit answers objectId values with
  | (device, false) => (device, false)
  | (device, true) =>
    (if objectId = OBJECT_USER then
      { device with client := { device.client with acquiredFreeze := frozen } }
    else device, true)

/-- The throttles of engines that the aircraft does not have are left out. -/
def ignores (objectId : ℕ) : SimulatorCall → Bool
  | .setEngineThrottle index _ => index = 0 || 4 < index ||
      (objectId = OBJECT_USER && device.client.engineCount < index)
  | _ => false

/-- `Simulator` for an object of the client. -/
def simConnect (objectId : ℕ) : Simulator Device := fun device call =>
  match call with
  | .setFrozen frozen => device.setFrozenForObject answers objectId frozen
  | call =>
    if device.ignores objectId call then (device, true)
    else device.send answers (.write objectId call)

end Device

/-! ## The sessions and the loop -/

structure ObjectSession where
  objectId : ℕ
  frozen : Bool := false
  userAircraft : Bool

namespace ObjectSession

def user : ObjectSession := { objectId := OBJECT_USER, userAircraft := true }

def ai (objectId : ℕ) : ObjectSession := { objectId := objectId, userAircraft := false }

variable (answers : Answers) (session : ObjectSession) (device : Device)

/-- The session as one with the simulator for its object. -/
def bridge : BridgeSession Device := ⟨device, session.frozen⟩

/-- The session after an operation. -/
def after (result : BridgeSession Device × Bool) : (ObjectSession × Device) × Bool :=
  (({ session with frozen := result.1.frozen }, result.1.simulator), result.2)

def apply (frame : MsfsFrame) : (ObjectSession × Device) × Bool :=
  session.after ((session.bridge device).apply (Device.simConnect answers session.objectId) frame)

def applyGear (command : GearCommand) : (ObjectSession × Device) × Bool :=
  session.after ((session.bridge device).applyGearCommand
    (Device.simConnect answers session.objectId) command)

def release : (ObjectSession × Device) × Bool :=
  if session.userAircraft then
    session.after ((session.bridge device).release (Device.simConnect answers session.objectId))
  else ((session, device), true)

/-- One operation of a session. -/
def perform : SessionOp → (ObjectSession × Device) × Bool
  | .apply frame => session.apply answers device frame
  | .release => session.release answers device
  | .gear command => session.applyGear answers device command

end ObjectSession

/-- The bridge while a connection is open. -/
structure Bridge where
  device : Device
  user : ObjectSession := .user
  looping : Bool := true

/-- What the loop does to the simulator: an operation of the session of the user (the release is
that of a despawn) or of the session of another object; or it is left. -/
inductive BridgeStep where
  | user (answers : Answers) (op : SessionOp)
  | ai (answers : Answers) (session : ObjectSession) (apart : session.objectId ≠ OBJECT_USER)
    (op : SessionOp)
  | leave

/-- The loop is left if an operation fails, but a failed release is only logged. -/
def goesOn : SessionOp → Bool → Bool
  | .release, _ => true
  | _, ok => ok

def Bridge.step (bridge : Bridge) : BridgeStep → Bridge
  | .user answers op =>
    if bridge.looping then
      let result := bridge.user.perform answers bridge.device op
      { device := result.1.2, user := result.1.1, looping := goesOn op result.2 }
    else bridge
  | .ai answers session _ op =>
    if bridge.looping then
      let result := session.perform answers bridge.device op
      { bridge with device := result.1.2, looping := goesOn op result.2 }
    else bridge
  | .leave => { bridge with looping := false }

/-- The end of the client: every flag is put back, whether or not the others are. -/
def Device.drop (answers : Answers) (device : Device) : Device :=
  if device.client.acquiredFreeze then
    axes.foldl (fun device axis =>
      (device.send answers (.freeze OBJECT_USER axis (device.client.originalFreeze axis))).1) device
  else device

/-- One connection: whether the flags could be read, the number of engines if it could, the steps of
the loop, and the answers at its end. -/
structure Connection where
  timedOut : Bool := false
  engineCount : Option ℕ := none
  steps : List BridgeStep
  releaseAnswers : Answers
  dropAnswers : Answers

namespace Connection

variable (c : Connection)

/-- `SimConnectClient::connect`: the flags and the engines are those that the simulator tells, if it
answers in time. -/
def connect (flags : ℕ → Flags) : Bridge where
  device :=
    { client :=
        { originalFreeze := if c.timedOut then fun _ => false else flags OBJECT_USER
          engineCount := (c.engineCount.map fun value => min value 4).getD 4 }
      flags := flags }

/-- The flags after the connection. -/
def run (flags : ℕ → Flags) : ℕ → Flags :=
  let bridge := c.steps.foldl Bridge.step (c.connect flags)
  let released := bridge.user.release c.releaseAnswers bridge.device
  (released.1.2.drop c.dropAnswers).flags

end Connection

/-! ## What the calls do to the flags -/

/-- The events that go through. -/
def sent (answers : Answers) (objectId : ℕ) (values : Flags) : List FreezeAxis :=
  axes.takeWhile fun axis => answers (.freeze objectId axis (values axis))

/-- The flags of an object after some events. -/
def Device.withFlags (device : Device) (objectId : ℕ) (done : List FreezeAxis) (values : Flags) :
    Device :=
  { device with flags := fun object axis =>
      if object = objectId ∧ axis ∈ done then values axis else device.flags object axis }

section
variable (answers : Answers) (device : Device) (objectId : ℕ) (values : Flags)

theorem loopWhile_send (l : List FreezeAxis) :
    loopWhile (Device.send answers) device
        (l.map fun axis => .freeze objectId axis (values axis)) =
      (device.withFlags objectId
        (l.takeWhile fun axis => answers (.freeze objectId axis (values axis))) values,
        l.all fun axis => answers (.freeze objectId axis (values axis))) := by
  induction l generalizing device with
  | nil => simp [loopWhile, Device.withFlags]
  | cons axis l ih =>
    rw [List.map_cons, loopWhile, Device.send]
    rcases hanswer : answers (.freeze objectId axis (values axis)) with _ | _
    · simp [hanswer, Device.withFlags]
    · rw [if_pos rfl]
      dsimp only
      rw [ih, List.takeWhile_cons, hanswer, if_pos rfl, List.all_cons, hanswer, Bool.true_and]
      refine Prod.ext ?_ rfl
      unfold Device.withFlags Device.perform
      dsimp only
      congr 1
      funext object other
      by_cases hobject : object = objectId
      · by_cases hother : other = axis
        · subst hother
          simp [hobject]
        · simp [hobject, hother]
      · simp [hobject]

theorem transmit_eq :
    device.transmit answers objectId values =
      (device.withFlags objectId (sent answers objectId values) values,
        axes.all fun axis => answers (.freeze objectId axis (values axis))) :=
  loopWhile_send answers device objectId values axes

theorem mem_axes (axis : FreezeAxis) : axis ∈ axes := by
  rcases axis with _ | _ | _ <;> simp [axes]

theorem sent_of_all
    (h : (axes.all fun axis => answers (.freeze objectId axis (values axis))) = true) :
    sent answers objectId values = axes :=
  List.takeWhile_eq_self_iff.mpr (List.all_eq_true.mp h)

theorem sent_ne_of_not_all
    (h : (axes.all fun axis => answers (.freeze objectId axis (values axis))) = false) :
    sent answers objectId values ≠ axes := by
  intro heq
  have hall := List.all_eq_true.mpr (List.takeWhile_eq_self_iff.mp heq)
  rw [h] at hall
  exact nomatch hall

end

/-- Some writes to an object, each with its flags. -/
structure Writes (objectId : ℕ) (device device' : Device) : Prop where
  client : device'.client = device.client
  flags : device'.flags = device.flags
  written : ∃ calls : List SimulatorCall, device'.written =
    device.written ++ calls.map fun call => (objectId, call, device.flags objectId)

theorem Writes.refl (objectId : ℕ) (device : Device) : Writes objectId device device :=
  ⟨rfl, rfl, [], by simp⟩

theorem Writes.trans {objectId : ℕ} {device device' device'' : Device}
    (h : Writes objectId device device') (h' : Writes objectId device' device'') :
    Writes objectId device device'' := by
  obtain ⟨calls, hcalls⟩ := h.written
  obtain ⟨calls', hcalls'⟩ := h'.written
  refine ⟨h'.client.trans h.client, h'.flags.trans h.flags, calls ++ calls', ?_⟩
  rw [hcalls', hcalls, h.flags, List.map_append, List.append_assoc]

theorem writes_simConnect (answers : Answers) (objectId : ℕ) (device : Device)
    {call : SimulatorCall} (hcall : ∀ frozen, call ≠ .setFrozen frozen) :
    Writes objectId device (Device.simConnect answers objectId device call).1 := by
  unfold Device.simConnect
  split
  · next frozen => exact absurd rfl (hcall frozen)
  · split_ifs
    · exact .refl objectId device
    · unfold Device.send
      split_ifs
      · exact ⟨rfl, rfl, [call], rfl⟩
      · exact .refl objectId device

theorem not_setFrozen_of_mem_frameWrites {frame : MsfsFrame} {call : SimulatorCall}
    (h : call ∈ frameWrites frame) (frozen : Bool) : call ≠ .setFrozen frozen := by
  rintro rfl
  have hallowed := (allowed_of_mem_frameWrites h true).1
  have hafter := (allowed_of_mem_frameWrites h true).2
  rcases frozen with _ | _
  · exact nomatch hafter
  · exact nomatch hallowed

/-- Writing, up to a call that fails. -/
theorem writes_loop (answers : Answers) (objectId : ℕ) (device : Device)
    {calls : List SimulatorCall} (hcalls : ∀ call ∈ calls, ∀ frozen, call ≠ .setFrozen frozen) :
    Writes objectId device (loopWhile (Device.simConnect answers objectId) device calls).1 :=
  loopWhile_inv (I := Writes objectId device)
    (fun device' call hmem h =>
      h.trans (writes_simConnect answers objectId device' (hcalls call hmem)))
    (.refl objectId device)

theorem writes_frame (answers : Answers) (objectId : ℕ) (device : Device) (frame : MsfsFrame) :
    Writes objectId device
      (loopWhile (Device.simConnect answers objectId) device (frameWrites frame)).1 :=
  writes_loop answers objectId device fun _ hmem => not_setFrozen_of_mem_frameWrites hmem

/-- The gear is moved by one call. -/
theorem written_gear (answers : Answers) (objectId : ℕ) (device : Device) (command : GearCommand) :
    ∀ entry ∈ (Device.simConnect answers objectId device (.setLandingGear command)).1.written,
      entry ∈ device.written ∨ entry.2.1 = .setLandingGear command := by
  intro entry hentry
  simp only [Device.simConnect, Device.ignores, Bool.false_eq_true, if_false, Device.send] at hentry
  split_ifs at hentry
  · refine (List.mem_append.mp hentry).imp_right fun hnew => ?_
    rw [List.mem_singleton.mp hnew]
  · exact .inl hentry

/-! ### The aircraft of the user -/

/-- **What an operation of the session of the user does** to the session, the client and the flags,
and whether it succeeds. -/
inductive Effect (answers : Answers) (session : ObjectSession) (device : Device) :
    SessionOp → ObjectSession × Device → Bool → Prop where
  | written (frame : MsfsFrame) (device' : Device) (ok : Bool) (frozen : session.frozen = true)
      (writes : Writes OBJECT_USER device device') :
      Effect answers session device (.apply frame) (session, device') ok
  | acquired (frame : MsfsFrame) (device' device'' : Device) (ok : Bool)
      (free : session.frozen = false) (all : sent answers OBJECT_USER (fun _ => true) = axes)
      (client : device'.client = { device.client with acquiredFreeze := true })
      (flags : ∀ axis, device'.flags OBJECT_USER axis = true)
      (nothing : device'.written = device.written) (writes : Writes OBJECT_USER device' device'') :
      Effect answers session device (.apply frame) ({ session with frozen := true }, device'') ok
  | cutShort (frame : MsfsFrame) (free : session.frozen = false)
      (short : sent answers OBJECT_USER (fun _ => true) ≠ axes) :
      Effect answers session device (.apply frame) (session,
        device.withFlags OBJECT_USER (sent answers OBJECT_USER fun _ => true) fun _ => true) false
  | geared (command : GearCommand) (device' : Device) (ok : Bool)
      (writes : Writes OBJECT_USER device device')
      (gear : ∀ entry ∈ device'.written, entry ∈ device.written ∨
        entry.2.1 = .setLandingGear command) :
      Effect answers session device (.gear command) (session, device') ok
  | idle (free : session.frozen = false) :
      Effect answers session device .release (session, device) true
  | released (device' : Device) (frozen : session.frozen = true)
      (all : sent answers OBJECT_USER device.client.originalFreeze = axes)
      (client : device'.client = { device.client with acquiredFreeze := false })
      (flags : device'.flags OBJECT_USER = device.client.originalFreeze)
      (nothing : device'.written = device.written) :
      Effect answers session device .release ({ session with frozen := false }, device') true
  | stuck (frozen : session.frozen = true)
      (short : sent answers OBJECT_USER device.client.originalFreeze ≠ axes) :
      Effect answers session device .release (session, device.withFlags OBJECT_USER
        (sent answers OBJECT_USER device.client.originalFreeze) device.client.originalFreeze) false

theorem withFlags_axes (device : Device) (values : Flags) :
    (device.withFlags OBJECT_USER axes values).flags OBJECT_USER = values := by
  funext axis
  exact if_pos ⟨rfl, mem_axes axis⟩

section
variable (answers : Answers) (device : Device)

/-- Freezing the aircraft of the user, or putting its flags back. -/
theorem setFrozenForObject_user (frozen : Bool) :
    device.setFrozenForObject answers OBJECT_USER frozen =
      let values : Flags := if frozen = false then device.client.originalFreeze else fun _ => frozen
      if axes.all fun axis => answers (.freeze OBJECT_USER axis (values axis)) then
        ({ device.withFlags OBJECT_USER axes values with
            client := { device.client with acquiredFreeze := frozen } }, true)
      else (device.withFlags OBJECT_USER (sent answers OBJECT_USER values) values, false) := by
  unfold Device.setFrozenForObject
  simp only [true_and, transmit_eq]
  split_ifs with hfrozen hall hall
  · rw [hall, sent_of_all answers OBJECT_USER _ hall]
    rfl
  · rw [Bool.eq_false_iff.mpr hall]
  · rw [hall, sent_of_all answers OBJECT_USER _ hall]
    rfl
  · rw [Bool.eq_false_iff.mpr hall]

theorem ObjectSession.after_same {session : ObjectSession} {result : BridgeSession Device × Bool}
    (h : result.1.frozen = session.frozen) :
    session.after result = ((session, result.1.simulator), result.2) := by
  unfold after
  rw [h]

theorem effect_apply {session : ObjectSession} (hid : session.objectId = OBJECT_USER)
    (frame : MsfsFrame) :
    Effect answers session device (.apply frame) (session.apply answers device frame).1
      (session.apply answers device frame).2 := by
  rw [ObjectSession.apply, hid]
  rcases hfrozen : session.frozen with _ | _
  · have hset := setFrozenForObject_user answers device true
    rw [if_neg Bool.true_eq_false_eq_False] at hset
    dsimp only at hset
    split_ifs at hset with hall
    · rw [BridgeSession.apply_acquired hfrozen hset]
      exact .acquired frame { device.withFlags OBJECT_USER axes fun _ => true with
          client := { device.client with acquiredFreeze := true } } _ _ hfrozen
        (sent_of_all answers OBJECT_USER _ hall) rfl
        (congrFun (withFlags_axes device fun _ => true)) rfl
        (writes_frame answers OBJECT_USER _ frame)
    · rw [BridgeSession.apply_refused hfrozen hset, ObjectSession.after_same hfrozen.symm]
      exact .cutShort frame hfrozen (sent_ne_of_not_all answers OBJECT_USER _
        (Bool.eq_false_iff.mpr hall))
  · rw [BridgeSession.apply_frozen hfrozen, ObjectSession.after_same rfl]
    exact .written frame _ _ hfrozen (writes_frame answers OBJECT_USER device frame)

theorem effect_release {session : ObjectSession} (hid : session.objectId = OBJECT_USER)
    (huser : session.userAircraft = true) :
    Effect answers session device .release (session.release answers device).1
      (session.release answers device).2 := by
  rw [ObjectSession.release, if_pos huser, hid]
  rcases hfrozen : session.frozen with _ | _
  · rw [BridgeSession.release_free hfrozen, ObjectSession.after_same rfl]
    exact .idle hfrozen
  · have hset := setFrozenForObject_user answers device false
    rw [if_pos rfl] at hset
    dsimp only at hset
    split_ifs at hset with hall
    · rw [BridgeSession.release_done hfrozen hset]
      exact .released _ hfrozen (sent_of_all answers OBJECT_USER _ hall) rfl
        (withFlags_axes device _) rfl
    · rw [BridgeSession.release_refused hfrozen hset, ObjectSession.after_same hfrozen.symm]
      exact .stuck hfrozen (sent_ne_of_not_all answers OBJECT_USER _ (Bool.eq_false_iff.mpr hall))

theorem effect_perform {session : ObjectSession} (hid : session.objectId = OBJECT_USER)
    (huser : session.userAircraft = true) (op : SessionOp) :
    Effect answers session device op (session.perform answers device op).1
      (session.perform answers device op).2 := by
  rcases op with frame | _ | command
  · exact effect_apply answers device hid frame
  · exact effect_release answers device hid huser
  · rw [ObjectSession.perform, ObjectSession.applyGear, hid, ObjectSession.after_same rfl]
    exact .geared command _ _ (writes_simConnect answers OBJECT_USER device fun _ => nofun)
      (written_gear answers OBJECT_USER device command)

end

/-! ### The other aircraft -/

/-- What the sessions of other objects leave alone. -/
structure Others (device device' : Device) : Prop where
  client : device'.client = device.client
  flags : device'.flags OBJECT_USER = device.flags OBJECT_USER
  written : ∃ more, device'.written = device.written ++ more ∧ ∀ entry ∈ more, entry.1 ≠ OBJECT_USER

theorem Others.refl (device : Device) : Others device device := ⟨rfl, rfl, [], by simp⟩

theorem Others.trans {device device' device'' : Device} (h : Others device device')
    (h' : Others device' device'') : Others device device'' := by
  obtain ⟨more, hmore, hother⟩ := h.written
  obtain ⟨more', hmore', hother'⟩ := h'.written
  refine ⟨h'.client.trans h.client, h'.flags.trans h.flags, more ++ more', ?_, ?_⟩
  · rw [hmore', hmore, List.append_assoc]
  · intro entry hentry
    exact (List.mem_append.mp hentry).elim (hother entry) (hother' entry)

theorem others_simConnect {answers : Answers} {objectId : ℕ} (hid : objectId ≠ OBJECT_USER)
    (device : Device) (call : SimulatorCall) :
    Others device (Device.simConnect answers objectId device call).1 := by
  rcases hset : call with frozen | _ | _ | _ | _ | _
  · have hflags : ∀ done values, Others device (device.withFlags objectId done values) := by
      refine fun done values => ⟨rfl, ?_, [], by simp [Device.withFlags]⟩
      funext axis
      exact if_neg fun h => hid h.1.symm
    rw [Device.simConnect, Device.setFrozenForObject, transmit_eq]
    dsimp only
    split
    · next heq =>
      rw [← (Prod.mk.inj heq).1]
      exact hflags _ _
    · next heq =>
      rw [if_neg hid, ← (Prod.mk.inj heq).1]
      exact hflags _ _
  all_goals
    have hcall : ∀ frozen, call ≠ .setFrozen frozen := by
      rw [hset]
      exact fun _ => nofun
    have hwrites := writes_simConnect answers objectId device hcall
    rw [hset] at hwrites
    obtain ⟨hclient, hflags, calls, hcalls⟩ := hwrites
    refine ⟨hclient, by rw [hflags], _, hcalls, ?_⟩
    intro entry hentry
    obtain ⟨-, -, rfl⟩ := List.mem_map.mp hentry
    exact hid

theorem others_perform (answers : Answers) {session : ObjectSession}
    (hid : session.objectId ≠ OBJECT_USER) (device : Device) (op : SessionOp) :
    Others device (session.perform answers device op).1.2 := by
  have hcall : ∀ device' call, Others device device' →
      Others device (Device.simConnect answers session.objectId device' call).1 :=
    fun device' call h => h.trans (others_simConnect hid device' call)
  rcases op with frame | _ | command
  · exact BridgeSession.apply_inv hcall (.refl device) frame
  · rw [ObjectSession.perform, ObjectSession.release]
    split_ifs
    · exact BridgeSession.release_inv hcall (.refl device)
    · exact .refl device
  · exact hcall device _ (.refl device)

/-! ## The flags after the connections -/

/-- The events of an acquisition that is cut short: they go through, but not all do. -/
def cutShort (answers : Answers) (axis : FreezeAxis) : Bool :=
  axis ∈ sent answers OBJECT_USER (fun _ => true) &&
    sent answers OBJECT_USER (fun _ => true) != axes

/-- The flags that a step leaves behind: those of an acquisition that is cut short. -/
def BridgeStep.strands (bridge : Bridge) : BridgeStep → FreezeAxis → Bool
  | .user answers (.apply _), axis =>
    bridge.looping && !bridge.user.frozen && cutShort answers axis
  | _, _ => false

/-- A connection that reads the flags, and whose end goes through. -/
structure Connection.Quiet (c : Connection) : Prop where
  read : c.timedOut = false
  restored : ∀ call, c.dropAnswers call = true

/-- Some step of the connection leaves a flag behind. -/
def Connection.Strands (flags : ℕ → Flags) (c : Connection) (axis : FreezeAxis) : Prop :=
  ∃ pre step, pre ++ [step] <+: c.steps ∧
    step.strands (pre.foldl Bridge.step (c.connect flags)) axis = true

/-- What the bridge knows of the flags of the user, with those that have been left behind. -/
structure Inv (home stranded : Flags) (bridge : Bridge) : Prop where
  objectId : bridge.user.objectId = OBJECT_USER
  userAircraft : bridge.user.userAircraft = true
  acquired : bridge.device.client.acquiredFreeze = bridge.user.frozen
  original : bridge.device.client.originalFreeze = home
  free : bridge.user.frozen = false →
    ∀ axis, bridge.device.flags OBJECT_USER axis = (home axis || stranded axis)
  none : bridge.looping = true ∨ bridge.user.frozen = true → ∀ axis, stranded axis = false

theorem Inv.connect {flags : ℕ → Flags} {c : Connection} (h : c.timedOut = false) :
    Inv (flags OBJECT_USER) (fun _ => false) (c.connect flags) := by
  refine ⟨rfl, rfl, rfl, ?_, fun _ axis => (Bool.or_false _).symm, fun _ _ => rfl⟩
  unfold Connection.connect
  rw [h]
  rfl

section
variable {home stranded : Flags} {bridge : Bridge}

theorem Inv.user (h : Inv home stranded bridge) (hlooping : bridge.looping = true)
    (answers : Answers) (op : SessionOp) :
    Inv home (fun axis => stranded axis || (BridgeStep.user answers op).strands bridge axis)
      (bridge.step (.user answers op)) := by
  obtain ⟨hid, huser, hacquired, horiginal, hfree, hnone⟩ := h
  have hstranded : ∀ axis, stranded axis = false := hnone (.inl hlooping)
  have heffect := effect_perform answers bridge.device hid huser op
  simp only [Bridge.step, if_pos hlooping, hstranded, Bool.false_or, Bool.or_false] at hfree ⊢
  generalize bridge.user.perform answers bridge.device op = result at heffect ⊢
  obtain ⟨state, ok⟩ := result
  dsimp only at heffect
  cases heffect with
  | written frame device' ok frozen writes =>
    exact ⟨hid, huser, writes.client ▸ hacquired, writes.client ▸ horiginal,
      fun hnot => (nomatch frozen.symm.trans hnot),
      fun _ axis => by simp [BridgeStep.strands, frozen]⟩
  | acquired frame device' device'' ok free all client flags nothing writes =>
    have hclient := writes.client.trans client
    refine ⟨hid, huser, by rw [hclient], by rw [hclient]; exact horiginal, nofun,
      fun _ axis => ?_⟩
    simp [BridgeStep.strands, Freeze.cutShort, all]
  | cutShort frame free short =>
    refine ⟨hid, huser, hacquired, horiginal, fun _ axis => ?_, fun hnot => ?_⟩
    · simp only [Device.withFlags, true_and, BridgeStep.strands, hlooping, free, Bool.not_false,
        Bool.and_true, Freeze.cutShort, bne_iff_ne.mpr short, Bool.true_and]
      split_ifs with hsent
      · simp [hsent]
      · simp [hsent, hfree free axis]
    · exact hnot.elim nofun fun hfrozen => nomatch free.symm.trans hfrozen
  | geared command device' ok writes gear =>
    refine ⟨hid, huser, writes.client ▸ hacquired, writes.client ▸ horiginal, fun hnot axis => ?_,
      fun _ _ => rfl⟩
    rw [writes.flags, hfree hnot axis]
    exact (Bool.or_false _).symm
  | idle free =>
    exact ⟨hid, huser, hacquired, horiginal,
      fun _ axis => (hfree free axis).trans (Bool.or_false _).symm, fun _ _ => rfl⟩
  | released device' frozen all client flags nothing =>
    refine ⟨hid, huser, by rw [client], by rw [client]; exact horiginal, fun _ axis => ?_,
      fun _ _ => rfl⟩
    rw [flags, horiginal]
    exact (Bool.or_false _).symm
  | stuck frozen short =>
    exact ⟨hid, huser, hacquired, horiginal, fun hnot => (nomatch frozen.symm.trans hnot),
      fun _ _ => rfl⟩

/-- **One step** leaves behind what it strands, and nothing else. -/
theorem Inv.step (h : Inv home stranded bridge) (step : BridgeStep) :
    Inv home (fun axis => stranded axis || step.strands bridge axis) (bridge.step step) := by
  by_cases hlooping : bridge.looping = true
  · rcases step with ⟨answers, op⟩ | ⟨answers, session, hapart, op⟩ | _
    · exact h.user hlooping answers op
    · obtain ⟨hclient, hflags, -⟩ := others_perform answers hapart bridge.device op
      have hnone := h.none (.inl hlooping)
      simp only [Bridge.step, if_pos hlooping, BridgeStep.strands, Bool.or_false]
      exact ⟨h.objectId, h.userAircraft, hclient ▸ h.acquired, hclient ▸ h.original,
        fun hfree axis => hflags ▸ h.free hfree axis, fun _ => hnone⟩
    · have hnone := h.none (.inl hlooping)
      simp only [BridgeStep.strands, Bool.or_false]
      exact ⟨h.objectId, h.userAircraft, h.acquired, h.original, h.free, fun _ => hnone⟩
  · have hidle : bridge.step step = { bridge with looping := false } := by
      have hfalse := Bool.eq_false_iff.mpr hlooping
      rcases step with ⟨answers, op⟩ | ⟨answers, session, hapart, op⟩ | _
      · rw [Bridge.step, if_neg hlooping, ← hfalse]
      · rw [Bridge.step, if_neg hlooping, ← hfalse]
      · rfl
    have hnothing : ∀ axis, step.strands bridge axis = false := by
      intro axis
      rcases step with ⟨answers, _ | _ | _⟩ | ⟨answers, session, hapart, op⟩ | _ <;>
        simp [BridgeStep.strands, hlooping]
    simp only [hidle, hnothing, Bool.or_false]
    exact ⟨h.objectId, h.userAircraft, h.acquired, h.original, h.free,
      fun hor => h.none (hor.elim nofun .inr)⟩

/-- **The run of the loop.** -/
theorem Inv.run (h : Inv home stranded bridge) (steps : List BridgeStep) :
    ∃ stranded' : Flags, Inv home stranded' (steps.foldl Bridge.step bridge) ∧
      ∀ axis, stranded' axis = true ↔ stranded axis = true ∨
        ∃ pre step, pre ++ [step] <+: steps ∧
          step.strands (pre.foldl Bridge.step bridge) axis = true := by
  induction steps generalizing stranded bridge with
  | nil => exact ⟨stranded, h, fun axis => (or_iff_left not_exists_step_nil).symm⟩
  | cons step steps ih =>
    obtain ⟨stranded', hinv, hiff⟩ := ih (h.step step)
    refine ⟨stranded', hinv, fun axis => (hiff axis).trans ?_⟩
    rw [Bool.or_eq_true, or_assoc, exists_step_cons]
    exact Iff.rfl

/-- The end of a client that has frozen the aircraft of the user puts all flags back. -/
theorem drop_flags {answers : Answers} (hanswers : ∀ call, answers call = true) (device : Device)
    (hacquired : device.client.acquiredFreeze = true) :
    (device.drop answers).flags OBJECT_USER = device.client.originalFreeze := by
  funext axis
  rw [Device.drop, if_pos hacquired]
  rcases axis with _ | _ | _ <;> simp [axes, Device.send, Device.perform, hanswers]

theorem Inv.finish (h : Inv home stranded bridge) (releaseAnswers : Answers) {dropAnswers : Answers}
    (hdrop : ∀ call, dropAnswers call = true) (axis : FreezeAxis) :
    ((bridge.user.release releaseAnswers bridge.device).1.2.drop dropAnswers).flags OBJECT_USER
      axis = (home axis || stranded axis) := by
  have heffect := effect_release releaseAnswers bridge.device h.objectId h.userAircraft
  have hacquired := h.acquired
  have horiginal := h.original
  generalize bridge.user.release releaseAnswers bridge.device = result at heffect ⊢
  obtain ⟨state, ok⟩ := result
  dsimp only at heffect
  cases heffect with
  | idle free =>
    dsimp only
    rw [Device.drop, hacquired, free]
    exact h.free free axis
  | released device' frozen all client flags nothing =>
    dsimp only
    rw [Device.drop, client, if_neg Bool.false_ne_true, flags, horiginal, h.none (.inr frozen) axis,
      Bool.or_false]
  | stuck frozen short =>
    have hdropped := congrFun (drop_flags hdrop (bridge.device.withFlags OBJECT_USER
      (sent releaseAnswers OBJECT_USER bridge.device.client.originalFreeze)
      bridge.device.client.originalFreeze) (hacquired.trans frozen)) axis
    rw [h.none (.inr frozen) axis, Bool.or_false]
    exact hdropped.trans (congrFun horiginal axis)

end

/-- **One connection**: a flag of the user is set after it just if it was set before or some step
has left it behind. -/
theorem Connection.flags_run {c : Connection} (h : c.Quiet) (flags : ℕ → Flags)
    (axis : FreezeAxis) :
    c.run flags OBJECT_USER axis = true ↔ flags OBJECT_USER axis = true ∨ c.Strands flags axis := by
  have hconnect : Inv (flags OBJECT_USER) (fun _ => false) (c.connect flags) := .connect h.read
  obtain ⟨stranded, hinv, hiff⟩ := hconnect.run c.steps
  rw [Connection.run, hinv.finish c.releaseAnswers h.restored axis, Bool.or_eq_true, hiff axis]
  simp [Connection.Strands]

/-- **After any number of connections** a flag of the user is set just if it was set before the
first, or some acquisition has been cut short after it: the bridge takes such a flag for one of the
user from then on. -/
theorem flags_after_run {cs : List Connection} (h : ∀ c ∈ cs, c.Quiet) (flags : ℕ → Flags)
    (axis : FreezeAxis) :
    cs.foldl (fun flags c => c.run flags) flags OBJECT_USER axis = true ↔
      flags OBJECT_USER axis = true ∨ ∃ pre c, pre ++ [c] <+: cs ∧
        c.Strands (pre.foldl (fun flags c => c.run flags) flags) axis := by
  induction cs generalizing flags with
  | nil => exact (or_iff_left not_exists_step_nil).symm
  | cons c cs ih =>
    obtain ⟨hc, hcs⟩ := List.forall_mem_cons.mp h
    rw [List.foldl_cons, ih hcs, c.flags_run hc, or_assoc, exists_step_cons]
    exact Iff.rfl

/-- A connection whose only acquisition stops at the second event. -/
def shortConnection : Connection where
  steps := [.user (fun call => call != .freeze OBJECT_USER .altitude true)
    (.apply ⟨⟨0, 0, 0, 0, 0, 0⟩, {}, none, {}⟩)]
  releaseAnswers := fun _ => true
  dropAnswers := fun _ => true

/-- A connection that shows nothing. -/
def idleConnection : Connection where
  steps := []
  releaseAnswers := fun _ => true
  dropAnswers := fun _ => true

/-- The first flag is left behind, and the next connection leaves it as it is. -/
theorem flags_after_run_short :
    [shortConnection, idleConnection].foldl (fun flags c => c.run flags) (fun _ _ => false)
      OBJECT_USER .latLon = true := by
  refine (flags_after_run ?_ _ _).mpr (.inr ⟨[], shortConnection, ⟨[idleConnection], rfl⟩, ?_⟩)
  · intro c hc
    rcases List.mem_cons.mp hc with rfl | hc
    · exact ⟨rfl, fun _ => rfl⟩
    · obtain rfl := List.mem_singleton.mp hc
      exact ⟨rfl, fun _ => rfl⟩
  · exact ⟨[], _, List.prefix_rfl, by decide⟩

/-! ## The writes to the aircraft of the user -/

/-- The aircraft of the user has been moved only while all its flags were set. -/
def MovedFrozen (device : Device) : Prop :=
  ∀ entry ∈ device.written, entry.1 = OBJECT_USER →
    (∀ command, entry.2.1 ≠ .setLandingGear command) → ∀ axis, entry.2.2 axis = true

/-- A release that is cut short has put back no flag that was not set. -/
def ReleasesWhole (bridge : Bridge) : BridgeStep → Prop
  | .user answers .release => bridge.looping = true → bridge.user.frozen = true →
      let original := bridge.device.client.originalFreeze
      sent answers OBJECT_USER original = axes ∨
        ∀ axis ∈ sent answers OBJECT_USER original, original axis = true
  | _ => True

/-- A frame that is written without a failure. -/
def IsFrame (step : BridgeStep) : Prop :=
  ∃ frame, step = .user (fun _ => true) (.apply frame)

/-- While the session of the user holds its aircraft, all flags are set. -/
structure Held (bridge : Bridge) : Prop where
  objectId : bridge.user.objectId = OBJECT_USER
  userAircraft : bridge.user.userAircraft = true
  flags : bridge.user.frozen = true → ∀ axis, bridge.device.flags OBJECT_USER axis = true
  moved : MovedFrozen bridge.device

theorem Writes.moved {device device' : Device} (h : Writes OBJECT_USER device device')
    (hmoved : MovedFrozen device) (hflags : ∀ axis, device.flags OBJECT_USER axis = true) :
    MovedFrozen device' := by
  obtain ⟨-, -, calls, hcalls⟩ := h
  intro entry hentry hid hmove
  rw [hcalls] at hentry
  rcases List.mem_append.mp hentry with hold | hnew
  · exact hmoved entry hold hid hmove
  · obtain ⟨call, -, rfl⟩ := List.mem_map.mp hnew
    exact hflags

theorem Others.moved {device device' : Device} (h : Others device device')
    (hmoved : MovedFrozen device) : MovedFrozen device' := by
  obtain ⟨-, -, more, hmore, hother⟩ := h
  intro entry hentry hid hmove
  rw [hmore] at hentry
  rcases List.mem_append.mp hentry with hold | hnew
  · exact hmoved entry hold hid hmove
  · exact absurd hid (hother entry hnew)

section
variable {bridge : Bridge}

theorem Held.user (h : Held bridge) (hlooping : bridge.looping = true) {answers : Answers}
    {op : SessionOp} (hwhole : ReleasesWhole bridge (.user answers op)) :
    Held (bridge.step (.user answers op)) := by
  obtain ⟨hid, huser, hflags, hmoved⟩ := h
  have heffect := effect_perform answers bridge.device hid huser op
  simp only [Bridge.step, if_pos hlooping]
  generalize bridge.user.perform answers bridge.device op = result at heffect ⊢
  obtain ⟨state, ok⟩ := result
  dsimp only at heffect
  cases heffect with
  | written frame device' ok frozen writes =>
    exact ⟨hid, huser, fun _ axis => writes.flags ▸ hflags frozen axis,
      writes.moved hmoved (hflags frozen)⟩
  | acquired frame device' device'' ok free all client flags nothing writes =>
    have hbefore : MovedFrozen device' := by
      unfold MovedFrozen
      rw [nothing]
      exact hmoved
    exact ⟨hid, huser, fun _ axis => writes.flags ▸ flags axis, writes.moved hbefore flags⟩
  | cutShort frame free short =>
    exact ⟨hid, huser, fun hnot => (nomatch free.symm.trans hnot), hmoved⟩
  | geared command device' ok writes gear =>
    refine ⟨hid, huser, fun hfrozen axis => writes.flags ▸ hflags hfrozen axis, ?_⟩
    intro entry hentry huser' hmove
    rcases gear entry hentry with hold | hgear
    · exact hmoved entry hold huser' hmove
    · exact absurd hgear (hmove command)
  | idle free => exact ⟨hid, huser, hflags, hmoved⟩
  | released device' frozen all client flags nothing =>
    refine ⟨hid, huser, nofun, ?_⟩
    unfold MovedFrozen
    rw [nothing]
    exact hmoved
  | stuck frozen short =>
    refine ⟨hid, huser, fun _ axis => ?_, hmoved⟩
    have hset := (hwhole hlooping frozen).resolve_left short
    simp only [Device.withFlags, true_and]
    split_ifs with hsent
    · exact hset axis hsent
    · exact hflags frozen axis

theorem Held.step (h : Held bridge) {step : BridgeStep} (hwhole : ReleasesWhole bridge step) :
    Held (bridge.step step) := by
  by_cases hlooping : bridge.looping = true
  · rcases step with ⟨answers, op⟩ | ⟨answers, session, hapart, op⟩ | _
    · exact h.user hlooping hwhole
    · have hothers := others_perform answers hapart bridge.device op
      rw [Bridge.step, if_pos hlooping]
      exact ⟨h.objectId, h.userAircraft, fun hfrozen axis => hothers.flags ▸ h.flags hfrozen axis,
        hothers.moved h.moved⟩
    · exact ⟨h.objectId, h.userAircraft, h.flags, h.moved⟩
  · rcases step with ⟨answers, op⟩ | ⟨answers, session, hapart, op⟩ | _
    · rw [Bridge.step, if_neg hlooping]
      exact h
    · rw [Bridge.step, if_neg hlooping]
      exact h
    · exact ⟨h.objectId, h.userAircraft, h.flags, h.moved⟩

/-- The pose of a frame is written first. -/
theorem pose_written (device : Device) (frame : MsfsFrame) :
    (OBJECT_USER, .setPose frame.pose, device.flags OBJECT_USER) ∈
      (loopWhile (Device.simConnect (fun _ => true) OBJECT_USER) device
        (frameWrites frame)).1.written := by
  have hframe : ∃ rest, frameWrites frame = .setPose frame.pose :: rest := ⟨_, rfl⟩
  obtain ⟨rest, hrest⟩ := hframe
  have hnot : ∀ call ∈ rest, ∀ frozen, call ≠ .setFrozen frozen := by
    intro call hmem
    have hcall : call ∈ frameWrites frame := hrest ▸ List.mem_cons_of_mem _ hmem
    exact not_setFrozen_of_mem_frameWrites hcall
  rw [hrest, loopWhile]
  change _ ∈ (loopWhile _ (device.perform (.write OBJECT_USER (.setPose frame.pose)))
    rest).1.written
  obtain ⟨-, -, calls, hcalls⟩ := writes_loop (fun _ => true) OBJECT_USER
    (device.perform (.write OBJECT_USER (.setPose frame.pose))) hnot
  rw [hcalls]
  exact List.mem_append_left _ (List.mem_append_right _ (List.mem_singleton_self _))

/-- After a release that was cut short a frame moves the aircraft while a flag is not set. -/
theorem not_moved_of_stuck (h : Held bridge) {step : BridgeStep}
    (hwhole : ¬ReleasesWhole bridge step) :
    ∃ js, (∀ j ∈ js, IsFrame j) ∧
      ¬Meets Bridge.step (fun bridge step => MovedFrozen (bridge.step step).device) bridge
        (step :: js) := by
  rcases step with ⟨answers, _ | _ | _⟩ | _ | _
  · exact absurd trivial hwhole
  · simp only [ReleasesWhole, Classical.not_imp, not_or, not_forall] at hwhole
    obtain ⟨hlooping, hfrozen, hshort, axis, hsent, hclear⟩ := hwhole
    have heffect := effect_release answers bridge.device h.objectId h.userAircraft
    have hstep : bridge.step (.user answers .release) =
        { device := (bridge.user.release answers bridge.device).1.2
          user := (bridge.user.release answers bridge.device).1.1
          looping := true } := by
      rw [Bridge.step, if_pos hlooping]
      rfl
    generalize bridge.user.release answers bridge.device = result at heffect hstep
    obtain ⟨state, ok⟩ := result
    dsimp only at heffect hstep
    cases heffect with
    | idle free => exact nomatch free.symm.trans hfrozen
    | released device' frozen all client flags nothing => exact absurd all hshort
    | stuck frozen short =>
      refine ⟨[.user (fun _ => true) (.apply ⟨⟨0, 0, 0, 0, 0, 0⟩, {}, none, {}⟩)], ?_, ?_⟩
      · intro j hj
        exact ⟨_, List.mem_singleton.mp hj⟩
      · rintro ⟨-, hmoved, -⟩
        rw [hstep] at hmoved
        have hpose := pose_written (bridge.device.withFlags OBJECT_USER
          (sent answers OBJECT_USER bridge.device.client.originalFreeze)
          bridge.device.client.originalFreeze) ⟨⟨0, 0, 0, 0, 0, 0⟩, {}, none, {}⟩
        simp only [Bridge.step, if_true, ObjectSession.perform, ObjectSession.apply, h.objectId]
          at hmoved
        rw [BridgeSession.apply_frozen frozen] at hmoved
        have hset := hmoved _ hpose rfl (fun _ => nofun) axis
        simp only [Device.withFlags, true_and, if_pos hsent] at hset
        exact hclear hset
  all_goals exact absurd trivial hwhole

end

/-- **The aircraft of the user is moved only while all its flags are set**, whatever frames follow,
just if no release is cut short after it has put back a flag that was not set. -/
theorem frozen_writes_iff (c : Connection) (flags : ℕ → Flags) :
    (∀ pre js, pre <+: c.steps → (∀ j ∈ js, IsFrame j) →
      Meets Bridge.step (fun bridge step => MovedFrozen (bridge.step step).device)
        (c.connect flags) (pre ++ js)) ↔
      Meets Bridge.step ReleasesWhole (c.connect flags) c.steps := by
  refine meets_iff_of_late (I := Held) ?_ ?_ (fun _ _ h => not_moved_of_stuck h) ?_
  · intro bridge step h hwhole
    exact ⟨(h.step hwhole).moved, h.step hwhole⟩
  · rintro bridge step ⟨frame, rfl⟩
    trivial
  · exact ⟨rfl, rfl, nofun, nofun⟩

end FlyRuler.Msfs.Freeze
