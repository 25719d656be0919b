import FlyRuler.Lib.Run
import FlyRuler.Msfs.Frame
import FlyRuler.Msfs.GearTracker

/-!
# Sessions with a simulator

`BridgeSession` of `bindings/msfs/src/lib.rs` moves an aircraft of any simulator: it freezes the
simulator before the first write and frees it in the end.  Every call may fail, and then the
operation stops.

* `lawful_run`: a session writes only while it holds the simulator frozen.
-/

namespace FlyRuler.Msfs.Session

open FlyRuler.Pb FlyRuler.Lib.Run

/-! ## A session with any simulator -/

/-- The operations of the trait `Simulator`. -/
inductive SimulatorCall where
  | setFrozen (frozen : Bool)
  | setPose (pose : MsfsPose)
  | setSurface (surface : Surface) (value : ℚ)
  | setAirdata (airdata : MsfsAirData)
  | setEngineThrottle (index : ℕ) (ratio : ℚ)
  | setLandingGear (command : GearCommand)
  deriving DecidableEq

/-- A simulator: the state after a call, and whether it answers `Ok(())`. -/
abbrev Simulator (σ : Type) := σ → SimulatorCall → σ × Bool

structure BridgeSession (σ : Type) where
  simulator : σ
  frozen : Bool := false

/-- What is written of a frame, in this order. -/
def frameWrites (frame : MsfsFrame) : List SimulatorCall :=
  [.setPose frame.pose] ++ frame.airdata.toList.map .setAirdata ++
    ((controlValues frame.controls).map fun (surface, value) => .setSurface surface value) ++
    (List.finRange 4).filterMap fun offset =>
      (frame.propulsors.ratios offset).map (.setEngineThrottle (offset.val + 1))

/-- The calls of a session. -/
inductive SessionOp where
  | apply (frame : MsfsFrame)
  | release
  | gear (command : GearCommand)

namespace BridgeSession

variable {σ : Type} (call : Simulator σ) (session : BridgeSession σ)

/-- `set_frozen`, which is only remembered if it succeeds. -/
def setFrozen (frozen : Bool) : BridgeSession σ × Bool :=
  match call session.simulator (.setFrozen frozen) with
  | (simulator, true) => (⟨simulator, frozen⟩, true)
  | (simulator, false) => (⟨simulator, session.frozen⟩, false)

/-- The freeze before the first write. -/
def acquire : BridgeSession σ × Bool :=
  if session.frozen then (session, true) else session.setFrozen call true

/-- The writes of a frame, up to the first that fails. -/
def write (frame : MsfsFrame) : BridgeSession σ × Bool :=
  let written := loopWhile call session.simulator (frameWrites frame)
  (⟨written.1, session.frozen⟩, written.2)

def apply (frame : MsfsFrame) : BridgeSession σ × Bool :=
  match session.acquire call with
  | (session, false) => (session, false)
  | (session, true) => session.write call frame

def release : BridgeSession σ × Bool :=
  if session.frozen then session.setFrozen call false else (session, true)

def applyGearCommand (command : GearCommand) : BridgeSession σ × Bool :=
  let answer := call session.simulator (.setLandingGear command)
  (⟨answer.1, session.frozen⟩, answer.2)

def step : SessionOp → BridgeSession σ
  | .apply frame => (session.apply call frame).1
  | .release => (session.release call).1
  | .gear command => (session.applyGearCommand call command).1

end BridgeSession

section
variable {σ : Type} {call : Simulator σ} {session : BridgeSession σ} {simulator : σ}

theorem BridgeSession.apply_frozen (h : session.frozen = true) (frame : MsfsFrame) :
    session.apply call frame = session.write call frame := by
  rw [apply, acquire, if_pos h]

theorem BridgeSession.apply_acquired (h : session.frozen = false)
    (hcall : call session.simulator (.setFrozen true) = (simulator, true)) (frame : MsfsFrame) :
    session.apply call frame = BridgeSession.write call ⟨simulator, true⟩ frame := by
  rw [apply, acquire, if_neg (Bool.eq_false_iff.mp h), setFrozen, hcall]

theorem BridgeSession.apply_refused (h : session.frozen = false)
    (hcall : call session.simulator (.setFrozen true) = (simulator, false)) (frame : MsfsFrame) :
    session.apply call frame = (⟨simulator, false⟩, false) := by
  rw [apply, acquire, if_neg (Bool.eq_false_iff.mp h), setFrozen, hcall, h]

theorem BridgeSession.release_free (h : session.frozen = false) :
    session.release call = (session, true) := by
  rw [release, if_neg (Bool.eq_false_iff.mp h)]

theorem BridgeSession.release_done (h : session.frozen = true)
    (hcall : call session.simulator (.setFrozen false) = (simulator, true)) :
    session.release call = (⟨simulator, false⟩, true) := by
  rw [release, if_pos h, setFrozen, hcall]

theorem BridgeSession.release_refused (h : session.frozen = true)
    (hcall : call session.simulator (.setFrozen false) = (simulator, false)) :
    session.release call = (⟨simulator, true⟩, false) := by
  rw [release, if_pos h, setFrozen, hcall, h]

end

section
variable {σ : Type} {call : Simulator σ} {I : σ → Prop} (hcall : ∀ s next, I s → I (call s next).1)
  {session : BridgeSession σ}

include hcall in
/-- What every call keeps, every operation keeps. -/
theorem BridgeSession.setFrozen_inv (h : I session.simulator) (frozen : Bool) :
    I (session.setFrozen call frozen).1.simulator := by
  have hnext := hcall session.simulator (.setFrozen frozen) h
  rcases hanswer : call session.simulator (.setFrozen frozen) with ⟨simulator, _ | _⟩ <;>
    simp only [BridgeSession.setFrozen, hanswer] at hnext ⊢ <;>
    exact hnext

include hcall in
theorem BridgeSession.apply_inv (h : I session.simulator) (frame : MsfsFrame) :
    I (session.apply call frame).1.simulator := by
  have hacquire : I (session.acquire call).1.simulator := by
    rw [acquire]
    split_ifs
    · exact h
    · exact setFrozen_inv hcall h true
  rw [apply]
  split
  · next acquired heq =>
    rw [heq] at hacquire
    exact hacquire
  · next acquired heq =>
    rw [heq] at hacquire
    exact loopWhile_inv (fun s next _ hs => hcall s next hs) hacquire

include hcall in
theorem BridgeSession.release_inv (h : I session.simulator) :
    I (session.release call).1.simulator := by
  rw [release]
  split_ifs
  · exact setFrozen_inv hcall h false
  · exact h

end

/-! ### The calls it makes -/

/-- A call, and whether it succeeded. -/
abbrev Answered := SimulatorCall × Bool

/-- The simulator with a record of the calls. -/
def record {σ : Type} (call : Simulator σ) : Simulator (σ × List Answered) :=
  fun recorded next =>
    let answer := call recorded.1 next
    ((answer.1, recorded.2 ++ [(next, answer.2)]), answer.2)

/-- Whether the simulator is held frozen after a call. -/
def heldAfter (held : Bool) : Answered → Bool
  | (.setFrozen frozen, true) => frozen
  | _ => held

/-- Which calls may be made: to freeze what is free, to free what is frozen, to move the gear, and
to write what is frozen. -/
def Allowed (held : Bool) (answered : Answered) : Prop :=
  match answered.1 with
  | .setFrozen frozen => held = !frozen
  | .setLandingGear _ => True
  | _ => held = true

/-- The calls of a session so far are allowed, and it knows whether it holds the simulator. -/
structure Lawful {σ : Type} (session : BridgeSession (σ × List Answered)) : Prop where
  allowed : Meets heldAfter Allowed false session.simulator.2
  held : session.frozen = session.simulator.2.foldl heldAfter false

section
variable {σ : Type} {session : BridgeSession (σ × List Answered)} (call : Simulator σ)

theorem Lawful.record (h : Lawful session) {next : SimulatorCall}
    (hallowed : Allowed session.frozen (next, (call session.simulator.1 next).2)) :
    Lawful ⟨(Session.record call session.simulator next).1,
      heldAfter session.frozen (next, (call session.simulator.1 next).2)⟩ := by
  refine ⟨meets_append.mpr ⟨h.allowed, ?_, trivial⟩, ?_⟩
  · rw [← h.held]
    exact hallowed
  · change _ = (session.simulator.2 ++ [_]).foldl heldAfter false
    rw [List.foldl_append, ← h.held]
    rfl

theorem Lawful.setFrozen (h : Lawful session) {frozen : Bool} (hfree : session.frozen = !frozen) :
    Lawful (session.setFrozen (Session.record call) frozen).1 := by
  have hallowed : Allowed session.frozen (.setFrozen frozen,
      (call session.simulator.1 (.setFrozen frozen)).2) := hfree
  have hrecord := h.record call hallowed
  rcases hanswer : call session.simulator.1 (.setFrozen frozen) with ⟨simulator, _ | _⟩ <;>
    simp only [BridgeSession.setFrozen, Session.record, hanswer] at hrecord ⊢ <;>
    exact hrecord

/-- What is written needs the simulator to be held, and leaves it so. -/
theorem allowed_of_mem_frameWrites {frame : MsfsFrame} {next : SimulatorCall}
    (h : next ∈ frameWrites frame) (ok : Bool) :
    Allowed true (next, ok) ∧ heldAfter true (next, ok) = true := by
  simp only [frameWrites, List.mem_append, List.mem_singleton, List.mem_map, List.mem_filterMap,
    Option.map_eq_some_iff] at h
  rcases h with ((rfl | ⟨_, -, rfl⟩) | ⟨_, -, rfl⟩) | ⟨_, -, _, -, rfl⟩ <;> exact ⟨rfl, rfl⟩

theorem Lawful.write (h : Lawful session) (hheld : session.frozen = true) (frame : MsfsFrame) :
    Lawful (session.write (Session.record call) frame).1 := by
  have hturn : ∀ recorded, ∀ next ∈ frameWrites frame,
      Lawful (⟨recorded, true⟩ : BridgeSession (σ × List Answered)) →
        Lawful ⟨(Session.record call recorded next).1, true⟩ := by
    intro recorded next hnext hlawful
    obtain ⟨hallowed, hafter⟩ := allowed_of_mem_frameWrites hnext (call recorded.1 next).2
    have hrecord := hlawful.record call hallowed
    rw [hafter] at hrecord
    exact hrecord
  unfold BridgeSession.write
  rw [hheld]
  refine loopWhile_inv (I := fun recorded => Lawful ⟨recorded, true⟩) hturn ?_
  rw [← hheld]
  exact h

theorem frozen_of_setFrozen {session' : BridgeSession (σ × List Answered)} {frozen : Bool}
    (h : session.setFrozen (Session.record call) frozen = (session', true)) :
    session'.frozen = frozen := by
  unfold BridgeSession.setFrozen at h
  split at h
  · rw [← (Prod.mk.inj h).1]
  · exact nomatch (Prod.mk.inj h).2

theorem Lawful.step (h : Lawful session) (op : SessionOp) :
    Lawful (session.step (Session.record call) op) := by
  rcases op with frame | _ | command
  · rw [BridgeSession.step, BridgeSession.apply, BridgeSession.acquire]
    split_ifs with hfrozen
    · exact h.write call hfrozen frame
    · have hset : Lawful (session.setFrozen (Session.record call) true).1 :=
        h.setFrozen call (by simpa using hfrozen)
      rcases hacquire : session.setFrozen (Session.record call) true with ⟨acquired, _ | _⟩
      · rw [hacquire] at hset
        exact hset
      · rw [hacquire] at hset
        exact hset.write call (frozen_of_setFrozen call hacquire) frame
  · rw [BridgeSession.step, BridgeSession.release]
    split_ifs with hfrozen
    · exact h.setFrozen call hfrozen
    · exact h
  · exact h.record call trivial

/-- **A session writes only while it holds the simulator frozen**: whatever the simulator answers,
it freezes only what is free, frees only what it has frozen, and knows which of them it is. -/
theorem lawful_run (start : σ) (ops : List SessionOp) :
    Lawful (ops.foldl (BridgeSession.step (Session.record call)) ⟨(start, []), false⟩) := by
  have hrun : ∀ session : BridgeSession (σ × List Answered), Lawful session →
      Lawful (ops.foldl (BridgeSession.step (Session.record call)) session) := by
    induction ops with
    | nil => exact fun _ h => h
    | cons op ops ih => exact fun session h => ih _ (h.step call op)
  exact hrun _ ⟨trivial, rfl⟩

end

end FlyRuler.Msfs.Session
