import FlyRuler.Store.Basic

/-!
# The session tables

`SessionState` of `core/src/transport/server.rs`: one table from address to session and one from
client UUID to address.  Every operation is a function on the two tables; each has a lemma that says
what it leaves at an address (`lookup_*`).
-/

namespace FlyRuler.Transport

open FlyRuler.Pb FlyRuler.Store FlyRuler.Lib.Keyed

/-- The transport errors that this development can produce. -/
inductive TransportError where
  | decode
  | invalidMessage (message : String)
  deriving DecidableEq

/-- A socket address, numbered in the order of `SocketAddr`. -/
abbrev SocketAddr := ℕ

/-- A session.  Its address is its key in the table. -/
structure Session where
  clientUuidHex : String
  role : ClientRole
  cursorSubscribed : Bool := false
  cursorRequestedHz : ℚ := 30
  cursorEventAck : ℕ := 0
  cursorEpoch : List UInt8 := []
  lastSeenAt : Instant
  deriving DecidableEq

structure SessionState where
  byAddr : Table SocketAddr Session := ∅
  byClientUuid : Table String SocketAddr := ∅
  deriving DecidableEq

/-! ## The operations -/

namespace SessionState

variable (state : SessionState)

def touchAddr (now : Instant) (addr : SocketAddr) : SessionState :=
  { state with byAddr := adjust (fun s => { s with lastSeenAt := now }) addr state.byAddr }

def setSession (now : Instant) (addr : SocketAddr) (clientUuid : String) (role : ClientRole) :
    SessionState :=
  let byAddr := match state.byClientUuid.lookup clientUuid with
    | some oldAddr => state.byAddr.erase oldAddr
    | none => state.byAddr
  { byAddr := byAddr.insert addr { clientUuidHex := clientUuid, role := role, lastSeenAt := now }
    byClientUuid := state.byClientUuid.insert clientUuid addr }

def subscribeCursor (addr : SocketAddr) (requestedHz : ℚ) : SessionState × Bool :=
  let accepts := (state.byAddr.lookup addr).any fun s => s.role == .cursorSubscriber
  let subscribe (s : Session) :=
    { s with cursorSubscribed := true, cursorRequestedHz := requestedHz }
  ({ state with byAddr := if accepts then adjust subscribe addr state.byAddr else state.byAddr },
    accepts)

/-- Whether a session accepts the acknowledgement of a batch. -/
def acceptsAck (epoch : Option Uuid) (sequence : ℕ) (s : Session) : Bool :=
  s.role == .cursorSubscriber && s.cursorSubscribed &&
    (epoch.any fun value => value.value == s.cursorEpoch) &&
    sequence == (s.cursorEventAck + 1) % u64Size

def acknowledgeCursorEvent (addr : SocketAddr) (epoch : Option Uuid) (sequence : ℕ) :
    SessionState × Bool :=
  let accepts := (state.byAddr.lookup addr).any (acceptsAck epoch sequence)
  let acknowledge (s : Session) := { s with cursorEventAck := sequence }
  ({ state with byAddr := if accepts then adjust acknowledge addr state.byAddr else state.byAddr },
    accepts)

def setCursorEpoch (addr : SocketAddr) (epoch : List UInt8) : SessionState :=
  { state with byAddr := adjust (fun s =>
      if s.role = .cursorSubscriber then { s with cursorEpoch := epoch } else s) addr state.byAddr }

def role (addr : SocketAddr) : Option ClientRole := (state.byAddr.lookup addr).map Session.role

def removeByAddr (addr : SocketAddr) : SessionState :=
  match state.byAddr.lookup addr with
  | some old =>
    { byAddr := state.byAddr.erase addr
      byClientUuid := state.byClientUuid.erase old.clientUuidHex }
  | none => state

/-- All sessions with their addresses. -/
def list : List (SocketAddr × Session) := toPairs state.byAddr

/-- The session has been silent for longer than `timeout`. -/
def isExpired (now : Instant) (timeout : Duration) (s : Session) : Bool :=
  decide (timeout < now - s.lastSeenAt)

def cleanupExpired (now : Instant) (timeout : Duration) : SessionState :=
  let expired := state.list.filter fun e => isExpired now timeout e.2
  { byAddr := eraseAll (expired.map fun e => e.1) state.byAddr
    byClientUuid := eraseAll (expired.map fun e => e.2.clientUuidHex) state.byClientUuid }

/-! ## What each operation leaves at an address -/

variable {state}

theorem lookup_touchAddr (now : Instant) (addr b : SocketAddr) :
    (state.touchAddr now addr).byAddr.lookup b =
      if b = addr then (state.byAddr.lookup addr).map fun s => { s with lastSeenAt := now }
      else state.byAddr.lookup b :=
  lookup_adjust _ _ _ _

theorem lookup_setSession (now : Instant) (addr b : SocketAddr) (uuid : String)
    (role : ClientRole) : (state.setSession now addr uuid role).byAddr.lookup b =
      if b = addr then some { clientUuidHex := uuid, role := role, lastSeenAt := now }
      else if state.byClientUuid.lookup uuid = some b then none
      else state.byAddr.lookup b := by
  unfold setSession
  simp only [lookup_insert]
  cases h : state.byClientUuid.lookup uuid with
  | none => simp
  | some oldAddr =>
    rw [lookup_erase]
    by_cases hb : b = oldAddr
    · subst hb; simp
    · simp [hb, Ne.symm hb]

theorem lookup_subscribeCursor (addr b : SocketAddr) (hz : ℚ) :
    (state.subscribeCursor addr hz).1.byAddr.lookup b =
      if b = addr then (state.byAddr.lookup addr).map fun s =>
        if s.role == .cursorSubscriber then
          { s with cursorSubscribed := true, cursorRequestedHz := hz }
        else s
      else state.byAddr.lookup b :=
  lookup_ite_adjust _ _ _ _ _

theorem lookup_acknowledgeCursorEvent (addr b : SocketAddr) (epoch : Option Uuid) (seq : ℕ) :
    (state.acknowledgeCursorEvent addr epoch seq).1.byAddr.lookup b =
      if b = addr then (state.byAddr.lookup addr).map fun s =>
        if acceptsAck epoch seq s then { s with cursorEventAck := seq } else s
      else state.byAddr.lookup b :=
  lookup_ite_adjust _ _ _ _ _

theorem lookup_setCursorEpoch (addr b : SocketAddr) (epoch : List UInt8) :
    (state.setCursorEpoch addr epoch).byAddr.lookup b =
      if b = addr then (state.byAddr.lookup addr).map fun s =>
        if s.role = .cursorSubscriber then { s with cursorEpoch := epoch } else s
      else state.byAddr.lookup b :=
  lookup_adjust _ _ _ _

theorem lookup_removeByAddr (addr b : SocketAddr) :
    (state.removeByAddr addr).byAddr.lookup b =
      if b = addr then none else state.byAddr.lookup b := by
  unfold removeByAddr
  cases hs : state.byAddr.lookup addr with
  | none =>
    by_cases hb : b = addr
    · subst hb; simp [hs]
    · simp [hb]
  | some s => exact lookup_erase _ _ _

theorem lookup_cleanupExpired (now : Instant) (timeout : Duration) (b : SocketAddr) :
    (state.cleanupExpired now timeout).byAddr.lookup b =
      (state.byAddr.lookup b).filter fun s => !isExpired now timeout s := by
  have hmem : b ∈ (state.list.filter fun e => isExpired now timeout e.2).map (fun e => e.1) ↔
      ∃ s, state.byAddr.lookup b = some s ∧ isExpired now timeout s := by
    simp only [List.mem_map, List.mem_filter, list, Prod.exists]
    constructor
    · rintro ⟨b, s, ⟨hs, hexp⟩, rfl⟩
      exact ⟨s, mem_toPairs.mp hs, hexp⟩
    · rintro ⟨s, hs, hexp⟩
      exact ⟨b, s, ⟨mem_toPairs.mpr hs, hexp⟩, rfl⟩
  unfold cleanupExpired
  simp only [lookup_eraseAll, hmem]
  cases hs : state.byAddr.lookup b with
  | none => simp
  | some s => by_cases hexp : isExpired now timeout s <;> simp [Option.filter, hexp]

end SessionState

/-- What does not change in the session that an operation changes in place. -/
theorem SessionState.map_lookup_of_lookup {γ : Type} (proj : Session → γ)
    {state state' : SessionState} {addr b : SocketAddr} {f : Session → Session}
    (hf : ∀ s, proj (f s) = proj s)
    (h : state'.byAddr.lookup b =
      if b = addr then (state.byAddr.lookup addr).map f else state.byAddr.lookup b) :
    (state'.byAddr.lookup b).map proj = (state.byAddr.lookup b).map proj := by
  rw [h]
  split_ifs with hb
  · subst hb
    cases state.byAddr.lookup b <;> simp [hf]
  · rfl

/-! ## Operations as data -/

/-- One operation on the tables. -/
inductive SessionOp where
  | touchAddr (now : Instant) (addr : SocketAddr)
  | setSession (now : Instant) (addr : SocketAddr) (clientUuid : String) (role : ClientRole)
  | subscribeCursor (addr : SocketAddr) (requestedHz : ℚ)
  | acknowledgeCursorEvent (addr : SocketAddr) (epoch : Option Uuid) (sequence : ℕ)
  | setCursorEpoch (addr : SocketAddr) (epoch : List UInt8)
  | removeByAddr (addr : SocketAddr)
  | cleanupExpired (now : Instant) (timeout : Duration)
  deriving DecidableEq

def SessionState.apply (state : SessionState) : SessionOp → SessionState
  | .touchAddr now addr => state.touchAddr now addr
  | .setSession now addr clientUuid role => state.setSession now addr clientUuid role
  | .subscribeCursor addr requestedHz => (state.subscribeCursor addr requestedHz).1
  | .acknowledgeCursorEvent addr epoch sequence =>
    (state.acknowledgeCursorEvent addr epoch sequence).1
  | .setCursorEpoch addr epoch => state.setCursorEpoch addr epoch
  | .removeByAddr addr => state.removeByAddr addr
  | .cleanupExpired now timeout => state.cleanupExpired now timeout

end FlyRuler.Transport
