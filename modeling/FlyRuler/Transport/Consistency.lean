import FlyRuler.Transport.Session
import FlyRuler.Lib.Run

/-!
# When the two session tables are inverse to each other

`remove_by_addr` and `cleanup_expired` take a session out of both tables; `set_session` takes the
client's previous session out of the table by address, but leaves the UUID of the session it
overwrites in the other table.  So the tables stay inverse to each other exactly as long as no
handshake comes from an address that another client holds (`AddressFree`).

* `Consistent.apply`: an operation that is `AddressFree` keeps the tables inverse.
* `not_consistent_setSession`: one that is not does not.
-/

namespace FlyRuler.Transport

open FlyRuler.Pb FlyRuler.Store FlyRuler.Lib.Keyed FlyRuler.Lib.Run

namespace SessionState

/-- The client that is registered at an address. -/
def uuidAt (state : SessionState) (addr : SocketAddr) : Option String :=
  (state.byAddr.lookup addr).map Session.clientUuidHex

/-- **The tables are inverse to each other.** -/
def Consistent (state : SessionState) : Prop :=
  ∀ uuid addr, state.byClientUuid.lookup uuid = some addr ↔ state.uuidAt addr = some uuid

/-- A handshake takes away no session but the client's previous one and the one at its address. -/
def KeepsOthers (state : SessionState) : SessionOp → Prop
  | .setSession now addr uuid role => ∀ b s, state.byAddr.lookup b = some s →
      s.clientUuidHex ≠ uuid → b ≠ addr →
        (state.setSession now addr uuid role).byAddr.lookup b = some s
  | _ => True

/-- The address of a handshake is free, or the client's own. -/
def AddressFree (state : SessionState) : SessionOp → Prop
  | .setSession _ addr uuid _ => ∀ other, state.uuidAt addr = some other → other = uuid
  | _ => True

/-! ## The client at an address after one operation -/

variable {state : SessionState}

theorem uuidAt_of_lookup {state' : SessionState} {addr b : SocketAddr} {f : Session → Session}
    (hf : ∀ s, (f s).clientUuidHex = s.clientUuidHex)
    (h : state'.byAddr.lookup b =
      if b = addr then (state.byAddr.lookup addr).map f else state.byAddr.lookup b) :
    state'.uuidAt b = state.uuidAt b :=
  map_lookup_of_lookup Session.clientUuidHex hf h

theorem uuidAt_setSession (now : Instant) (addr b : SocketAddr) (uuid : String)
    (role : ClientRole) : (state.setSession now addr uuid role).uuidAt b =
      if b = addr then some uuid
      else if state.byClientUuid.lookup uuid = some b then none
      else state.uuidAt b := by
  unfold uuidAt
  rw [lookup_setSession]
  split_ifs <;> rfl

theorem uuidAt_removeByAddr (addr b : SocketAddr) :
    (state.removeByAddr addr).uuidAt b = if b = addr then none else state.uuidAt b := by
  unfold uuidAt
  rw [lookup_removeByAddr]
  split_ifs <;> rfl

theorem byClientUuid_removeByAddr (addr : SocketAddr) (uuid : String) :
    (state.removeByAddr addr).byClientUuid.lookup uuid =
      if state.uuidAt addr = some uuid then none else state.byClientUuid.lookup uuid := by
  unfold removeByAddr uuidAt
  cases hs : state.byAddr.lookup addr with
  | none => simp
  | some old => simp [lookup_erase, eq_comm]

theorem byClientUuid_cleanupExpired (now : Instant) (timeout : Duration) (uuid : String)
    (b : SocketAddr) : (state.cleanupExpired now timeout).byClientUuid.lookup uuid = some b ↔
      state.byClientUuid.lookup uuid = some b ∧ ∀ addr s, state.byAddr.lookup addr = some s →
        s.clientUuidHex = uuid → isExpired now timeout s = false := by
  have hmem : uuid ∈ (state.list.filter fun e => isExpired now timeout e.2).map
      (fun e => e.2.clientUuidHex) ↔ ∃ addr s, state.byAddr.lookup addr = some s ∧
        isExpired now timeout s = true ∧ s.clientUuidHex = uuid := by
    simp only [List.mem_map, List.mem_filter, list, Prod.exists, mem_toPairs, and_assoc]
  unfold cleanupExpired
  simp only [lookup_eraseAll]
  split_ifs with hexp
  · obtain ⟨addr, s, hs, hexp, huuid⟩ := hmem.mp hexp
    refine iff_of_false (by simp) ?_
    rintro ⟨-, hkeep⟩
    rw [hkeep addr s hs huuid] at hexp
    cases hexp
  · refine ⟨fun h => ⟨h, fun addr s hs huuid => ?_⟩, And.left⟩
    by_contra hne
    exact hexp (hmem.mpr ⟨addr, s, hs, by simpa using hne, huuid⟩)

/-! ## One operation -/

/-- An operation that leaves the clients where they are keeps the tables inverse. -/
theorem Consistent.of_uuidAt {state' : SessionState} (h : state.Consistent)
    (huuid : state'.byClientUuid = state.byClientUuid)
    (hat : ∀ b, state'.uuidAt b = state.uuidAt b) : state'.Consistent := fun uuid addr => by
  rw [huuid, hat]
  exact h uuid addr

theorem Consistent.setSession (h : state.Consistent) {now : Instant} {addr : SocketAddr}
    {uuid : String} {role : ClientRole}
    (hfree : ∀ other, state.uuidAt addr = some other → other = uuid) :
    (state.setSession now addr uuid role).Consistent := by
  intro w b
  have hclient : (state.setSession now addr uuid role).byClientUuid.lookup w =
      if w = uuid then some addr else state.byClientUuid.lookup w := lookup_insert _ _ _ _
  rw [hclient, uuidAt_setSession]
  by_cases hw : w = uuid
  · subst hw
    rw [if_pos rfl]
    by_cases hb : b = addr
    · simp [hb]
    · rw [if_neg hb]
      split_ifs with hold
      · simp [Ne.symm hb]
      · -- `b` is not where `w` was before
        simp only [Option.some.injEq, Ne.symm hb, false_iff]
        exact fun hat => hold ((h w b).mpr hat)
  · rw [if_neg hw, h w b]
    by_cases hb : b = addr
    · subst hb
      rw [if_pos rfl]
      simp only [Option.some.injEq, Ne.symm hw, iff_false]
      exact fun hat => hw (hfree w hat)
    · rw [if_neg hb]
      split_ifs with hold
      · rw [(h uuid b).mp hold]
        simpa using Ne.symm hw
      · rfl

theorem Consistent.removeByAddr (h : state.Consistent) (addr : SocketAddr) :
    (state.removeByAddr addr).Consistent := by
  intro w b
  rw [byClientUuid_removeByAddr, uuidAt_removeByAddr]
  by_cases hb : b = addr
  · subst hb
    rw [if_pos rfl]
    split_ifs with hat
    · simp
    · simpa [h w b] using hat
  · rw [if_neg hb]
    split_ifs with hat
    · -- `w` is registered at `addr`, so not at `b`
      have hclient := (h w addr).mpr hat
      refine iff_of_false (by simp) fun hat' => hb ?_
      rw [← h w b, hclient] at hat'
      exact (Option.some.inj hat').symm
    · exact h w b

theorem Consistent.cleanupExpired (h : state.Consistent) (now : Instant) (timeout : Duration) :
    (state.cleanupExpired now timeout).Consistent := by
  intro w b
  have hat : (state.cleanupExpired now timeout).uuidAt b = some w ↔
      state.uuidAt b = some w ∧
        ∀ s, state.byAddr.lookup b = some s → isExpired now timeout s = false := by
    unfold uuidAt
    rw [lookup_cleanupExpired]
    cases state.byAddr.lookup b with
    | none => simp
    | some s => cases hexp : isExpired now timeout s <;> simp [Option.filter, hexp]
  rw [byClientUuid_cleanupExpired, hat, ← h w b]
  refine and_congr_right fun hclient => ⟨fun hkeep s hs => ?_, fun hkeep addr s hs huuid => ?_⟩
  · have hw := (h w b).mp hclient
    unfold uuidAt at hw
    rw [hs] at hw
    exact hkeep b s hs (Option.some.inj hw)
  · -- the session of `w` is the one at `b`
    have hclient' : state.byClientUuid.lookup w = some addr :=
      (h w addr).mpr (by unfold uuidAt; rw [hs, ← huuid]; rfl)
    have haddr : addr = b := Option.some.inj (hclient'.symm.trans hclient)
    exact hkeep s (haddr ▸ hs)

/-- **An operation keeps the tables inverse** unless it is a handshake from another client's
address. -/
theorem Consistent.apply (h : state.Consistent) {op : SessionOp} (hfree : state.AddressFree op) :
    (state.apply op).Consistent := by
  cases op with
  | touchAddr now addr =>
    exact h.of_uuidAt rfl fun b => uuidAt_of_lookup
      (f := fun s => { s with lastSeenAt := now }) (fun _ => rfl) (lookup_touchAddr now addr b)
  | setSession now addr uuid role => exact h.setSession hfree
  | subscribeCursor addr hz =>
    exact h.of_uuidAt rfl fun b => uuidAt_of_lookup (fun s => by split_ifs <;> rfl)
      (lookup_subscribeCursor addr b hz)
  | acknowledgeCursorEvent addr epoch seq =>
    exact h.of_uuidAt rfl fun b => uuidAt_of_lookup (fun s => by split_ifs <;> rfl)
      (lookup_acknowledgeCursorEvent addr b epoch seq)
  | setCursorEpoch addr epoch =>
    exact h.of_uuidAt rfl fun b => uuidAt_of_lookup (fun s => by split_ifs <;> rfl)
      (lookup_setCursorEpoch addr b epoch)
  | removeByAddr addr => exact h.removeByAddr addr
  | cleanupExpired now timeout => exact h.cleanupExpired now timeout

/-- **A handshake from another client's address** leaves that client's UUID behind. -/
theorem not_consistent_setSession (h : state.Consistent) {now : Instant} {addr : SocketAddr}
    {uuid other : String} {role : ClientRole} (hat : state.uuidAt addr = some other)
    (hne : other ≠ uuid) : ¬(state.setSession now addr uuid role).Consistent := by
  intro h'
  have hclient : (state.setSession now addr uuid role).byClientUuid.lookup other = some addr := by
    have hold : (state.setSession now addr uuid role).byClientUuid.lookup other =
        if other = uuid then some addr else state.byClientUuid.lookup other :=
      lookup_insert _ _ _ _
    rw [hold, if_neg hne, h other addr]
    exact hat
  rw [h' other addr, uuidAt_setSession, if_pos rfl, Option.some.injEq] at hclient
  exact hne hclient.symm

/-- In a consistent state a handshake spares the sessions of others. -/
theorem Consistent.keepsOthers (h : state.Consistent) (op : SessionOp) : state.KeepsOthers op := by
  cases op with
  | setSession now addr uuid role =>
    intro b s hs hne hb
    have hold : state.byClientUuid.lookup uuid ≠ some b := by
      intro hclient
      have hat := (h uuid b).mp hclient
      unfold uuidAt at hat
      rw [hs] at hat
      exact hne (Option.some.inj hat)
    rw [lookup_setSession, if_neg hb, if_neg hold, hs]
  | _ => trivial

theorem consistent_empty : ({} : SessionState).Consistent := fun uuid addr => by
  simp [uuidAt]

/-! ## Whole runs -/

/-- **The tables stay inverse to each other, and handshakes spare the sessions of others, exactly
in the runs without a handshake from another client's address.** -/
theorem consistent_run_iff (ops : List SessionOp) :
    ((∀ pre, pre <+: ops → (pre.foldl apply {} : SessionState).Consistent) ∧
      Meets apply KeepsOthers {} ops) ↔ Meets apply AddressFree {} ops := by
  constructor
  · rintro ⟨hcons, -⟩
    refine meets_iff.mpr fun pre op hpre => ?_
    have hbefore := hcons pre ((List.prefix_append pre [op]).trans hpre)
    have hafter := hcons (pre ++ [op]) hpre
    rw [List.foldl_concat] at hafter
    cases op with
    | setSession now addr uuid role =>
      intro other hat
      by_contra hne
      exact not_consistent_setSession hbefore hat hne hafter
    | _ => trivial
  · intro hfree
    have hcons : ∀ pre, pre <+: ops → (pre.foldl apply {} : SessionState).Consistent :=
      fun pre hpre => hfree.inv_prefix (fun _ _ h hop => h.apply hop) consistent_empty hpre
    exact ⟨hcons, meets_iff.mpr fun pre op hpre =>
      (hcons pre ((List.prefix_append pre [op]).trans hpre)).keepsOthers op⟩

/-- **A reused address**: the second client registers at the address of the first, and when the
first comes back from elsewhere the session of the second is gone. -/
theorem reused_address :
    let ops : List SessionOp := [.setSession 0 1 "u" .producer, .setSession 0 1 "v" .producer]
    ¬(ops.foldl apply {} : SessionState).Consistent ∧
      ¬(ops.foldl apply {} : SessionState).KeepsOthers (.setSession 0 2 "u" .producer) := by
  refine ⟨fun h => ?_, fun h => ?_⟩
  · have hstale := (h "u" 1).mp (by decide)
    exact absurd hstale (by decide)
  · have hgone := h 1 { clientUuidHex := "v", role := .producer, lastSeenAt := 0 } (by decide)
      (by decide) (by decide)
    exact absurd hgone (by decide)

end SessionState

end FlyRuler.Transport
