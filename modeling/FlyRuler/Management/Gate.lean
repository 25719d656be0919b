import FlyRuler.Lib.Threads
import FlyRuler.Pb

/-!
# The ingestion gate

`core/src/management/gate.rs`.  A call of `with_ingestion` or `with_paused` is a thread, its places
are the points between two atomic steps: a load or a store of the flag, taking or releasing a lock,
an update of the counter, the action.  When the guard of `with_paused` is dropped the flag comes
first, then the mutex, then the write lock, so that the next maintenance call can already be waiting
for it.  An action that panics gives up what its call holds in the same steps, as poisoned locks are
taken like any other.

* `Exclusive`: what the locks, the flag and the counter say about the threads.
* `exclusive_run`: it holds of every interleaving.
* `exclusion_run`: what follows for the actions.
-/

namespace FlyRuler.Management

open FlyRuler.Pb FlyRuler.Lib.Threads

/-! ## The gate -/

/-- The gate: the flag, the counter, the mutex of the maintenance calls, and the lock of the
activity, with its readers and its writer. -/
structure IngestionGate where
  enabled : Bool := true
  dropped : ℕ := 0
  maintenance : Bool := false
  readers : ℕ := 0
  writer : Bool := false
  deriving DecidableEq

inductive GateCallKind where
  | withIngestion
  | withPaused
  deriving DecidableEq

/-- Where a call is. -/
inductive GateCall where
  -- `with_ingestion`, before its first load, the shared lock, and its second load
  | arriving
  | entering
  | rechecking
  -- the flag was cleared: before the count without the lock, before the count with it, after it
  | missing
  | rejecting
  | leaving
  -- the action runs; it has run
  | ingesting
  | finishing
  | returnedNone
  | returnedSome
  -- `with_paused`, before the mutex, the flag, and the write lock
  | locking
  | closing
  | pausing
  -- the action runs; the guard is dropped in three steps
  | maintaining
  | resuming
  | unlocking
  | releasing
  | returned
  deriving DecidableEq

/-- `fetch_add(1)` on the counter. -/
def IngestionGate.countDropped (gate : IngestionGate) : IngestionGate :=
  { gate with dropped := (gate.dropped + 1) % u64Size }

/-- One atomic step of a call; `none` while it waits for a lock. -/
def IngestionGate.advance (gate : IngestionGate) : GateCall → Option (IngestionGate × GateCall)
  | .arriving => some (gate, if gate.enabled then .entering else .missing)
  | .missing => some (gate.countDropped, .returnedNone)
  | .entering =>
    if gate.writer then none else some ({ gate with readers := gate.readers + 1 }, .rechecking)
  | .rechecking => some (gate, if gate.enabled then .ingesting else .rejecting)
  | .rejecting => some (gate.countDropped, .leaving)
  | .leaving => some ({ gate with readers := gate.readers - 1 }, .returnedNone)
  | .ingesting => some (gate, .finishing)
  | .finishing => some ({ gate with readers := gate.readers - 1 }, .returnedSome)
  | .locking =>
    if gate.maintenance then none else some ({ gate with maintenance := true }, .closing)
  | .closing => some ({ gate with enabled := false }, .pausing)
  | .pausing =>
    if gate.writer ∨ 0 < gate.readers then none
    else some ({ gate with writer := true }, .maintaining)
  | .maintaining => some (gate, .resuming)
  | .resuming => some ({ gate with enabled := true }, .unlocking)
  | .unlocking => some ({ gate with maintenance := false }, .releasing)
  | .releasing => some ({ gate with writer := false }, .returned)
  | .returnedNone | .returnedSome | .returned => none

/-- Where a call starts. -/
def GateCallKind.start : GateCallKind → GateCall
  | .withIngestion => .arriving
  | .withPaused => .locking

/-- The calls on one gate. -/
def gateMachine : Machine IngestionGate GateCall GateCallKind Unit where
  start := GateCallKind.start
  advance _ gate call := gate.advance call

/-! ## Places -/

namespace GateCall

/-- The call holds the mutex. -/
@[simp] def holdsMutex : GateCall → Bool
  | .closing | .pausing | .maintaining | .resuming | .unlocking => true
  | _ => false

/-- The call has cleared the flag and not set it again. -/
@[simp] def closed : GateCall → Bool
  | .pausing | .maintaining | .resuming => true
  | _ => false

/-- The call holds the write lock. -/
@[simp] def holdsWrite : GateCall → Bool
  | .maintaining | .resuming | .unlocking | .releasing => true
  | _ => false

/-- The call holds a shared lock. -/
@[simp] def holdsRead : GateCall → Bool
  | .rechecking | .rejecting | .leaving | .ingesting | .finishing => true
  | _ => false

/-- The call has been counted as dropped. -/
@[simp] def counted : GateCall → Bool
  | .leaving | .returnedNone => true
  | _ => false

/-- The call is one of `with_paused` that has not returned. -/
@[simp] def pausedInProgress : GateCall → Bool
  | .locking | .closing | .pausing | .maintaining | .resuming | .unlocking | .releasing => true
  | _ => false

/-- The call has returned. -/
@[simp] def isReturned : GateCall → Bool
  | .returnedNone | .returnedSome | .returned => true
  | _ => false

theorem holdsMutex_of_closed (call : GateCall) (h : call.closed = true) :
    call.holdsMutex = true := by
  cases call <;> first | rfl | exact nomatch h

theorem pausedInProgress_of_closed (call : GateCall) (h : call.closed = true) :
    call.pausedInProgress = true := by
  cases call <;> first | rfl | exact nomatch h

theorem counted_of_isReturned (call : GateCall) (h : call.isReturned = true) :
    call.counted = (call == .returnedNone) := by
  cases call <;> first | rfl | exact nomatch h

end GateCall

/-! ## One step -/

/-- **The balance of a step**: what it takes from the gate it has, and what it gives back it no
longer has. -/
theorem advance_balance {gate gate' : IngestionGate} {call call' : GateCall}
    (hadvance : gate.advance call = some (gate', call'))
    (hmutex : call.holdsMutex = true → gate.maintenance = true)
    (hclosed : call.closed = true → gate.enabled = false)
    (hclosing : call = .closing → gate.enabled = true)
    (hwrite : call.holdsWrite = true → gate.writer = true)
    (hread : call.holdsRead = true → 0 < gate.readers) :
    gate'.maintenance.toNat + call.holdsMutex.toNat =
        gate.maintenance.toNat + call'.holdsMutex.toNat ∧
      (!gate'.enabled).toNat + call.closed.toNat = (!gate.enabled).toNat + call'.closed.toNat ∧
      gate'.writer.toNat + call.holdsWrite.toNat = gate.writer.toNat + call'.holdsWrite.toNat ∧
      gate'.readers + call.holdsRead.toNat = gate.readers + call'.holdsRead.toNat := by
  cases call <;> simp only [IngestionGate.advance] at hadvance
  case arriving | rechecking =>
    obtain ⟨rfl, rfl⟩ := hadvance
    cases gate.enabled <;> simp
  case entering | locking =>
    split_ifs at hadvance with hwait
    obtain ⟨rfl, rfl⟩ := hadvance
    simp [hwait]
  case pausing =>
    split_ifs at hadvance with hwait
    obtain ⟨rfl, rfl⟩ := hadvance
    have hfree : gate.writer = false := by simpa using fun h => hwait (.inl h)
    simp [hfree]
  case leaving | finishing =>
    obtain ⟨rfl, rfl⟩ := hadvance
    have hpos := hread rfl
    simp
    omega
  case closing | resuming | unlocking | releasing =>
    obtain ⟨rfl, rfl⟩ := hadvance
    simp_all
  case missing | rejecting | ingesting | maintaining =>
    obtain ⟨rfl, rfl⟩ := hadvance
    simp [IngestionGate.countDropped]
  all_goals exact nomatch hadvance

/-- The write lock is only taken, and only held, while nobody reads. -/
theorem advance_excludes {gate gate' : IngestionGate} {call call' : GateCall}
    (hadvance : gate.advance call = some (gate', call'))
    (hexcludes : gate.writer = true → gate.readers = 0) :
    gate'.writer = true → gate'.readers = 0 := by
  cases call <;> simp only [IngestionGate.advance] at hadvance
  case entering =>
    split_ifs at hadvance with hwait
    obtain ⟨rfl, rfl⟩ := hadvance
    exact fun hwriter => absurd hwriter hwait
  case locking =>
    split_ifs at hadvance
    obtain ⟨rfl, rfl⟩ := hadvance
    exact hexcludes
  case pausing =>
    split_ifs at hadvance with hwait
    obtain ⟨rfl, rfl⟩ := hadvance
    exact fun _ => Nat.eq_zero_of_not_pos fun hpos => hwait (.inr hpos)
  case leaving | finishing =>
    obtain ⟨rfl, rfl⟩ := hadvance
    intro hwriter
    show gate.readers - 1 = 0
    rw [hexcludes hwriter]
  case releasing =>
    obtain ⟨rfl, rfl⟩ := hadvance
    exact fun hwriter => nomatch hwriter
  case returnedNone | returnedSome | returned => exact nomatch hadvance
  all_goals
    obtain ⟨rfl, rfl⟩ := hadvance
    exact hexcludes

/-- A step counts a call as dropped, or leaves the count as it is. -/
theorem advance_dropped {gate gate' : IngestionGate} {call call' : GateCall}
    (hadvance : gate.advance call = some (gate', call')) {n : ℕ}
    (hdropped : gate.dropped = (n + call.counted.toNat) % u64Size) :
    gate'.dropped = (n + call'.counted.toNat) % u64Size := by
  cases call <;> simp only [IngestionGate.advance] at hadvance
  case arriving | rechecking =>
    obtain ⟨rfl, rfl⟩ := hadvance
    cases gate.enabled <;> exact hdropped
  case missing | rejecting =>
    obtain ⟨rfl, rfl⟩ := hadvance
    show (gate.dropped + 1) % u64Size = (n + 1) % u64Size
    rw [hdropped, Nat.mod_add_mod]
    rfl
  case entering | locking | pausing =>
    split_ifs at hadvance
    obtain ⟨rfl, rfl⟩ := hadvance
    exact hdropped
  case returnedNone | returnedSome | returned => exact nomatch hadvance
  all_goals
    obtain ⟨rfl, rfl⟩ := hadvance
    exact hdropped

/-! ## What the gate says about the calls -/

/-- **The locks, the flag and the counter** each stand for the calls in certain places, and the
write lock excludes the shared ones. -/
structure Exclusive (p : Pool IngestionGate GateCall) : Prop where
  maintenance : p.threads.countP GateCall.holdsMutex = p.shared.maintenance.toNat
  enabled : p.threads.countP GateCall.closed = (!p.shared.enabled).toNat
  writer : p.threads.countP GateCall.holdsWrite = p.shared.writer.toNat
  readers : p.threads.countP GateCall.holdsRead = p.shared.readers
  excludes : p.shared.writer = true → p.shared.readers = 0
  dropped : p.shared.dropped = p.threads.countP GateCall.counted % u64Size

theorem exclusive_call {p : Pool IngestionGate GateCall} (h : Exclusive p) (kind : GateCallKind) :
    Exclusive (gateMachine.next p (.call kind)) := by
  have hplaces : kind.start.holdsMutex = false ∧ kind.start.closed = false ∧
      kind.start.holdsWrite = false ∧ kind.start.holdsRead = false ∧
      kind.start.counted = false := by
    cases kind <;> decide
  obtain ⟨hmutex, hclosed, hwrite, hread, hcounted⟩ := hplaces
  refine ⟨?_, ?_, ?_, ?_, h.excludes, ?_⟩ <;> show _ = _ <;> unfold Machine.next <;>
    dsimp only [gateMachine] <;> rw [countP_concat]
  · rw [hmutex]
    exact h.maintenance
  · rw [hclosed]
    exact h.enabled
  · rw [hwrite]
    exact h.writer
  · rw [hread]
    exact h.readers
  · rw [hcounted]
    exact h.dropped

/-- **One step of a call.** -/
theorem exclusive_step {p : Pool IngestionGate GateCall} (h : Exclusive p) {i : ℕ}
    {call call' : GateCall} {gate' : IngestionGate} (hcall : p.threads[i]? = some call)
    (hadvance : p.shared.advance call = some (gate', call')) :
    Exclusive ⟨gate', p.threads.set i call'⟩ := by
  have hclosing : call = .closing → p.shared.enabled = true := by
    -- the mutex is this call's, and whoever has cleared the flag holds it
    rintro rfl
    have hlt := countP_lt GateCall.holdsMutex_of_closed hcall rfl rfl
    rw [h.maintenance, h.enabled] at hlt
    have hle := Bool.toNat_le p.shared.maintenance
    rcases henabled : p.shared.enabled with _ | _
    · rw [henabled] at hlt
      exact absurd (hlt.trans_le hle) (Nat.lt_irrefl 1)
    · rfl
  have hread : call.holdsRead = true → 0 < p.shared.readers := by
    intro hholds
    rw [← h.readers]
    exact countP_pos_of_getElem? hcall hholds
  obtain ⟨hmutex, hclosed, hwrite, hreaders⟩ := advance_balance hadvance
    (true_of_countP h.maintenance hcall)
    (fun hholds => by simpa using true_of_countP h.enabled hcall hholds) hclosing
    (true_of_countP h.writer hcall) hread
  have hmutexSet := countP_set_add GateCall.holdsMutex hcall call'
  have hclosedSet := countP_set_add GateCall.closed hcall call'
  have hwriteSet := countP_set_add GateCall.holdsWrite hcall call'
  have hreadSet := countP_set_add GateCall.holdsRead hcall call'
  have hcountedSet := countP_set_add GateCall.counted hcall call'
  have hmaintenance := h.maintenance
  have henabled := h.enabled
  have hwriter := h.writer
  have hreadersCount := h.readers
  refine ⟨?_, ?_, ?_, ?_, advance_excludes hadvance h.excludes, ?_⟩ <;> dsimp only
  · omega
  · omega
  · omega
  · omega
  · -- the other calls that have been counted
    obtain ⟨n, hn⟩ : ∃ n, p.threads.countP GateCall.counted = n + call.counted.toNat := by
      refine ⟨p.threads.countP GateCall.counted - call.counted.toNat, ?_⟩
      have hle : call.counted.toNat ≤ p.threads.countP GateCall.counted := by
        rcases hcounted : call.counted with _ | _
        · exact Nat.zero_le _
        · exact countP_pos_of_getElem? hcall hcounted
      omega
    have hset : (p.threads.set i call').countP GateCall.counted = n + call'.counted.toNat := by
      omega
    rw [hset]
    exact advance_dropped hadvance (hn ▸ h.dropped)

/-- **It holds of every interleaving** of any number of calls. -/
theorem exclusive_run (actions : List (Action GateCallKind Unit)) :
    Exclusive (gateMachine.run ⟨{}, []⟩ actions) := by
  refine Machine.run_inv (I := Exclusive) (fun p kind h => exclusive_call h kind) ?_ ?_ actions
  · exact fun p i input t s t' h ht hadvance => exclusive_step h ht hadvance
  · exact ⟨rfl, rfl, rfl, rfl, (fun h => nomatch h), rfl⟩

/-! ## What follows for the actions -/

/-- What callers of the gate rely on, at one moment of a run. -/
structure Excluded (p : Pool IngestionGate GateCall) : Prop where
  ingestion : ¬ (GateCall.ingesting ∈ p.threads ∧ GateCall.maintaining ∈ p.threads)
  maintenance : p.threads.count .maintaining ≤ 1
  disabled : GateCall.maintaining ∈ p.threads → p.shared.enabled = false
  resumed : (∀ call ∈ p.threads, call.pausedInProgress = false) → p.shared.enabled = true
  dropped : (∀ call ∈ p.threads, call.isReturned = true) →
    p.shared.dropped = p.threads.count .returnedNone % u64Size

theorem Exclusive.excluded {p : Pool IngestionGate GateCall} (h : Exclusive p) : Excluded p := by
  refine ⟨?_, ?_, ?_, ?_, ?_⟩
  · rintro ⟨hingesting, hmaintaining⟩
    have hreaders : 0 < p.threads.countP GateCall.holdsRead :=
      List.countP_pos_iff.mpr ⟨.ingesting, hingesting, rfl⟩
    have hwriter : 0 < p.threads.countP GateCall.holdsWrite :=
      List.countP_pos_iff.mpr ⟨.maintaining, hmaintaining, rfl⟩
    rw [h.readers] at hreaders
    have hflag := true_of_toNat_pos (h.writer ▸ hwriter)
    have hnone := h.excludes hflag
    omega
  · have hwriter : p.threads.count .maintaining ≤ p.threads.countP GateCall.holdsWrite := by
      refine List.countP_mono_left fun call _ hcall => ?_
      rw [eq_of_beq hcall]
      rfl
    have hle := Bool.toNat_le p.shared.writer
    rw [h.writer] at hwriter
    exact hwriter.trans hle
  · intro hmaintaining
    have hclosed : 0 < p.threads.countP GateCall.closed :=
      List.countP_pos_iff.mpr ⟨.maintaining, hmaintaining, rfl⟩
    have hflag := true_of_toNat_pos (h.enabled ▸ hclosed)
    simpa using hflag
  · intro hpaused
    have hclosed : p.threads.countP GateCall.closed = 0 := by
      refine List.countP_eq_zero.mpr fun call hcall hclosed => ?_
      have hnot := hpaused call hcall
      rw [GateCall.pausedInProgress_of_closed call hclosed] at hnot
      exact Bool.noConfusion hnot
    have henabled := h.enabled
    rw [hclosed] at henabled
    rcases hflag : p.shared.enabled with _ | _
    · rw [hflag] at henabled
      exact nomatch henabled
    · rfl
  · intro hreturned
    rw [h.dropped]
    congr 1
    refine List.countP_congr fun call hcall => ?_
    rw [GateCall.counted_of_isReturned call (hreturned call hcall)]

/-- **Exclusion**, at every moment of every interleaving of any number of calls: the actions exclude
each other, the flag is cleared for the whole of a maintenance action and set when nobody maintains,
and the counter is the number of calls that returned nothing, modulo `2^64`. -/
theorem exclusion_run (actions : List (Action GateCallKind Unit)) :
    Excluded (gateMachine.run ⟨{}, []⟩ actions) :=
  (exclusive_run actions).excluded

/-! ## The counter wraps -/

/-- One `with_ingestion` that finds the flag cleared. -/
def missedCall (thread : ℕ) : List (Action GateCallKind Unit) :=
  [.call .withIngestion, .step thread (), .step thread ()]

/-- `n` of them, one after the other. -/
def missedCalls : ℕ → List (Action GateCallKind Unit)
  | 0 => []
  | n + 1 => missedCalls n ++ missedCall (n + 1)

/-- A `with_paused` up to the point where the flag is cleared. -/
def pauseCall : List (Action GateCallKind Unit) :=
  [.call .withPaused, .step 0 (), .step 0 ()]

/-- And from there to its end. -/
def resumeCall : List (Action GateCallKind Unit) :=
  [.step 0 (), .step 0 (), .step 0 (), .step 0 (), .step 0 ()]

/-- The gate while the flag is cleared. -/
def pausedPool (n : ℕ) : Pool IngestionGate GateCall :=
  ⟨{ enabled := false, maintenance := true, dropped := n % u64Size },
    .pausing :: List.replicate n .returnedNone⟩

theorem run_missedCall (n : ℕ) :
    gateMachine.run (pausedPool n) (missedCall (n + 1)) = pausedPool (n + 1) := by
  have hlast : ∀ call : GateCall,
      (GateCall.pausing :: List.replicate n .returnedNone ++ [call])[n + 1]? = some call := by
    intro call
    rw [List.getElem?_append_right (by simp)]
    simp
  have hset : ∀ call call' : GateCall,
      (GateCall.pausing :: List.replicate n .returnedNone ++ [call]).set (n + 1) call' =
        GateCall.pausing :: List.replicate n .returnedNone ++ [call'] := by
    intro call call'
    rw [List.set_append_right (n + 1) call' (by simp)]
    simp
  have hmiss : gateMachine.next
      ⟨(pausedPool n).shared, .pausing :: List.replicate n .returnedNone ++ [.arriving]⟩
      (.step (n + 1) ()) =
        ⟨(pausedPool n).shared, .pausing :: List.replicate n .returnedNone ++ [.missing]⟩ := by
    rw [Machine.next_step (hlast .arriving) rfl, hset]
    rfl
  have hreturn : gateMachine.next
      ⟨(pausedPool n).shared, .pausing :: List.replicate n .returnedNone ++ [.missing]⟩
      (.step (n + 1) ()) = ⟨(pausedPool n).shared.countDropped,
        .pausing :: List.replicate n .returnedNone ++ [.returnedNone]⟩ := by
    rw [Machine.next_step (hlast .missing) rfl, hset]
  have hcall : gateMachine.next (pausedPool n) (.call .withIngestion) =
      ⟨(pausedPool n).shared, .pausing :: List.replicate n .returnedNone ++ [.arriving]⟩ := rfl
  unfold missedCall Machine.run
  rw [List.foldl_cons, List.foldl_cons, List.foldl_cons, List.foldl_nil, hcall, hmiss, hreturn]
  unfold pausedPool IngestionGate.countDropped
  rw [List.cons_append, ← List.replicate_succ', Nat.mod_add_mod]

theorem run_missedCalls (n : ℕ) :
    gateMachine.run (pausedPool 0) (missedCalls n) = pausedPool n := by
  induction n with
  | zero => rfl
  | succ n ih =>
    unfold missedCalls
    rw [Machine.run_append, ih, run_missedCall]

theorem run_resumeCall (n : ℕ) :
    gateMachine.run (pausedPool n) resumeCall =
      ⟨{ dropped := n % u64Size }, .returned :: List.replicate n .returnedNone⟩ := rfl

/-- **The counter wraps.**  As many calls as the counter has values return nothing while one
maintenance call has cleared the flag; when all have returned the counter is back at zero. -/
theorem dropped_wraps :
    ¬ ∀ actions : List (Action GateCallKind Unit),
      (∀ call ∈ (gateMachine.run ⟨{}, []⟩ actions).threads, call.isReturned = true) →
        (gateMachine.run ⟨{}, []⟩ actions).shared.dropped =
          (gateMachine.run ⟨{}, []⟩ actions).threads.count .returnedNone := by
  intro hall
  have hrun : gateMachine.run ⟨{}, []⟩ (pauseCall ++ missedCalls u64Size ++ resumeCall) =
      ⟨{ dropped := u64Size % u64Size }, .returned :: List.replicate u64Size .returnedNone⟩ := by
    have hpause : gateMachine.run ⟨{}, []⟩ pauseCall = pausedPool 0 := rfl
    rw [Machine.run_append, Machine.run_append, hpause, run_missedCalls, run_resumeCall]
  have hcount := hall (pauseCall ++ missedCalls u64Size ++ resumeCall)
  rw [hrun] at hcount
  dsimp only at hcount
  rw [Nat.mod_self, List.count_cons_of_ne (by decide), List.count_replicate_self] at hcount
  refine absurd (hcount fun call hcall => ?_) (by decide)
  rcases List.mem_cons.mp hcall with rfl | hcall
  · rfl
  · rw [List.eq_of_mem_replicate hcall]
    rfl

end FlyRuler.Management
