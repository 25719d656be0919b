import Mathlib.Data.Finset.Option
import Mathlib.Logic.Function.Basic
import FlyRuler.Lib.Run

/-!
# The web socket of the web client

`connect` and `stop` of `web/src/stores/server.ts`.  `connect` closes the current socket and makes a
new one; the close event of any socket, the current one or not, sets a timer that runs `connect`,
and only the last timer is remembered.

Sockets and timers are numbered in the order in which they are made.  A socket that is closed by a
call is closing until its close event.  A run is a list of calls and of events of the browser, in
any order (`Connection.step`).

* `single_run`: the current socket is the only one that is open or opening, in every run.
* `Inv.step`: what there is between calls that are made in time.
* `orderly_iff`: the runs after which nothing reconnects that should not.
-/

namespace FlyRuler.Web

open FlyRuler.Lib.Run

/-! ## Sockets -/

inductive ReadyState where
  | connecting
  | open
  | closing
  | closed
  deriving DecidableEq

namespace ReadyState

/-- `close()` of a socket. -/
def close : ReadyState → ReadyState
  | .closed => .closed
  | _ => .closing

/-- Open or opening. -/
def Live (state : ReadyState) : Prop := state = .connecting ∨ state = .open

theorem not_live_close (state : ReadyState) : ¬state.close.Live := by
  rcases state with _ | _ | _ | _ <;> simp [close, Live]

end ReadyState

/-- A timer that is set, and the socket whose close event has set it. -/
structure Timer where
  id : ℕ
  socket : ℕ
  deriving DecidableEq

/-- The fields of the store, the sockets (a number that is not one of a socket counts as closed) and
the timers that are set, and the record of the run: the sockets that `connect()` has replaced, and
whether `stop()` was called and `connect()` not since. -/
structure Connection where
  connected : Bool := false
  error : Option String := none
  socket : Option ℕ := none
  reconnectTimer : Option ℕ := none
  ready : ℕ → ReadyState := fun _ => .closed
  created : ℕ := 0
  timers : List Timer := []
  timersSet : ℕ := 0
  replaced : Finset ℕ := ∅
  stopped : Bool := false

inductive SocketEvent where
  | connect
  | stop
  | onopen (socket : ℕ)
  | onerror (socket : ℕ)
  | onclose (socket : ℕ)
  | timeout (id : ℕ)
  deriving DecidableEq

namespace Connection

variable (s : Connection)

/-- `socket?.close()`. -/
def closeSocket : Connection :=
  match s.socket with
  | none => s
  | some i => { s with ready := Function.update s.ready i (s.ready i).close }

def connect : Connection :=
  { s.closeSocket with
    socket := some s.created
    ready := Function.update s.closeSocket.ready s.created .connecting
    created := s.created + 1
    replaced := s.replaced ∪ s.socket.toFinset }

/-- `clearTimeout`. -/
def clearTimeout (id : ℕ) : Connection :=
  { s with timers := s.timers.filter fun timer => timer.id ≠ id }

/-- The timer that is remembered is cleared, set or not. -/
def clearReconnect : Connection :=
  match s.reconnectTimer with
  | none => s
  | some id => s.clearTimeout id

def stop : Connection := { s.clearReconnect.closeSocket with socket := none, stopped := true }

/-- `onopen`, which only a socket that is opening gets. -/
def onopen (i : ℕ) : Connection :=
  if s.ready i = .connecting then
    { s with ready := Function.update s.ready i .open, connected := true, error := none }
  else s

def onerror (i : ℕ) : Connection :=
  if s.ready i = .closed then s else { s with error := some "connection.websocketFailed" }

/-- `onclose`, which every socket gets once. -/
def onclose (i : ℕ) : Connection :=
  if s.ready i = .closed then s
  else
    { s with
      ready := Function.update s.ready i .closed
      connected := false
      timers := s.timers ++ [⟨s.timersSet, i⟩]
      timersSet := s.timersSet + 1
      reconnectTimer := some s.timersSet }

/-- A timer runs `connect`. -/
def timeout (id : ℕ) : Connection :=
  if ∃ timer ∈ s.timers, timer.id = id then (s.clearTimeout id).connect else s

def step (s : Connection) : SocketEvent → Connection
  | .connect => { s.connect with stopped := false }
  | .stop => s.stop
  | .onopen i => s.onopen i
  | .onerror i => s.onerror i
  | .onclose i => s.onclose i
  | .timeout id => s.timeout id

/-! ## One socket at a time -/

/-- **The current socket** is the only one that is open or opening. -/
def Single : Prop := ∀ i, (s.ready i).Live → s.socket = some i

variable {s}

theorem not_live_closeSocket (h : s.Single) (i : ℕ) : ¬(s.closeSocket.ready i).Live := by
  unfold closeSocket
  rcases hsocket : s.socket with _ | k
  · intro hlive
    exact nomatch hsocket.symm.trans (h i hlive)
  · by_cases hi : i = k
    · rw [hi]
      dsimp only
      rw [Function.update_self]
      exact ReadyState.not_live_close _
    · dsimp only
      rw [Function.update_of_ne hi]
      exact fun hlive => hi (Option.some.inj ((h i hlive).symm.trans hsocket))

theorem Single.connect (h : s.Single) : s.connect.Single := by
  intro i hlive
  by_cases hi : i = s.created
  · rw [hi]
    rfl
  · unfold Connection.connect at hlive
    dsimp only at hlive
    rw [Function.update_of_ne hi] at hlive
    exact absurd hlive (not_live_closeSocket h i)

/-- Clearing a timer changes only the timers. -/
theorem exists_clearReconnect (s : Connection) :
    ∃ timers, s.clearReconnect = { s with timers := timers } := by
  unfold clearReconnect
  split
  · exact ⟨s.timers, rfl⟩
  · exact ⟨_, rfl⟩

theorem Single.stop (h : s.Single) : s.stop.Single := by
  have hsingle : s.clearReconnect.Single := by
    obtain ⟨timers, heq⟩ := s.exists_clearReconnect
    rw [heq]
    exact h
  exact fun i hlive => absurd hlive (not_live_closeSocket hsingle i)

theorem Single.step (h : s.Single) (event : SocketEvent) : (s.step event).Single := by
  cases event with
  | connect => exact h.connect
  | stop => exact h.stop
  | onopen i =>
    change (s.onopen i).Single
    unfold Connection.onopen
    split_ifs with hconnecting
    · intro k hlive
      by_cases hk : k = i
      · rw [hk]
        exact h i (.inl hconnecting)
      · dsimp only at hlive
        rw [Function.update_of_ne hk] at hlive
        exact h k hlive
    · exact h
  | onerror i =>
    change (s.onerror i).Single
    unfold Connection.onerror
    split_ifs
    · exact h
    · exact h
  | onclose i =>
    change (s.onclose i).Single
    unfold Connection.onclose
    split_ifs
    · exact h
    · intro k hlive
      by_cases hk : k = i
      · rw [hk] at hlive
        dsimp only at hlive
        rw [Function.update_self] at hlive
        exact absurd hlive (by simp [ReadyState.Live])
      · dsimp only at hlive
        rw [Function.update_of_ne hk] at hlive
        exact h k hlive
  | timeout id =>
    change (s.timeout id).Single
    unfold Connection.timeout
    split_ifs
    · exact Single.connect (s := s.clearTimeout id) h
    · exact h

/-- **In every run** the current socket is the only one that is open or opening. -/
theorem single_run (events : List SocketEvent) : (events.foldl Connection.step {}).Single :=
  List.foldlRecOn events Connection.step
    (motive := Single) (fun _ hlive => absurd hlive (by simp [ReadyState.Live]))
    fun _ h event _ => h.step event

/-! ## Between the calls -/

/-- **What there is between calls that are made in time**: nothing, a socket that is not closed, or
the timer of the last socket. -/
inductive Phase (s : Connection) : Prop where
  | idle (hsocket : s.socket = none) (hready : ∀ i, s.ready i = .closed) (htimers : s.timers = [])
  | up (i : ℕ) (hsocket : s.socket = some i) (hopen : s.ready i ≠ .closed)
    (hready : ∀ k, k ≠ i → s.ready k = .closed) (htimers : s.timers = [])
  | waiting (i id : ℕ) (hsocket : s.socket = some i) (hready : ∀ k, s.ready k = .closed)
    (htimers : s.timers = [⟨id, i⟩]) (hlast : s.reconnectTimer = some id)

structure Inv (s : Connection) : Prop where
  phase : Phase s
  stopped : s.stopped = true → s.socket = none
  current : ∀ i, s.socket = some i → i < s.created ∧ i ∉ s.replaced
  replaced_lt : ∀ i ∈ s.replaced, i < s.created

theorem Inv.init : Inv {} where
  phase := .idle rfl (fun _ => rfl) rfl
  stopped _ := rfl
  current _ h := nomatch h
  replaced_lt i h := absurd h (Finset.notMem_empty i)

/-- `connect()` is called when every socket is closed and no timer is set, and `stop()` when every
socket is closed. -/
def Calm (s : Connection) : SocketEvent → Prop
  | .connect => (∀ i, s.ready i = .closed) ∧ s.timers = []
  | .stop => ∀ i, s.ready i = .closed
  | _ => True

/-- Closing closed sockets changes nothing. -/
theorem closeSocket_of_closed (h : ∀ i, s.ready i = .closed) : s.closeSocket = s := by
  unfold closeSocket
  split
  · rfl
  · next i _ =>
    rw [h i, show ReadyState.closed.close = s.ready i from (h i).symm, Function.update_eq_self]

theorem connect_of_closed (h : ∀ i, s.ready i = .closed) : s.connect =
    { s with
      socket := some s.created
      ready := Function.update s.ready s.created .connecting
      created := s.created + 1
      replaced := s.replaced ∪ s.socket.toFinset } := by
  unfold Connection.connect
  rw [closeSocket_of_closed h]

/-- **A new socket** when every other one is closed. -/
theorem inv_connect (hready : ∀ i, s.ready i = .closed) (htimers : s.timers = [])
    (hcurrent : ∀ i, s.socket = some i → i < s.created)
    (hreplaced : ∀ i ∈ s.replaced, i < s.created) (hstopped : s.stopped = false) :
    Inv s.connect := by
  have hbefore : ∀ i ∈ s.replaced ∪ s.socket.toFinset, i < s.created := by
    intro i hi
    rcases Finset.mem_union.mp hi with hi | hi
    · exact hreplaced i hi
    · exact hcurrent i (Option.mem_toFinset.mp hi)
  rw [connect_of_closed hready]
  refine ⟨.up s.created rfl ?_ (fun k hk => ?_) htimers, fun h => ?_, fun i hi => ?_,
    fun i hi => ?_⟩
  · dsimp only
    rw [Function.update_self]
    exact nofun
  · exact (Function.update_of_ne hk _ _).trans (hready k)
  · exact nomatch hstopped.symm.trans h
  · cases hi
    exact ⟨Nat.lt_succ_self _, fun hmem => (hbefore _ hmem).false⟩
  · exact (hbefore i hi).trans (Nat.lt_succ_self _)

theorem clearTimeout_timers {id i : ℕ} (h : s.timers = [⟨id, i⟩]) :
    (s.clearTimeout id).timers = [] := by
  unfold clearTimeout
  dsimp only
  rw [h]
  simp

theorem Inv.stop (h : Inv s) (hready : ∀ i, s.ready i = .closed) : Inv s.stop := by
  -- the timer that is remembered is the only one that is set
  have htimers : s.clearReconnect.timers = [] := by
    rcases h.phase with ⟨-, -, htimers⟩ | ⟨i, -, hopen, -, -⟩ | ⟨i, id, -, -, htimers, hlast⟩
    · unfold clearReconnect
      rcases s.reconnectTimer with _ | id
      · exact htimers
      · unfold clearTimeout
        dsimp only
        rw [htimers]
        rfl
    · exact absurd (hready i) hopen
    · unfold clearReconnect
      rw [hlast]
      exact clearTimeout_timers htimers
  obtain ⟨timers, heq⟩ := s.exists_clearReconnect
  unfold Connection.stop
  rw [heq] at htimers ⊢
  rw [closeSocket_of_closed (s := { s with timers := timers }) hready]
  exact ⟨.idle rfl hready htimers, fun _ => rfl, nofun, h.replaced_lt⟩

/-- Only the current socket can be in another state than closed. -/
theorem Inv.up_of_ne_closed (h : Inv s) {i : ℕ} (hi : s.ready i ≠ .closed) :
    s.socket = some i ∧ (∀ k, k ≠ i → s.ready k = .closed) ∧ s.timers = [] := by
  rcases h.phase with ⟨-, hready, -⟩ | ⟨k, hsocket, -, hready, htimers⟩ | ⟨-, -, -, hready, -, -⟩
  · exact absurd (hready i) hi
  · have hik : i = k := by
      by_contra hne
      exact hi (hready i hne)
    rw [hik]
    exact ⟨hsocket, hready, htimers⟩
  · exact absurd (hready i) hi

theorem Inv.onopen (h : Inv s) (i : ℕ) : Inv (s.onopen i) := by
  unfold Connection.onopen
  split_ifs with hconnecting
  · have hopen : s.ready i ≠ .closed := by
      rw [hconnecting]
      exact nofun
    obtain ⟨hsocket, hready, htimers⟩ := h.up_of_ne_closed hopen
    refine ⟨.up i hsocket ?_ (fun k hk => ?_) htimers, h.stopped, h.current, h.replaced_lt⟩
    · dsimp only
      rw [Function.update_self]
      exact nofun
    · exact (Function.update_of_ne hk _ _).trans (hready k hk)
  · exact h

theorem Inv.onerror (h : Inv s) (i : ℕ) : Inv (s.onerror i) := by
  unfold Connection.onerror
  split_ifs
  · exact h
  · refine ⟨?_, h.stopped, h.current, h.replaced_lt⟩
    rcases h.phase with ⟨hsocket, hready, htimers⟩ | ⟨k, hsocket, hopen, hready, htimers⟩ |
      ⟨k, id, hsocket, hready, htimers, hlast⟩
    · exact .idle hsocket hready htimers
    · exact .up k hsocket hopen hready htimers
    · exact .waiting k id hsocket hready htimers hlast

/-- **The close event** of the only socket sets the only timer. -/
theorem Inv.onclose (h : Inv s) (i : ℕ) : Inv (s.onclose i) := by
  unfold Connection.onclose
  split_ifs with hclosed
  · exact h
  · obtain ⟨hsocket, hready, htimers⟩ := h.up_of_ne_closed hclosed
    refine ⟨.waiting i s.timersSet hsocket (fun k => ?_) ?_ rfl, h.stopped, h.current,
      h.replaced_lt⟩
    · by_cases hk : k = i
      · rw [hk]
        exact Function.update_self _ _ _
      · exact (Function.update_of_ne hk _ _).trans (hready k hk)
    · dsimp only
      rw [htimers]
      rfl

/-- A timer that is set is that of the current socket. -/
theorem Inv.waiting_of_mem (h : Inv s) {timer : Timer} (htimer : timer ∈ s.timers) :
    s.socket = some timer.socket ∧ (∀ k, s.ready k = .closed) ∧ s.timers = [timer] := by
  rcases h.phase with ⟨-, -, htimers⟩ | ⟨-, -, -, -, htimers⟩ | ⟨i, id, hsocket, hready, htimers, -⟩
  · rw [htimers] at htimer
    exact absurd htimer List.not_mem_nil
  · rw [htimers] at htimer
    exact absurd htimer List.not_mem_nil
  · rw [htimers] at htimer
    rw [List.mem_singleton.mp htimer]
    exact ⟨hsocket, hready, htimers⟩

theorem Inv.not_stopped (h : Inv s) {i : ℕ} (hsocket : s.socket = some i) :
    s.stopped = false := by
  rcases hstopped : s.stopped with _ | _
  · rfl
  · exact nomatch hsocket.symm.trans (h.stopped hstopped)

theorem Inv.timeout (h : Inv s) (id : ℕ) : Inv (s.timeout id) := by
  unfold Connection.timeout
  split_ifs with hset
  · obtain ⟨timer, htimer, rfl⟩ := hset
    obtain ⟨hsocket, hready, htimers⟩ := h.waiting_of_mem htimer
    exact inv_connect (s := s.clearTimeout timer.id) hready (clearTimeout_timers htimers)
      (fun i hi => (h.current i hi).1) h.replaced_lt (h.not_stopped hsocket)
  · exact h

theorem Inv.step (h : Inv s) {event : SocketEvent} (hok : s.Calm event) :
    Inv (s.step event) := by
  cases event with
  | connect =>
    have hstep : s.step .connect = Connection.connect { s with stopped := false } := by
      unfold Connection.step
      rw [connect_of_closed hok.1, connect_of_closed (s := { s with stopped := false }) hok.1]
    rw [hstep]
    exact inv_connect (s := { s with stopped := false }) hok.1 hok.2
      (fun i hi => (h.current i hi).1) h.replaced_lt rfl
  | stop => exact h.stop hok
  | onopen i => exact h.onopen i
  | onerror i => exact h.onerror i
  | onclose i => exact h.onclose i
  | timeout id => exact h.timeout id

/-! ## Reconnects -/

/-- An event of the browser. -/
def IsLate : SocketEvent → Prop
  | .connect => False
  | .stop => False
  | _ => True

/-- **One step**: the current socket is the only one that is open or opening, no socket is made
after `stop()` but by `connect()`, and no timer that runs is one of a socket that `connect()` has
replaced. -/
structure Orderly (s : Connection) (event : SocketEvent) : Prop where
  single : (s.step event).Single
  stopped : s.stopped = true → event ≠ .connect → (s.step event).created = s.created
  replaced : ∀ timer ∈ s.timers, event = .timeout timer.id → timer.socket ∉ s.replaced

theorem created_clearReconnect (s : Connection) : s.clearReconnect.created = s.created := by
  obtain ⟨timers, heq⟩ := s.exists_clearReconnect
  rw [heq]

theorem created_closeSocket (s : Connection) : s.closeSocket.created = s.created := by
  unfold closeSocket
  split <;> rfl

/-- Only `connect()` and a timer make a socket. -/
theorem created_step {event : SocketEvent} (hconnect : event ≠ .connect)
    (htimeout : ∀ timer ∈ s.timers, event ≠ .timeout timer.id) :
    (s.step event).created = s.created := by
  cases event with
  | connect => exact absurd rfl hconnect
  | stop => exact (created_closeSocket _).trans (created_clearReconnect s)
  | onopen i =>
    change (s.onopen i).created = s.created
    unfold Connection.onopen
    split_ifs <;> rfl
  | onerror i =>
    change (s.onerror i).created = s.created
    unfold Connection.onerror
    split_ifs <;> rfl
  | onclose i =>
    change (s.onclose i).created = s.created
    unfold Connection.onclose
    split_ifs <;> rfl
  | timeout id =>
    have hset : ¬∃ timer ∈ s.timers, timer.id = id := by
      rintro ⟨timer, htimer, rfl⟩
      exact htimeout timer htimer rfl
    exact congrArg created (if_neg hset : s.timeout id = s)

theorem Inv.orderly (h : Inv s) (hsingle : s.Single) (event : SocketEvent) :
    s.Orderly event where
  single := hsingle.step event
  stopped hstopped hconnect := by
    refine created_step hconnect fun timer htimer => ?_
    have hsocket := (h.waiting_of_mem htimer).1
    exact nomatch hsocket.symm.trans (h.stopped hstopped)
  replaced timer htimer _ := (h.current timer.socket (h.waiting_of_mem htimer).1).2

section Early
variable {i : ℕ}

/-- A timer that should not run. -/
theorem not_orderly_timeout {timer : Timer} (htimer : timer ∈ s.timers)
    (hbad : timer.socket ∈ s.replaced ∨ s.stopped = true) : ¬s.Orderly (.timeout timer.id) := by
  intro h
  rcases hbad with hreplaced | hstopped
  · exact h.replaced timer htimer rfl hreplaced
  · have hcreated : (s.timeout timer.id).created = s.created := h.stopped hstopped nofun
    have hconnect : s.timeout timer.id = (s.clearTimeout timer.id).connect :=
      if_pos ⟨timer, htimer, rfl⟩
    rw [hconnect] at hcreated
    exact Nat.succ_ne_self _ hcreated

/-- The close event of a socket that was replaced or stopped sets such a timer. -/
theorem not_meets_onclose (hopen : s.ready i ≠ .closed)
    (hbad : i ∈ s.replaced ∨ s.stopped = true) :
    ¬Meets Connection.step Orderly s [.onclose i, .timeout s.timersSet] := by
  rintro ⟨-, h, -⟩
  have hclose : s.step (.onclose i) =
      { s with
        ready := Function.update s.ready i .closed
        connected := false
        timers := s.timers ++ [⟨s.timersSet, i⟩]
        timersSet := s.timersSet + 1
        reconnectTimer := some s.timersSet } := if_neg hopen
  have htimer : ⟨s.timersSet, i⟩ ∈ (s.step (.onclose i)).timers := by
    rw [hclose]
    exact List.mem_append_right _ (List.mem_singleton_self _)
  refine not_orderly_timeout htimer ?_ h
  rw [hclose]
  exact hbad

/-- The current socket is closing after it was closed. -/
theorem ready_closeSocket (hsocket : s.socket = some i) (hopen : s.ready i ≠ .closed) :
    s.closeSocket.ready i ≠ .closed := by
  have hclose : (s.ready i).close ≠ .closed := by
    rcases hready : s.ready i with _ | _ | _ | _
    · exact nofun
    · exact nofun
    · exact nofun
    · exact absurd hready hopen
  unfold closeSocket
  rw [hsocket]
  dsimp only
  rw [Function.update_self]
  exact hclose

theorem mem_replaced_connect (hsocket : s.socket = some i) : i ∈ s.connect.replaced :=
  Finset.mem_union_right _ (Option.mem_toFinset.mpr hsocket)

/-- **A call that comes too early**: late events run a timer that should not run. -/
theorem Inv.exists_late (h : Inv s) {event : SocketEvent} (hnot : ¬s.Calm event) :
    ∃ later, (∀ event ∈ later, IsLate event) ∧
      ¬Meets Connection.step Orderly s (event :: later) := by
  have hlate : ∀ (i id : ℕ), ∀ event ∈ [SocketEvent.onclose i, .timeout id], IsLate event := by
    intro i id event hevent
    rcases List.mem_cons.mp hevent with rfl | hevent
    · trivial
    · rw [List.mem_singleton.mp hevent]
      trivial
  cases event with
  | connect =>
    rcases h.phase with ⟨-, hready, htimers⟩ | ⟨i, hsocket, hopen, -, -⟩ |
      ⟨i, id, hsocket, hready, htimers, -⟩
    · exact absurd ⟨hready, htimers⟩ hnot
    · -- its close event comes when it is replaced
      refine ⟨_, hlate i (s.step .connect).timersSet, fun hmeets => ?_⟩
      have hne : i ≠ s.created := (h.current i hsocket).1.ne
      have hclosing : (s.step .connect).ready i ≠ .closed := by
        change Function.update s.closeSocket.ready s.created .connecting i ≠ .closed
        rw [Function.update_of_ne hne]
        exact ready_closeSocket hsocket hopen
      exact not_meets_onclose hclosing (.inl (mem_replaced_connect hsocket)) hmeets.2
    · -- its timer is set when it is replaced
      refine ⟨[.timeout id], fun event hevent => ?_, fun hmeets => ?_⟩
      · rw [List.mem_singleton.mp hevent]
        trivial
      · have htimer : ⟨id, i⟩ ∈ (s.step .connect).timers := by
          change ⟨id, i⟩ ∈ s.connect.timers
          rw [connect_of_closed hready]
          dsimp only
          rw [htimers]
          exact List.mem_singleton_self _
        exact not_orderly_timeout htimer (.inl (mem_replaced_connect hsocket)) hmeets.2.1
  | stop =>
    rcases h.phase with ⟨-, hready, -⟩ | ⟨i, hsocket, hopen, -, -⟩ | ⟨-, -, -, hready, -, -⟩
    · exact absurd hready hnot
    · refine ⟨_, hlate i (s.step .stop).timersSet, fun hmeets => ?_⟩
      have hclosing : (s.step .stop).ready i ≠ .closed := by
        obtain ⟨timers, heq⟩ := s.exists_clearReconnect
        change s.clearReconnect.closeSocket.ready i ≠ .closed
        rw [heq]
        exact ready_closeSocket (s := { s with timers := timers }) hsocket hopen
      exact not_meets_onclose hclosing (.inr rfl) hmeets.2
    · exact absurd hready hnot
  | onopen i => exact absurd trivial hnot
  | onerror i => exact absurd trivial hnot
  | onclose i => exact absurd trivial hnot
  | timeout id => exact absurd trivial hnot

end Early

theorem calm_of_isLate {event : SocketEvent} (h : IsLate event) : s.Calm event := by
  cases event with
  | connect => exact h.elim
  | stop => exact h.elim
  | onopen i => trivial
  | onerror i => trivial
  | onclose i => trivial
  | timeout id => trivial

/-- **When nothing reconnects that should not**, whatever events of the browser follow: `connect()`
is called when every socket is closed and no timer is set, and `stop()` when every socket is
closed. -/
theorem orderly_iff (events : List SocketEvent) :
    (∀ pre later, pre <+: events → (∀ event ∈ later, IsLate event) →
        Meets Connection.step Orderly {} (pre ++ later)) ↔
      Meets Connection.step Calm {} events := by
  have hlate : ∀ (s : Connection) event, IsLate event → s.Calm event := fun _ _ => calm_of_isLate
  refine meets_iff_of_late (I := fun s => Inv s ∧ s.Single) (fun s event h hok => ?_) hlate
    (fun s event h hnot => h.1.exists_late hnot) ⟨Inv.init, single_run []⟩
  exact ⟨h.1.orderly h.2 event, h.1.step hok, h.2.step event⟩

/-- **A socket that is made after `stop()`**, and **a socket that is replaced and reconnects**: each
closes late, and the timer of that runs. -/
theorem not_orderly_early :
    ¬Meets Connection.step Orderly {} [.connect, .stop, .onclose 0, .timeout 0] ∧
      ¬Meets Connection.step Orderly {} [.connect, .connect, .onclose 0, .timeout 0] := by
  constructor
  · rintro ⟨-, -, -, h, -⟩
    exact absurd (h.stopped rfl nofun) (by decide)
  · rintro ⟨-, -, -, h, -⟩
    exact h.replaced ⟨0, 0⟩ (by decide) rfl (by decide)

end Connection

end FlyRuler.Web
