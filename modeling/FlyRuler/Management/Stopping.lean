import FlyRuler.Lib.Run
import FlyRuler.Management.Operations
import Mathlib.Data.List.Induction

/-!
# The end of the management server

`ManagementServerRuntime::stop` of `core/src/management/server.rs` cancels the token of the server,
waits for the task of the server, which ends when the requests that it has accepted are answered,
and then for the operations that these have left behind: `wait_idle` looks at the busy flag, makes
a future of `notify_waiters`, looks again and sleeps.  The requests are those of `Operations`, but
the flag is cleared one step before the waiters are notified.

Two things are assumed of libraries, as these document them: axum's graceful shutdown accepts
nothing once it has seen the token, and ends when every handler has (`stepServer`); and a future of
tokio's `Notify` hears of every call of `notify_waiters` after it was made, also before it is first
polled (`sleeping`).

* `pool_run`: the requests of the server are a run of the requests of `Operations`.
* `stop_settled`: when `stop` returns, every operation has come to its end, and none follows.
* `stop_returns`: from the moment the server no longer accepts, the steps that are left are bounded,
  and nobody can be stuck before `stop` has returned.
-/

namespace FlyRuler.Management.Stopping

open FlyRuler.Pb FlyRuler.Lib.Run FlyRuler.Lib.Threads

/-! ## The server and its end -/

/-- A request, or one whose operation has cleared the flag and not yet notified the waiters. -/
inductive Task where
  | request (task : RequestTask)
  | notifying (id : String)
  deriving DecidableEq

/-- The place in the sense of `Operations`. -/
@[simp] def Task.place : Task → RequestTask
  | .request task => task
  | .notifying id => .unlocking id

/-- The task of the server: it accepts, it waits for the requests at work, it has ended. -/
inductive ServerPhase where
  | serving
  | draining
  | ended
  deriving DecidableEq

/-- Where `stop` is; `seen` is how often the waiters had been notified when its future was made. -/
inductive StopTask where
  | uncalled
  | joining
  | looking
  | registering
  | rechecking (seen : ℕ)
  | sleeping (seen : ℕ)
  | returned
  deriving DecidableEq

/-- `notified` counts the calls of `notify_waiters`. -/
structure ManagementServerRuntime where
  manager : OperationManager := {}
  notified : ℕ := 0
  shutdown : Bool := false
  server : ServerPhase := .serving
  stop : StopTask := .uncalled
  tasks : List Task := []
  deriving DecidableEq

inductive StopAction where
  | accept (request : OperationRequest)
  | task (i : ℕ) (outside : Outside)
  | server
  | stop

/-- The handler of the request is at work: before `begin` has returned, or the action of a clear. -/
@[simp] def isHandling : RequestTask → Bool
  | .beginning .. | .swapping .. | .queueing .. | .returning _ | .idling | .checking | .acting
  | .leaving | .refusing _ => true
  | _ => false

section
variable (uuid : ℕ → String)

/-- One atomic step of a task; `none` while it waits for the mutex, and at its end. -/
def Task.advance (outside : Outside) (manager : OperationManager) (notified : ℕ) :
    Task → Option (OperationManager × ℕ × Task)
  | .notifying id => some (manager, notified + 1, .request (.unlocking id))
  | .request (.releasing id) => some ({ manager with active := false }, notified, .notifying id)
  | .request task =>
    (manager.advance uuid outside task).map fun next => (next.1, notified, .request next.2)

namespace ManagementServerRuntime

def stepTask (r : ManagementServerRuntime) (i : ℕ) (outside : Outside) : ManagementServerRuntime :=
  match r.tasks[i]? with
  | none => r
  | some task =>
    match task.advance uuid outside r.manager r.notified with
    | none => r
    | some (manager, notified, task) => { r with manager, notified, tasks := r.tasks.set i task }

/-- `with_graceful_shutdown`, as axum documents it: the server sees the token, and waits for the
handlers. -/
def stepServer (r : ManagementServerRuntime) : ManagementServerRuntime :=
  match r.server with
  | .serving => if r.shutdown then { r with server := .draining } else r
  | .draining =>
    if r.tasks.any fun task => isHandling task.place then r else { r with server := .ended }
  | .ended => r

/-- `stop`, and `wait_idle` from `looking` on. -/
def stepStop (r : ManagementServerRuntime) : ManagementServerRuntime :=
  match r.stop with
  | .uncalled => { r with shutdown := true, stop := .joining }
  | .joining => if r.server = .ended then { r with stop := .looking } else r
  | .looking => { r with stop := if r.manager.active then .registering else .returned }
  | .registering => { r with stop := .rechecking r.notified }
  | .rechecking seen => { r with stop := if r.manager.active then .sleeping seen else .returned }
  | .sleeping seen => if seen < r.notified then { r with stop := .looking } else r
  | .returned => r

def next (r : ManagementServerRuntime) : StopAction → ManagementServerRuntime
  | .accept request =>
    if r.server = .serving then { r with tasks := r.tasks ++ [.request request.start] } else r
  | .task i outside => r.stepTask uuid i outside
  | .server => r.stepServer
  | .stop => r.stepStop

def run (actions : List StopAction) : ManagementServerRuntime := actions.foldl (next uuid) {}

end ManagementServerRuntime

end

/-- The requests in the sense of `Operations`. -/
def ManagementServerRuntime.pool (r : ManagementServerRuntime) :
    Pool OperationManager RequestTask :=
  ⟨r.manager, r.tasks.map Task.place⟩

variable {uuid : ℕ → String}

/-! ## One step of a task -/

/-- How many steps are left of a request, at most. -/
def steps : RequestTask → ℕ
  | .finished _ | .lost _ | .acted | .refused _ => 0
  | .unlocking _ | .leaving | .refusing _ => 1
  | .acting => 2
  | .releasing _ | .checking => 3
  | .clearing _ | .idling => 4
  | .settling .. => 5
  | .running _ => 6
  | .begun _ => 7
  | .returning _ => 8
  | .queueing .. => 9
  | .swapping .. => 10
  | .beginning .. => 11

/-- How many steps are left of a task, at most. -/
def Task.steps : Task → ℕ
  | .request task => Stopping.steps task
  | .notifying _ => 2

section Task
variable {outside : Outside} {manager manager' : OperationManager} {notified notified' : ℕ}
  {before after : RequestTask} {task task' : Task}

/-- A request comes nearer to its end, and its handler, once it has answered, is not at work
again. -/
theorem advance_steps (h : manager.advance uuid outside before = some (manager', after)) :
    steps after < steps before ∧ (isHandling before = false → isHandling after = false) := by
  cases before <;> simp only [OperationManager.advance, OperationManager.lock] at h
  case beginning | clearing | idling | swapping | checking =>
    split_ifs at h <;> obtain ⟨-, rfl⟩ := h <;> simp [steps]
  case settling =>
    split at h <;> obtain ⟨-, rfl⟩ := h <;> simp [steps]
  case queueing | returning | begun | running | releasing | unlocking | acting | leaving |
      refusing =>
    obtain ⟨-, rfl⟩ := h
    simp [steps]
  all_goals cases h

/-- Only one step clears the flag. -/
theorem advance_keeps_active
    (h : manager.advance uuid outside before = some (manager', after))
    (hnot : ∀ id, before ≠ .releasing id) (hactive : manager.active = true) :
    manager'.active = true := by
  cases before <;> simp only [OperationManager.advance, OperationManager.lock] at h
  case beginning | clearing | idling | swapping | checking =>
    split_ifs at h
    obtain ⟨rfl, -⟩ := h
    exact hactive
  case begun id =>
    obtain ⟨rfl, -⟩ := h
    rcases hupdate : manager.update id .running none outside.now with _ | next
    · exact hactive
    · exact (update_flags hupdate).1.trans hactive
  case settling =>
    split at h
    · obtain ⟨rfl, -⟩ := h
      exact hactive
    · next hupdate =>
      obtain ⟨rfl, -⟩ := h
      exact (update_flags hupdate).1.trans hactive
  case releasing id => exact absurd rfl (hnot id)
  case queueing | returning | running | unlocking | acting | leaving | refusing =>
    obtain ⟨rfl, -⟩ := h
    exact hactive
  all_goals cases h

/-- Only a request that waits for the mutex, or is at its end, cannot go on. -/
theorem exists_advance (uuid : ℕ → String) (outside : Outside) (hsteps : steps before ≠ 0)
    (hfree : manager.coordination = false ∨ before.holdsCoordination = true) :
    ∃ manager' after, manager.advance uuid outside before = some (manager', after) := by
  cases before <;> simp only [OperationManager.advance, OperationManager.lock]
  case beginning | clearing | idling =>
    rw [hfree.resolve_right (by simp)]
    exact ⟨_, _, rfl⟩
  case swapping | checking => split_ifs <;> exact ⟨_, _, rfl⟩
  case settling => split <;> exact ⟨_, _, rfl⟩
  case queueing | returning | begun | running | releasing | unlocking | acting | leaving |
      refusing => exact ⟨_, _, rfl⟩
  all_goals exact absurd rfl hsteps

/-- **What a step of a task does**: it notifies the waiters, or it is a step in the sense of
`Operations`, and the one that clears the flag is followed by a notification. -/
theorem advance_cases
    (h : task.advance uuid outside manager notified = some (manager', notified', task')) :
    (∃ id, task = .notifying id ∧ task' = .request (.unlocking id) ∧ manager' = manager ∧
      notified' = notified + 1) ∨
    (∃ id, task = .request (.releasing id) ∧ task' = .notifying id ∧
      manager' = { manager with active := false } ∧ notified' = notified) ∨
    (∃ before after, task = .request before ∧ task' = .request after ∧ notified' = notified ∧
      (∀ id, before ≠ .releasing id) ∧
      manager.advance uuid outside before = some (manager', after)) := by
  unfold Task.advance at h
  split at h
  · next id =>
    obtain ⟨rfl, rfl, rfl⟩ := h
    exact .inl ⟨id, rfl, rfl, rfl, rfl⟩
  · next id =>
    obtain ⟨rfl, rfl, rfl⟩ := h
    exact .inr (.inl ⟨id, rfl, rfl, rfl, rfl⟩)
  · next before hnot =>
    obtain ⟨⟨next, after⟩, hadvance, heq⟩ := Option.map_eq_some_iff.mp h
    obtain ⟨rfl, rfl, rfl⟩ := heq
    exact .inr (.inr ⟨before, after, rfl, rfl, rfl, fun id hid => hnot id (by rw [hid]), hadvance⟩)

theorem task_steps (h : task.advance uuid outside manager notified =
    some (manager', notified', task')) : task'.steps < task.steps := by
  rcases advance_cases h with ⟨id, rfl, rfl, -⟩ | ⟨id, rfl, rfl, -⟩ |
    ⟨before, after, rfl, rfl, -, -, hadvance⟩
  · exact Nat.lt_succ_self 1
  · exact Nat.lt_succ_self 2
  · exact (advance_steps hadvance).1

theorem task_handling (h : task.advance uuid outside manager notified =
    some (manager', notified', task')) (hdone : isHandling task.place = false) :
    isHandling task'.place = false := by
  rcases advance_cases h with ⟨id, rfl, rfl, -⟩ | ⟨id, rfl, rfl, -⟩ |
    ⟨before, after, rfl, rfl, -, -, hadvance⟩
  · rfl
  · rfl
  · exact (advance_steps hadvance).2 hdone

/-- The flag is cleared by a task that then notifies the waiters, and set by a handler only. -/
theorem task_active (h : task.advance uuid outside manager notified =
    some (manager', notified', task')) :
    (manager.active = true → manager'.active = true ∨ ∃ id, task' = .notifying id) ∧
      (isHandling task.place = false → manager'.active = true → manager.active = true) := by
  rcases advance_cases h with ⟨_, rfl, rfl, rfl, -⟩ | ⟨id, rfl, rfl, rfl, -⟩ |
    ⟨before, after, rfl, rfl, -, hnot, hadvance⟩
  · exact ⟨.inl, fun _ hactive => hactive⟩
  · exact ⟨fun _ => .inr ⟨id, rfl⟩, fun _ h => absurd h (by simp)⟩
  · constructor
    · exact fun hactive => .inl (advance_keeps_active hadvance hnot hactive)
    · intro hdone hactive
      refine ((advance_active hadvance).2 hactive).resolve_right ?_
      rintro ⟨kind, session, rfl⟩
      exact absurd hdone (by simp)

end Task

/-! ## The requests of the server -/

section Step
variable {r : ManagementServerRuntime}

theorem stepTask_cases (uuid : ℕ → String) (r : ManagementServerRuntime) (i : ℕ)
    (outside : Outside) :
    r.stepTask uuid i outside = r ∨ ∃ task manager notified task',
      r.tasks[i]? = some task ∧
      task.advance uuid outside r.manager r.notified = some (manager, notified, task') ∧
      r.stepTask uuid i outside =
        { r with manager, notified, tasks := r.tasks.set i task' } := by
  unfold ManagementServerRuntime.stepTask
  split
  · exact .inl rfl
  · next task htask =>
    split
    · exact .inl rfl
    · next manager notified task' hadvance =>
      exact .inr ⟨task, manager, notified, task', htask, hadvance, rfl⟩

theorem pool_stepTask (uuid : ℕ → String) (r : ManagementServerRuntime) (i : ℕ)
    (outside : Outside) :
    (r.stepTask uuid i outside).pool = r.pool ∨
      (r.stepTask uuid i outside).pool = (operationMachine uuid).next r.pool (.step i outside) := by
  rcases stepTask_cases uuid r i outside with hsame |
    ⟨task, manager, notified, task', htask, hadvance, heq⟩
  · exact .inl (by rw [hsame])
  · have hplace : r.pool.threads[i]? = some task.place := by
      rw [ManagementServerRuntime.pool, List.getElem?_map, htask]
      rfl
    have hset : ∀ manager : OperationManager,
        (⟨manager, (r.tasks.set i task').map Task.place⟩ : Pool OperationManager RequestTask) =
          ⟨manager, r.pool.threads.set i task'.place⟩ := by
      intro manager
      rw [List.map_set]
      rfl
    rw [heq, ManagementServerRuntime.pool, hset]
    rcases advance_cases hadvance with ⟨id, rfl, rfl, rfl, -⟩ | ⟨id, rfl, rfl, rfl, -⟩ |
      ⟨before, after, rfl, rfl, -, -, hbefore⟩
    · left
      obtain ⟨hi, hget⟩ := List.getElem?_eq_some_iff.mp hplace
      have hself : r.pool.threads.set i (.unlocking id) = r.pool.threads := by
        conv_lhs => rw [show RequestTask.unlocking id = r.pool.threads[i] from hget.symm]
        exact List.set_getElem_self hi
      exact congrArg (Pool.mk r.manager) hself
    · exact .inr (Machine.next_step hplace rfl).symm
    · exact .inr (Machine.next_step hplace hbefore).symm

end Step

/-- **The requests of the server are those of `Operations`**, whatever the server and `stop` do. -/
theorem pool_run (uuid : ℕ → String) (actions : List StopAction) :
    ∃ requests, (ManagementServerRuntime.run uuid actions).pool =
      (operationMachine uuid).run ⟨{}, []⟩ requests := by
  induction actions using List.reverseRecOn with
  | nil => exact ⟨[], rfl⟩
  | append_singleton actions action ih =>
    obtain ⟨requests, ih⟩ := ih
    rw [ManagementServerRuntime.run, List.foldl_append]
    change ∃ requests, (ManagementServerRuntime.next uuid
      (ManagementServerRuntime.run uuid actions) action).pool = _
    have hsame : ∀ r : ManagementServerRuntime,
        r.pool = (ManagementServerRuntime.run uuid actions).pool →
          ∃ requests, r.pool = (operationMachine uuid).run ⟨{}, []⟩ requests :=
      fun r hr => ⟨requests, hr.trans ih⟩
    have hone : ∀ (r : ManagementServerRuntime) request,
        r.pool = (operationMachine uuid).next (ManagementServerRuntime.run uuid actions).pool
          request → ∃ requests, r.pool = (operationMachine uuid).run ⟨{}, []⟩ requests := by
      intro r request hr
      refine ⟨requests ++ [request], ?_⟩
      rw [Machine.run_append, ← ih, hr]
      rfl
    cases action with
    | accept request =>
      rw [ManagementServerRuntime.next]
      split_ifs
      · refine hone _ (.call request) ?_
        rw [ManagementServerRuntime.pool, List.map_append]
        rfl
      · exact hsame _ rfl
    | task i outside =>
      rcases pool_stepTask uuid (ManagementServerRuntime.run uuid actions) i outside
        with h | h
      · exact hsame _ h
      · exact hone _ _ h
    | server =>
      refine hsame _ ?_
      rw [ManagementServerRuntime.next, ManagementServerRuntime.stepServer]
      repeat' split
      all_goals rfl
    | stop =>
      refine hsame _ ?_
      rw [ManagementServerRuntime.next, ManagementServerRuntime.stepStop]
      repeat' split
      all_goals rfl

/-! ## What the server and `stop` know of the requests -/

/-- `stop` has seen the end of the server. -/
@[simp] def StopTask.joined : StopTask → Bool
  | .uncalled | .joining => false
  | .looking | .registering | .rechecking _ | .sleeping _ | .returned => true

/-- What `stop` relies on. -/
structure Inv (r : ManagementServerRuntime) : Prop where
  called : r.shutdown = true ∨ r.server ≠ .serving → r.stop ≠ .uncalled
  joined : r.stop.joined = true → r.server = .ended
  ended : r.server = .ended → ∀ task ∈ r.tasks, isHandling task.place = false
  seen : ∀ n, r.stop = .rechecking n ∨ r.stop = .sleeping n → n ≤ r.notified
  -- **no notification is lost**: a sleeper that has not been woken will be
  awake : ∀ n, r.stop = .sleeping n →
    n < r.notified ∨ r.manager.active = true ∨ ∃ id, .notifying id ∈ r.tasks
  returned : r.stop = .returned → r.manager.active = false

section Inv
variable {r : ManagementServerRuntime}

theorem Inv.accept (h : Inv r) (request : OperationRequest) :
    Inv (ManagementServerRuntime.next uuid r (.accept request)) := by
  rw [ManagementServerRuntime.next]
  split_ifs with hserving
  · refine ⟨h.called, h.joined, fun hended => ?_, h.seen, fun n hn => ?_, h.returned⟩
    · rw [hserving] at hended
      cases hended
    · refine (h.awake n hn).imp_right fun h => h.imp_right ?_
      rintro ⟨id, hid⟩
      exact ⟨id, List.mem_append_left _ hid⟩
  · exact h

theorem Inv.stepTask (h : Inv r) (i : ℕ) (outside : Outside) : Inv (r.stepTask uuid i outside) := by
  rcases stepTask_cases uuid r i outside with hsame |
    ⟨task, manager, notified, task', htask, hadvance, heq⟩
  · rwa [hsame]
  · have hmem := List.mem_of_getElem? htask
    obtain ⟨hkeeps, hsets⟩ := task_active hadvance
    have hle : r.notified ≤ notified := by
      rcases advance_cases hadvance with ⟨_, -, -, -, rfl⟩ | ⟨_, -, -, -, rfl⟩ |
        ⟨_, _, -, -, rfl, -⟩
      · exact Nat.le_succ _
      · exact le_refl _
      · exact le_refl _
    have hnew : task' ∈ r.tasks.set i task' := by
      refine List.mem_set ?_ _
      exact (List.getElem?_eq_some_iff.mp htask).1
    rw [heq]
    refine ⟨h.called, h.joined, fun hended => ?_, fun n hn => (h.seen n hn).trans hle,
      fun n hn => ?_, fun hreturned => ?_⟩
    · intro t ht
      rcases List.mem_or_eq_of_mem_set ht with ht | rfl
      · exact h.ended hended t ht
      · exact task_handling hadvance (h.ended hended task hmem)
    · rcases h.awake n hn with hwoken | hactive | ⟨id, hid⟩
      · exact .inl (hwoken.trans_le hle)
      · rcases hkeeps hactive with hactive | ⟨id, rfl⟩
        · exact .inr (.inl hactive)
        · exact .inr (.inr ⟨id, hnew⟩)
      · by_cases hsame : task = .notifying id
        · -- it is this one that notifies
          subst hsame
          left
          have hseen := h.seen n (.inr hn)
          rcases advance_cases hadvance with ⟨_, -, -, -, rfl⟩ | ⟨_, hnot, -⟩ | ⟨_, _, hnot, -⟩
          · exact Nat.lt_succ_of_le hseen
          · cases hnot
          · cases hnot
        · exact .inr (.inr ⟨id, mem_set_of_ne htask task' hid (Ne.symm hsame)⟩)
    · have hended := h.joined (by rw [hreturned]; rfl)
      refine eq_false_of_ne_true fun hactive => ?_
      have hold := hsets (h.ended hended task hmem) hactive
      rw [h.returned hreturned] at hold
      cases hold

theorem Inv.stepServer (h : Inv r) : Inv r.stepServer := by
  unfold ManagementServerRuntime.stepServer
  split
  · next hserving =>
    split_ifs with hshutdown
    · refine ⟨fun _ => h.called (.inl hshutdown), fun hjoined => ?_, fun hended => ?_, h.seen,
        h.awake, h.returned⟩
      · rw [h.joined hjoined] at hserving
        cases hserving
      · cases hended
    · exact h
  · next hdraining =>
    split_ifs with hany
    · exact h
    · refine ⟨fun _ => h.called (.inr ?_), fun _ => rfl, fun _ task htask => ?_, h.seen, h.awake,
        h.returned⟩
      · rw [hdraining]
        simp
      · refine eq_false_of_ne_true fun hhandling => ?_
        exact hany (List.any_eq_true.mpr ⟨task, htask, hhandling⟩)
  · exact h

/-- `stop` goes on, having seen the end of the server. -/
theorem Inv.goTo (h : Inv r) {place : StopTask} (hended : r.server = .ended)
    (hjoined : place.joined = true)
    (hseen : ∀ n, place = .rechecking n ∨ place = .sleeping n → n ≤ r.notified)
    (hawake : ∀ n, place = .sleeping n → r.manager.active = true)
    (hreturned : place = .returned → r.manager.active = false) :
    Inv { r with stop := place } := by
  refine ⟨fun _ hplace => ?_, fun _ => hended, h.ended, hseen,
    fun n hn => .inr (.inl (hawake n hn)), hreturned⟩
  rw [show place = .uncalled from hplace] at hjoined
  cases hjoined

theorem Inv.stepStop (h : Inv r) : Inv r.stepStop := by
  unfold ManagementServerRuntime.stepStop
  split
  · refine ⟨fun _ => by simp, fun hjoined => ?_, h.ended, ?_, ?_, ?_⟩
    · cases hjoined
    · rintro n (hn | hn) <;> cases hn
    · intro n hn
      cases hn
    · intro hreturned
      cases hreturned
  · split_ifs with hended
    · exact h.goTo hended rfl (by simp) (by simp) (by simp)
    · exact h
  · next hlooking =>
    have hended := h.joined (by rw [hlooking]; rfl)
    split_ifs with hactive
    · exact h.goTo hended rfl (by simp) (by simp) (by simp)
    · exact h.goTo hended rfl (by simp) (by simp) fun _ => eq_false_of_ne_true hactive
  · next hregistering =>
    have hended := h.joined (by rw [hregistering]; rfl)
    exact h.goTo hended rfl (by simp) (by simp) (by simp)
  · next seen hrechecking =>
    have hended := h.joined (by rw [hrechecking]; rfl)
    have hseen := h.seen seen (.inl hrechecking)
    split_ifs with hactive
    · exact h.goTo hended rfl (by simpa using hseen) (fun _ _ => hactive) (by simp)
    · exact h.goTo hended rfl (by simp) (by simp) fun _ => eq_false_of_ne_true hactive
  · next seen hsleeping =>
    have hended := h.joined (by rw [hsleeping]; rfl)
    split_ifs
    · exact h.goTo hended rfl (by simp) (by simp) (by simp)
    · exact h
  · exact h

theorem Inv.next (h : Inv r) (action : StopAction) :
    Inv (ManagementServerRuntime.next uuid r action) := by
  cases action with
  | accept request => exact h.accept request
  | task i outside => exact h.stepTask i outside
  | server => exact h.stepServer
  | stop => exact h.stepStop

end Inv

theorem inv_run (actions : List StopAction) : Inv (ManagementServerRuntime.run uuid actions) := by
  refine List.foldlRecOn actions _ ?_ fun r h action _ => h.next action
  refine ⟨fun h => ?_, fun h => ?_, fun h => ?_, ?_, fun n h => ?_, fun h => ?_⟩
  · rcases h with h | h
    · cases h
    · exact absurd rfl h
  · cases h
  · cases h
  · rintro n (h | h) <;> cases h
  · cases h
  · cases h

/-- The flag, the mutex and the records of the manager. -/
theorem busy_run (uuid : ℕ → String) (actions : List StopAction) :
    Busy (ManagementServerRuntime.run uuid actions).pool ∧
      (Distinct uuid (ManagementServerRuntime.run uuid actions).manager.drawn →
        Recorded uuid (ManagementServerRuntime.run uuid actions).pool) := by
  obtain ⟨requests, hpool⟩ := pool_run uuid actions
  obtain ⟨hbusy, hrecorded⟩ := recorded_run uuid requests
  rw [← hpool] at hbusy hrecorded
  exact ⟨hbusy, hrecorded⟩

/-! ## When `stop` has returned -/

/-- The request is answered and its operation, if it had one, has come to its end. -/
def IsOver (task : RequestTask) : Prop :=
  isHandling task = false ∧ task.inProgress = false

/-- **After the return of `stop`** nothing is under way, and what follows changes no record. -/
theorem returned_next (uuid : ℕ → String) {r : ManagementServerRuntime} (h : Inv r)
    (hbusy : Busy r.pool) (hreturned : r.stop = .returned) (action : StopAction) :
    (∀ task ∈ r.tasks, IsOver task.place) ∧
      (ManagementServerRuntime.next uuid r action).stop = .returned ∧
      (ManagementServerRuntime.next uuid r action).manager.records = r.manager.records := by
  have hended := h.joined (by rw [hreturned]; rfl)
  have hover : ∀ task ∈ r.tasks, IsOver task.place := by
    intro task htask
    have hcount := hbusy.active
    rw [show r.pool.shared.active = false from h.returned hreturned] at hcount
    have hnone := List.countP_eq_zero.mp hcount task.place (List.mem_map_of_mem htask)
    exact ⟨h.ended hended task htask, eq_false_of_ne_true hnone⟩
  refine ⟨hover, ?_⟩
  cases action with
  | accept request =>
    rw [ManagementServerRuntime.next, if_neg (by rw [hended]; simp)]
    exact ⟨hreturned, rfl⟩
  | task i outside =>
    rw [ManagementServerRuntime.next]
    rcases stepTask_cases uuid r i outside with hsame |
      ⟨task, manager, notified, task', htask, hadvance, heq⟩
    · rw [hsame]
      exact ⟨hreturned, rfl⟩
    · rw [heq]
      refine ⟨hreturned, ?_⟩
      have hplace := hover task (List.mem_of_getElem? htask)
      rcases advance_cases hadvance with ⟨_, -, -, rfl, -⟩ | ⟨_, -, -, rfl, -⟩ |
        ⟨before, after, rfl, -, -, -, hbefore⟩
      · rfl
      · rfl
      · rcases advance_records hbefore with ⟨_, _, rfl, -⟩ | ⟨_, rfl, -⟩ | ⟨_, _, rfl, -⟩ |
          ⟨hrecords, -⟩
        · exact absurd hplace.1 (by simp)
        · exact absurd hplace.2 (by simp)
        · exact absurd hplace.2 (by simp)
        · exact hrecords
  | server =>
    rw [ManagementServerRuntime.next, ManagementServerRuntime.stepServer, hended]
    exact ⟨hreturned, rfl⟩
  | stop =>
    rw [ManagementServerRuntime.next, ManagementServerRuntime.stepStop, hreturned]
    exact ⟨hreturned, rfl⟩

/-- **`stop` returns when every operation has come to its end**, at every moment of every
interleaving, if the identifiers drawn are different: all records are terminal, every request
is over, and whatever follows leaves it at that. -/
theorem stop_settled (uuid : ℕ → String) (actions more : List StopAction)
    (hreturned : (ManagementServerRuntime.run uuid actions).stop = .returned)
    (hdistinct : Distinct uuid (ManagementServerRuntime.run uuid actions).manager.drawn) :
    let r := ManagementServerRuntime.run uuid (actions ++ more)
    r.stop = .returned ∧ (∀ task ∈ r.tasks, IsOver task.place) ∧
      r.manager.records = (ManagementServerRuntime.run uuid actions).manager.records ∧
      ∀ record ∈ r.manager.records, record.state.isTerminal = true := by
  have hterminal : ∀ record ∈ (ManagementServerRuntime.run uuid actions).manager.records,
      record.state.isTerminal = true := by
    obtain ⟨hbusy, hrecorded⟩ := busy_run uuid actions
    exact (hbusy.serial (hrecorded hdistinct)).idle ((inv_run actions).returned hreturned)
  have hstays : (ManagementServerRuntime.run uuid (actions ++ more)).stop = .returned ∧
      (ManagementServerRuntime.run uuid (actions ++ more)).manager.records =
        (ManagementServerRuntime.run uuid actions).manager.records := by
    induction more using List.reverseRecOn with
    | nil =>
      rw [List.append_nil]
      exact ⟨hreturned, rfl⟩
    | append_singleton more action ih =>
      obtain ⟨hstop, hrecords⟩ := ih
      rw [← List.append_assoc, ManagementServerRuntime.run, List.foldl_append]
      obtain ⟨-, hnext, hsame⟩ := returned_next uuid (inv_run _) (busy_run uuid _).1 hstop action
      exact ⟨hnext, hsame.trans hrecords⟩
  refine ⟨hstays.1, ?_, hstays.2, ?_⟩
  · exact (returned_next uuid (inv_run _) (busy_run uuid _).1 hstays.1 .server).1
  · rw [hstays.2]
    exact hterminal

/-- A save is under way when `stop` is called: the server no longer accepts, -/
def stopCalled : List StopAction :=
  let task : StopAction := .task 0 ⟨.finite 0, .ok ()⟩
  [.accept (.sessionSave "flight"), task, task, task, task, .stop, .server]

/-- `stop` falls asleep, and the end of the save wakes it. -/
def stopWoken : List StopAction :=
  let task : StopAction := .task 0 ⟨.finite 0, .ok ()⟩
  [.server, .stop, .stop, .stop, .stop, task, task, task, task, task, task, task, .stop, .stop]

theorem distinct_stopWoken : Distinct sampleUuid
    (ManagementServerRuntime.run sampleUuid (stopCalled ++ stopWoken)).manager.drawn := by
  have hdrawn :
      (ManagementServerRuntime.run sampleUuid (stopCalled ++ stopWoken)).manager.drawn = 1 := by
    decide +kernel
  rw [hdrawn]
  unfold Distinct
  decide +kernel

theorem stop_settled_save :
    (ManagementServerRuntime.run sampleUuid (stopCalled ++ stopWoken)).stop = .returned ∧
    let r := ManagementServerRuntime.run sampleUuid
      ((stopCalled ++ stopWoken) ++ [.accept (.sessionLoad "flight")])
    r.stop = .returned ∧ (∀ task ∈ r.tasks, IsOver task.place) ∧
      r.manager.records = (ManagementServerRuntime.run sampleUuid
        (stopCalled ++ stopWoken)).manager.records ∧
      ∀ record ∈ r.manager.records, record.state.isTerminal = true :=
  have hreturned :
      (ManagementServerRuntime.run sampleUuid (stopCalled ++ stopWoken)).stop = .returned := by
    decide +kernel
  ⟨hreturned, stop_settled sampleUuid (stopCalled ++ stopWoken) [.accept (.sessionLoad "flight")]
    hreturned distinct_stopWoken⟩

/-! ## `stop` returns -/

def ServerPhase.rank : ServerPhase → ℕ
  | .serving => 2
  | .draining => 1
  | .ended => 0

/-- How many steps are left of `stop`, at most; one that has been notified looks once more. -/
def StopTask.rank (notified : ℕ) : StopTask → ℕ
  | .uncalled => 5
  | .joining => 4
  | .looking => 3
  | .registering => 2
  | .rechecking seen => if seen < notified then 5 else 1
  | .sleeping seen => if seen < notified then 4 else 0
  | .returned => 0

/-- A bound on the steps that are left.  A notification costs `stop` up to four steps. -/
def remaining (r : ManagementServerRuntime) : ℕ :=
  5 * (r.tasks.map Task.steps).sum + r.server.rank + r.stop.rank r.notified

theorem rank_notified (place : StopTask) (notified : ℕ) :
    place.rank (notified + 1) ≤ place.rank notified + 4 := by
  cases place <;> simp only [StopTask.rank]
  case rechecking | sleeping => split_ifs <;> omega
  all_goals exact Nat.le_add_right _ _

theorem remaining_task {r : ManagementServerRuntime} {i : ℕ} {outside : Outside}
    {task task' : Task} {manager : OperationManager} {notified : ℕ}
    (htask : r.tasks[i]? = some task)
    (hadvance : task.advance uuid outside r.manager r.notified = some (manager, notified, task')) :
    remaining { r with manager, notified, tasks := r.tasks.set i task' } < remaining r := by
  have hsum := sum_map_set_add Task.steps htask task'
  have hlt := task_steps hadvance
  have hrank : r.stop.rank notified ≤ r.stop.rank r.notified + 4 := by
    rcases advance_cases hadvance with ⟨_, -, -, -, rfl⟩ | ⟨_, -, -, -, rfl⟩ | ⟨_, _, -, -, rfl, -⟩
    · exact rank_notified _ _
    · exact Nat.le_add_right _ _
    · exact Nat.le_add_right _ _
  unfold remaining
  dsimp only
  omega

/-- **Every step that does something brings the end nearer**, once the server no longer
accepts. -/
theorem remaining_next {r : ManagementServerRuntime} {action : StopAction}
    (hserver : r.server ≠ .serving) (hmoves : ManagementServerRuntime.next uuid r action ≠ r) :
    (ManagementServerRuntime.next uuid r action).server ≠ .serving ∧
      remaining (ManagementServerRuntime.next uuid r action) < remaining r := by
  cases action with
  | accept request =>
    rw [ManagementServerRuntime.next, if_neg hserver] at hmoves
    exact absurd rfl hmoves
  | task i outside =>
    rw [ManagementServerRuntime.next] at hmoves ⊢
    rcases stepTask_cases uuid r i outside with hsame |
      ⟨task, manager, notified, task', htask, hadvance, heq⟩
    · exact absurd hsame hmoves
    · rw [heq]
      exact ⟨hserver, remaining_task htask hadvance⟩
  | server =>
    rw [ManagementServerRuntime.next, ManagementServerRuntime.stepServer] at hmoves ⊢
    split at hmoves
    · next hserving => exact absurd hserving hserver
    · next hdraining =>
      split_ifs at hmoves ⊢ with hany
      · exact absurd rfl hmoves
      · refine ⟨by simp, ?_⟩
        unfold remaining
        rw [hdraining]
        exact Nat.add_lt_add_right (Nat.lt_succ_self _) _
    · exact absurd rfl hmoves
  | stop =>
    have hlower : ∀ place : StopTask, place.rank r.notified < r.stop.rank r.notified →
        remaining { r with stop := place } < remaining r :=
      fun place hlt => Nat.add_lt_add_left hlt _
    rw [ManagementServerRuntime.next, ManagementServerRuntime.stepStop] at hmoves ⊢
    split at hmoves
    · next hplace => exact ⟨hserver, hlower .joining (by rw [hplace]; simp [StopTask.rank])⟩
    · next hplace =>
      split_ifs at hmoves ⊢
      · exact ⟨hserver, hlower .looking (by rw [hplace]; simp [StopTask.rank])⟩
      · exact absurd rfl hmoves
    · next hplace =>
      refine ⟨hserver, hlower _ ?_⟩
      rw [hplace]
      split_ifs <;> simp [StopTask.rank]
    · next hplace =>
      exact ⟨hserver, hlower (.rechecking r.notified) (by rw [hplace]; simp [StopTask.rank])⟩
    · next seen hplace =>
      refine ⟨hserver, hlower _ ?_⟩
      rw [hplace]
      split_ifs <;> simp only [StopTask.rank] <;> split_ifs <;> omega
    · next seen hplace =>
      split_ifs at hmoves ⊢ with hwoken
      · exact ⟨hserver, hlower .looking (by rw [hplace]; simp [StopTask.rank, hwoken])⟩
      · exact absurd rfl hmoves
    · exact absurd rfl hmoves

/-- Who handles a request, holds the mutex or has set the flag is not at the end, unless an update
did not find its record. -/
theorem steps_ne_zero {place : RequestTask} (h : isHandling place = true ∨
    place.holdsCoordination = true ∨ place.inProgress = true ∧ ∀ id, place ≠ .lost id) :
    steps place ≠ 0 := by
  cases place <;> simp [steps] at h ⊢

/-- A task that is not at its end goes on, unless it waits for the mutex. -/
theorem exists_task_advance (uuid : ℕ → String) {manager : OperationManager} {task : Task}
    (outside : Outside) (notified : ℕ) (hsteps : steps task.place ≠ 0)
    (hfree : manager.coordination = false ∨ task.place.holdsCoordination = true) :
    ∃ next, task.advance uuid outside manager notified = some next := by
  unfold Task.advance
  split
  · exact ⟨_, rfl⟩
  · exact ⟨_, rfl⟩
  · obtain ⟨manager', after, hadvance⟩ := exists_advance uuid outside hsteps hfree
    rw [Task.place] at hadvance
    rw [hadvance]
    exact ⟨_, rfl⟩

/-- The request that holds the mutex does not wait, so that somebody goes on as long as not all are
at their end. -/
theorem exists_moving (uuid : ℕ → String) {r : ManagementServerRuntime} (hbusy : Busy r.pool)
    {place : RequestTask} (hplace : place ∈ r.pool.threads) (hsteps : steps place ≠ 0)
    (outside : Outside) :
    ∃ (i : ℕ) (task : Task) (next : OperationManager × ℕ × Task), r.tasks[i]? = some task ∧
      task.advance uuid outside r.manager r.notified = some next := by
  have hmoves : ∀ place ∈ r.pool.threads, steps place ≠ 0 →
      (r.manager.coordination = false ∨ place.holdsCoordination = true) →
      ∃ (i : ℕ) (task : Task) (next : OperationManager × ℕ × Task), r.tasks[i]? = some task ∧
        task.advance uuid outside r.manager r.notified = some next := by
    intro place hplace hsteps hfree
    obtain ⟨task, htask, rfl⟩ := List.mem_map.mp hplace
    obtain ⟨i, hi⟩ := List.mem_iff_getElem?.mp htask
    obtain ⟨next, hadvance⟩ := exists_task_advance uuid outside r.notified hsteps hfree
    exact ⟨i, task, next, hi, hadvance⟩
  rcases hheld : r.manager.coordination with _ | _
  · exact hmoves place hplace hsteps (.inl hheld)
  · have hcount := hbusy.coordination
    rw [show r.pool.shared.coordination = true from hheld] at hcount
    have hpos : 0 < r.pool.threads.countP RequestTask.holdsCoordination := by
      rw [hcount]
      exact Nat.one_pos
    obtain ⟨holder, hholder, hholds⟩ := List.countP_pos_iff.mp hpos
    exact hmoves holder hholder (steps_ne_zero (.inr (.inl hholds))) (.inr hholds)

/-- **Nobody is stuck before `stop` has returned.** -/
theorem returned_of_stuck {r : ManagementServerRuntime} (h : Inv r) (hbusy : Busy r.pool)
    (hfound : ∀ id, RequestTask.lost id ∉ r.pool.threads) (hserver : r.server ≠ .serving)
    (hstuck : ∀ action, ManagementServerRuntime.next uuid r action = r) : r.stop = .returned := by
  -- every task is at its end
  have hrest : ∀ place ∈ r.pool.threads, steps place = 0 := by
    intro place hplace
    by_contra hsteps
    obtain ⟨i, task, ⟨manager, notified, task'⟩, htask, hadvance⟩ :=
      exists_moving uuid hbusy hplace hsteps ⟨.finite 0, .ok ()⟩
    have hlt := remaining_task htask hadvance
    have hsame := hstuck (.task i ⟨.finite 0, .ok ()⟩)
    rw [ManagementServerRuntime.next, ManagementServerRuntime.stepTask, htask] at hsame
    dsimp only at hsame
    rw [hadvance] at hsame
    exact absurd (congrArg remaining hsame) hlt.ne
  have hsame : ∀ place, r.stepStop = { r with stop := place } → place = r.stop := by
    intro place hplace
    exact congrArg ManagementServerRuntime.stop (hplace.symm.trans (hstuck .stop))
  rcases hstop : r.stop with _ | _ | _ | _ | seen | seen | _
  · exact absurd hstop (h.called (.inr hserver))
  · -- the server has not ended, so that a handler is at work
    have hnot : r.server ≠ .ended := by
      intro hended
      have hjoin := hsame .looking (by
        rw [ManagementServerRuntime.stepStop, hstop]
        exact if_pos hended)
      rw [hstop] at hjoin
      cases hjoin
    have hdraining : r.server = .draining := by
      cases hphase : r.server with
      | serving => exact absurd hphase hserver
      | draining => rfl
      | ended => exact absurd hphase hnot
    have hdrain : r.stepServer = r := hstuck .server
    rw [ManagementServerRuntime.stepServer, hdraining] at hdrain
    dsimp only at hdrain
    split_ifs at hdrain with hany
    · obtain ⟨task, htask, hhandling⟩ := List.any_eq_true.mp hany
      exact absurd (hrest task.place (List.mem_map_of_mem htask)) (steps_ne_zero (.inl hhandling))
    · have hended := congrArg ManagementServerRuntime.server hdrain
      exact absurd hended.symm hnot
  · have hlook := hsame _ (by rw [ManagementServerRuntime.stepStop, hstop])
    rw [hstop] at hlook
    split_ifs at hlook
  · have hregister := hsame _ (by rw [ManagementServerRuntime.stepStop, hstop])
    rw [hstop] at hregister
    cases hregister
  · have hrecheck := hsame _ (by rw [ManagementServerRuntime.stepStop, hstop])
    rw [hstop] at hrecheck
    split_ifs at hrecheck
  · have hnot : ¬seen < r.notified := by
      intro hwoken
      have hwake := hsame .looking (by
        rw [ManagementServerRuntime.stepStop, hstop]
        exact if_pos hwoken)
      rw [hstop] at hwake
      cases hwake
    rcases h.awake seen hstop with hwoken | hactive | ⟨id, hid⟩
    · exact absurd hwoken hnot
    · -- the operation that has set the flag would go on
      have hcount := hbusy.active
      rw [show r.pool.shared.active = true from hactive] at hcount
      have hpos : 0 < r.pool.threads.countP RequestTask.inProgress := by
        rw [hcount]
        exact Nat.one_pos
      obtain ⟨place, hplace, hprogress⟩ := List.countP_pos_iff.mp hpos
      refine absurd (hrest place hplace) (steps_ne_zero (.inr (.inr ⟨hprogress, ?_⟩)))
      rintro id rfl
      exact hfound id hplace
    · have hzero := hrest _ (List.mem_map_of_mem hid)
      cases hzero
  · rfl

/-- **`stop` returns**: once the server no longer accepts, a run can take no more steps than
`remaining` says, and when no step is left `stop` has returned. -/
theorem stop_returns (uuid : ℕ → String) (actions more : List StopAction)
    (hserver : (ManagementServerRuntime.run uuid actions).server ≠ .serving)
    (hmoves : Meets (ManagementServerRuntime.next uuid)
      (fun r action => ManagementServerRuntime.next uuid r action ≠ r)
      (ManagementServerRuntime.run uuid actions) more)
    (hdistinct : Distinct uuid
      (ManagementServerRuntime.run uuid (actions ++ more)).manager.drawn) :
    let r := ManagementServerRuntime.run uuid (actions ++ more)
    more.length ≤ remaining (ManagementServerRuntime.run uuid actions) ∧
      ((∀ action, ManagementServerRuntime.next uuid r action = r) → r.stop = .returned) := by
  refine ⟨hmoves.length_le (fun _ _ => remaining_next) hserver, fun hstuck => ?_⟩
  obtain ⟨hbusy, hrecorded⟩ := busy_run uuid (actions ++ more)
  refine returned_of_stuck (inv_run _) hbusy (hrecorded hdistinct).found ?_ hstuck
  rw [ManagementServerRuntime.run, List.foldl_append]
  exact hmoves.inv (I := fun r => r.server ≠ .serving)
    (fun _ _ hserver hmove => (remaining_next hserver hmove).1) hserver

theorem stop_returns_save :
    let r := ManagementServerRuntime.run sampleUuid (stopCalled ++ stopWoken)
    stopWoken.length ≤ remaining (ManagementServerRuntime.run sampleUuid stopCalled) ∧
      ((∀ action, ManagementServerRuntime.next sampleUuid r action = r) → r.stop = .returned) :=
  stop_returns sampleUuid stopCalled stopWoken (by decide +kernel) (by decide +kernel)
    distinct_stopWoken

end FlyRuler.Management.Stopping
