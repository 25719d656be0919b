import FlyRuler.Cursor.Delivery

/-!
# What has arrived at the client

The history of what the network has delivered, newest first.  Every reset and every batch names the
epoch of the publisher, and a reset or a baseline also a revision; `announced` is what they have
named last.  Two things of the history decide what `recv` does with a late copy: what has arrived
since the announcement last changed (`sinceChange`), and what had arrived when a frame of any age
would last have been taken anew (`beforeRestart`).

* `Observed`: the world, with the history of what has arrived.
* `CursorClient.knows_recvPayload`: the client knows what has been announced.
* `Observed.took`: what an event does to the client and to the history.
-/

namespace FlyRuler.Cursor

open FlyRuler.Pb FlyRuler.Store FlyRuler.Playback FlyRuler.Transport FlyRuler.Lib.Run

/-- The batch in a payload. -/
def Payload.batch? : Payload → Option CursorEventBatch
  | .eventBatch batch => some batch
  | _ => none

/-- The frame in a payload. -/
def Payload.frame? : Payload → Option CursorFrame
  | .frame value => some value
  | _ => none

/-! ## What has been announced -/

/-- An epoch of the publisher, and a revision of its playback. -/
structure Announced where
  epoch : List UInt8 := []
  revision : Option ℕ := none
  deriving DecidableEq

/-- A reset announces its epoch and its revision; a batch its epoch, and a baseline its revision as
well.  A revision belongs to its epoch. -/
def Announced.next (known : Announced) : Payload → Announced
  | .reset reset => ⟨epochOf reset.serverEpoch, some reset.revision⟩
  | .eventBatch batch =>
    ⟨epochOf batch.serverEpoch,
      if batch.baseline then some batch.revision
      else if known.epoch = epochOf batch.serverEpoch then known.revision else none⟩
  | .frame _ => known

/-- What has been announced last. -/
def announced : List Payload → Announced
  | [] => {}
  | payload :: arrivals => (announced arrivals).next payload

/-- What has arrived since another epoch or revision has been announced, with the payload that has
announced it. -/
def sinceChange : List Payload → List Payload
  | [] => []
  | payload :: arrivals =>
    if announced (payload :: arrivals) = announced arrivals then payload :: sinceChange arrivals
    else [payload]

theorem sinceChange_cons (payload : Payload) (arrivals : List Payload) :
    sinceChange (payload :: arrivals) =
      if (announced arrivals).next payload = announced arrivals then payload :: sinceChange arrivals
      else [payload] := rfl

/-- **The frames start anew**: a reset announces another epoch or revision, or a batch another
epoch. -/
def Announced.Restarts (known : Announced) : Payload → Prop
  | .reset reset => known.next (.reset reset) ≠ known
  | .eventBatch batch => known.epoch ≠ epochOf batch.serverEpoch
  | .frame _ => False

instance (known : Announced) : (payload : Payload) → Decidable (known.Restarts payload)
  | .reset _ => by unfold Announced.Restarts; infer_instance
  | .eventBatch _ => by unfold Announced.Restarts; infer_instance
  | .frame _ => isFalse id

/-- What had arrived when the frames last started anew. -/
def beforeRestart : List Payload → List Payload
  | [] => []
  | payload :: arrivals =>
    if (announced arrivals).Restarts payload then arrivals else beforeRestart arrivals

theorem beforeRestart_cons (payload : Payload) (arrivals : List Payload) :
    beforeRestart (payload :: arrivals) =
      if (announced arrivals).Restarts payload then arrivals else beforeRestart arrivals := rfl

/-! ## What the client knows -/

namespace CursorClient

variable {client : CursorClient}

/-- What the client knows of the stream. -/
def knows (client : CursorClient) : Announced := ⟨client.streamEpoch, client.baselineRevision⟩

theorem knows_recvPendingFrame (client : CursorClient) :
    client.recvPendingFrame.1.knows = client.knows := by
  unfold recvPendingFrame
  split
  · rfl
  · dsimp only
    split_ifs <;> rfl

theorem knows_enter (client : CursorClient) (batch : CursorEventBatch) :
    (client.enter batch).knows = client.knows.next (.eventBatch batch) := by
  unfold enter enterRevision enterEpoch knows Announced.next
  dsimp only
  by_cases hepoch : client.streamEpoch = epochOf batch.serverEpoch
  · rw [if_neg (not_not.mpr hepoch), if_pos hepoch]
    split_ifs with hnew hbase hbase
    · rw [hepoch]
    · exact absurd hnew.1 hbase
    · rw [hepoch, not_not.mp fun hne => hnew ⟨hbase, hne⟩]
    · rw [hepoch]
  · rw [if_pos hepoch, if_neg hepoch]
    split_ifs with hnew hbase hbase
    · rfl
    · exact absurd hnew.1 hbase
    · exact absurd ⟨hbase, fun h => by cases h⟩ hnew
    · rfl

/-- **The client knows what a payload announces.** -/
theorem knows_recvPayload (client : CursorClient) (payload : Payload) :
    (client.recvPayload payload).1.knows = client.knows.next payload := by
  cases payload with
  | frame frame =>
    show (client.recvFrame frame).1.knows = client.knows
    unfold recvFrame
    split_ifs <;> rfl
  | eventBatch batch =>
    rw [← client.knows_enter batch]
    show (client.recvBatch batch).1.knows = _
    unfold recvBatch
    dsimp only
    split_ifs <;> rfl
  | reset reset =>
    show (client.recvReset reset).1.knows = _
    unfold recvReset
    dsimp only
    split_ifs with hknown
    · exact congrArg₂ Announced.mk hknown.1 hknown.2
    · rfl

/-- A batch that announces nothing new finds what has been applied; any other starts anew. -/
theorem enter_applied_eq (client : CursorClient) (batch : CursorEventBatch) :
    (client.enter batch).appliedEventSequence =
      if client.knows.next (.eventBatch batch) = client.knows then client.appliedEventSequence
      else 0 := by
  rw [← client.knows_enter batch]
  unfold enter enterRevision enterEpoch knows
  by_cases hepoch : client.streamEpoch = epochOf batch.serverEpoch
  · rw [if_neg (not_not.mpr hepoch)]
    split_ifs with hnew hsame hsame
    · exact absurd (congrArg Announced.revision hsame).symm hnew.2
    · rfl
    · rfl
    · exact absurd rfl hsame
  · rw [if_pos hepoch]
    split_ifs with hnew hsame hsame
    · exact absurd (congrArg Announced.epoch hsame).symm hepoch
    · rfl
    · exact absurd (congrArg Announced.epoch hsame).symm hepoch
    · rfl

/-- A reset that announces nothing new changes nothing; any other starts anew. -/
theorem recvReset_eq (client : CursorClient) (reset : CursorReset) :
    (client.knows.next (.reset reset) = client.knows ∧ client.recvReset reset = (client, none)) ∨
      (client.knows.next (.reset reset) ≠ client.knows ∧
        (client.recvReset reset).2 = some (.reset reset) ∧
        (client.recvReset reset).1.appliedEventSequence = 0 ∧
        (client.recvReset reset).1.pendingFrame = none ∧
        (client.recvReset reset).1.lastFrameSequence = 0) := by
  unfold recvReset knows Announced.next
  by_cases hknown : client.streamEpoch = epochOf reset.serverEpoch ∧
      client.baselineRevision = some reset.revision
  · left
    rw [if_pos hknown, hknown.1, hknown.2]
    exact ⟨rfl, rfl⟩
  · right
    rw [if_neg hknown]
    refine ⟨fun heq => hknown ?_, rfl, rfl, rfl, rfl⟩
    exact ⟨(congrArg Announced.epoch heq).symm, (congrArg Announced.revision heq).symm⟩

end CursorClient

/-! ## The world and its history -/

/-- The payload that arrives in an event. -/
def World.arrivesIn (a : SocketAddr) (w : World) : WorldEvent → Option Payload
  | .deliver i => w.arriving a i
  | _ => none

/-- The world, and what has arrived at the client, newest first. -/
structure Observed where
  world : World
  arrivals : List Payload := []

namespace Observed

variable (env : Env) (a : SocketAddr)

def step (o : Observed) (event : WorldEvent) : Observed :=
  ⟨o.world.step env a event, (o.world.arrivesIn a event).toList ++ o.arrivals⟩

theorem world_foldl (events : List WorldEvent) (o : Observed) :
    (events.foldl (step env a) o).world = events.foldl (World.step env a) o.world := by
  induction events generalizing o with
  | nil => rfl
  | cons event events ih => exact ih (o.step env a event)

/-- **What an event does to the client**: nothing, or the consumer calls `recv`, or a payload
arrives. -/
inductive Took (o : Observed) : WorldEvent → Observed → Prop
  | idle (event : WorldEvent) (w' : World) (hclient : w'.client = o.world.client)
      (hreturned : w'.returned = o.world.returned) : Took o event ⟨w', o.arrivals⟩
  | call : Took o .call ⟨o.world.recv o.world.client.recvPendingFrame, o.arrivals⟩
  | arrive (i : ℕ) (payload : Payload) (hp : o.world.arriving a i = some payload) :
      Took o (.deliver i)
        ⟨{ o.world.recv (o.world.client.recvPayload payload) with
            acks := o.world.acks ++ payload.ack.toList }, payload :: o.arrivals⟩

theorem took (o : Observed) (event : WorldEvent) : Took a o event (o.step env a event) := by
  have hstep := o.world.stepped env a event
  unfold step
  generalize o.world.step env a event = w' at hstep ⊢
  cases hstep with
  | same _ _ hdeliver =>
    have hnone : o.world.arrivesIn a event = none := by
      cases event with
      | deliver i => exact hdeliver i rfl
      | _ => rfl
    rw [hnone]
    exact .idle event _ rfl rfl
  | tick | session | acknowledge => exact .idle _ _ rfl rfl
  | call => exact .call
  | deliver i payload hp =>
    show Took a o _ ⟨_, (o.world.arriving a i).toList ++ o.arrivals⟩
    rw [hp]
    exact .arrive i payload hp

variable {a}

/-- **The client knows what has been announced.** -/
def Knows (o : Observed) : Prop := o.world.client.knows = announced o.arrivals

theorem Knows.step {o : Observed} (h : o.Knows) (env : Env) (a : SocketAddr) (event : WorldEvent) :
    (o.step env a event).Knows := by
  have htook := o.took env a event
  generalize o.step env a event = o' at htook ⊢
  unfold Knows at h ⊢
  cases htook with
  | idle _ w' hclient => exact (congrArg CursorClient.knows hclient).trans h
  | call => exact o.world.client.knows_recvPendingFrame.trans h
  | arrive i payload =>
    show (o.world.client.recvPayload payload).1.knows = (announced o.arrivals).next payload
    rw [o.world.client.knows_recvPayload, h]

theorem knows_of_start {w : World} (h : w.Start a) : Knows ⟨w, []⟩ := by
  unfold Knows
  rw [h.client]
  rfl

end Observed

end FlyRuler.Cursor
