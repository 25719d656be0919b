import FlyRuler.Cursor.Arrivals

/-!
# When the frames are returned in order

`recv` drops a frame that is not newer than the last one it has returned.  A reset, and the first
batch of an epoch, make the client forget which one that was.  A late copy of an older frame is then
returned again, if the client has its events.  So the frames are returned in order in every run in
which no frame comes late across such a restart.

* `Remembered`: the frames returned, and the last one the client knows of.
* `FramesArrived.step`: every event in which no frame comes late keeps that.
* `framesInOrder_run`: and so the frames are returned in order.
-/

namespace FlyRuler.Cursor

open FlyRuler.Pb FlyRuler.Store FlyRuler.Playback FlyRuler.Transport FlyRuler.Lib.Run

/-- The frame in an item. -/
def CursorClientEvent.frame? : CursorClientEvent → Option CursorFrame
  | .frame value => some value
  | _ => none

/-! ## One call of `recv` -/

namespace CursorClient

variable {client : CursorClient}

/-- The frame is newer than the last one the client remembers, and the client has its events. -/
def takes (client : CursorClient) (frame : CursorFrame) : Bool :=
  decide (client.lastFrameSequence < frame.frameSequence) && client.reaches frame

/-- What `recv` does with a frame that it looks at: it takes it or not. -/
structure Looked (client : CursorClient) (frame : CursorFrame)
    (result : CursorClient × Option CursorClientEvent) : Prop where
  returned : result.2 = if client.takes frame then some (.frame frame) else none
  last : result.1.lastFrameSequence =
    if client.takes frame then frame.frameSequence else client.lastFrameSequence

theorem looked_recvFrame (client : CursorClient) (frame : CursorFrame) :
    client.Looked frame (client.recvFrame frame) := by
  unfold recvFrame
  split_ifs with hold hreach hreplace
  · have htakes : client.takes frame = false := by simp [takes, not_lt.mpr hold]
    exact ⟨by rw [htakes]; rfl, by rw [htakes]; rfl⟩
  · have htakes : client.takes frame = true := by simp [takes, not_le.mp hold, hreach]
    exact ⟨by rw [htakes]; rfl, by rw [htakes]; rfl⟩
  · have htakes : client.takes frame = false := by simp [takes, hreach]
    exact ⟨by rw [htakes]; rfl, by rw [htakes]; rfl⟩
  · have htakes : client.takes frame = false := by simp [takes, hreach]
    exact ⟨by rw [htakes]; rfl, by rw [htakes]; rfl⟩

theorem looked_recvPendingFrame {frame : CursorFrame} (h : client.pendingFrame = some frame) :
    client.Looked frame client.recvPendingFrame := by
  unfold recvPendingFrame
  rw [h]
  dsimp only
  split_ifs with hreach hnew
  · have htakes : client.takes frame = true := by simp [takes, hnew, hreach]
    exact ⟨by rw [htakes]; rfl, by rw [htakes]; rfl⟩
  · have htakes : client.takes frame = false := by simp [takes, hnew]
    exact ⟨by rw [htakes]; rfl, by rw [htakes]; rfl⟩
  · have htakes : client.takes frame = false := by simp [takes, hreach]
    exact ⟨by rw [htakes]; rfl, by rw [htakes]; rfl⟩

/-- **A batch or a reset** returns no frame; it keeps the last one, or the frames start anew. -/
theorem recvPayload_restarts {payload : Payload} (hnone : payload.frame? = none) :
    (client.recvPayload payload).2.bind CursorClientEvent.frame? = none ∧
      (client.knows.Restarts payload → (client.recvPayload payload).1.pendingFrame = none) ∧
      (¬client.knows.Restarts payload →
        (client.recvPayload payload).1.lastFrameSequence = client.lastFrameSequence) := by
  cases payload with
  | frame frame => cases hnone
  | eventBatch batch =>
    refine ⟨?_, fun hanew => ?_, fun hkept => ?_⟩
    · show (client.recvBatch batch).2.bind CursorClientEvent.frame? = none
      rcases client.recvBatch_cases batch with ⟨h, -⟩ | ⟨h, -⟩ <;> rw [h] <;> rfl
    · have hepoch : client.streamEpoch ≠ epochOf batch.serverEpoch := hanew
      show (client.recvBatch batch).1.pendingFrame = none
      rw [(client.recvBatch_kept batch).2]
      unfold enter enterEpoch enterRevision
      rw [if_pos hepoch]
      split_ifs <;> rfl
    · have hepoch : client.streamEpoch = epochOf batch.serverEpoch := not_not.mp hkept
      show (client.recvBatch batch).1.lastFrameSequence = client.lastFrameSequence
      unfold recvBatch enterEpoch enterRevision
      rw [if_neg (not_not.mpr hepoch)]
      dsimp only
      split_ifs <;> rfl
  | reset reset =>
    show (client.recvReset reset).2.bind CursorClientEvent.frame? = none ∧
      (client.knows.Restarts (.reset reset) → (client.recvReset reset).1.pendingFrame = none) ∧
      (¬client.knows.Restarts (.reset reset) →
        (client.recvReset reset).1.lastFrameSequence = client.lastFrameSequence)
    rcases client.recvReset_eq reset with ⟨hsame, hret⟩ | ⟨hnew, hret, -, hpending, -⟩
    · rw [hret]
      exact ⟨rfl, fun hanew => absurd hsame hanew, fun _ => rfl⟩
    · rw [hret]
      exact ⟨rfl, fun _ => hpending, fun hkept => absurd hnew hkept⟩

end CursorClient

/-! ## The frames returned -/

/-- The frame is newer than all that had arrived when the frames last started anew. -/
def Fresh (arrivals : List Payload) (frame : CursorFrame) : Prop :=
  ∀ earlier ∈ (beforeRestart arrivals).filterMap Payload.frame?,
    earlier.frameSequence < frame.frameSequence

instance (arrivals : List Payload) (frame : CursorFrame) : Decidable (Fresh arrivals frame) := by
  unfold Fresh; infer_instance

/-- **The frames returned are in order**; they have arrived, and those that had not when the frames
last started anew are not newer than the last one. -/
structure Remembered (frames : List CursorFrame) (last : ℕ) (arrivals : List Payload) : Prop where
  order : (frames.map CursorFrame.frameSequence).Pairwise (· < ·)
  arrived : ∀ frame ∈ frames, .frame frame ∈ arrivals
  last : ∀ frame ∈ frames, .frame frame ∈ beforeRestart arrivals ∨ frame.frameSequence ≤ last

section Remembered
variable {frames : List CursorFrame} {last : ℕ} {arrivals : List Payload} {payload : Payload}
  {frame : CursorFrame}

theorem Fresh.lt (h : Fresh arrivals frame) {earlier : CursorFrame}
    (hmem : .frame earlier ∈ beforeRestart arrivals) :
    earlier.frameSequence < frame.frameSequence :=
  h earlier (List.mem_filterMap.mpr ⟨_, hmem, rfl⟩)

/-- A newer frame that is fresh is returned in order. -/
theorem Remembered.take (h : Remembered frames last arrivals) (hmem : .frame frame ∈ arrivals)
    (hfresh : Fresh arrivals frame) (hnew : last < frame.frameSequence) :
    Remembered (frames ++ [frame]) frame.frameSequence arrivals := by
  have hlt : ∀ f ∈ frames, f.frameSequence < frame.frameSequence := fun f hf =>
    (h.last f hf).elim hfresh.lt fun hle => hle.trans_lt hnew
  refine ⟨?_, fun f hf => ?_, fun f hf => Or.inr ?_⟩
  · rw [List.map_append, List.pairwise_append]
    exact ⟨h.order, List.pairwise_singleton _ _, by simpa using hlt⟩
  · rcases List.mem_append.mp hf with hold | hlast
    · exact h.arrived f hold
    · rw [List.mem_singleton.mp hlast]
      exact hmem
  · rcases List.mem_append.mp hf with hold | hlast
    · exact (hlt f hold).le
    · rw [List.mem_singleton.mp hlast]

/-- What `recv` does with a fresh frame that it looks at. -/
theorem Remembered.look {client : CursorClient}
    (h : Remembered frames client.lastFrameSequence arrivals) (hmem : .frame frame ∈ arrivals)
    (hfresh : Fresh arrivals frame) {result : CursorClient × Option CursorClientEvent}
    (hlook : client.Looked frame result) :
    Remembered (frames ++ (result.2.bind CursorClientEvent.frame?).toList)
      result.1.lastFrameSequence arrivals := by
  rw [hlook.returned, hlook.last]
  split_ifs with htakes
  · unfold CursorClient.takes at htakes
    simp only [Bool.and_eq_true, decide_eq_true_eq] at htakes
    exact h.take hmem hfresh htakes.1
  · rw [Option.bind_none, Option.toList_none, List.append_nil]
    exact h

/-- The frames start anew: those returned had arrived. -/
theorem Remembered.restart (h : Remembered frames last arrivals)
    (hanew : (announced arrivals).Restarts payload) (last' : ℕ) :
    Remembered frames last' (payload :: arrivals) where
  order := h.order
  arrived f hf := List.mem_cons_of_mem payload (h.arrived f hf)
  last f hf := by
    rw [beforeRestart_cons, if_pos hanew]
    exact Or.inl (h.arrived f hf)

theorem Remembered.cons (h : Remembered frames last arrivals)
    (hkept : ¬(announced arrivals).Restarts payload) :
    Remembered frames last (payload :: arrivals) where
  order := h.order
  arrived f hf := List.mem_cons_of_mem payload (h.arrived f hf)
  last := by
    rw [beforeRestart_cons, if_neg hkept]
    exact h.last

theorem Fresh.cons (h : Fresh arrivals frame) (hkept : ¬(announced arrivals).Restarts payload) :
    Fresh (payload :: arrivals) frame := by
  unfold Fresh
  rw [beforeRestart_cons, if_neg hkept]
  exact h

end Remembered

/-! ## One event -/

namespace World

/-- The frames that `recv` has returned. -/
def frames (w : World) : List CursorFrame := w.returned.filterMap CursorClientEvent.frame?

/-- **The frames are returned in strictly increasing order** of their sequences. -/
def FramesInOrder (w : World) : Prop :=
  (w.frames.map CursorFrame.frameSequence).Pairwise (· < ·)

instance (w : World) : Decidable w.FramesInOrder := by unfold FramesInOrder; infer_instance

theorem frames_recv (w : World) (result : CursorClient × Option CursorClientEvent) :
    (w.recv result).frames = w.frames ++ (result.2.bind CursorClientEvent.frame?).toList := by
  unfold frames recv
  rw [List.filterMap_append]
  congr 1
  rcases result.2 with _ | event
  · rfl
  · rcases hframe : event.frame? with _ | frame <;> simp [hframe]

end World

namespace Observed

/-- **No frame comes late**: a frame that arrives is newer than every frame that had arrived when
the frames last started anew. -/
def NoneLate (a : SocketAddr) (o : Observed) (event : WorldEvent) : Prop :=
  ∀ frame ∈ (o.world.arrivesIn a event).bind Payload.frame?, Fresh o.arrivals frame

instance (a : SocketAddr) (o : Observed) (event : WorldEvent) :
    Decidable (o.NoneLate a event) := by
  unfold NoneLate; infer_instance

variable {env : Env} {a : SocketAddr} {o : Observed}

/-- **The frames returned are remembered**, and the frame that waits is fresh. -/
structure FramesArrived (o : Observed) : Prop where
  knows : o.Knows
  frames : Remembered o.world.frames o.world.client.lastFrameSequence o.arrivals
  pending : ∀ frame ∈ o.world.client.pendingFrame,
    .frame frame ∈ o.arrivals ∧ Fresh o.arrivals frame

/-- The consumer calls `recv`. -/
theorem FramesArrived.call (h : o.FramesArrived) :
    Remembered (o.world.recv o.world.client.recvPendingFrame).frames
      o.world.client.recvPendingFrame.1.lastFrameSequence o.arrivals := by
  rw [World.frames_recv]
  rcases hp : o.world.client.pendingFrame with _ | frame
  · have hsame : o.world.client.recvPendingFrame = (o.world.client, none) := by
      unfold CursorClient.recvPendingFrame
      rw [hp]
    rw [hsame, Option.bind_none, Option.toList_none, List.append_nil]
    exact h.frames
  · obtain ⟨hmem, hfresh⟩ := h.pending frame hp
    exact h.frames.look hmem hfresh (CursorClient.looked_recvPendingFrame hp)

/-- A payload arrives. -/
theorem FramesArrived.arrive (h : o.FramesArrived) (payload : Payload)
    (hfresh : ∀ frame ∈ payload.frame?, Fresh o.arrivals frame) :
    Remembered (o.world.recv (o.world.client.recvPayload payload)).frames
        (o.world.client.recvPayload payload).1.lastFrameSequence (payload :: o.arrivals) ∧
      ∀ frame ∈ (o.world.client.recvPayload payload).1.pendingFrame,
        .frame frame ∈ payload :: o.arrivals ∧ Fresh (payload :: o.arrivals) frame := by
  have hknows : o.world.client.knows = announced o.arrivals := h.knows
  have hpending := o.world.client.recvPayload_pendingFrame payload
  rw [World.frames_recv]
  cases hframe : payload.frame? with
  | some frame =>
    obtain rfl : payload = .frame frame := by
      cases payload with
      | frame f => exact congrArg _ (Option.some.inj hframe)
      | eventBatch | reset => cases hframe
    have hkept : ¬(announced o.arrivals).Restarts (.frame frame) := id
    have hfresh' := (hfresh frame rfl).cons hkept
    refine ⟨(h.frames.cons hkept).look List.mem_cons_self hfresh'
      (o.world.client.looked_recvFrame frame), fun f hf => ?_⟩
    rcases hpending f hf with hold | hnew
    · obtain ⟨hmem, hold⟩ := h.pending f hold
      exact ⟨List.mem_cons_of_mem _ hmem, hold.cons hkept⟩
    · rw [← Payload.frame.inj hnew]
      exact ⟨List.mem_cons_self, hfresh'⟩
  | none =>
    obtain ⟨hret, hanew, hkept⟩ := o.world.client.recvPayload_restarts hframe
    rw [hret, Option.toList_none, List.append_nil]
    rw [hknows] at hanew hkept
    by_cases hrestart : (announced o.arrivals).Restarts payload
    · refine ⟨h.frames.restart hrestart _, fun f hf => ?_⟩
      rw [hanew hrestart] at hf
      cases hf
    · rw [hkept hrestart]
      refine ⟨h.frames.cons hrestart, fun f hf => ?_⟩
      rcases hpending f hf with hold | rfl
      · obtain ⟨hmem, hold⟩ := h.pending f hold
        exact ⟨List.mem_cons_of_mem _ hmem, hold.cons hrestart⟩
      · cases hframe

/-- **Every event in which no frame comes late** keeps the frames remembered. -/
theorem FramesArrived.step (h : o.FramesArrived) {event : WorldEvent} (hok : o.NoneLate a event) :
    (o.step env a event).FramesArrived := by
  have hknows := h.knows.step env a event
  have htook := o.took env a event
  generalize o.step env a event = o' at hknows htook ⊢
  cases htook with
  | idle _ w' hclient hreturned =>
    have hframes : w'.frames = o.world.frames := by
      unfold World.frames
      rw [hreturned]
    refine ⟨hknows, ?_, ?_⟩
    · rw [hclient, hframes]
      exact h.frames
    · rw [hclient]
      exact h.pending
  | call =>
    refine ⟨hknows, h.call, fun frame hframe => h.pending frame ?_⟩
    rcases o.world.client.recvPendingFrame_cases.2.2.1 with hsame | hnone
    · exact hsame ▸ hframe
    · change frame ∈ o.world.client.recvPendingFrame.1.pendingFrame at hframe
      rw [hnone] at hframe
      cases hframe
  | arrive i payload hp =>
    obtain ⟨hframes, hpending⟩ := h.arrive payload fun frame hframe => by
      refine hok frame ?_
      show frame ∈ (o.world.arriving a i).bind Payload.frame?
      rw [hp]
      exact hframe
    exact ⟨hknows, hframes, hpending⟩

theorem framesArrived_of_start {w : World} (hstart : w.Start a) : FramesArrived ⟨w, []⟩ where
  knows := knows_of_start hstart
  frames := by
    unfold World.frames
    rw [hstart.returned]
    exact ⟨List.Pairwise.nil, by simp, by simp⟩
  pending frame hframe := by
    rw [hstart.client] at hframe
    cases hframe

end Observed

/-! ## Whole runs -/

namespace World

variable {env : Env} {a : SocketAddr} {w : World}

/-- **The frames are returned in strictly increasing order in every run in which no frame comes
late**: every frame that arrives is newer than all that had arrived when the last reset of another
revision did. -/
theorem framesInOrder_run (hstart : w.Start a) (events : List WorldEvent)
    (h : Meets (Observed.step env a) (Observed.NoneLate a) ⟨w, []⟩ events) :
    ∀ pre, pre <+: events → (pre.foldl (step env a) w).FramesInOrder := by
  intro pre hpre
  have harrived := h.inv_prefix (I := Observed.FramesArrived) (fun _ _ harr hok => harr.step hok)
    (Observed.framesArrived_of_start hstart) hpre
  have horder := harrived.frames.order
  rw [Observed.world_foldl] at horder
  exact horder

/-- The client receives its baseline and a frame, and the baseline of the next revision. -/
def secondBaselineRun : List WorldEvent :=
  [.tick {} ⟨emptySnapshot 1, 0, 0, .plain⟩, .call, .deliver 0, .call, .deliver 1, .call,
    .deliver 2,
    .acknowledge 0, .tick {} ⟨emptySnapshot 2, 1, 1, .plain⟩, .call, .deliver 3, .call, .deliver 4]

/-- Then comes the frame of the next revision, twice. -/
def twoRevisionsRun : List WorldEvent :=
  secondBaselineRun ++ [.call, .deliver 5, .call, .deliver 5]

theorem framesInOrder_run_twoRevisions :
    (twoRevisionsRun.foldl (step Env.small 1) (connected 1 0 "u" 30)).FramesInOrder :=
  framesInOrder_run (start_connected 1 0 "u" 30) twoRevisionsRun (by decide +kernel)
    twoRevisionsRun (List.prefix_refl _)

/-- The old frame comes again before the frame of the next revision. -/
def lateFrameRun : List WorldEvent := secondBaselineRun ++ [.call, .deliver 2]

/-- **A late copy of a frame of the old revision** is returned a second time. -/
theorem framesInOrder_late_frame : (connected 1 0 "u" 30).Start 1 ∧
    ¬(lateFrameRun.foldl (step Env.small 1) (connected 1 0 "u" 30)).FramesInOrder :=
  ⟨start_connected 1 0 "u" 30, by decide +kernel⟩

end World

end FlyRuler.Cursor
