import FlyRuler.Cursor.Arrivals

/-!
# When the batches are returned in order

A batch that arrives for the first time is newer than everything returned before, and it is
returned.  A copy is dropped as long as a batch not older than it has arrived and no other epoch or
revision has been announced since; a reset or a baseline of another revision, also an old one, makes
the client take every batch anew.

* `Arrived.step`: what the client has applied are the batches since the announcement last changed.
* `Arrived.inOrder_step_iff`: when one event keeps the batches in order.
* `inOrder_run_iff`: the runs in which they are returned in order.
-/

namespace FlyRuler.Cursor

open FlyRuler.Pb FlyRuler.Store FlyRuler.Playback FlyRuler.Transport FlyRuler.Lib.Run
open FlyRuler.Lib.StopAndWait

/-! ## Batches in the history -/

/-- A batch not older has arrived since the announcement last changed, and the batch does not change
it. -/
def CopyCovered (arrivals : List Payload) (batch : CursorEventBatch) : Prop :=
  (announced arrivals).next (.eventBatch batch) = announced arrivals ∧
    ∃ later ∈ (sinceChange arrivals).filterMap Payload.batch?,
      batch.eventSequence ≤ later.eventSequence

instance (arrivals : List Payload) (batch : CursorEventBatch) :
    Decidable (CopyCovered arrivals batch) := by
  unfold CopyCovered; infer_instance

namespace Observed

/-- **Every copy is covered**: when a batch arrives that has arrived before, one that is not older
has arrived, and from then on, the copy included, nothing of another epoch or revision. -/
def CopiesCovered (a : SocketAddr) (o : Observed) (event : WorldEvent) : Prop :=
  ∀ batch ∈ (o.world.arrivesIn a event).bind Payload.batch?,
    .eventBatch batch ∈ o.arrivals → CopyCovered o.arrivals batch

instance (a : SocketAddr) (o : Observed) (event : WorldEvent) :
    Decidable (o.CopiesCovered a event) := by
  unfold CopiesCovered; infer_instance

end Observed

/-! ## One call of `recv` -/

namespace CursorClient

variable {client : CursorClient}

/-- A batch announces nothing new iff it is of the epoch, and of the revision if it is a
baseline. -/
theorem next_eq_knows (client : CursorClient) (batch : CursorEventBatch) :
    client.knows.next (.eventBatch batch) = client.knows ↔
      client.streamEpoch = epochOf batch.serverEpoch ∧
        (batch.baseline → client.baselineRevision = some batch.revision) := by
  unfold knows Announced.next
  rw [Announced.mk.injEq, eq_comm (a := epochOf batch.serverEpoch)]
  refine and_congr_right fun hepoch => ?_
  dsimp only
  rw [if_pos hepoch]
  split_ifs with hbase
  · exact ⟨fun h _ => h.symm, fun h => (h hbase).symm⟩
  · exact iff_of_true rfl fun h => absurd h hbase

/-- The client has applied the batch, or one that is not older. -/
theorem recvBatch_applied (client : CursorClient) (batch : CursorEventBatch) :
    (client.recvBatch batch).1.appliedEventSequence =
      max (client.enter batch).appliedEventSequence batch.eventSequence := by
  unfold recvBatch
  by_cases h : batch.eventSequence ≤ (client.enter batch).appliedEventSequence
  · rw [max_eq_left h]
    unfold enter at h ⊢
    simp only [if_pos h]
  · rw [max_eq_right (not_le.mp h).le]
    unfold enter at h
    simp only [if_neg h]

end CursorClient

namespace World

variable {env : Env} {a : SocketAddr} {w : World} {link : Link Page}

/-- A batch that arrives is one of a page of the link. -/
theorem exists_page (h : Linked env a w link) {i : ℕ} {batch : CursorEventBatch}
    (hp : w.arriving a i = some (.eventBatch batch)) :
    ∃ page ∈ link.sent, page.batch = batch := by
  rcases h.carries.sent _ (mem_payloads_of_arriving hp) with ⟨page, hpage, hmem⟩ | ⟨frame, hframe⟩
  · refine ⟨page, hpage, ?_⟩
    unfold Page.payloads at hmem
    simpa [eq_comm] using hmem
  · cases hframe

/-- A batch that is returned for the first time is newer than all before. -/
theorem lt_of_first (h : Linked env a w link) {i : ℕ} {batch : CursorEventBatch}
    (hp : w.arriving a i = some (.eventBatch batch)) (hnew : batch ∉ w.batches) :
    ∀ b ∈ w.batches, b.eventSequence < batch.eventSequence := by
  obtain ⟨page, hpage, rfl⟩ := exists_page h hp
  have hunseen : page ∉ link.seen := fun hseen => hnew (by
    rw [← h.seen]
    exact List.mem_map_of_mem hseen)
  intro b hb
  rw [← h.seen] at hb
  obtain ⟨page', hpage', rfl⟩ := List.mem_map.mp hb
  have hlt := h.carries.sound.lt_of_new h.carries.increasing hpage hunseen page' hpage'
  have hsent := h.carries.sound.seen page' hpage'
  rw [(h.carries.labelled page (h.carries.sound.mem_log hpage)).sequence,
    (h.carries.labelled page' (h.carries.sound.mem_log hsent)).sequence]
  exact hlt

/-- A batch that arrives has been returned, then or before. -/
theorem mem_batches_of_arriving (h : Linked env a w link) {i : ℕ} {batch : CursorEventBatch}
    (hp : w.arriving a i = some (.eventBatch batch)) :
    batch ∈ (w.recv (w.client.recvBatch batch)).batches := by
  obtain ⟨page, hpage, rfl⟩ := exists_page h hp
  rw [batches_recv]
  rcases w.client.recvBatch_cases page.batch with ⟨hret, -⟩ | ⟨-, hle, -⟩
  · rw [hret]
    exact List.mem_append_right _ (List.mem_singleton_self _)
  · refine List.mem_append_left _ ?_
    rw [← h.seen]
    exact List.mem_map_of_mem (h.seen_of_kept hpage hle).1

end World

/-! ## What the history says about the client -/

namespace Observed

variable {env : Env} {a : SocketAddr} {o : Observed} {link : Link Page}

/-- **The client has applied the batches since the announcement last changed**, and has returned
those that have arrived. -/
structure Arrived (o : Observed) : Prop where
  knows : o.Knows
  applied : ∀ n, 0 < n → (n ≤ o.world.client.appliedEventSequence ↔
    ∃ batch ∈ (sinceChange o.arrivals).filterMap Payload.batch?, n ≤ batch.eventSequence)
  returned : ∀ batch, .eventBatch batch ∈ o.arrivals ↔ batch ∈ o.world.batches

/-- The client has returned the batches of the history after a payload arrives. -/
theorem Arrived.mem_cons (h : o.Arrived) (hlink : Linked env a o.world link) {i : ℕ}
    {payload : Payload} (hp : o.world.arriving a i = some payload) (batch : CursorEventBatch) :
    .eventBatch batch ∈ payload :: o.arrivals ↔
      batch ∈ (o.world.recv (o.world.client.recvPayload payload)).batches := by
  rw [List.mem_cons, h.returned]
  constructor
  · rintro (rfl | hold)
    · exact World.mem_batches_of_arriving hlink hp
    · rw [batches_recv]
      exact List.mem_append_left _ hold
  · rw [batches_recv]
    intro hmem
    refine (List.mem_append.mp hmem).symm.imp (fun hnew => ?_) id
    rcases o.world.client.recvPayload_batch? payload with hnone | ⟨b, rfl, hret⟩
    · rw [hnone] at hnew
      cases hnew
    · have hret' : (o.world.client.recvPayload (.eventBatch b)).2 = some (.eventBatch b) := hret
      rw [hret'] at hnew
      rw [List.mem_singleton.mp hnew]

/-- The client has applied the batches of the history after a payload arrives. -/
theorem Arrived.applied_cons (h : o.Arrived) (payload : Payload) {n : ℕ} (hn : 0 < n) :
    n ≤ (o.world.client.recvPayload payload).1.appliedEventSequence ↔
      ∃ batch ∈ (sinceChange (payload :: o.arrivals)).filterMap Payload.batch?,
        n ≤ batch.eventSequence := by
  have hknows : o.world.client.knows = announced o.arrivals := h.knows
  cases payload with
  | frame frame =>
    show n ≤ (o.world.client.recvFrame frame).1.appliedEventSequence ↔ _
    rw [(o.world.client.recvFrame_cases frame).1, h.applied n hn]
    rw [sinceChange_cons, if_pos (by rfl)]
    rfl
  | eventBatch batch =>
    show n ≤ (o.world.client.recvBatch batch).1.appliedEventSequence ↔ _
    rw [o.world.client.recvBatch_applied, o.world.client.enter_applied_eq, hknows, le_max_iff,
      sinceChange_cons]
    split_ifs with hsame
    · rw [h.applied n hn]
      simp [Payload.batch?, or_comm]
    · simp [Payload.batch?, hn.ne']
  | reset reset =>
    show n ≤ (o.world.client.recvReset reset).1.appliedEventSequence ↔ _
    rw [sinceChange_cons, ← hknows]
    rcases o.world.client.recvReset_eq reset with ⟨hsame, hret⟩ | ⟨hnew, -, happ, -⟩
    · rw [hret, if_pos hsame, h.applied n hn]
      rfl
    · rw [happ, if_neg hnew]
      simp [Payload.batch?, hn.ne']

/-- **Every event** keeps it so. -/
theorem Arrived.step (h : o.Arrived) (hlink : Linked env a o.world link) (event : WorldEvent) :
    (o.step env a event).Arrived := by
  have hknows := h.knows.step env a event
  have htook := o.took env a event
  generalize o.step env a event = o' at hknows htook ⊢
  cases htook with
  | idle _ w' hclient hreturned =>
    refine ⟨hknows, ?_, ?_⟩
    · rw [hclient]
      exact h.applied
    · unfold World.batches
      rw [hreturned]
      exact h.returned
  | call =>
    refine ⟨hknows, fun n hn => ?_, ?_⟩
    · show n ≤ o.world.client.recvPendingFrame.1.appliedEventSequence ↔ _
      rw [o.world.client.recvPendingFrame_cases.1]
      exact h.applied n hn
    · rw [batches_recv_of_none o.world.client.recvPendingFrame_batch?]
      exact h.returned
  | arrive i payload hp =>
    exact ⟨hknows, fun n hn => h.applied_cons payload hn, h.mem_cons hlink hp⟩

/-- **A copy is dropped iff it is covered.** -/
theorem Arrived.windowClosed_iff (h : o.Arrived) {batch : CursorEventBatch}
    (hpos : 0 < batch.eventSequence) :
    o.world.client.WindowClosed batch ↔ CopyCovered o.arrivals batch := by
  have hknows : o.world.client.knows = announced o.arrivals := h.knows
  unfold CursorClient.WindowClosed CopyCovered
  rw [← h.applied _ hpos, ← hknows, o.world.client.next_eq_knows, and_assoc]

end Observed

/-! ## The order -/

namespace World

variable {env : Env} {a : SocketAddr} {w : World} {link : Link Page}

theorem inOrder_of_batches (horder : w.InOrder) {w' : World} (hsame : w'.batches = w.batches) :
    w'.InOrder := by
  unfold InOrder
  rw [hsame]
  exact horder

theorem inOrder_append (horder : w.InOrder) {w' : World} {batch : CursorEventBatch}
    (hnew : w'.batches = w.batches ++ [batch]) :
    w'.InOrder ↔ ∀ b ∈ w.batches, b.eventSequence < batch.eventSequence := by
  unfold InOrder at horder ⊢
  rw [hnew, List.map_append, List.pairwise_append]
  simp [horder]

/-- The batches returned, when a batch arrives. -/
theorem batches_deliver (env : Env) {i : ℕ} {batch : CursorEventBatch}
    (hp : w.arriving a i = some (.eventBatch batch)) :
    (w.step env a (.deliver i)).batches =
      w.batches ++ ((w.client.recvBatch batch).2.bind CursorClientEvent.batch?).toList := by
  unfold step
  dsimp only
  rw [hp]
  exact batches_recv w (w.client.recvBatch batch)

/-- Nothing but a batch that arrives adds a batch. -/
theorem batches_step_of_none {event : WorldEvent}
    (h : (w.arrivesIn a event).bind Payload.batch? = none) :
    (w.step env a event).batches = w.batches := by
  have hstep := w.stepped env a event
  generalize w.step env a event = w' at hstep ⊢
  cases hstep with
  | same | tick | session | acknowledge => rfl
  | call => exact batches_recv_of_none w.client.recvPendingFrame_batch?
  | deliver i payload hp =>
    rcases w.client.recvPayload_batch? payload with hnone | ⟨batch, rfl, -⟩
    · exact batches_recv_of_none hnone
    · change (w.arriving a i).bind Payload.batch? = none at h
      rw [hp] at h
      cases h

end World

namespace Observed

variable {env : Env} {a : SocketAddr} {o : Observed} {link : Link Page}

/-- **One event keeps the batches in order iff a copy that arrives is covered.** -/
theorem Arrived.inOrder_step_iff (h : o.Arrived) (horder : o.world.InOrder)
    (hlink : Linked env a o.world link) (event : WorldEvent) :
    (o.world.step env a event).InOrder ↔ o.CopiesCovered a event := by
  unfold CopiesCovered
  rcases hbatch : (o.world.arrivesIn a event).bind Payload.batch? with _ | batch
  · exact iff_of_true (World.inOrder_of_batches horder (World.batches_step_of_none hbatch))
      fun _ hmem => by cases hmem
  obtain ⟨payload, hp, hpayload⟩ := Option.bind_eq_some_iff.mp hbatch
  obtain ⟨i, rfl⟩ : ∃ i, event = .deliver i := by
    cases event with
    | deliver i => exact ⟨i, rfl⟩
    | _ => cases hp
  obtain rfl : payload = .eventBatch batch := by
    cases payload with
    | eventBatch b => exact congrArg _ (Option.some.inj hpayload)
    | frame | reset => cases hpayload
  change o.world.arriving a i = some (.eventBatch batch) at hp
  simp only [Option.mem_def, Option.some.injEq, forall_eq']
  have hstep := World.batches_deliver env hp
  by_cases hcopy : .eventBatch batch ∈ o.arrivals
  · -- a copy: it is dropped, or returned a second time
    obtain ⟨page, hpage, rfl⟩ := World.exists_page hlink hp
    have hlabel := hlink.carries.labelled page (hlink.carries.sound.mem_log hpage)
    rw [imp_iff_right hcopy, ← h.windowClosed_iff (hlabel.sequence ▸ hlabel.pos)]
    by_cases hclosed : o.world.client.WindowClosed page.batch
    · rw [CursorClient.recvBatch_closed hclosed] at hstep
      exact iff_of_true
        (World.inOrder_of_batches horder (hstep.trans (List.append_nil _))) hclosed
    · rw [CursorClient.recvBatch_open hclosed (hlabel.sequence ▸ hlabel.pos)] at hstep
      refine iff_of_false (fun hafter => ?_) hclosed
      exact absurd ((World.inOrder_append horder hstep).mp hafter _ ((h.returned _).mp hcopy))
        (lt_irrefl _)
  · -- the first copy: newer than everything returned before
    refine iff_of_true ?_ fun hmem => absurd hmem hcopy
    rcases o.world.client.recvBatch_cases batch with ⟨hret, -⟩ | ⟨hret, -⟩
    · rw [hret] at hstep
      exact (World.inOrder_append horder hstep).mpr
        (World.lt_of_first hlink hp fun hmem => hcopy ((h.returned batch).mpr hmem))
    · rw [hret] at hstep
      exact World.inOrder_of_batches horder (hstep.trans (List.append_nil _))

theorem arrived_of_start {w : World} (hstart : w.Start a) : Arrived ⟨w, []⟩ where
  knows := knows_of_start hstart
  applied n hn := by
    rw [hstart.client]
    exact iff_of_false (by simpa using hn.ne') (by simp [sinceChange])
  returned batch := by
    unfold World.batches
    rw [hstart.returned]
    exact iff_of_false List.not_mem_nil List.not_mem_nil

end Observed

/-! ## Whole runs -/

namespace World

variable {env : Env} {a : SocketAddr} {w : World}

/-- What every prefix of a run keeps: the link, and what the history says about the client. -/
theorem arrived_run (hstart : w.Start a) {events : List WorldEvent}
    (hwrap : Meets (step env a) (NoWrap a) w events) {pre : List WorldEvent}
    (hpre : pre <+: events) :
    (∃ link, Linked env a (pre.foldl (step env a) w) link) ∧
      (pre.foldl (Observed.step env a) ⟨w, []⟩).Arrived := by
  induction pre using List.reverseRecOn with
  | nil => exact ⟨⟨_, hstart.linked⟩, Observed.arrived_of_start hstart⟩
  | append_singleton pre event ih =>
    obtain ⟨⟨link, hlink⟩, harrived⟩ := ih ((List.prefix_append pre [event]).trans hpre)
    have hlink' : Linked env a (pre.foldl (Observed.step env a) ⟨w, []⟩).world link := by
      rw [Observed.world_foldl]
      exact hlink
    rw [List.foldl_concat, List.foldl_concat]
    exact ⟨hlink.step (meets_iff.mp hwrap pre event hpre), harrived.step hlink' event⟩

/-- **The batches are returned in strictly increasing order exactly in the runs in which every copy
is covered**, for every run from a new subscription in which no sequence wraps around. -/
theorem inOrder_run_iff (hstart : w.Start a) (events : List WorldEvent)
    (hwrap : Meets (step env a) (NoWrap a) w events) :
    (∀ pre, pre <+: events → (pre.foldl (step env a) w).InOrder) ↔
      Meets (Observed.step env a) (Observed.CopiesCovered a) ⟨w, []⟩ events := by
  have hstep : ∀ pre event, pre ++ [event] <+: events → (pre.foldl (step env a) w).InOrder →
      (((pre ++ [event]).foldl (step env a) w).InOrder ↔
        (pre.foldl (Observed.step env a) ⟨w, []⟩).CopiesCovered a event) := by
    intro pre event hpre horder
    obtain ⟨⟨link, hlink⟩, harrived⟩ :=
      arrived_run hstart hwrap ((List.prefix_append pre [event]).trans hpre)
    have hworld := Observed.world_foldl env a pre ⟨w, []⟩
    rw [List.foldl_concat]
    rw [← hworld] at horder hlink ⊢
    exact harrived.inOrder_step_iff horder hlink event
  constructor
  · intro h
    refine meets_iff.mpr fun pre event hpre => ?_
    exact (hstep pre event hpre (h pre ((List.prefix_append pre [event]).trans hpre))).mp
      (h _ hpre)
  · intro h pre
    induction pre using List.reverseRecOn with
    | nil =>
      intro _
      show w.InOrder
      unfold InOrder batches
      rw [hstart.returned]
      exact List.Pairwise.nil
    | append_singleton pre event ih =>
      intro hpre
      exact (hstep pre event hpre (ih ((List.prefix_append pre [event]).trans hpre))).mpr
        (meets_iff.mp h pre event hpre)

/-- A client subscribes and receives its baseline, twice, and the publisher its acknowledgement. -/
def baselineRun : List WorldEvent :=
  [.tick {} ⟨emptySnapshot 1, 0, 0, .plain⟩, .call, .deliver 0, .call, .deliver 1, .call,
    .deliver 1,
    .acknowledge 0, .tick {} ⟨emptySnapshot 1, 1, 1, .plain⟩,
    .tick {} ⟨emptySnapshot 2, 2, 2, .plain⟩]

/-- The reset and the batch of the second revision arrive, and a copy of the batch. -/
def copiesRun : List WorldEvent :=
  baselineRun ++ [.deliver 4, .call, .deliver 5, .call, .deliver 5]

theorem inOrder_run_iff_copies :
    (copiesRun.foldl (step Env.small 1) (connected 1 0 "u" 30)).InOrder :=
  (inOrder_run_iff (start_connected 1 0 "u" 30) copiesRun (by decide +kernel)).mpr
    (by decide +kernel) copiesRun (List.prefix_refl _)

/-- The same, and then a copy of the first baseline. -/
def lateCopyRun : List WorldEvent :=
  baselineRun ++ [.deliver 4, .call, .deliver 5, .call, .deliver 1]

/-- **A late copy of an older baseline** is returned a second time. -/
theorem inOrder_late_copy : (connected 1 0 "u" 30).Start 1 ∧
    ¬(lateCopyRun.foldl (step Env.small 1) (connected 1 0 "u" 30)).InOrder :=
  ⟨start_connected 1 0 "u" 30, by decide +kernel⟩

end World

end FlyRuler.Cursor
