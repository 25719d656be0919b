import FlyRuler.Cursor.Delivery

/-!
# When a frame comes after its events

A frame names the last batch that was in the queue when it was assembled, and the client holds it
back until it has applied that batch.  So whatever the publisher had queued is returned before the
frame (`FrameInv.returned`).  Whether the baseline of the frame's revision is among it is another
matter: while pages of an older revision are waiting, the baseline of the new one is not queued.

* `HasBaseline`: a complete baseline of a revision is in the log.
* `Grounded.advance`: the revision a subscriber has completed, and those in its queue, have one.
* `frameConsistent_run`: frames come after their baselines if they are only sent when there is one.
-/

namespace FlyRuler.Cursor

open FlyRuler.Pb FlyRuler.Store FlyRuler.Playback FlyRuler.Transport FlyRuler.Lib.Run
open FlyRuler.Lib.StopAndWait

/-! ## Baselines in the log -/

/-- A complete baseline of the revision stands in the log. -/
def HasBaseline (log : List Page) (revision : ℕ) : Prop :=
  ∃ pages, pages <:+: log ∧ IsBaseline revision pages

variable {env : Env} {store : TimeSeriesStore} {t : Tick} {a : SocketAddr}
  {st st' : SubscriberState} {log : List Page}

theorem HasBaseline.append {revision : ℕ} (h : HasBaseline log revision) (pages : List Page) :
    HasBaseline (log ++ pages) revision := by
  obtain ⟨base, hinfix, hbase⟩ := h
  exact ⟨base, hinfix.trans (List.prefix_append _ _).isInfix, hbase⟩

theorem HasBaseline.exists_page {revision : ℕ} (h : HasBaseline log revision) :
    ∃ page ∈ log, page.batch.revision = revision := by
  obtain ⟨base, hinfix, hbase⟩ := h
  obtain ⟨page, hpage, -⟩ := hbase.first
  have hmem := List.mem_of_mem_head? hpage
  exact ⟨page, hinfix.subset hmem, hbase.revision page hmem⟩

/-- **The subscriber is grounded**: the revision it has completed, and every revision in its queue,
has a baseline in the log. -/
structure Grounded (st : SubscriberState) (log : List Page) : Prop where
  last : ∀ revision ∈ st.lastRevision, HasBaseline log revision
  queue : ∀ page ∈ st.queue, HasBaseline log page.revision

theorem Grounded.completeFront (h : Grounded st log) (ack : ℕ) :
    Grounded (st.completeFront ack) log := by
  rcases completeFront_cases st ack with ⟨hsame, -⟩ | ⟨front, rest, hp, -, hnew⟩
  · rw [hsame]
    exact h
  · have hq : st.queue = front.toPage :: rest.map (·.toPage) := by
      unfold SubscriberState.queue
      rw [hp, List.map_cons]
    rw [hnew]
    refine ⟨fun revision hrev => ?_, fun page hpage => ?_⟩
    · dsimp only at hrev
      split_ifs at hrev
      · rw [← Option.some.inj hrev]
        exact h.queue front.toPage (by simp [hq])
      · exact h.last revision hrev
    · exact h.queue page (by rw [hq]; exact List.mem_cons_of_mem _ hpage)

theorem needsBaseline_of_ne {snapshot : PlaybackSnapshot}
    (h : st.lastRevision ≠ some snapshot.revision) : st.needsBaseline snapshot := by
  unfold SubscriberState.needsBaseline
  simp [h]

/-- **A turn keeps the subscriber grounded.** -/
theorem Grounded.advance (h : Grounded st log) {ack : ℕ}
    (hseq : (st.completeFront ack).SequencesFit store t) :
    Grounded (st.advance env store t ack) (log ++ st.newPages env store t ack) := by
  have hfront := h.completeFront ack
  unfold SubscriberState.newPages SubscriberState.advance
  generalize st.completeFront ack = st₁ at hseq hfront ⊢
  rcases refill_cases env hseq with ⟨hp, hsame⟩ | ⟨hp, hpages, -, hq, -, hrev, -⟩ |
    ⟨hp, -, -, m, -, hsame⟩ | ⟨hp, hpages, hsame⟩
  · rw [hsame, if_neg (by simpa using hp), List.append_nil]
    exact hfront
  · rw [if_pos (List.isEmpty_iff.mpr hp)]
    refine ⟨fun revision hrev' => ?_, fun page hpage => ?_⟩
    · rw [hrev] at hrev'
      exact (hfront.last revision hrev').append _
    · rw [hq] at hpage
      have hpage' : page.revision = t.snapshot.revision := by
        obtain ⟨i, -, rfl⟩ := List.mem_map.mp hpage
        rfl
      rw [hpage', hq]
      by_cases hlast : st₁.lastRevision = some t.snapshot.revision
      · exact (hfront.last _ hlast).append _
      · -- the new pages are a baseline
        exact ⟨_, (List.suffix_append _ _).isInfix,
          isBaseline_pages (r := st₁.refillOf store t) (needsBaseline_of_ne hlast) _⟩
  · rw [if_pos (List.isEmpty_iff.mpr hp), hsame]
    refine ⟨fun revision hrev => (hfront.last revision hrev).append _, fun page hpage => ?_⟩
    exact (hfront.queue page hpage).append _
  · rw [if_pos (List.isEmpty_iff.mpr hp), hsame]
    refine ⟨fun revision hrev => ?_, fun page hpage => (hfront.queue page hpage).append _⟩
    have hbase : st₁.needsBaseline t.snapshot = false := by
      unfold Refill.hasPages SubscriberState.refillOf at hpages
      simpa using (Bool.or_eq_false_iff.mp hpages).1
    have hlast : st₁.lastRevision = some t.snapshot.revision := by
      by_contra hne
      rw [needsBaseline_of_ne hne] at hbase
      cases hbase
    rw [Option.mem_def] at hrev
    exact (hfront.last revision (by rw [Option.mem_def, hlast, ← hrev])).append _

theorem Grounded.of_sameQueue (h : Grounded st log) (hsame : st.SameQueue st') :
    Grounded st' log := by
  refine ⟨fun revision hrev => ?_, fun page hpage => ?_⟩
  · rw [hsame.lastRevision] at hrev
    exact h.last revision hrev
  · rw [hsame.queue] at hpage
    exact h.queue page hpage

theorem grounded_empty (log : List Page) : Grounded {} log where
  last _ h := by cases h
  queue _ h := by cases h

/-- The snapshot's revision is the one the subscriber has completed, or one in its queue, or the
queue is empty and can be filled. -/
def Covers (env : Env) (store : TimeSeriesStore) (t : Tick) (st : SubscriberState) : Prop :=
  st.lastRevision = some t.snapshot.revision ∨
    (∃ page ∈ st.queue, page.revision = t.snapshot.revision) ∨
    (st.pending = [] ∧ (st.refillOf store t).Fits env st.nextEventSequence)

instance : Decidable (Covers env store t st) := by unfold Covers; infer_instance

/-- **If the snapshot's revision is covered, its baseline is in the log** after the turn. -/
theorem Grounded.hasBaseline (h : Grounded st log) {ack : ℕ}
    (hseq : (st.completeFront ack).SequencesFit store t)
    (hcovers : Covers env store t (st.completeFront ack)) :
    HasBaseline (log ++ st.newPages env store t ack) t.snapshot.revision := by
  have hfront := h.completeFront ack
  by_cases hlast : (st.completeFront ack).lastRevision = some t.snapshot.revision
  · exact (hfront.last _ hlast).append _
  · rcases hcovers with hrev | ⟨page, hpage, hrev⟩ | ⟨hp, hfits⟩
    · exact absurd hrev hlast
    · exact (hrev ▸ hfront.queue page hpage).append _
    · have hbase : ((st.completeFront ack).refillOf store t).baseline = true :=
        needsBaseline_of_ne hlast
      unfold SubscriberState.newPages SubscriberState.advance
      rw [if_pos (List.isEmpty_iff.mpr hp)]
      rcases refill_cases env hseq with ⟨hne, -⟩ | ⟨-, -, -, hq, -⟩ | ⟨-, -, hnot, -⟩ |
        ⟨-, hpages, -⟩
      · exact absurd hp hne
      · rw [hq]
        exact ⟨_, (List.suffix_append _ _).isInfix, isBaseline_pages hbase _⟩
      · exact absurd hfits hnot
      · unfold Refill.hasPages at hpages
        rw [hbase] at hpages
        cases hpages

/-! ## Frames and what was queued before them -/

/-- The frames sent, each with the pages queued up to then; `log` are those queued before. -/
def framesOf : List Page → List Act → List (CursorFrame × List Page)
  | _, [] => []
  | log, .queue page :: acts => framesOf (log ++ [page]) acts
  | log, .send (.frame frame) :: acts => (frame, log) :: framesOf log acts
  | log, .send (.eventBatch _) :: acts => framesOf log acts
  | log, .send (.reset _) :: acts => framesOf log acts

theorem framesOf_append (log : List Page) (acts acts' : List Act) :
    framesOf log (acts ++ acts') = framesOf log acts ++ framesOf (log ++ pagesOf acts) acts' := by
  induction acts generalizing log with
  | nil => simp [framesOf, pagesOf]
  | cons act acts ih =>
    rcases act with page | frame | batch | reset
    · simp [framesOf, ih, pagesOf]
    · simp [framesOf, ih, pagesOf]
    · simp [framesOf, ih, pagesOf]
    · simp [framesOf, ih, pagesOf]

theorem framesOf_queue (log pages : List Page) : framesOf log (pages.map Act.queue) = [] := by
  induction pages generalizing log with
  | nil => rfl
  | cons page pages ih => exact ih _

/-- A frame sent after the queueing of a turn comes after all pages. -/
theorem mem_framesOf_send {frame : CursorFrame} {log' : List Page} :
    ∀ (sends : List Payload), (frame, log') ∈ framesOf log (sends.map Act.send) →
      .frame frame ∈ sends ∧ log' = log
  | [], h => by simp [framesOf] at h
  | send :: sends, h => by
    rcases send with frame' | batch | reset
    · simp only [List.map_cons, framesOf, List.mem_cons, Prod.mk.injEq] at h
      rcases h with ⟨rfl, rfl⟩ | h
      · exact ⟨List.mem_cons_self, rfl⟩
      · exact (mem_framesOf_send sends h).imp_left (List.mem_cons_of_mem _)
    · exact (mem_framesOf_send sends h).imp_left (List.mem_cons_of_mem _)
    · exact (mem_framesOf_send sends h).imp_left (List.mem_cons_of_mem _)

/-- What is sent as a frame is one of the frames. -/
theorem exists_framesOf {frame : CursorFrame} : ∀ (acts : List Act) (log : List Page),
    .frame frame ∈ payloadsOf acts → ∃ log', (frame, log') ∈ framesOf log acts
  | [], _, h => by simp [payloadsOf] at h
  | act :: acts, log, h => by
    rcases act with page | frame' | batch | reset
    · exact exists_framesOf acts (log ++ [page]) (by simpa [payloadsOf] using h)
    · have h' : .frame frame = Payload.frame frame' ∨ .frame frame ∈ payloadsOf acts := by
        simpa [payloadsOf] using h
      rcases h' with heq | h
      · rw [Payload.frame.inj heq]
        exact ⟨log, List.mem_cons_self⟩
      · obtain ⟨log', hmem⟩ := exists_framesOf acts log h
        exact ⟨log', List.mem_cons_of_mem _ hmem⟩
    · exact exists_framesOf acts log (by simpa [payloadsOf] using h)
    · exact exists_framesOf acts log (by simpa [payloadsOf] using h)

/-! ## The invariant -/

/-- The act sends a frame. -/
def sendsFrame : Act → Bool
  | .send (.frame _) => true
  | _ => false

namespace World

/-- **Frames come after their events**: when a frame is returned, there is a baseline of its
revision among the pages that had been queued when it was sent, and all those pages have been
returned. -/
def FrameConsistent (a : SocketAddr) (w : World) : Prop :=
  ∀ before frame, before ++ [.frame frame] <+: w.returned →
    ∃ log, (frame, log) ∈ framesOf [] (w.room.historyAt a) ∧ HasBaseline log frame.revision ∧
      ∀ page ∈ log, .eventBatch page.batch ∈ before

/-- A tick that sends the client a frame finds the snapshot's revision covered. -/
def FramesCovered (env : Env) (a : SocketAddr) (w : World) : WorldEvent → Prop
  | .tick store t => ∀ s ∈ w.room.sessionAt a, isSubscribed s →
      (w.room.serving env store t a s).acts.any sendsFrame →
        Covers env store t ((w.room.stateAt a).completeFront s.cursorEventAck)
  | _ => True

instance (env : Env) (a : SocketAddr) (w : World) : (event : WorldEvent) →
    Decidable (w.FramesCovered env a event)
  | .tick .. => by unfold FramesCovered; infer_instance
  | .session _ | .acknowledge _ | .call | .deliver _ => isTrue trivial

end World

/-- **What every event preserves**: frames are sent after a baseline of their revision, and up to
their watermark or after everything that was queued has been seen. -/
structure FrameInv (env : Env) (a : SocketAddr) (w : World) (link : Link Page) : Prop where
  linked : Linked env a w link
  grounded : Grounded (w.room.stateAt a) (pagesOf (w.room.historyAt a))
  frames : ∀ frame log, (frame, log) ∈ framesOf [] (w.room.historyAt a) →
    HasBaseline log frame.revision ∧ ∀ page ∈ log,
      page ∈ link.log ∧ (page ∈ link.seen ∨ page.sequence ≤ frame.eventWatermark)
  waiting : ∀ frame ∈ w.client.pendingFrame, .frame frame ∈ w.payloads a
  consistent : w.FrameConsistent a

variable {w w' : World} {link link' : Link Page}

/-- **Whatever was queued before a frame has been returned** when the client reaches the frame. -/
theorem FrameInv.returned (h : FrameInv env a w link) {frame : CursorFrame}
    (hframe : .frame frame ∈ w.payloads a) (hreach : w.client.reaches frame) :
    ∃ log, (frame, log) ∈ framesOf [] (w.room.historyAt a) ∧ HasBaseline log frame.revision ∧
      ∀ page ∈ log, .eventBatch page.batch ∈ w.returned := by
  obtain ⟨log, hmem⟩ := exists_framesOf _ [] hframe
  obtain ⟨hbase, hpages⟩ := h.frames frame log hmem
  refine ⟨log, hmem, hbase, fun page hpage => ?_⟩
  obtain ⟨hlog, hseen⟩ := hpages page hpage
  have hpos := (h.linked.carries.labelled page hlog).pos
  have hle : frame.eventWatermark ≤ w.client.appliedEventSequence := by
    simpa [CursorClient.reaches] using hreach
  have hpageSeen : page ∈ link.seen := by
    rcases hseen with hseen | hmark
    · exact hseen
    · rcases h.linked.applied with hzero | ⟨page', hpage', hseq⟩
      · omega
      · exact h.linked.carries.sound.seen_of_le h.linked.carries.increasing hlog hpage' (by omega)
  have hbatch : page.batch ∈ w.batches := by
    rw [← h.linked.seen]
    exact List.mem_map_of_mem hpageSeen
  obtain ⟨event, hevent, heq⟩ := List.mem_filterMap.mp hbatch
  cases event with
  | eventBatch batch => rwa [← Option.some.inj heq]
  | frame | reset => cases heq

/-- Returning one more item keeps the frames consistent, if it is no frame or the client reaches
it. -/
theorem FrameInv.consistent_append (h : FrameInv env a w link) {event : CursorClientEvent}
    (hevent : ∀ frame, event = .frame frame →
      .frame frame ∈ w.payloads a ∧ w.client.reaches frame)
    (hroom : w'.room = w.room) (hreturned : w'.returned = w.returned ++ [event]) :
    w'.FrameConsistent a := by
  intro before frame hprefix
  rw [hreturned, List.prefix_concat_iff] at hprefix
  rw [hroom]
  rcases hprefix with heq | hprefix
  · obtain ⟨rfl, hlast⟩ := List.append_inj' heq rfl
    obtain ⟨hframe, hreach⟩ := hevent frame (List.singleton_inj.mp hlast).symm
    exact h.returned hframe hreach
  · exact h.consistent before frame hprefix

/-- More acts of the publisher keep the frames consistent. -/
theorem World.FrameConsistent.mono (h : w.FrameConsistent a) (hreturned : w'.returned = w.returned)
    {acts : List Act} (hhist : w'.room.historyAt a = w.room.historyAt a ++ acts) :
    w'.FrameConsistent a := by
  intro before frame hprefix
  rw [hreturned] at hprefix
  obtain ⟨log, hmem, hrest⟩ := h before frame hprefix
  refine ⟨log, ?_, hrest⟩
  rw [hhist, framesOf_append]
  exact List.mem_append_left _ hmem

/-- The frame of a turn. -/
theorem frame_of_turn {frame : CursorFrame} {sends : List Payload} {frameSequence ack : ℕ}
    (hsends : ∀ p ∈ sends, (∃ front ∈ st.queue.head?, p ∈ front.payloads) ∨
      p = .frame (st.frameOf env store t frameSequence ack))
    (hframe : .frame frame ∈ sends) :
    frame.revision = t.snapshot.revision ∧
      frame.eventWatermark = (st.queue.getLast?.map Page.sequence).getD ack := by
  rcases hsends _ hframe with ⟨front, -, hmem⟩ | heq
  · unfold Page.payloads at hmem
    simp at hmem
  · rw [Payload.frame.inj heq, ← st.watermark_eq]
    exact ⟨rfl, rfl⟩

/-- The publisher does something more, and the client nothing. -/
theorem FrameInv.of_history (h : FrameInv env a w link) {room : Room} {acts : List Act}
    (hlink : Linked env a { w with room := room } link') (hseen : link'.seen = link.seen)
    (hhist : room.historyAt a = w.room.historyAt a ++ acts)
    (hgrounded : Grounded (room.stateAt a) (pagesOf (room.historyAt a)))
    (hnew : ∀ frame log, (frame, log) ∈ framesOf (pagesOf (w.room.historyAt a)) acts →
      HasBaseline log frame.revision ∧ ∀ page ∈ log,
        page ∈ link'.log ∧ (page ∈ link'.seen ∨ page.sequence ≤ frame.eventWatermark)) :
    FrameInv env a { w with room := room } link' := by
  have hlog : link'.log = link.log ++ pagesOf acts := by
    rw [hlink.carries.log, h.linked.carries.log]
    show pagesOf (room.historyAt a) = _
    rw [hhist, pagesOf_append]
  refine ⟨hlink, hgrounded, fun frame log hmem => ?_, fun frame hframe => ?_,
    h.consistent.mono rfl hhist⟩
  · change (frame, log) ∈ framesOf [] (room.historyAt a) at hmem
    rw [hhist, framesOf_append, List.nil_append] at hmem
    rcases List.mem_append.mp hmem with hold | hmem
    · obtain ⟨hbase, hpages⟩ := h.frames frame log hold
      refine ⟨hbase, fun page hpage => ?_⟩
      rw [hlog, hseen]
      exact (hpages page hpage).imp_left (List.mem_append_left _)
    · exact hnew frame log hmem
  · show .frame frame ∈ payloadsOf (room.historyAt a)
    rw [hhist, payloadsOf_append]
    exact List.mem_append_left _ (h.waiting frame hframe)

/-- Nothing is done for the client. -/
theorem FrameInv.of_same (h : FrameInv env a w link) {room : Room}
    (hlink : Linked env a { w with room := room } link') (hseen : link'.seen = link.seen)
    (hhist : room.historyAt a = w.room.historyAt a)
    (hstate : room.stateAt a = w.room.stateAt a ∨ Dropped a room) :
    FrameInv env a { w with room := room } link' := by
  have hnone : room.historyAt a = w.room.historyAt a ++ [] := by rw [List.append_nil, hhist]
  refine h.of_history hlink hseen hnone ?_ fun frame log hmem => by cases hmem
  rw [hhist]
  rcases hstate with hsame | hdropped
  · rw [hsame]
    exact h.grounded
  · rw [hdropped.1]
    exact grounded_empty _

/-- **A tick** keeps the invariant. -/
theorem FrameInv.tick (h : FrameInv env a w link) (hwrap : w.NoWrap a (.tick store t))
    (hcovered : w.FramesCovered env a (.tick store t)) :
    ∃ link', FrameInv env a (w.step env a (.tick store t)) link' := by
  obtain ⟨link', hlink, hseen, hticked⟩ := h.linked.tick hwrap
  refine ⟨link', ?_⟩
  change Linked env a { w with room := w.room.tick env store t } link' at hlink
  show FrameInv env a { w with room := w.room.tick env store t } link'
  rcases hticked with ⟨hhist, hstate⟩ | ⟨-, s, hs, hsub, hhist, hqueue, hstate⟩
  · exact h.of_same hlink hseen hhist (hstate.imp_left fun hsame => by rw [hsame])
  · obtain ⟨sends, hacts, hsends, -⟩ := serve_spec (w.room.stateAt a) env store t
      ((w.room.frameSequence + 1) % u64Size) s
    have hserving : (w.room.serving env store t a s).acts =
        ((w.room.stateAt a).newPages env store t s.cursorEventAck).map Act.queue ++
          sends.map Act.send := hacts
    have hpages : pagesOf ((w.room.tick env store t).historyAt a) =
        pagesOf (w.room.historyAt a) ++
          (w.room.stateAt a).newPages env store t s.cursorEventAck := by
      rw [hhist, pagesOf_append, Room.pagesOf_serving]
    have hseq := hwrap s hs hsub
    refine h.of_history hlink hseen hhist ?_ fun frame log hmem => ?_
    · rw [hpages]
      rcases hstate with hdropped | ⟨-, hsame⟩
      · rw [hdropped.1]
        exact grounded_empty _
      · exact (h.grounded.advance hseq).of_sameQueue hsame
    · -- a frame of this turn
      rw [hserving, framesOf_append, framesOf_queue, List.nil_append] at hmem
      obtain ⟨hframe, hlog⟩ := mem_framesOf_send sends hmem
      have hlog' : log = link'.log := by
        rw [hlink.carries.log, hlog]
        show _ = pagesOf ((w.room.tick env store t).historyAt a)
        rw [hpages, pagesOf_queue]
      obtain ⟨hrev, hmark⟩ := frame_of_turn hsends hframe
      refine ⟨?_, fun page hpage => ⟨hlog' ▸ hpage, ?_⟩⟩
      · have hany : (w.room.serving env store t a s).acts.any sendsFrame := by
          rw [hserving, List.any_append, Bool.or_eq_true]
          exact Or.inr (List.any_eq_true.mpr ⟨_, List.mem_map_of_mem hframe, rfl⟩)
        rw [hrev, hlog', hlink.carries.log]
        show HasBaseline (pagesOf ((w.room.tick env store t).historyAt a)) _
        rw [hpages]
        exact h.grounded.hasBaseline hseq (hcovered s hs hsub hany)
      · rw [hmark, ← hqueue]
        exact hlink.carries.sound.seen_or_le hlink.carries.increasing (hlog' ▸ hpage) _

/-- The client does something, and the publisher nothing. -/
theorem FrameInv.of_client (h : FrameInv env a w link)
    {result : CursorClient × Option CursorClientEvent} (acks : List CursorEventAck)
    (hlink : Linked env a { w.recv result with acks := acks } link') (hlog : link'.log = link.log)
    (hseen : link.seen ⊆ link'.seen)
    (hwaiting : ∀ frame ∈ result.1.pendingFrame, .frame frame ∈ w.payloads a)
    (hreturned : ∀ frame, result.2 = some (.frame frame) →
      .frame frame ∈ w.payloads a ∧ w.client.reaches frame) :
    FrameInv env a { w.recv result with acks := acks } link' := by
  refine ⟨hlink, h.grounded, fun frame log hmem => ?_, hwaiting, ?_⟩
  · obtain ⟨hbase, hpages⟩ := h.frames frame log hmem
    refine ⟨hbase, fun page hpage => ?_⟩
    rw [hlog]
    exact (hpages page hpage).imp_right fun hor => hor.imp_left fun hmem => hseen hmem
  · rcases hevent : result.2 with _ | event
    · refine h.consistent.mono ?_ (List.append_nil _).symm
      show w.returned ++ result.2.toList = w.returned
      rw [hevent]
      exact List.append_nil _
    · have happend : w.returned ++ result.2.toList = w.returned ++ [event] := by
        rw [hevent]
        rfl
      refine h.consistent_append (fun frame heq => hreturned frame ?_) rfl happend
      rw [hevent, heq]

/-- **The consumer calls** `recv`. -/
theorem FrameInv.call (h : FrameInv env a w link) :
    FrameInv env a (w.recv w.client.recvPendingFrame) link := by
  obtain ⟨-, -, hpending, hret⟩ := w.client.recvPendingFrame_cases
  refine h.of_client w.acks h.linked.call rfl (List.Subset.refl _)
    (fun frame hframe => ?_) fun frame heq => ?_
  · rcases hpending with hsame | hnone
    · rw [hsame] at hframe
      exact h.waiting frame hframe
    · rw [hnone] at hframe
      cases hframe
  · rcases hret with hnone | ⟨frame', hwait, hret, hreach⟩
    · rw [hnone] at heq
      cases heq
    · rw [hret] at heq
      cases heq
      exact ⟨h.waiting _ hwait, hreach⟩

/-- **Every event** keeps the invariant. -/
theorem FrameInv.step (h : FrameInv env a w link) {event : WorldEvent}
    (hwrap : w.NoWrap a event) (hcovered : w.FramesCovered env a event) :
    ∃ link', FrameInv env a (w.step env a event) link' := by
  have hstep := w.stepped env a event
  generalize hw' : w.step env a event = w' at hstep ⊢
  cases hstep with
  | same => exact ⟨link, h⟩
  | tick store t =>
    rw [← hw']
    exact h.tick hwrap hcovered
  | session op hop => exact ⟨link, h.of_same (h.linked.session hop) rfl rfl (Or.inl rfl)⟩
  | acknowledge i ack hack =>
    exact ⟨link, h.of_same (h.linked.acknowledge hack) rfl rfl (Or.inl rfl)⟩
  | call => exact ⟨link, h.call⟩
  | deliver i payload hpayload =>
    have hp := mem_payloads_of_arriving hpayload
    obtain ⟨link', hlink, hlog, hseen⟩ := h.linked.deliver hp
    refine ⟨link', h.of_client _ hlink hlog hseen (fun frame hframe => ?_) fun frame heq => ?_⟩
    · rcases w.client.recvPayload_pendingFrame payload frame hframe with hwait | rfl
      · exact h.waiting frame hwait
      · exact hp
    · obtain ⟨rfl, hreach⟩ := CursorClient.recvPayload_frame heq
      exact ⟨hp, hreach⟩

/-- A client that has just subscribed. -/
theorem World.Start.frameInv (h : w.Start a) : FrameInv env a w {} := by
  refine ⟨h.linked, ?_, ?_, ?_, ?_⟩
  · rw [Room.stateAt_of_none h.state]
    exact grounded_empty _
  · rw [h.history]
    intro frame log hmem
    cases hmem
  · rw [h.client]
    intro frame hframe
    cases hframe
  · intro before frame hprefix
    rw [h.returned, List.prefix_nil] at hprefix
    simp at hprefix

/-! ## Whole runs -/

namespace World

/-- **Frames come after their events**, in every run from a new subscription in which no sequence
wraps around and a frame is only sent when the snapshot's revision is covered. -/
theorem frameConsistent_run (hstart : w.Start a) (events : List WorldEvent)
    (h : Meets (step env a) (fun w event => w.NoWrap a event ∧ w.FramesCovered env a event) w
      events) : ∀ pre, pre <+: events → (pre.foldl (step env a) w).FrameConsistent a := by
  intro pre hpre
  obtain ⟨link, hinv⟩ : ∃ link, FrameInv env a (pre.foldl (step env a) w) link := by
    refine h.inv_prefix (I := fun w => ∃ link, FrameInv env a w link) ?_ ⟨_, hstart.frameInv⟩ hpre
    rintro w event ⟨link, hinv⟩ ⟨hwrap, hcovered⟩
    exact hinv.step hwrap hcovered
  exact hinv.consistent

/-- A client receives its baseline, and the frame that has waited for it. -/
def firstFrameRun : List WorldEvent :=
  [.tick {} ⟨emptySnapshot 1, 0, 0, .plain⟩, .call, .deliver 0, .call, .deliver 2, .deliver 1,
    .call]

theorem frameConsistent_run_first :
    (firstFrameRun.foldl (step Env.small 1) (connected 1 0 "u" 30)).FrameConsistent 1 :=
  frameConsistent_run (start_connected 1 0 "u" 30) firstFrameRun (by decide +kernel) _
    (List.prefix_refl _)

/-- The revision changes while the acknowledgement of the first baseline is on its way. -/
def newRevisionRun : List WorldEvent :=
  firstFrameRun ++ [.tick {} ⟨emptySnapshot 2, 1, 1, .plain⟩, .call, .deliver 5]

/-- **A frame of the new revision** is returned before the baseline of that revision. -/
theorem frameConsistent_new_revision : (connected 1 0 "u" 30).Start 1 ∧
    ¬(newRevisionRun.foldl (step Env.small 1) (connected 1 0 "u" 30)).FrameConsistent 1 := by
  refine ⟨start_connected 1 0 "u" 30, fun h => ?_⟩
  have hlast : (firstFrameRun.foldl (step Env.small 1) (connected 1 0 "u" 30)).returned ++
      [.frame (emptyFrame Env.small (emptySnapshot 2) 2 1 1)] <+:
        (newRevisionRun.foldl (step Env.small 1) (connected 1 0 "u" 30)).returned := by
    decide +kernel
  obtain ⟨log, hmem, hbase, -⟩ := h _ _ hlast
  -- every page queued so far is of the first revision
  have hfirst : ∀ e ∈ framesOf []
      ((newRevisionRun.foldl (step Env.small 1) (connected 1 0 "u" 30)).room.historyAt 1),
      ∀ page ∈ e.2, page.batch.revision = 1 := by decide +kernel
  obtain ⟨page, hpage, hrev⟩ := hbase.exists_page
  rw [hfirst _ hmem page hpage] at hrev
  exact absurd hrev (by decide)

end World

end FlyRuler.Cursor
