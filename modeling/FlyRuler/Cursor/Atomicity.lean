import FlyRuler.Lib.Run
import FlyRuler.Lib.Threads
import FlyRuler.Cursor.Frame

/-!
# Frames and store replacements

A tick of the publisher next to the maintenance actions that replace the store: `memory_clear` and
`session_load` of the routes, `load_session` and `clear_session` of the kernel.  Each runs under
`with_paused`, so that they exclude each other, and first replaces the store and then resets
playback.  A tick reads the bounds, locks the playback state once, and then reads the store once for
every detail of every aircraft; nothing keeps a replacement from coming in between.

The tick and the actions are threads, their places are the points between two atomic steps.  A
timeline is what the store holds between two replacements.

* `FrameOf`: a frame shows the timeline that was current when its revision was established.
* `frames_atomic`: it does so in every run in which no replacement comes between the reads of a
  tick, and no tick takes its snapshot between a replacement and its reset.
* `tick_frame`: a tick on its own gives the frame of `assembleCursorFrame`.
* `frames_not_atomic`: a load between the snapshot and the other reads.
-/

namespace FlyRuler.Cursor

open FlyRuler.Pb FlyRuler.Store FlyRuler.Playback FlyRuler.Lib.Threads FlyRuler.Lib.Run

/-! ## The tick and the maintenance actions -/

/-- What a store holds, as a timeline: its data without the receipt times. -/
def timelineOf (store : TimeSeriesStore) : TimeSeriesStore := { data := store.data }

/-- The store, the playback state, whether a maintenance action holds the gate, and the timeline
that was current when the revision was established. -/
structure Stage where
  store : TimeSeriesStore
  inner : PlaybackInner
  paused : Bool := false
  timeline : TimeSeriesStore

def Stage.start (store : TimeSeriesStore) (inner : PlaybackInner) : Stage :=
  { store, inner, timeline := timelineOf store }

inductive Maintenance where
  | clear
  | load (saved : TimeSeriesStore)

/-- What the action puts into the store. -/
def Maintenance.replacement : Maintenance → TimeSeriesStore
  | .clear => {}
  | .load saved => saved

/-- The snapshot of a tick, with the timeline of its revision. -/
structure Capture where
  frameSequence : ℕ
  snapshot : PlaybackSnapshot
  timeline : TimeSeriesStore

/-- The loop of `assemble_cursor_frame`: the aircraft that remain and those it has. -/
structure Scan where
  capture : Capture
  summaries : List AircraftSummary
  ids : List AircraftId
  aircraft : List CursorAircraftSnapshot

/-- Where a tick or a maintenance action is. -/
inductive StageTask where
  -- the snapshot: before the bounds are read, and before the playback state is locked
  | starting (frameSequence : ℕ)
  | bounded (frameSequence : ℕ) (bounds : Option (Secs × Secs))
  -- `assemble_cursor_frame`: before the summaries, and before the ids
  | captured (capture : Capture)
  | listed (capture : Capture) (summaries : List AircraftSummary)
  -- at the head of the loop; an aircraft has a sample; it is spawned
  | resolving (scan : Scan)
  | sampled (scan : Scan) (id : AircraftId) (sample : TimestampedState)
  | spawned (scan : Scan) (id : AircraftId) (sample : TimestampedState)
  -- the frame is assembled, and `more` says whether another subscriber gets one in this tick
  | framed (capture : Capture) (frame : CursorFrame) (more : Bool)
  -- a maintenance action, before the gate, the data, and the receipts
  | waiting (op : Maintenance)
  | replacing (op : Maintenance)
  | forgetting (op : Maintenance)
  -- before the reset reads the bounds, before it locks the playback state, before the gate opens
  | measuring
  | resetting (bounds : Option (Secs × Secs))
  | resuming
  | resumed

/-- What a step may take from outside. -/
structure StageInput where
  now : Instant
  generatedAt : Secs
  watermark : ℕ
  more : Bool

inductive StageCall where
  | tick (frameSequence : ℕ)
  | maintain (op : Maintenance)

def StageCall.start : StageCall → StageTask
  | .tick frameSequence => .starting frameSequence
  | .maintain op => .waiting op

/-- What both resets do to the playback state. -/
def resetTo (inner : PlaybackInner) (bounds : Option (Secs × Secs)) : PlaybackInner :=
  { inner with
    mode := .replayPaused
    cursorSecs := bounds.map Prod.fst
    anchor := none
    revision := nextRevision inner.revision }

theorem resetEmpty_eq (inner : PlaybackInner) : inner.resetEmpty.1 = resetTo inner none := rfl

theorem resetAfterLoad_eq (inner : PlaybackInner) (store : TimeSeriesStore) :
    (inner.resetAfterLoad store).1 = resetTo inner store.activeTimeBounds := rfl

/-- One atomic step; `none` while it waits for the gate. -/
def Stage.advance (env : Env) (input : StageInput) (stage : Stage) :
    StageTask → Option (Stage × StageTask)
  | .starting frameSequence =>
    some (stage, .bounded frameSequence stage.store.activeTimeBounds)
  | .bounded frameSequence bounds =>
    let inner := stage.inner.updateEffectiveCursor bounds input.now
    let timeline :=
      if inner.revision = stage.inner.revision then stage.timeline else timelineOf stage.store
    some ({ stage with inner, timeline },
      .captured ⟨frameSequence, inner.snapshotFromInner bounds, timeline⟩)
  | .captured capture => some (stage, .listed capture stage.store.aircraftSummaries)
  | .listed capture summaries =>
    some (stage, .resolving ⟨capture, summaries, stage.store.getAircraftIds, []⟩)
  | .resolving scan =>
    match scan.ids with
    | [] =>
      let frame := emptyFrame env scan.capture.snapshot scan.capture.frameSequence input.watermark
        input.generatedAt
      some (stage, .framed scan.capture { frame with aircraft := sortAircraft scan.aircraft }
        input.more)
    | id :: ids =>
      match resolveSample stage.store scan.capture.snapshot id with
      | none => some (stage, .resolving { scan with ids })
      | some sample => some (stage, .sampled { scan with ids } id sample)
  | .sampled scan id sample =>
    if resolveSpawned stage.store scan.capture.snapshot id then
      some (stage, .spawned scan id sample)
    else some (stage, .resolving scan)
  | .spawned scan id sample =>
    let aircraft := aircraftSnapshot env scan.capture.snapshot id (configIn scan.summaries id)
      (stage.store.liveStateIsStale input.now id env.staleTimeout) ⟨sample, true⟩
    some (stage, .resolving { scan with aircraft := scan.aircraft ++ [aircraft] })
  | .framed capture _ more => if more then some (stage, .captured capture) else none
  | .waiting op =>
    if stage.paused then none else some ({ stage with paused := true }, .replacing op)
  | .replacing op =>
    some ({ stage with store := { stage.store with data := op.replacement.data } }, .forgetting op)
  | .forgetting op =>
    some ({ stage with store := { stage.store with liveStateReceipts := {} } },
      match op with
      | .clear => .resetting none
      | .load _ => .measuring)
  | .measuring => some (stage, .resetting stage.store.activeTimeBounds)
  | .resetting bounds =>
    some ({ stage with
      inner := resetTo stage.inner bounds
      timeline := timelineOf stage.store }, .resuming)
  | .resuming => some ({ stage with paused := false }, .resumed)
  | .resumed => none

/-- The ticks and the maintenance actions on one store. -/
def stageMachine (env : Env) : Machine Stage StageTask StageCall StageInput where
  start := StageCall.start
  advance := Stage.advance env

/-! ## What a frame shows -/

/-- An aircraft as the timeline has it. -/
def FromTimeline (env : Env) (timeline : TimeSeriesStore) (snapshot : PlaybackSnapshot)
    (aircraft : CursorAircraftSnapshot) : Prop :=
  ∃ id ∈ timeline.getAircraftIds, ∃ sample stale,
    resolveAircraftWith timeline snapshot id = some ⟨sample, true⟩ ∧
      aircraft = aircraftSnapshot env snapshot id (configIn timeline.aircraftSummaries id) stale
        ⟨sample, true⟩

/-- **A frame shows the timeline of its revision**: only aircraft and states of it, and its bounds.
-/
structure FrameOf (env : Env) (capture : Capture) (frame : CursorFrame) : Prop where
  revision : frame.revision = capture.snapshot.revision
  lowerBound : frame.lowerBound = capture.timeline.activeTimeBounds.map Prod.fst
  upperBound : frame.upperBound = capture.timeline.activeTimeBounds.map Prod.snd
  aircraft : ∀ a ∈ frame.aircraft, FromTimeline env capture.timeline capture.snapshot a

/-- All frames that have been assembled show the timeline of their revision. -/
def FramesAtomic (env : Env) (p : Pool Stage StageTask) : Prop :=
  ∀ capture frame more, StageTask.framed capture frame more ∈ p.threads → FrameOf env capture frame

/-! ## The condition -/

/-- A tick that has read something and will read more. -/
def StageTask.isReading : StageTask → Bool
  | .bounded .. | .captured _ | .listed .. | .resolving _ | .sampled .. | .spawned .. => true
  | .framed _ _ more => more
  | _ => false

/-- A maintenance action between the replacement and the reset. -/
def StageTask.isReplaced : StageTask → Bool
  | .forgetting _ | .measuring | .resetting _ => true
  | _ => false

/-- Playback reaches the end of the bounds, so that the snapshot itself establishes a revision. -/
def runsOut (inner : PlaybackInner) (bounds : Option (Secs × Secs)) (now : Instant) : Bool :=
  match bounds, inner.mode with
  | some (start, stop), .replayPlaying =>
    let elapsed := (inner.anchor.map fun anchor => max (now - anchor) 0).getD 0
    decide (stop ≤ inner.cursorSecs.getD start + elapsed * inner.speed)
  | _, _ => false

/-- **The condition on a step**: no tick is reading when the data is replaced, and no action is
between its replacement and its reset when a tick takes its snapshot, unless that establishes a
revision of its own. -/
def undisturbed (p : Pool Stage StageTask) : Action StageCall StageInput → Bool
  | .call _ => true
  | .step i input =>
    match p.threads[i]? with
    | some (.replacing _) => p.threads.all fun task => !task.isReading
    | some (.bounded _ bounds) =>
      (p.threads.all fun task => !task.isReplaced) || runsOut p.shared.inner bounds input.now
    | _ => true

theorem nextRevision_ne (revision : ℕ) : nextRevision revision ≠ revision := by
  unfold nextRevision
  intro h
  have hlt : (revision + 1) % u64Size < u64Size := Nat.mod_lt _ (by decide)
  by_cases hmax : revision + 1 < u64Size
  · rw [Nat.mod_eq_of_lt hmax] at h
    omega
  · have heq : revision + 1 = u64Size := by omega
    rw [heq, Nat.mod_self] at h
    rw [← h] at heq
    exact absurd heq (by decide)

/-- A snapshot that runs out of the bounds establishes a revision. -/
theorem revision_of_runsOut {inner : PlaybackInner} {bounds : Option (Secs × Secs)} {now : Instant}
    (h : runsOut inner bounds now = true) :
    (inner.updateEffectiveCursor bounds now).revision ≠ inner.revision := by
  unfold runsOut at h
  split at h
  · next start stop hmode =>
      unfold PlaybackInner.updateEffectiveCursor
      simp only [hmode]
      rw [if_pos (of_decide_eq_true h)]
      exact nextRevision_ne inner.revision
  · exact nomatch h

/-! ## What a tick has read -/

/-- The snapshot belongs to the timeline: by its revision and by its bounds. -/
structure Capture.Of (capture : Capture) (current : TimeSeriesStore) : Prop where
  timeline : capture.timeline = current
  bounds : capture.snapshot.bounds = current.activeTimeBounds

structure Scan.Of (env : Env) (scan : Scan) (timeline : TimeSeriesStore) : Prop where
  capture : scan.capture.Of timeline
  summaries : scan.summaries = timeline.aircraftSummaries
  ids : ∀ id ∈ scan.ids, id ∈ timeline.getAircraftIds
  aircraft : ∀ a ∈ scan.aircraft, FromTimeline env timeline scan.capture.snapshot a

/-- Everything the tick has read so far comes from this timeline. -/
def Reads (env : Env) (timeline : TimeSeriesStore) : StageTask → Prop
  | .bounded _ bounds => bounds = timeline.activeTimeBounds
  | .captured capture => capture.Of timeline
  | .listed capture summaries => capture.Of timeline ∧ summaries = timeline.aircraftSummaries
  | .resolving scan => scan.Of env timeline
  | .sampled scan id sample => scan.Of env timeline ∧ id ∈ timeline.getAircraftIds ∧
      resolveSample timeline scan.capture.snapshot id = some sample
  | .spawned scan id sample => scan.Of env timeline ∧ id ∈ timeline.getAircraftIds ∧
      resolveAircraftWith timeline scan.capture.snapshot id = some ⟨sample, true⟩
  | .framed capture frame more => FrameOf env capture frame ∧ (more = true → capture.Of timeline)
  | _ => True

/-- Who is not reading does not care. -/
theorem Reads.of_not_reading {env : Env} {timeline timeline' : TimeSeriesStore} {task : StageTask}
    (h : Reads env timeline task) (hnot : task.isReading = false) : Reads env timeline' task := by
  rcases task with _ | _ | _ | _ | _ | _ | _ | ⟨capture, frame, more⟩ | _ | _ | _ | _ | _ | _ | _
  case framed =>
    refine ⟨h.1, fun hmore => ?_⟩
    rw [show more = false from hnot] at hmore
    exact nomatch hmore
  case starting | waiting | replacing | forgetting | measuring | resetting | resuming | resumed =>
    trivial
  all_goals exact Bool.noConfusion hnot

theorem Scan.Of.resolving {env : Env} {scan : Scan} {timeline : TimeSeriesStore}
    (h : scan.Of env timeline) {ids : List AircraftId} (hids : ids ⊆ scan.ids) :
    ({ scan with ids } : Scan).Of env timeline :=
  ⟨h.capture, h.summaries, fun id hid => h.ids id (hids hid), h.aircraft⟩

/-- An aircraft that is spawned is added. -/
theorem Scan.Of.add {env : Env} {scan : Scan} {timeline : TimeSeriesStore}
    (h : scan.Of env timeline) {id : AircraftId} (hid : id ∈ timeline.getAircraftIds)
    {sample : TimestampedState}
    (hresolve : resolveAircraftWith timeline scan.capture.snapshot id = some ⟨sample, true⟩)
    (stale : Bool) :
    ({ scan with aircraft := scan.aircraft ++ [aircraftSnapshot env scan.capture.snapshot id
        (configIn scan.summaries id) stale ⟨sample, true⟩] } : Scan).Of env timeline := by
  refine ⟨h.capture, h.summaries, h.ids, fun a ha => ?_⟩
  rcases List.mem_append.mp ha with ha | ha
  · exact h.aircraft a ha
  · rw [List.mem_singleton.mp ha, h.summaries]
    exact ⟨id, hid, sample, stale, hresolve, rfl⟩

/-- The frame of a tick whose reads all come from the timeline. -/
theorem Scan.Of.frame {env : Env} {scan : Scan} {timeline : TimeSeriesStore}
    (h : scan.Of env timeline) (frameSequence watermark : ℕ) (generatedAt : Secs) :
    FrameOf env scan.capture
      { emptyFrame env scan.capture.snapshot frameSequence watermark generatedAt with
        aircraft := sortAircraft scan.aircraft } := by
  have hbounds := h.capture.bounds
  refine ⟨rfl, ?_, ?_, fun a ha => ?_⟩
  · rw [h.capture.timeline, ← hbounds]
    rfl
  · rw [h.capture.timeline, ← hbounds]
    rfl
  · rw [h.capture.timeline]
    exact h.aircraft a ((List.mem_insertionSort _).mp ha)

/-! ## One step -/

section Step

variable {env : Env} {input : StageInput} {stage stage' : Stage} {task task' : StageTask}

/-- What each step does to the data and to the timeline of the revision. -/
theorem advance_stage (hadvance : stage.advance env input task = some (stage', task')) :
    (∃ op, task = .replacing op) ∨ timelineOf stage'.store = timelineOf stage.store ∧
      ((∃ bounds, task = .resetting bounds ∧ stage'.timeline = timelineOf stage'.store) ∨
        (∃ frameSequence bounds, task = .bounded frameSequence bounds ∧
          stage'.timeline =
            if (stage.inner.updateEffectiveCursor bounds input.now).revision = stage.inner.revision
            then stage.timeline else timelineOf stage.store) ∨
        stage'.timeline = stage.timeline ∧
          (∀ frameSequence bounds, task ≠ .bounded frameSequence bounds) ∧
          (task.isReplaced = true → task'.isReplaced = true)) := by
  rcases task with _ | ⟨frameSequence, bounds⟩ | _ | _ | scan | _ | _ | _ | _ | op | op | _ |
    bounds | _ | _ <;> dsimp only [Stage.advance] at hadvance
  case bounded =>
    obtain ⟨rfl, rfl⟩ := hadvance
    exact .inr ⟨rfl, .inr (.inl ⟨frameSequence, bounds, rfl, rfl⟩)⟩
  case replacing => exact .inl ⟨op, rfl⟩
  case resetting =>
    obtain ⟨rfl, rfl⟩ := hadvance
    exact .inr ⟨rfl, .inl ⟨bounds, rfl, rfl⟩⟩
  case forgetting =>
    obtain ⟨rfl, rfl⟩ := hadvance
    rcases op with _ | saved <;>
      exact .inr ⟨rfl, .inr (.inr ⟨rfl, (fun _ _ h => nomatch h), fun _ => rfl⟩)⟩
  case measuring =>
    obtain ⟨rfl, rfl⟩ := hadvance
    exact .inr ⟨rfl, .inr (.inr ⟨rfl, (fun _ _ h => nomatch h), fun _ => rfl⟩)⟩
  case resolving =>
    split at hadvance
    · obtain ⟨rfl, rfl⟩ := hadvance
      exact .inr ⟨rfl, .inr (.inr ⟨rfl, (fun _ _ h => nomatch h), fun h => nomatch h⟩)⟩
    · split at hadvance <;> obtain ⟨rfl, rfl⟩ := hadvance <;>
        exact .inr ⟨rfl, .inr (.inr ⟨rfl, (fun _ _ h => nomatch h), fun h => nomatch h⟩)⟩
  case sampled | framed | waiting =>
    split_ifs at hadvance <;> obtain ⟨rfl, rfl⟩ := hadvance <;>
      exact .inr ⟨rfl, .inr (.inr ⟨rfl, (fun _ _ h => nomatch h), fun h => nomatch h⟩)⟩
  case resumed => exact nomatch hadvance
  all_goals
    obtain ⟨rfl, rfl⟩ := hadvance
    exact .inr ⟨rfl, .inr (.inr ⟨rfl, (fun _ _ h => nomatch h), fun h => nomatch h⟩)⟩

/-- **What a tick reads comes from the timeline in the store**, and its snapshot from the timeline
of its revision. -/
theorem advance_reads (hadvance : stage.advance env input task = some (stage', task'))
    (h : Reads env (timelineOf stage.store) task)
    (hcapture : ∀ frameSequence bounds, task = .bounded frameSequence bounds →
      stage'.timeline = timelineOf stage.store) :
    Reads env (timelineOf stage.store) task' := by
  rcases task with frameSequence | ⟨frameSequence, bounds⟩ | capture | ⟨capture, summaries⟩ | scan |
    ⟨scan, id, sample⟩ | ⟨scan, id, sample⟩ | ⟨capture, frame, more⟩ | op | op | op | _ | bounds |
    _ | _ <;> dsimp only [Stage.advance] at hadvance
  case starting =>
    obtain ⟨rfl, rfl⟩ := hadvance
    rfl
  case bounded =>
    obtain ⟨rfl, rfl⟩ := hadvance
    exact ⟨hcapture _ _ rfl, h⟩
  case captured =>
    obtain ⟨rfl, rfl⟩ := hadvance
    exact ⟨h, rfl⟩
  case listed =>
    obtain ⟨rfl, rfl⟩ := hadvance
    exact ⟨h.1, h.2, fun id hid => hid, fun a ha => absurd ha List.not_mem_nil⟩
  case resolving =>
    split at hadvance
    · obtain ⟨rfl, rfl⟩ := hadvance
      exact ⟨h.frame _ _ _, fun _ => h.capture⟩
    · next id ids hids =>
        have hsub : ids ⊆ scan.ids := by
          rw [hids]
          exact List.subset_cons_self id ids
        split at hadvance
        · obtain ⟨rfl, rfl⟩ := hadvance
          exact h.resolving hsub
        · next sample hsample =>
            obtain ⟨rfl, rfl⟩ := hadvance
            exact ⟨h.resolving hsub, h.ids id (hids ▸ List.mem_cons_self), hsample⟩
  case sampled =>
    obtain ⟨hscan, hid, hsample⟩ := h
    split_ifs at hadvance with hspawned <;> obtain ⟨rfl, rfl⟩ := hadvance
    · refine ⟨hscan, hid, ?_⟩
      unfold resolveAircraftWith
      have htrue : resolveSpawned (timelineOf stage.store) scan.capture.snapshot id = true :=
        hspawned
      rw [hsample, Option.map_some, htrue]
    · exact hscan
  case spawned =>
    obtain ⟨hscan, hid, hresolve⟩ := h
    obtain ⟨rfl, rfl⟩ := hadvance
    exact hscan.add hid hresolve _
  case framed =>
    split_ifs at hadvance with hmore
    obtain ⟨rfl, rfl⟩ := hadvance
    exact h.2 hmore
  case waiting =>
    split_ifs at hadvance
    obtain ⟨rfl, rfl⟩ := hadvance
    trivial
  case forgetting =>
    obtain ⟨rfl, rfl⟩ := hadvance
    rcases op with _ | saved <;> trivial
  case resumed => exact nomatch hadvance
  all_goals
    obtain ⟨rfl, rfl⟩ := hadvance
    trivial

end Step

/-! ## Every run -/

/-- **While nothing disturbs the ticks**: what they have read comes from the store as it is, and the
revision belongs to it, except between a replacement and its reset. -/
structure Steady (env : Env) (p : Pool Stage StageTask) : Prop where
  reads : ∀ task ∈ p.threads, Reads env (timelineOf p.shared.store) task
  settled : p.shared.timeline = timelineOf p.shared.store ∨
    ∃ task ∈ p.threads, task.isReplaced = true

theorem steady_call {env : Env} {p : Pool Stage StageTask} (h : Steady env p) (call : StageCall) :
    Steady env ((stageMachine env).next p (.call call)) := by
  refine ⟨fun task htask => ?_, ?_⟩
  · rcases List.mem_append.mp htask with htask | htask
    · exact h.reads task htask
    · rw [List.mem_singleton.mp htask]
      rcases call with _ | _ <;> trivial
  · rcases h.settled with hsettled | ⟨task, htask, hreplaced⟩
    · exact .inl hsettled
    · exact .inr ⟨task, List.mem_append_left _ htask, hreplaced⟩

/-- The step of a thread. -/
theorem steady_step {env : Env} {p : Pool Stage StageTask} (h : Steady env p) {i : ℕ}
    {input : StageInput} {task task' : StageTask} {stage' : Stage}
    (hok : undisturbed p (.step i input) = true) (htask : p.threads[i]? = some task)
    (hadvance : p.shared.advance env input task = some (stage', task')) :
    Steady env ⟨stage', p.threads.set i task'⟩ := by
  have hmem := List.mem_of_getElem? htask
  unfold undisturbed at hok
  simp only [htask] at hok
  rcases advance_stage hadvance with ⟨op, rfl⟩ | ⟨hdata, hstep⟩
  · -- nobody is reading, and this action is now between its replacement and its reset
    obtain ⟨rfl, rfl⟩ := Option.some.inj hadvance
    refine ⟨fun task'' htask'' => ?_, .inr ⟨.forgetting op, ?_, rfl⟩⟩
    · rcases List.mem_or_eq_of_mem_set htask'' with hold | rfl
      · have hnot := List.all_eq_true.mp hok task'' hold
        exact (h.reads task'' hold).of_not_reading (by simpa using hnot)
      · trivial
    · exact List.mem_set (List.getElem?_eq_some_iff.mp htask).1 _
  have hreads : (∀ frameSequence bounds, task = .bounded frameSequence bounds →
      stage'.timeline = timelineOf p.shared.store) →
      ∀ task'' ∈ p.threads.set i task', Reads env (timelineOf stage'.store) task'' := by
    intro hcapture task'' htask''
    rw [hdata]
    rcases List.mem_or_eq_of_mem_set htask'' with hold | rfl
    · exact h.reads task'' hold
    · exact advance_reads hadvance (h.reads task hmem) hcapture
  rcases hstep with ⟨bounds, rfl, htimeline⟩ | ⟨frameSequence, bounds, rfl, htimeline⟩ |
    ⟨htimeline, hnot, hreplaced⟩
  · exact ⟨hreads fun _ _ hbounded => (nomatch hbounded), .inl htimeline⟩
  · have hsettled : stage'.timeline = timelineOf p.shared.store := by
      rw [htimeline]
      split_ifs with hrevision
      · rcases Bool.or_eq_true_iff.mp hok with hnone | hruns
        · rcases h.settled with hsettled | ⟨other, hother, hreplaced⟩
          · exact hsettled
          · have hother := List.all_eq_true.mp hnone other hother
            rw [hreplaced] at hother
            exact nomatch hother
        · exact absurd hrevision (revision_of_runsOut hruns)
      · rfl
    refine ⟨hreads fun _ _ _ => hsettled, .inl ?_⟩
    rw [hdata]
    exact hsettled
  · refine ⟨hreads fun frameSequence bounds hbounded => absurd hbounded (hnot _ _), ?_⟩
    rw [htimeline, hdata]
    rcases h.settled with hsettled | ⟨other, hother, hother'⟩
    · exact .inl hsettled
    · by_cases heq : other = task
      · exact .inr ⟨task', List.mem_set (List.getElem?_eq_some_iff.mp htask).1 _,
          hreplaced (heq ▸ hother')⟩
      · exact .inr ⟨other, mem_set_of_ne htask task' hother heq, hother'⟩

theorem steady_run {env : Env} (store : TimeSeriesStore) (inner : PlaybackInner)
    {actions : List (Action StageCall StageInput)}
    (h : Meets (stageMachine env).next (fun p action => undisturbed p action = true)
      ⟨.start store inner, []⟩ actions) :
    Steady env ((stageMachine env).run ⟨.start store inner, []⟩ actions) := by
  refine h.inv (I := Steady env) (fun p action hsteady hok => ?_) ?_
  · refine Machine.next_inv hsteady action (fun call _ => steady_call hsteady call) ?_
    rintro i input task stage' task' rfl htask hadvance
    exact steady_step hsteady hok htask hadvance
  · exact ⟨fun task htask => absurd htask List.not_mem_nil, .inl rfl⟩

/-- **Frames are atomic** in every run, from any store and any playback state, in which nothing
disturbs the ticks: every frame shows only the timeline that was current when its revision was
established. -/
theorem frames_atomic (env : Env) (store : TimeSeriesStore) (inner : PlaybackInner)
    (actions : List (Action StageCall StageInput))
    (h : Meets (stageMachine env).next (fun p action => undisturbed p action = true)
      ⟨.start store inner, []⟩ actions) :
    FramesAtomic env ((stageMachine env).run ⟨.start store inner, []⟩ actions) :=
  fun _ _ _ hmem => ((steady_run store inner h).reads _ hmem).1

/-! ## A load and a tick -/

/-- What is saved: one aircraft, spawned and with a state. -/
def savedStore : TimeSeriesStore :=
  (({} : TimeSeriesStore).appendEvent "b" (.finite 5) (.spawn {})).appendState "b" (.finite 5) {}

/-- `n` steps of a thread. -/
def steps (thread n : ℕ) : List (Action StageCall StageInput) :=
  List.replicate n (.step thread ⟨0, 0, 0, false⟩)

/-- A load into the empty store, a tick, and then a clear. -/
def loadThenTick : List (Action StageCall StageInput) :=
  .call (.maintain (.load savedStore)) :: steps 0 6 ++ .call (.tick 1) :: steps 1 8 ++
    .call (.maintain .clear) :: steps 2 6

/-- The timeline and the frame of a tick, as far as aircraft go. -/
def StageTask.shown : StageTask → Option (List AircraftId × List CursorAircraftSnapshot)
  | .framed capture frame _ => some (capture.timeline.getAircraftIds, frame.aircraft)
  | _ => none

theorem frames_atomic_loadThenTick :
    (((stageMachine Env.small).run ⟨.start {} {}, []⟩ loadThenTick).threads.filterMap
        StageTask.shown).map (fun shown => (shown.1, shown.2.length)) = [(["b"], 1)] ∧
      ((stageMachine Env.small).run ⟨.start {} {}, []⟩ loadThenTick).shared.inner.revision = 2 ∧
      FramesAtomic Env.small
        ((stageMachine Env.small).run ⟨.start {} {}, []⟩ loadThenTick) := by
  refine ⟨by decide +kernel, by decide +kernel, ?_⟩
  exact frames_atomic Env.small {} {} loadThenTick (by decide +kernel)

/-- The load replaces the store after the snapshot of the tick and before its other reads. -/
def loadInTick : List (Action StageCall StageInput) :=
  .call (.tick 1) :: steps 0 2 ++ .call (.maintain (.load savedStore)) :: steps 1 2 ++ steps 0 6

/-- **A load within a tick**: the frame carries the revision of the empty timeline and shows the
aircraft that has been loaded. -/
theorem frames_not_atomic :
    ¬ ∀ (env : Env) (store : TimeSeriesStore) (inner : PlaybackInner)
      (actions : List (Action StageCall StageInput)),
      FramesAtomic env ((stageMachine env).run ⟨.start store inner, []⟩ actions) := by
  intro hall
  have hshown : ∃ task ∈ ((stageMachine Env.small).run ⟨.start {} {}, []⟩ loadInTick).threads,
      task.shown.any (fun shown => shown.1 = [] ∧ shown.2.length = 1) = true := by decide +kernel
  obtain ⟨task, htask, hshown⟩ := hshown
  rcases task with _ | _ | _ | _ | _ | _ | _ | ⟨capture, frame, more⟩ | _ | _ | _ | _ | _ | _ | _
  case framed =>
    obtain ⟨hids, hlength⟩ : capture.timeline.getAircraftIds = [] ∧ frame.aircraft.length = 1 :=
      of_decide_eq_true hshown
    obtain ⟨a, ha⟩ := List.length_eq_one_iff.mp hlength
    have hframe := hall Env.small {} {} loadInTick capture frame more htask
    obtain ⟨id, hid, -⟩ := hframe.aircraft a (ha ▸ List.mem_singleton.mpr rfl)
    rw [hids] at hid
    exact absurd hid List.not_mem_nil
  all_goals exact nomatch hshown

/-! ## A tick on its own -/

/-- What the loop of `assemble_cursor_frame` adds for an aircraft. -/
def frameAircraft (env : Env) (store : TimeSeriesStore) (now : Instant)
    (snapshot : PlaybackSnapshot) (summaries : List AircraftSummary) (id : AircraftId) :
    Option CursorAircraftSnapshot :=
  match resolveAircraftWith store snapshot id with
  | none => none
  | some resolved =>
    if resolved.spawned then
      some (aircraftSnapshot env snapshot id (configIn summaries id)
        (store.liveStateIsStale now id env.staleTimeout) resolved)
    else none

theorem assembleCursorFrame_eq (env : Env) (store : TimeSeriesStore) (now : Instant)
    (snapshot : PlaybackSnapshot) (frameSequence watermark : ℕ) (generatedAt : Secs) :
    assembleCursorFrame env store now snapshot frameSequence watermark generatedAt =
      { emptyFrame env snapshot frameSequence watermark generatedAt with
        aircraft := sortAircraft (store.getAircraftIds.filterMap
          (frameAircraft env store now snapshot store.aircraftSummaries)) } := rfl

section Alone

variable {env : Env} {p : Pool Stage StageTask} {i : ℕ}

theorem getElem?_set_of_some {task : StageTask} (htask : p.threads[i]? = some task)
    (task' : StageTask) : (p.threads.set i task')[i]? = some task' :=
  List.getElem?_set_self (List.getElem?_eq_some_iff.mp htask).1

/-- One aircraft of the loop. -/
theorem scan_next (input : StageInput) {capture : Capture} {summaries : List AircraftSummary}
    {id : AircraftId} {ids : List AircraftId} {aircraft : List CursorAircraftSnapshot}
    (htask : p.threads[i]? = some (.resolving ⟨capture, summaries, id :: ids, aircraft⟩)) :
    ∃ n, (stageMachine env).run p (List.replicate n (.step i input)) =
      ⟨p.shared, p.threads.set i (.resolving ⟨capture, summaries, ids, aircraft ++
        (frameAircraft env p.shared.store input.now capture.snapshot summaries id).toList⟩)⟩ := by
  unfold frameAircraft resolveAircraftWith
  rcases hsample : resolveSample p.shared.store capture.snapshot id with _ | sample
  · have hnone : (stageMachine env).advance input p.shared
        (.resolving ⟨capture, summaries, id :: ids, aircraft⟩) =
          some (p.shared, .resolving ⟨capture, summaries, ids, aircraft⟩) := by
      show (match resolveSample _ _ _ with | none => _ | some sample => _) = _
      rw [hsample]
    refine Machine.exists_run_of_step htask hnone ⟨0, ?_⟩
    rw [Option.map_none, Option.toList_none, List.append_nil]
    rfl
  have hsampled : (stageMachine env).advance input p.shared
      (.resolving ⟨capture, summaries, id :: ids, aircraft⟩) =
        some (p.shared, .sampled ⟨capture, summaries, ids, aircraft⟩ id sample) := by
    show (match resolveSample _ _ _ with | none => _ | some sample => _) = _
    rw [hsample]
  refine Machine.exists_run_of_step htask hsampled ?_
  rw [Option.map_some]
  have hnext : (stageMachine env).advance input p.shared
      (.sampled ⟨capture, summaries, ids, aircraft⟩ id sample) =
        if resolveSpawned p.shared.store capture.snapshot id then
          some (p.shared, .spawned ⟨capture, summaries, ids, aircraft⟩ id sample)
        else some (p.shared, .resolving ⟨capture, summaries, ids, aircraft⟩) := rfl
  rcases hspawned : resolveSpawned p.shared.store capture.snapshot id with _ | _
  · rw [hspawned, if_neg Bool.false_ne_true] at hnext
    refine Machine.exists_run_of_step (getElem?_set_of_some htask _) hnext ⟨0, ?_⟩
    rw [List.set_set]
    simp only [Bool.false_eq_true, if_false, Option.toList_none, List.append_nil]
    rfl
  · rw [hspawned, if_pos rfl] at hnext
    refine Machine.exists_run_of_step (getElem?_set_of_some htask _) hnext ?_
    rw [List.set_set]
    refine Machine.exists_run_of_step (getElem?_set_of_some htask _) rfl ⟨0, ?_⟩
    rw [List.set_set]
    rfl

/-- The loop, undisturbed. -/
theorem scan_run (input : StageInput) {capture : Capture} {summaries : List AircraftSummary}
    {ids : List AircraftId} {aircraft : List CursorAircraftSnapshot}
    (htask : p.threads[i]? = some (.resolving ⟨capture, summaries, ids, aircraft⟩)) :
    ∃ n, (stageMachine env).run p (List.replicate n (.step i input)) =
      ⟨p.shared, p.threads.set i (.resolving ⟨capture, summaries, [], aircraft ++ ids.filterMap
        (frameAircraft env p.shared.store input.now capture.snapshot summaries)⟩)⟩ := by
  induction ids generalizing p aircraft with
  | nil =>
    obtain ⟨hi, htask⟩ := List.getElem?_eq_some_iff.mp htask
    refine ⟨0, ?_⟩
    rw [List.filterMap_nil, List.append_nil, ← htask, List.set_getElem_self]
    rfl
  | cons id ids ih =>
    refine Machine.exists_run_trans (scan_next input htask) ?_
    obtain ⟨n, hn⟩ := ih (p := ⟨p.shared, p.threads.set i _⟩) (getElem?_set_of_some htask _)
    refine ⟨n, ?_⟩
    rw [hn, List.set_set, List.append_assoc, List.filterMap_cons]
    rcases frameAircraft env p.shared.store input.now capture.snapshot summaries id with _ | a <;>
      rfl

/-- The frame, undisturbed. -/
theorem captured_run (input : StageInput) {capture : Capture}
    (htask : p.threads[i]? = some (.captured capture)) :
    ∃ n, (stageMachine env).run p (List.replicate n (.step i input)) =
      ⟨p.shared, p.threads.set i (.framed capture (assembleCursorFrame env p.shared.store input.now
        capture.snapshot capture.frameSequence input.watermark input.generatedAt) input.more)⟩ := by
  rw [assembleCursorFrame_eq]
  refine Machine.exists_run_of_step htask rfl ?_
  refine Machine.exists_run_of_step (getElem?_set_of_some htask _) rfl ?_
  rw [List.set_set]
  refine Machine.exists_run_trans (scan_run input (getElem?_set_of_some htask _)) ?_
  rw [List.set_set]
  refine Machine.exists_run_of_step (getElem?_set_of_some htask _) rfl ⟨0, ?_⟩
  rw [List.set_set]
  rfl

/-- **A tick on its own** takes the snapshot of the controller and assembles the frame of
`assemble_cursor_frame` for it. -/
theorem tick_frame (input : StageInput) {frameSequence : ℕ}
    (htask : p.threads[i]? = some (.starting frameSequence)) :
    let taken := p.shared.inner.snapshot p.shared.store input.now
    ∃ n timeline, (stageMachine env).run p (List.replicate n (.step i input)) =
      ⟨{ p.shared with inner := taken.1, timeline },
        p.threads.set i (.framed ⟨frameSequence, taken.2, timeline⟩
          (assembleCursorFrame env p.shared.store input.now taken.2 frameSequence input.watermark
            input.generatedAt) input.more)⟩ := by
  intro taken
  let timeline :=
    if taken.1.revision = p.shared.inner.revision then p.shared.timeline
    else timelineOf p.shared.store
  have hrun : ∃ n, (stageMachine env).run p (List.replicate n (.step i input)) =
      ⟨{ p.shared with inner := taken.1, timeline },
        p.threads.set i (.framed ⟨frameSequence, taken.2, timeline⟩
          (assembleCursorFrame env p.shared.store input.now taken.2 frameSequence input.watermark
            input.generatedAt) input.more)⟩ := by
    refine Machine.exists_run_of_step htask rfl ?_
    refine Machine.exists_run_of_step (getElem?_set_of_some htask _) rfl ?_
    rw [List.set_set]
    let p' : Pool Stage StageTask := ⟨{ p.shared with inner := taken.1, timeline },
      p.threads.set i (.captured ⟨frameSequence, taken.2, timeline⟩)⟩
    have htask' : p'.threads[i]? = some (.captured ⟨frameSequence, taken.2, timeline⟩) :=
      getElem?_set_of_some htask _
    obtain ⟨n, hn⟩ := captured_run input htask'
    refine ⟨n, hn.trans ?_⟩
    rw [List.set_set]
  obtain ⟨n, hn⟩ := hrun
  exact ⟨n, timeline, hn⟩

end Alone

end FlyRuler.Cursor
