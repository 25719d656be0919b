import FlyRuler.Cursor.Subscriber

/-!
# The client

`CursorClient::recv` of `core/src/cursor.rs`.  A call first looks at the frame that waits for its
events (`recvPendingFrame`) and then reads datagrams until one of them gives something to return
(`recvMessage`).  What a reassembled payload does is `recvPayload`; every batch is acknowledged
before anything else.

* `recvMessage_cases`: a datagram is counted and leaves the stream as it is, or it completes a
  payload and does what `recvPayload` does with it.
* `recvBatch_cases`: a batch is handed over, or the client has applied a later one; what has been
  applied before is kept or forgotten (`enter_applied`).
* `recvBatch_closed`, `recvBatch_open`: a batch is dropped if and only if its window is closed.
* `recvFrame_cases`, `recvPendingFrame_cases`: a frame is handed over only up to the events applied.
-/

namespace FlyRuler.Cursor

open FlyRuler.Pb FlyRuler.Store FlyRuler.Transport

/-- One item of the stream. -/
inductive CursorClientEvent where
  | frame (frame : CursorFrame)
  | eventBatch (batch : CursorEventBatch)
  | reset (reset : CursorReset)
  deriving DecidableEq

/-- The batch in an item. -/
def CursorClientEvent.batch? : CursorClientEvent → Option CursorEventBatch
  | .eventBatch batch => some batch
  | _ => none

structure CursorClientStats where
  datagramsReceived : ℕ := 0
  framesReceived : ℕ := 0
  framesDropped : ℕ := 0
  reassemblyFailures : ℕ := 0
  eventBatchesReceived : ℕ := 0
  eventRetransmits : ℕ := 0
  deriving DecidableEq

structure CursorClient where
  reassembler : CursorReassembler := {}
  streamEpoch : List UInt8 := []
  appliedEventSequence : ℕ := 0
  baselineRevision : Option ℕ := none
  pendingFrame : Option CursorFrame := none
  lastFrameSequence : ℕ := 0
  stats : CursorClientStats := {}
  deriving DecidableEq

/-- `saturating_add(n)`. -/
def saturatingAdd (count n : ℕ) : ℕ := min (count + n) (u64Size - 1)

/-- The epoch bytes of a payload; a missing epoch is empty. -/
def epochOf (epoch : Option Uuid) : List UInt8 := (epoch.map Uuid.value).getD []

namespace CursorClient

variable (client : CursorClient)

/-! ## Payloads -/

/-- The frame can be shown: the client has all events up to its watermark. -/
def reaches (frame : CursorFrame) : Bool :=
  decide (frame.eventWatermark ≤ client.appliedEventSequence)

/-- Hand a frame over. -/
def takeFrame (frame : CursorFrame) : CursorClient × Option CursorClientEvent :=
  ({ client with
      lastFrameSequence := frame.frameSequence
      stats := { client.stats with
        framesReceived := saturatingAdd client.stats.framesReceived 1 } },
    some (.frame frame))

/-- Drop a frame that is not newer than the last one. -/
def dropFrame : CursorClient :=
  { client with
    stats := { client.stats with framesDropped := saturatingAdd client.stats.framesDropped 1 } }

/-- What a call of `recv` does before it reads. -/
def recvPendingFrame : CursorClient × Option CursorClientEvent :=
  match client.pendingFrame with
  | none => (client, none)
  | some frame =>
    if client.reaches frame then
      let client := { client with pendingFrame := none }
      if client.lastFrameSequence < frame.frameSequence then client.takeFrame frame
      else (client.dropFrame, none)
    else (client, none)

def recvFrame (frame : CursorFrame) : CursorClient × Option CursorClientEvent :=
  if frame.frameSequence ≤ client.lastFrameSequence then (client.dropFrame, none)
  else if client.reaches frame then client.takeFrame frame
  else if client.pendingFrame.all fun current => current.frameSequence < frame.frameSequence then
    ({ client with pendingFrame := some frame }, none)
  else (client, none)

/-- A batch from another epoch starts the stream anew. -/
def enterEpoch (epoch : List UInt8) : CursorClient :=
  if client.streamEpoch ≠ epoch then
    { client with
      streamEpoch := epoch
      appliedEventSequence := 0
      baselineRevision := none
      pendingFrame := none
      lastFrameSequence := 0 }
  else client

/-- A baseline of another revision starts the events anew. -/
def enterRevision (batch : CursorEventBatch) : CursorClient :=
  if batch.baseline ∧ client.baselineRevision ≠ some batch.revision then
    { client with
      appliedEventSequence := 0
      baselineRevision := some batch.revision
      pendingFrame := none }
  else client

def recvBatch (batch : CursorEventBatch) : CursorClient × Option CursorClientEvent :=
  let client := (client.enterEpoch (epochOf batch.serverEpoch)).enterRevision batch
  if batch.eventSequence ≤ client.appliedEventSequence then
    ({ client with
        stats := { client.stats with
          eventRetransmits := saturatingAdd client.stats.eventRetransmits 1 } },
      none)
  else
    ({ client with
        appliedEventSequence := batch.eventSequence
        stats := { client.stats with
          eventBatchesReceived := saturatingAdd client.stats.eventBatchesReceived 1 } },
      some (.eventBatch batch))

def recvReset (reset : CursorReset) : CursorClient × Option CursorClientEvent :=
  let epoch := epochOf reset.serverEpoch
  if client.streamEpoch = epoch ∧ client.baselineRevision = some reset.revision then (client, none)
  else
    ({ client with
        streamEpoch := epoch
        appliedEventSequence := 0
        baselineRevision := some reset.revision
        pendingFrame := none
        lastFrameSequence := 0 },
      some (.reset reset))

/-- A payload has been reassembled and decoded. -/
def recvPayload : Payload → CursorClient × Option CursorClientEvent
  | .frame frame => client.recvFrame frame
  | .eventBatch batch => client.recvBatch batch
  | .reset reset => client.recvReset reset

end CursorClient

/-- The acknowledgement that a payload is answered with. -/
def Payload.ack : Payload → Option CursorEventAck
  | .eventBatch batch => some ⟨batch.serverEpoch, batch.eventSequence⟩
  | _ => none

/-! ## Datagrams -/

/-- The protobuf decoders. -/
structure Decoders where
  frame : List UInt8 → Option CursorFrame
  batch : List UInt8 → Option CursorEventBatch
  reset : List UInt8 → Option CursorReset

/-- Decode a payload of some kind. -/
def Decoders.payload (decoders : Decoders) (bytes : List UInt8) :
    CursorPayloadKind → Except TransportError Payload
  | .frame => ((decoders.frame bytes).map .frame).elim (.error .decode) .ok
  | .eventBatch => ((decoders.batch bytes).map .eventBatch).elim (.error .decode) .ok
  | .reset => ((decoders.reset bytes).map .reset).elim (.error .decode) .ok
  | .unspecified => .error (.invalidMessage "unspecified cursor payload kind")

/-- What a datagram does in `recv`: the acknowledgement sent, and what the call returns, if it
returns. -/
structure RecvOutcome where
  client : CursorClient
  ack : Option CursorEventAck := none
  returned : Option (Except TransportError CursorClientEvent) := none

namespace CursorClient

variable (decoders : Decoders) (client : CursorClient)

/-- Count failed reassemblies. -/
def countFailures (n : ℕ) : CursorClient :=
  { client with
    stats := { client.stats with
      reassemblyFailures := saturatingAdd client.stats.reassemblyFailures n } }

/-- A chunk of a payload of a known kind. -/
def recvChunk (now : Instant) (kind : CursorPayloadKind) (chunk : CursorChunk) : RecvOutcome :=
  let pushed := client.reassembler.push now chunk
  let expired := pushed.1.expiredPayloads - client.reassembler.expiredPayloads
  let client := { client with reassembler := pushed.1 }.countFailures expired
  match pushed.2 with
  | .error e => { client := client.countFailures 1, returned := some (.error e) }
  | .ok none => { client := client }
  | .ok (some bytes) =>
    match decoders.payload bytes kind with
    | .error e => { client := client, returned := some (.error e) }
    | .ok payload =>
      let (client, event) := client.recvPayload payload
      { client := client, ack := payload.ack, returned := event.map .ok }

/-- A datagram, decoded. -/
def recvMessage (now : Instant) (message : Option Message) : RecvOutcome :=
  let client := { client with
    stats := { client.stats with
      datagramsReceived := saturatingAdd client.stats.datagramsReceived 1 } }
  match message with
  | none => { client := client, returned := some (.error .decode) }
  | some ⟨some (.serverPush ⟨some (.cursorChunk chunk)⟩)⟩ =>
    match CursorPayloadKind.tryFrom chunk.kind with
    | none =>
      { client := client
        returned := some (.error (.invalidMessage "unknown cursor payload kind")) }
    | some kind => client.recvChunk decoders now kind chunk
  | some _ => { client := client }

end CursorClient

namespace CursorClient

/-! ## What a datagram does -/

/-- The clients have the same stream: all but the chunks and the counts. -/
structure SameStream (client client' : CursorClient) : Prop where
  streamEpoch : client'.streamEpoch = client.streamEpoch
  appliedEventSequence : client'.appliedEventSequence = client.appliedEventSequence
  baselineRevision : client'.baselineRevision = client.baselineRevision
  pendingFrame : client'.pendingFrame = client.pendingFrame
  lastFrameSequence : client'.lastFrameSequence = client.lastFrameSequence

/-- A datagram leaves the stream as it is, and what it returns, if anything, is an error; or it
completes a payload, which the client takes with the stream as it was. -/
inductive Received (client : CursorClient) (outcome : RecvOutcome) : Prop where
  | unfinished (h : SameStream client outcome.client) (ack : outcome.ack = none)
    (error : ∀ event, outcome.returned ≠ some (.ok event))
  | payload (before : CursorClient) (h : SameStream client before) (payload : Payload)
    (client : outcome.client = (before.recvPayload payload).1) (ack : outcome.ack = payload.ack)
    (returned : outcome.returned = (before.recvPayload payload).2.map .ok)

theorem Received.of_same {client before : CursorClient} {outcome : RecvOutcome}
    (h : SameStream client before) (hreceived : Received before outcome) :
    Received client outcome := by
  have htrans : ∀ {after}, SameStream before after → SameStream client after := fun h' =>
    ⟨h'.1.trans h.1, h'.2.trans h.2, h'.3.trans h.3, h'.4.trans h.4, h'.5.trans h.5⟩
  rcases hreceived with ⟨h', hack, herror⟩ | ⟨before', h', payload, hclient, hack, hreturned⟩
  · exact .unfinished (htrans h') hack herror
  · exact .payload before' (htrans h') payload hclient hack hreturned

theorem recvChunk_cases (decoders : Decoders) (client : CursorClient) (now : Instant)
    (kind : CursorPayloadKind) (chunk : CursorChunk) :
    Received client (client.recvChunk decoders now kind chunk) := by
  unfold recvChunk
  dsimp only
  split
  · exact .unfinished ⟨rfl, rfl, rfl, rfl, rfl⟩ rfl (by simp)
  · exact .unfinished ⟨rfl, rfl, rfl, rfl, rfl⟩ rfl (by simp)
  · split
    · exact .unfinished ⟨rfl, rfl, rfl, rfl, rfl⟩ rfl (by simp)
    · next payload _ =>
      refine .payload _ ?_ payload rfl rfl rfl
      exact ⟨rfl, rfl, rfl, rfl, rfl⟩

/-- **A datagram** is counted and leaves the stream as it is, or completes a payload and does what
`recvPayload` does. -/
theorem recvMessage_cases (decoders : Decoders) (client : CursorClient) (now : Instant)
    (message : Option Message) : Received client (client.recvMessage decoders now message) := by
  unfold recvMessage
  dsimp only
  split
  · exact .unfinished ⟨rfl, rfl, rfl, rfl, rfl⟩ rfl (by simp)
  · split
    · exact .unfinished ⟨rfl, rfl, rfl, rfl, rfl⟩ rfl (by simp)
    · next kind _ =>
      -- the count of datagrams is no part of the stream
      refine Received.of_same ?_ (recvChunk_cases decoders _ now kind _)
      exact ⟨rfl, rfl, rfl, rfl, rfl⟩
  · exact .unfinished ⟨rfl, rfl, rfl, rfl, rfl⟩ rfl (by simp)

/-! ## What a payload does -/

variable {client : CursorClient}

/-- The client as it is when a batch is compared with what it has applied. -/
def enter (client : CursorClient) (batch : CursorEventBatch) : CursorClient :=
  (client.enterEpoch (epochOf batch.serverEpoch)).enterRevision batch

theorem enter_applied (client : CursorClient) (batch : CursorEventBatch) :
    (client.enter batch).appliedEventSequence = client.appliedEventSequence ∨
      (client.enter batch).appliedEventSequence = 0 := by
  unfold enter enterRevision enterEpoch
  split_ifs <;> simp

theorem enter_epoch (client : CursorClient) (batch : CursorEventBatch) :
    (client.enter batch).streamEpoch = epochOf batch.serverEpoch := by
  unfold enter enterRevision enterEpoch
  by_cases h : client.streamEpoch = epochOf batch.serverEpoch
  · rw [if_neg (not_not.mpr h)]
    split_ifs <;> exact h
  · rw [if_pos h]
    split_ifs <;> rfl

theorem enter_pendingFrame (client : CursorClient) (batch : CursorEventBatch) :
    (client.enter batch).pendingFrame = client.pendingFrame ∨
      (client.enter batch).pendingFrame = none := by
  unfold enter enterRevision enterEpoch
  split_ifs <;> simp

/-- **A batch** is handed over, or the client has applied one that is not before it. -/
theorem recvBatch_cases (client : CursorClient) (batch : CursorEventBatch) :
    ((client.recvBatch batch).2 = some (.eventBatch batch) ∧
        (client.recvBatch batch).1.appliedEventSequence = batch.eventSequence) ∨
      ((client.recvBatch batch).2 = none ∧
        batch.eventSequence ≤ (client.enter batch).appliedEventSequence ∧
        (client.recvBatch batch).1.appliedEventSequence =
          (client.enter batch).appliedEventSequence) := by
  unfold recvBatch
  by_cases h : batch.eventSequence ≤ (client.enter batch).appliedEventSequence
  · refine Or.inr ⟨?_, h, ?_⟩ <;> unfold enter at h <;> simp only [if_pos h]
    rfl
  · refine Or.inl ⟨?_, ?_⟩ <;> unfold enter at h <;> simp only [if_neg h]

theorem recvBatch_kept (client : CursorClient) (batch : CursorEventBatch) :
    (client.recvBatch batch).1.streamEpoch = (client.enter batch).streamEpoch ∧
      (client.recvBatch batch).1.pendingFrame = (client.enter batch).pendingFrame := by
  unfold recvBatch enter
  dsimp only
  split_ifs <;> exact ⟨rfl, rfl⟩

/-- The client would not take the batch: it knows the epoch, and the revision if the batch is a
baseline, and has applied a batch that is not before it. -/
def WindowClosed (client : CursorClient) (batch : CursorEventBatch) : Prop :=
  client.streamEpoch = epochOf batch.serverEpoch ∧
    (batch.baseline → client.baselineRevision = some batch.revision) ∧
    batch.eventSequence ≤ client.appliedEventSequence

instance (batch : CursorEventBatch) : Decidable (client.WindowClosed batch) := by
  unfold WindowClosed; infer_instance

theorem recvBatch_closed {batch : CursorEventBatch} (h : client.WindowClosed batch) :
    (client.recvBatch batch).2 = none := by
  obtain ⟨hepoch, hrev, hseq⟩ := h
  have henter : client.enter batch = client := by
    unfold enter enterRevision enterEpoch
    rw [if_neg (not_not.mpr hepoch), if_neg]
    rintro ⟨hbase, hne⟩
    exact hne (hrev hbase)
  rcases recvBatch_cases client batch with ⟨h, happ⟩ | ⟨h, -⟩
  · have happ' : ¬batch.eventSequence ≤ (client.enter batch).appliedEventSequence := by
      intro hle
      unfold recvBatch at h
      unfold enter at hle
      simp [hle] at h
    rw [henter] at happ'
    exact absurd hseq happ'
  · exact h

/-- A batch in front of an open window is handed over. -/
theorem recvBatch_open {batch : CursorEventBatch} (h : ¬client.WindowClosed batch)
    (hpos : 0 < batch.eventSequence) : (client.recvBatch batch).2 = some (.eventBatch batch) := by
  rcases recvBatch_cases client batch with ⟨hret, -⟩ | ⟨-, hle, -⟩
  · exact hret
  · unfold WindowClosed at h
    unfold enter enterRevision enterEpoch at hle
    by_cases hepoch : client.streamEpoch = epochOf batch.serverEpoch
    · rw [if_neg (not_not.mpr hepoch)] at hle
      split_ifs at hle with hrev
      · exact absurd hle (not_le.mpr hpos)
      · refine absurd ⟨hepoch, fun hbase => ?_, hle⟩ h
        by_contra hne
        exact hrev ⟨hbase, hne⟩
    · rw [if_pos hepoch] at hle
      split_ifs at hle <;> exact absurd hle (not_le.mpr hpos)

theorem recvReset_cases (client : CursorClient) (reset : CursorReset) :
    (client.recvReset reset = (client, none)) ∨
      ((client.recvReset reset).2 = some (.reset reset) ∧
        (client.recvReset reset).1.appliedEventSequence = 0 ∧
        (client.recvReset reset).1.pendingFrame = none) := by
  unfold recvReset
  dsimp only
  split_ifs
  · exact Or.inl rfl
  · exact Or.inr ⟨rfl, rfl, rfl⟩

theorem recvReset_epoch (client : CursorClient) (reset : CursorReset) :
    (client.recvReset reset).1.streamEpoch = epochOf reset.serverEpoch := by
  unfold recvReset
  dsimp only
  split_ifs with h
  · exact h.1
  · rfl

/-- **A frame** is handed over only if the client has applied everything up to its watermark; if
not, it may wait. -/
theorem recvFrame_cases (client : CursorClient) (frame : CursorFrame) :
    (client.recvFrame frame).1.appliedEventSequence = client.appliedEventSequence ∧
      (client.recvFrame frame).1.streamEpoch = client.streamEpoch ∧
      ((client.recvFrame frame).1.pendingFrame = client.pendingFrame ∨
        (client.recvFrame frame).1.pendingFrame = some frame) ∧
      ((client.recvFrame frame).2 = none ∨
        (client.recvFrame frame).2 = some (.frame frame) ∧ client.reaches frame) := by
  unfold recvFrame
  split_ifs with hold hreach hreplace
  · exact ⟨rfl, rfl, Or.inl rfl, Or.inl rfl⟩
  · exact ⟨rfl, rfl, Or.inl rfl, Or.inr ⟨rfl, hreach⟩⟩
  · exact ⟨rfl, rfl, Or.inr rfl, Or.inl rfl⟩
  · exact ⟨rfl, rfl, Or.inl rfl, Or.inl rfl⟩

/-- The frame that waits is handed over only if the client has applied everything up to its
watermark. -/
theorem recvPendingFrame_cases (client : CursorClient) :
    client.recvPendingFrame.1.appliedEventSequence = client.appliedEventSequence ∧
      client.recvPendingFrame.1.streamEpoch = client.streamEpoch ∧
      (client.recvPendingFrame.1.pendingFrame = client.pendingFrame ∨
        client.recvPendingFrame.1.pendingFrame = none) ∧
      (client.recvPendingFrame.2 = none ∨ ∃ frame, client.pendingFrame = some frame ∧
        client.recvPendingFrame.2 = some (.frame frame) ∧ client.reaches frame) := by
  unfold recvPendingFrame
  rcases hp : client.pendingFrame with _ | frame
  · exact ⟨rfl, rfl, Or.inl hp, Or.inl rfl⟩
  · dsimp only
    split_ifs with hreach hnew
    · exact ⟨rfl, rfl, Or.inr rfl, Or.inr ⟨frame, rfl, rfl, hreach⟩⟩
    · exact ⟨rfl, rfl, Or.inr rfl, Or.inl rfl⟩
    · exact ⟨rfl, rfl, Or.inl hp, Or.inl rfl⟩

/-- Before it reads, `recv` returns no batch. -/
theorem recvPendingFrame_batch? (client : CursorClient) :
    client.recvPendingFrame.2.bind CursorClientEvent.batch? = none := by
  rcases client.recvPendingFrame_cases.2.2.2 with h | ⟨frame, -, h, -⟩ <;> rw [h] <;> rfl

/-- Only a batch makes `recv` return a batch. -/
theorem recvPayload_batch? (client : CursorClient) (payload : Payload) :
    (client.recvPayload payload).2.bind CursorClientEvent.batch? = none ∨
      ∃ batch, payload = .eventBatch batch ∧
        (client.recvBatch batch).2 = some (.eventBatch batch) := by
  cases payload with
  | frame frame =>
    left
    show (client.recvFrame frame).2.bind CursorClientEvent.batch? = none
    rcases (client.recvFrame_cases frame).2.2.2 with h | ⟨h, -⟩ <;> rw [h] <;> rfl
  | eventBatch batch =>
    rcases client.recvBatch_cases batch with ⟨h, -⟩ | ⟨h, -⟩
    · exact Or.inr ⟨batch, rfl, h⟩
    · left
      show (client.recvBatch batch).2.bind CursorClientEvent.batch? = none
      rw [h]
      rfl
  | reset reset =>
    left
    show (client.recvReset reset).2.bind CursorClientEvent.batch? = none
    rcases client.recvReset_cases reset with h | ⟨h, -⟩ <;> rw [h] <;> rfl

/-- A frame that waits has waited before, or has just arrived. -/
theorem recvPayload_pendingFrame (client : CursorClient) (payload : Payload) :
    ∀ frame ∈ (client.recvPayload payload).1.pendingFrame,
      frame ∈ client.pendingFrame ∨ payload = .frame frame := by
  intro frame hframe
  cases payload with
  | frame frame' =>
    change frame ∈ (client.recvFrame frame').1.pendingFrame at hframe
    rcases (client.recvFrame_cases frame').2.2.1 with h | h
    · rw [h] at hframe
      exact Or.inl hframe
    · rw [h] at hframe
      exact Or.inr (by rw [Option.some.inj hframe])
  | eventBatch batch =>
    change frame ∈ (client.recvBatch batch).1.pendingFrame at hframe
    rw [(client.recvBatch_kept batch).2] at hframe
    rcases client.enter_pendingFrame batch with h | h
    · rw [h] at hframe
      exact Or.inl hframe
    · rw [h] at hframe
      cases hframe
  | reset reset =>
    change frame ∈ (client.recvReset reset).1.pendingFrame at hframe
    rcases client.recvReset_cases reset with h | ⟨-, -, h⟩
    · rw [h] at hframe
      exact Or.inl hframe
    · rw [h] at hframe
      cases hframe

/-- A payload that makes `recv` return a frame is that frame. -/
theorem recvPayload_frame {payload : Payload} {frame : CursorFrame}
    (h : (client.recvPayload payload).2 = some (.frame frame)) :
    payload = .frame frame ∧ client.reaches frame := by
  cases payload with
  | frame frame' =>
    change (client.recvFrame frame').2 = some (.frame frame) at h
    rcases (client.recvFrame_cases frame').2.2.2 with hret | ⟨hret, hreach⟩
    · rw [hret] at h
      cases h
    · rw [hret] at h
      cases h
      exact ⟨rfl, hreach⟩
  | eventBatch batch =>
    change (client.recvBatch batch).2 = some (.frame frame) at h
    rcases client.recvBatch_cases batch with ⟨hret, -⟩ | ⟨hret, -⟩ <;> rw [hret] at h <;> cases h
  | reset reset =>
    change (client.recvReset reset).2 = some (.frame frame) at h
    rcases client.recvReset_cases reset with hret | ⟨hret, -⟩ <;> rw [hret] at h <;> cases h

end CursorClient

end FlyRuler.Cursor
