import FlyRuler.Transport.Session
import FlyRuler.Lib.Chunks

/-!
# Payloads in chunks

`encode_cursor_chunks` and `CursorReassembler` of `core/src/cursor.rs`: a payload is cut into pieces
that fit a datagram, and the receiver collects the pieces of several payloads at a time, each under
its (kind, sequence) key.  What `push` leaves of the other keys is `lookup_push_of_ne`.
-/

namespace FlyRuler.Cursor

open FlyRuler.Pb FlyRuler.Store FlyRuler.Transport FlyRuler.Lib.Keyed FlyRuler.Lib.Chunks

/-- Maximum payload bytes of one datagram. -/
def cursorChunkBytes : ℕ := 1024

/-- Maximum size of a payload. -/
def maxCursorPayloadBytes : ℕ := 4 * 1024 * 1024

/-- Maximum time an incomplete payload is kept. -/
def cursorReassemblyTimeout : Duration := 1 / 2

/-- One bit of the checksum. -/
def checksumStep (crc : UInt32) : UInt32 := (crc >>> 1) ^^^ (0xedb88320 &&& (0 - (crc &&& 1)))

def checksum32 (payload : List UInt8) : UInt32 :=
  ~~~(payload.foldl (fun crc byte => checksumStep^[8] (crc ^^^ byte.toUInt32)) 0xffffffff)

/-! ## Encoding -/

/-- A chunk as a message of the server. -/
def pushMessage (chunk : CursorChunk) : Message := ⟨some (.serverPush ⟨some (.cursorChunk chunk)⟩)⟩

/-- `encode_cursor_chunks` of a value with the encoding `payload`.  Counts and sizes fit a `u32`. -/
def encodeCursorChunks (epoch : List UInt8) (kind : CursorPayloadKind) (sequence : ℕ)
    (payload : List UInt8) : Except TransportError (List Message) :=
  if payload.length = 0 ∨ maxCursorPayloadBytes < payload.length then
    .error (.invalidMessage "cursor payload exceeds allowed size")
  else
    let checksum := checksum32 payload
    let chunkCount := divCeil payload.length cursorChunkBytes
    .ok ((chunks cursorChunkBytes payload).mapIdx fun chunkIndex bytes => pushMessage
      { serverEpoch := some ⟨epoch⟩
        kind := kind.toInt
        sequence := sequence
        chunkIndex := chunkIndex
        chunkCount := chunkCount
        totalSize := payload.length
        checksum := checksum
        payload := bytes })

/-! ## Reassembly -/

structure PartialPayload where
  createdAt : Instant
  totalSize : ℕ
  checksum : UInt32
  chunks : List (Option (List UInt8))
  deriving DecidableEq

/-- What the chunks of one payload have in common. -/
abbrev PayloadKey := ℤ × ℕ

structure CursorReassembler where
  partials : Table PayloadKey PartialPayload := ∅
  expiredPayloads : ℕ := 0
  deriving DecidableEq

/-- The key of a chunk. -/
def chunkKey (chunk : CursorChunk) : PayloadKey := (chunk.kind, chunk.sequence)

/-- A partial payload that has not expired. -/
def PartialPayload.isFresh (now : Instant) (p : PartialPayload) : Bool :=
  decide (now - p.createdAt ≤ cursorReassemblyTimeout)

/-- The sizes and the index of a chunk are within bounds. -/
def validBounds (chunk : CursorChunk) : Bool :=
  chunk.totalSize ≠ 0 && decide (chunk.totalSize ≤ maxCursorPayloadBytes) &&
    chunk.chunkCount ≠ 0 &&
    decide (chunk.chunkCount ≤ divCeil maxCursorPayloadBytes cursorChunkBytes) &&
    decide (chunk.chunkIndex < chunk.chunkCount)

/-- A payload of which nothing has arrived, with the sizes of a chunk. -/
def PartialPayload.ofChunk (now : Instant) (chunk : CursorChunk) : PartialPayload where
  createdAt := now
  totalSize := chunk.totalSize
  checksum := chunk.checksum
  chunks := List.replicate chunk.chunkCount none

namespace CursorReassembler

/-- Drop what has expired. -/
def expire (r : CursorReassembler) (now : Instant) : CursorReassembler :=
  let fresh := retain (fun _ p => p.isFresh now) r.partials
  { partials := fresh
    expiredPayloads := min (r.expiredPayloads +
      (r.partials.entries.length - fresh.entries.length)) (u64Size - 1) }

/-- Put a chunk into the partial payload `p` of its key. -/
def place (r : CursorReassembler) (chunk : CursorChunk) (p : PartialPayload) :
    CursorReassembler × Except TransportError (Option (List UInt8)) :=
  let chunks := p.chunks.set chunk.chunkIndex (some chunk.payload)
  if chunks.any Option.isNone then
    ({ r with partials := r.partials.insert (chunkKey chunk) { p with chunks := chunks } },
      .ok none)
  else
    let payload := chunks.flatMap fun bytes => bytes.getD []
    let r := { r with partials := r.partials.erase (chunkKey chunk) }
    if payload.length ≠ chunk.totalSize ∨ checksum32 payload ≠ chunk.checksum then
      (r, .error (.invalidMessage "cursor payload checksum mismatch"))
    else (r, .ok (some payload))

/-- `push`, at the time `now`. -/
def push (r : CursorReassembler) (now : Instant) (chunk : CursorChunk) :
    CursorReassembler × Except TransportError (Option (List UInt8)) :=
  let r := r.expire now
  if !validBounds chunk then (r, .error (.invalidMessage "invalid cursor chunk bounds"))
  else
    let p := (r.partials.lookup (chunkKey chunk)).getD (.ofChunk now chunk)
    if p.totalSize ≠ chunk.totalSize ∨ p.checksum ≠ chunk.checksum ∨
        p.chunks.length ≠ chunk.chunkCount then
      ({ r with partials := r.partials.erase (chunkKey chunk) },
        .error (.invalidMessage "cursor chunk metadata changed during reassembly"))
    else r.place chunk p

/-! ## Other keys -/

theorem lookup_expire (r : CursorReassembler) (now : Instant) (key : PayloadKey) :
    (r.expire now).partials.lookup key =
      (r.partials.lookup key).filter (PartialPayload.isFresh now) :=
  lookup_retain _ _ _

theorem lookup_place_of_ne (r : CursorReassembler) (chunk : CursorChunk) (p : PartialPayload)
    {key : PayloadKey} (h : key ≠ chunkKey chunk) :
    (r.place chunk p).1.partials.lookup key = r.partials.lookup key := by
  unfold place
  dsimp only
  split_ifs
  · rw [lookup_insert, if_neg h]
  · rw [lookup_erase, if_neg h]
  · rw [lookup_erase, if_neg h]

/-- **What `push` leaves of the other keys**: everything that has not expired. -/
theorem lookup_push_of_ne (r : CursorReassembler) (now : Instant) (chunk : CursorChunk)
    {key : PayloadKey} (h : key ≠ chunkKey chunk) :
    (r.push now chunk).1.partials.lookup key =
      (r.partials.lookup key).filter (PartialPayload.isFresh now) := by
  rw [← lookup_expire]
  unfold push
  dsimp only
  split_ifs
  · rfl
  · rw [lookup_erase, if_neg h]
  · exact lookup_place_of_ne _ _ _ h

/-- The clock of a partial payload starts once. -/
theorem createdAt_push {r : CursorReassembler} {now : Instant} {chunk : CursorChunk}
    {key : PayloadKey} {q : PartialPayload}
    (h : (r.push now chunk).1.partials.lookup key = some q) :
    q.createdAt = now ∨
      ∃ q', r.partials.lookup key = some q' ∧ q'.createdAt = q.createdAt := by
  have hkept : ∀ q, (r.expire now).partials.lookup key = some q →
      r.partials.lookup key = some q := fun q hq => by
    rw [lookup_expire, Option.filter_eq_some_iff] at hq
    exact hq.1
  unfold push place at h
  dsimp only at h
  split_ifs at h
  · exact Or.inr ⟨q, hkept q h, rfl⟩
  · rw [lookup_erase] at h
    split_ifs at h
    exact Or.inr ⟨q, hkept q h, rfl⟩
  · rw [lookup_insert] at h
    split_ifs at h with hkey
    · cases h
      cases hp : (r.expire now).partials.lookup (chunkKey chunk) with
      | none => exact Or.inl rfl
      | some p => exact Or.inr ⟨p, by rw [hkey]; exact hkey ▸ hkept p (hkey ▸ hp), rfl⟩
    · exact Or.inr ⟨q, hkept q h, rfl⟩
  all_goals
    rw [lookup_erase] at h
    split_ifs at h
    exact Or.inr ⟨q, hkept q h, rfl⟩

end CursorReassembler

end FlyRuler.Cursor
