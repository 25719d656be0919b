import FlyRuler.Cursor.Codec
import FlyRuler.Lib.ShiftRegister

/-!
# What the checksum detects

`checksum32` of `core/src/cursor.rs` is a linear feedback shift register of 32 bits that is fed with
bytes (`checksum32_eq`), so it tells two payloads apart whose differences lie within four
consecutive bytes.  `push` compares it with the checksum of the chunks when the last piece is in
place.
-/

namespace FlyRuler.Cursor

open FlyRuler.Pb FlyRuler.Store FlyRuler.Transport FlyRuler.Lib.Keyed FlyRuler.Lib.ShiftRegister

/-- The generator of the checksum. -/
def generator : BitVec 32 := 0xedb88320#32

theorem msb_generator : generator.msb = true := by decide

/-- **One bit of the checksum is one step of the register.** -/
theorem toBitVec_checksumStep (crc : UInt32) :
    (checksumStep crc).toBitVec = step generator crc.toBitVec := by
  unfold checksumStep step
  have hmask : (0xedb88320 &&& (0 - (crc &&& 1)) : UInt32).toBitVec =
      if crc.toBitVec.getLsbD 0 then generator else 0#32 := by
    rw [UInt32.toBitVec_and, UInt32.toBitVec_sub, UInt32.toBitVec_and]
    show generator &&& (0#32 - (crc.toBitVec &&& 1#32)) = _
    rw [BitVec.and_one_eq_setWidth_ofBool_getLsbD]
    cases crc.toBitVec.getLsbD 0
    · decide
    · decide
  rw [UInt32.toBitVec_xor, hmask]
  rfl

theorem toBitVec_iterate_checksumStep (k : ℕ) (crc : UInt32) :
    (checksumStep^[k] crc).toBitVec = (step generator)^[k] crc.toBitVec := by
  induction k generalizing crc with
  | zero => rfl
  | succ k ih => rw [Function.iterate_succ_apply, Function.iterate_succ_apply, ih,
      toBitVec_checksumStep]

/-- **The checksum is the register after all bytes**, inverted. -/
theorem checksum32_eq (payload : List UInt8) :
    (checksum32 payload).toBitVec =
      ~~~((payload.map UInt8.toBitVec).foldl (feed generator 8) 0xffffffff#32) := by
  have hfold : ∀ (payload : List UInt8) (crc : UInt32),
      (payload.foldl (fun crc byte => checksumStep^[8] (crc ^^^ byte.toUInt32)) crc).toBitVec =
        (payload.map UInt8.toBitVec).foldl (feed generator 8) crc.toBitVec := by
    intro payload
    induction payload with
    | nil => exact fun _ => rfl
    | cons byte payload ih =>
      intro crc
      rw [List.foldl_cons, ih, toBitVec_iterate_checksumStep, List.map_cons, List.foldl_cons]
      rfl
  unfold checksum32
  rw [UInt32.toBitVec_not, hfold]
  rfl

/-- **The payload `b` is `a` with an error burst**: they differ, and only within four consecutive
bytes. -/
structure Burst (a b : List UInt8) : Prop where
  length : a.length = b.length
  differ : a ≠ b
  window : ∃ i, ∀ j, j < i ∨ i + 4 ≤ j → a[j]? = b[j]?

theorem eq_window (a : List UInt8) (i : ℕ) :
    a = a.take i ++ (a.drop i).take 4 ++ a.drop (i + 4) := by
  rw [← List.drop_drop, List.append_assoc, List.take_append_drop, List.take_append_drop]

/-- A burst, with what is around it. -/
theorem Burst.exists_split {a b : List UInt8} (h : Burst a b) :
    ∃ before after as bs : List UInt8, a = before ++ as ++ after ∧ b = before ++ bs ++ after ∧
      as.length = bs.length ∧ as.length ≤ 4 ∧ as ≠ bs := by
  obtain ⟨i, hi⟩ := h.window
  have hbefore : a.take i = b.take i := by
    refine List.ext_getElem? fun j => ?_
    rw [List.getElem?_take, List.getElem?_take]
    split_ifs with hj
    · exact hi j (.inl hj)
    · rfl
  have hafter : a.drop (i + 4) = b.drop (i + 4) := by
    refine List.ext_getElem? fun j => ?_
    rw [List.getElem?_drop, List.getElem?_drop]
    exact hi _ (.inr (Nat.le_add_right _ _))
  have ha := eq_window a i
  have hb := eq_window b i
  rw [← hbefore, ← hafter] at hb
  refine ⟨a.take i, a.drop (i + 4), (a.drop i).take 4, (b.drop i).take 4, ha, hb, ?_, ?_, ?_⟩
  · rw [List.length_take, List.length_take, List.length_drop, List.length_drop, h.length]
  · exact List.length_take_le _ _
  · intro heq
    rw [← heq] at hb
    exact h.differ (ha.trans hb.symm)

/-- **The checksum detects a burst.** -/
theorem Burst.checksum32_ne {a b : List UInt8} (h : Burst a b) : checksum32 a ≠ checksum32 b := by
  obtain ⟨before, after, as, bs, rfl, rfl, hlen, hfour, hne⟩ := h.exists_split
  intro heq
  have hbits := congrArg UInt32.toBitVec heq
  rw [checksum32_eq, checksum32_eq, BitVec.not_inj] at hbits
  simp only [List.map_append] at hbits
  have hmap := foldl_burst msb_generator (by decide) (by simpa using hlen)
    (by rw [List.length_map]; omega) hbits
  exact hne (List.map_injective_iff.mpr (fun _ _ => UInt8.toBitVec_inj.mp) hmap)

namespace CursorReassembler

/-- The payload that `push` puts together from the pieces in place, if this chunk is the last one
missing. -/
def reassembled (r : CursorReassembler) (now : Instant) (chunk : CursorChunk) :
    Option (List UInt8) :=
  let p := ((r.expire now).partials.lookup (chunkKey chunk)).getD (.ofChunk now chunk)
  let chunks := p.chunks.set chunk.chunkIndex (some chunk.payload)
  if !validBounds chunk ∨ p.totalSize ≠ chunk.totalSize ∨ p.checksum ≠ chunk.checksum ∨
      p.chunks.length ≠ chunk.chunkCount ∨ chunks.any Option.isNone then none
  else some (chunks.flatMap fun bytes => bytes.getD [])

/-- **A payload that is put together and has another checksum** is rejected. -/
theorem push_of_reassembled {r : CursorReassembler} {now : Instant} {chunk : CursorChunk}
    {payload : List UInt8} (h : r.reassembled now chunk = some payload)
    (hsum : checksum32 payload ≠ chunk.checksum) :
    (r.push now chunk).2 = .error (.invalidMessage "cursor payload checksum mismatch") := by
  unfold reassembled at h
  dsimp only at h
  split_ifs at h with hbad
  cases h
  simp only [not_or] at hbad
  obtain ⟨hbounds, hsize, hchecksum, hcount, hfull⟩ := hbad
  unfold push place
  dsimp only
  rw [if_neg hbounds, if_neg (by simp only [not_or]; exact ⟨hsize, hchecksum, hcount⟩),
    if_neg hfull, if_pos (.inr hsum)]

end CursorReassembler

/-- **Error bursts are detected**: the checksum of the original is another one, and `push` rejects
what it puts together. -/
theorem burst_detected {original corrupted : List UInt8} (h : Burst original corrupted) :
    checksum32 original ≠ checksum32 corrupted ∧
      ∀ (r : CursorReassembler) (now : Instant) (chunk : CursorChunk),
        chunk.checksum = checksum32 original → r.reassembled now chunk = some corrupted →
        (r.push now chunk).2 = .error (.invalidMessage "cursor payload checksum mismatch") := by
  refine ⟨h.checksum32_ne, fun r now chunk hchunk hpayload => ?_⟩
  refine CursorReassembler.push_of_reassembled hpayload ?_
  rw [hchunk]
  exact h.checksum32_ne.symm

/-- A chunk that is a whole payload, with the checksum of another one. -/
def loneChunk (original payload : List UInt8) : CursorChunk where
  serverEpoch := none
  kind := CursorPayloadKind.frame.toInt
  sequence := 1
  chunkIndex := 0
  chunkCount := 1
  totalSize := payload.length
  checksum := checksum32 original
  payload := payload

theorem burst_detected_lone :
    Burst [1, 2, 3, 4, 5, 6] [1, 7, 3, 4, 8, 6] ∧
      checksum32 [1, 2, 3, 4, 5, 6] ≠ checksum32 [1, 7, 3, 4, 8, 6] ∧
      (CursorReassembler.push {} 0 (loneChunk [1, 2, 3, 4, 5, 6] [1, 7, 3, 4, 8, 6])).2 =
        .error (.invalidMessage "cursor payload checksum mismatch") := by
  have hburst : Burst [1, 2, 3, 4, 5, 6] [1, 7, 3, 4, 8, 6] := by
    refine ⟨rfl, by decide, 1, fun j hj => ?_⟩
    rcases hj with hj | hj
    · obtain rfl : j = 0 := by omega
      rfl
    · obtain ⟨k, rfl⟩ := Nat.exists_eq_add_of_le hj
      rcases k with _ | k
      · rfl
      · have hout : 6 ≤ 1 + 4 + (k + 1) := by omega
        rw [List.getElem?_eq_none hout, List.getElem?_eq_none hout]
  obtain ⟨hne, hpush⟩ := burst_detected hburst
  exact ⟨hburst, hne, hpush {} 0 _ rfl (by decide +kernel)⟩

end FlyRuler.Cursor
