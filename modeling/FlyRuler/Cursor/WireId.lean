import FlyRuler.Pb
import FlyRuler.Store.Basic

/-!
# Ids on the wire

An aircraft id is a text: the hex digits of whatever bytes a message carried, or what a session file
says.  `hex_to_pb_uuid` of `core/src/cursor.rs` parses it as a UUID and, if that fails, cuts a text
of 32 bytes into pieces and parses it again.  A cut inside a character panics; a panic is `none`.

* `isWireId_iff`: the ids that are the digits of sixteen bytes.
* `hexToPbUuid_faithful_iff`: exactly these come back from the wire.
-/

namespace FlyRuler.Cursor

open FlyRuler.Pb FlyRuler.Store

/-! ## Hex digits -/

/-- The value of a hex digit of either case. -/
def hexValue (c : Char) : Option UInt8 :=
  if '0' ≤ c ∧ c ≤ '9' then some (UInt8.ofNat (c.toNat - '0'.toNat))
  else if 'a' ≤ c ∧ c ≤ 'f' then some (UInt8.ofNat (c.toNat - 'a'.toNat + 10))
  else if 'A' ≤ c ∧ c ≤ 'F' then some (UInt8.ofNat (c.toNat - 'A'.toNat + 10))
  else none

def hexBytes : List Char → Option (List UInt8)
  | [] => some []
  | [_] => none
  | high :: low :: rest => do
    let high ← hexValue high
    let low ← hexValue low
    let bytes ← hexBytes rest
    return ((high <<< 4) ||| low) :: bytes

/-- The digits of a byte. -/
def hexPair (b : UInt8) : List Char := [hexDigit (b >>> 4), hexDigit (b &&& 0x0f)]

theorem uuidToHex_toList (uuid : Uuid) : (uuidToHex uuid).toList = uuid.value.flatMap hexPair :=
  String.toList_ofList

theorem hexValue_hexPair (b : UInt8) :
    ∃ high low, hexPair b = [high, low] ∧ ∃ h l, hexValue high = some h ∧ hexValue low = some l ∧
      (h <<< 4) ||| l = b := by
  refine ⟨hexDigit (b >>> 4), hexDigit (b &&& 0x0f), rfl, b >>> 4, b &&& 0x0f, ?_⟩
  have hall : ∀ k : Fin 256,
      hexValue (hexDigit (UInt8.ofNat k >>> 4)) = some (UInt8.ofNat k >>> 4) ∧
      hexValue (hexDigit (UInt8.ofNat k &&& 0x0f)) = some (UInt8.ofNat k &&& 0x0f) ∧
      ((UInt8.ofNat k >>> 4) <<< 4) ||| (UInt8.ofNat k &&& 0x0f) = UInt8.ofNat k := by
    decide +kernel
  have hb := hall ⟨b.toNat, b.toNat_lt⟩
  rwa [UInt8.ofNat_toNat] at hb

theorem hexBytes_flatMap (bytes : List UInt8) : hexBytes (bytes.flatMap hexPair) = some bytes := by
  induction bytes with
  | nil => rfl
  | cons b bytes ih =>
    obtain ⟨high, low, hpair, h, l, hh, hl, hb⟩ := hexValue_hexPair b
    rw [List.flatMap_cons, hpair, List.cons_append, List.singleton_append, hexBytes, hh, hl, ih]
    simp [hb]

theorem length_flatMap_hexPair (bytes : List UInt8) :
    (bytes.flatMap hexPair).length = 2 * bytes.length := by
  induction bytes with
  | nil => rfl
  | cons b bytes ih =>
    rw [List.flatMap_cons, List.length_append, ih, List.length_cons]
    simp only [hexPair, List.length_cons, List.length_nil]
    omega

theorem length_hexBytes : ∀ {cs : List Char} {bytes : List UInt8}, hexBytes cs = some bytes →
    cs.length = 2 * bytes.length
  | [], bytes, h => by
    cases h
    rfl
  | [_], _, h => by cases h
  | high :: low :: rest, bytes, h => by
    rw [hexBytes] at h
    simp only [Option.bind_eq_bind, Option.bind_eq_some_iff] at h
    obtain ⟨h, _, l, _, tail, htail, heq⟩ := h
    cases heq
    have ih := length_hexBytes htail
    simp only [List.length_cons] at ih ⊢
    omega

/-! ## The parser -/

/-- The 8-4-4-4-12 form. -/
def parseHyphenated (cs : List Char) : Option (List UInt8) :=
  if cs.length = 36 ∧ cs[8]? = some '-' ∧ cs[13]? = some '-' ∧ cs[18]? = some '-' ∧
      cs[23]? = some '-' then
    hexBytes (cs.take 8 ++ (cs.drop 9).take 4 ++ (cs.drop 14).take 4 ++ (cs.drop 19).take 4 ++
      cs.drop 24)
  else none

/-- `Uuid::parse_str`: the plain, the hyphenated, the braced and the URN form. -/
def parseStr (cs : List Char) : Option (List UInt8) :=
  if cs.length = 32 then hexBytes cs
  else if cs.length = 36 then parseHyphenated cs
  else if cs.length = 38 ∧ cs.head? = some '{' ∧ cs.getLast? = some '}' then
    parseHyphenated (cs.drop 1).dropLast
  else if cs.length = 45 ∧ cs.take 9 = "urn:uuid:".toList then parseHyphenated (cs.drop 9)
  else none

theorem length_parseHyphenated {cs : List Char} {bytes : List UInt8}
    (h : parseHyphenated cs = some bytes) : bytes.length = 16 := by
  unfold parseHyphenated at h
  split_ifs at h with hform
  have hlength := length_hexBytes h
  simp only [List.length_append, List.length_take, List.length_drop] at hlength
  omega

/-- Whatever the parser accepts has sixteen bytes. -/
theorem length_parseStr {cs : List Char} {bytes : List UInt8} (h : parseStr cs = some bytes) :
    bytes.length = 16 := by
  unfold parseStr at h
  split_ifs at h with h32
  · have hlength := length_hexBytes h
    omega
  · exact length_parseHyphenated h
  · exact length_parseHyphenated h
  · exact length_parseHyphenated h

/-! ## Slices of a text -/

/-- The text before and after a byte offset; `none` if it is not between two characters. -/
def splitAtByte : ℕ → List Char → Option (List Char × List Char)
  | 0, cs => some ([], cs)
  | _ + 1, [] => none
  | n + 1, c :: cs =>
    if c.utf8Size ≤ n + 1 then
      (splitAtByte (n + 1 - c.utf8Size) cs).map fun parts => (c :: parts.1, parts.2)
    else none

/-- `&value[start..stop]`. -/
def sliceBytes (cs : List Char) (start stop : ℕ) : Option (List Char) := do
  let (_, rest) ← splitAtByte start cs
  let (slice, _) ← splitAtByte (stop - start) rest
  return slice

/-- `hex_to_pb_uuid`. -/
def hexToPbUuid (value : AircraftId) : Option (Option Uuid) :=
  match parseStr value.toList with
  | some bytes => some (some ⟨bytes⟩)
  | none =>
    if value.utf8ByteSize = 32 then do
      let a ← sliceBytes value.toList 0 8
      let b ← sliceBytes value.toList 8 12
      let c ← sliceBytes value.toList 12 16
      let d ← sliceBytes value.toList 16 20
      let e ← sliceBytes value.toList 20 32
      return (parseStr (a ++ '-' :: b ++ '-' :: c ++ '-' :: d ++ '-' :: e)).map Uuid.mk
    else some none

/-! ## Ids that survive the wire -/

/-- The id is 32 lowercase hex digits. -/
def isWireId (id : AircraftId) : Prop :=
  id.toList.length = 32 ∧ ∀ c ∈ id.toList, c ∈ "0123456789abcdef".toList

instance : DecidablePred isWireId := fun id =>
  @instDecidableAnd _ _ (inferInstanceAs (Decidable (id.toList.length = 32)))
    (List.decidableBAll (fun c => c ∈ "0123456789abcdef".toList) id.toList)

theorem exists_hexPair {high low : Char} (hh : high ∈ "0123456789abcdef".toList)
    (hl : low ∈ "0123456789abcdef".toList) : ∃ b, hexPair b = [high, low] := by
  have hall : ("0123456789abcdef".toList.all fun high => "0123456789abcdef".toList.all fun low =>
      hexPair (((hexValue high).getD 0 <<< 4) ||| (hexValue low).getD 0) = [high, low]) = true := by
    decide +kernel
  simp only [List.all_eq_true, decide_eq_true_eq] at hall
  exact ⟨_, hall high hh low hl⟩

theorem exists_bytes : ∀ (n : ℕ) (cs : List Char), cs.length = 2 * n →
    (∀ c ∈ cs, c ∈ "0123456789abcdef".toList) →
    ∃ bytes : List UInt8, bytes.length = n ∧ bytes.flatMap hexPair = cs
  | 0, cs, hlength, _ => ⟨[], rfl, (List.length_eq_zero_iff.mp hlength).symm⟩
  | n + 1, [], hlength, _ => by
    rw [List.length_nil] at hlength
    omega
  | n + 1, [_], hlength, _ => by
    rw [List.length_singleton] at hlength
    omega
  | n + 1, high :: low :: cs, hlength, hdigits => by
    simp only [List.forall_mem_cons] at hdigits
    obtain ⟨hh, hl, hcs⟩ := hdigits
    simp only [List.length_cons] at hlength
    obtain ⟨b, hb⟩ := exists_hexPair hh hl
    obtain ⟨bytes, hbytes, heq⟩ := exists_bytes n cs (by omega) hcs
    exact ⟨b :: bytes, by rw [List.length_cons, hbytes], by rw [List.flatMap_cons, hb, heq]; rfl⟩

theorem hexPair_digits (b : UInt8) : ∀ c ∈ hexPair b, c ∈ "0123456789abcdef".toList := by
  have hall : ∀ k : Fin 256,
      ((hexPair (UInt8.ofNat k)).all fun c => c ∈ "0123456789abcdef".toList) = true := by
    decide +kernel
  have hb := hall ⟨b.toNat, b.toNat_lt⟩
  simp only [List.all_eq_true, decide_eq_true_eq] at hb
  rwa [UInt8.ofNat_toNat] at hb

/-- **The digits of a byte field** are such an id exactly if there are sixteen bytes. -/
theorem isWireId_uuidToHex (uuid : Uuid) : isWireId (uuidToHex uuid) ↔ uuid.value.length = 16 := by
  unfold isWireId
  rw [uuidToHex_toList, length_flatMap_hexPair]
  constructor
  · rintro ⟨hlength, -⟩
    omega
  · intro hlength
    refine ⟨by omega, fun c hc => ?_⟩
    obtain ⟨b, -, hb⟩ := List.mem_flatMap.mp hc
    exact hexPair_digits b c hb

theorem isWireId_iff {id : AircraftId} :
    isWireId id ↔ ∃ uuid : Uuid, uuid.value.length = 16 ∧ uuidToHex uuid = id := by
  constructor
  · rintro ⟨hlength, hdigits⟩
    obtain ⟨bytes, hbytes, heq⟩ := exists_bytes 16 id.toList (by omega) hdigits
    refine ⟨⟨bytes⟩, hbytes, String.toList_injective ?_⟩
    rw [uuidToHex_toList, heq]
  · rintro ⟨uuid, hlength, rfl⟩
    exact (isWireId_uuidToHex uuid).mpr hlength

theorem hexToPbUuid_uuidToHex {uuid : Uuid} (h : uuid.value.length = 16) :
    hexToPbUuid (uuidToHex uuid) = some (some uuid) := by
  have hparse : parseStr (uuidToHex uuid).toList = some uuid.value := by
    rw [uuidToHex_toList, parseStr, if_pos (by rw [length_flatMap_hexPair, h]), hexBytes_flatMap]
  rw [hexToPbUuid, hparse]

/-- A UUID on the wire has sixteen bytes. -/
theorem length_hexToPbUuid {id : AircraftId} {uuid : Uuid}
    (h : hexToPbUuid id = some (some uuid)) : uuid.value.length = 16 := by
  unfold hexToPbUuid at h
  rcases hparse : parseStr id.toList with _ | bytes
  · rw [hparse] at h
    dsimp only at h
    split_ifs at h
    · simp only [Option.bind_eq_bind, Option.bind_eq_some_iff] at h
      obtain ⟨a, _, b, _, c, _, d, _, e, _, heq⟩ := h
      obtain ⟨bytes, hbytes, rfl⟩ := Option.map_eq_some_iff.mp (Option.some.inj heq)
      exact length_parseStr hbytes
    · cases h
  · rw [hparse] at h
    cases h
    exact length_parseStr hparse

/-- **Exactly these ids come back from the wire.** -/
theorem hexToPbUuid_faithful_iff (id : AircraftId) :
    (∃ uuid, hexToPbUuid id = some (some uuid) ∧ uuidToHex uuid = id) ↔ isWireId id := by
  constructor
  · rintro ⟨uuid, hwire, rfl⟩
    exact (isWireId_uuidToHex uuid).mpr (length_hexToPbUuid hwire)
  · intro h
    obtain ⟨uuid, hlength, rfl⟩ := isWireId_iff.mp h
    exact ⟨uuid, hexToPbUuid_uuidToHex hlength, rfl⟩

end FlyRuler.Cursor
