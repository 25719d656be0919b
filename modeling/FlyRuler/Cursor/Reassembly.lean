import FlyRuler.Cursor.Codec
import Mathlib.Data.List.Induction

/-!
# Chunks come back as payloads

Several payloads under different keys are cut into chunks (`Parcel`), and the chunks arrive
interleaved, out of order and more than once.  While a payload is incomplete, its partial payload
holds exactly the pieces that have arrived (`HasSlots`); `push_chunk` is one arrival, and
`reassembly_spec` the whole run: the push that supplies the last missing chunk gives the payload,
every earlier one gives nothing.
-/

namespace FlyRuler.Cursor

open FlyRuler.Pb FlyRuler.Store FlyRuler.Transport FlyRuler.Lib.Keyed FlyRuler.Lib.Chunks

/-- **A payload that can be sent**, with its key and epoch. -/
structure Parcel where
  epoch : List UInt8
  kind : CursorPayloadKind
  sequence : ℕ
  payload : List UInt8
  nonempty : 0 < payload.length
  fits : payload.length ≤ maxCursorPayloadBytes

namespace Parcel

variable (p : Parcel)

def key : PayloadKey := (p.kind.toInt, p.sequence)

/-- The number of chunks. -/
def count : ℕ := divCeil p.payload.length cursorChunkBytes

/-- The `i`-th chunk. -/
def chunkAt (i : ℕ) : CursorChunk where
  serverEpoch := some ⟨p.epoch⟩
  kind := p.kind.toInt
  sequence := p.sequence
  chunkIndex := i
  chunkCount := p.count
  totalSize := p.payload.length
  checksum := checksum32 p.payload
  payload := chunk cursorChunkBytes p.payload i

/-- All chunks are among `cs`. -/
def Complete (cs : List CursorChunk) : Prop := ∀ i < p.count, p.chunkAt i ∈ cs

instance (cs : List CursorChunk) : Decidable (p.Complete cs) := by unfold Complete; infer_instance

/-- **The encoder sends the chunks of the parcel.** -/
theorem encodeCursorChunks_eq :
    encodeCursorChunks p.epoch p.kind p.sequence p.payload =
      .ok ((List.range p.count).map fun i => pushMessage (p.chunkAt i)) := by
  have hne := p.nonempty
  have hfits := p.fits
  unfold encodeCursorChunks
  rw [if_neg (by omega)]
  refine congrArg Except.ok (List.ext_getElem? fun i => ?_)
  unfold chunks chunkAt count
  rw [List.getElem?_mapIdx, List.getElem?_map, List.getElem?_map, Option.map_map]
  by_cases hi : i < divCeil p.payload.length cursorChunkBytes
  · simp [hi]
  · simp [hi]

@[simp] theorem chunkKey_chunkAt (i : ℕ) : chunkKey (p.chunkAt i) = p.key := rfl

theorem count_pos : 0 < p.count := divCeil_pos (by decide) p.nonempty

theorem validBounds_chunkAt {i : ℕ} (hi : i < p.count) : validBounds (p.chunkAt i) = true := by
  have hne := p.nonempty
  have hcount := p.count_pos
  have hle : p.count ≤ divCeil maxCursorPayloadBytes cursorChunkBytes :=
    divCeil_le_divCeil p.fits _
  unfold validBounds chunkAt
  simp only [Bool.and_eq_true, decide_eq_true_eq]
  exact ⟨⟨⟨⟨by omega, p.fits⟩, by omega⟩, hle⟩, hi⟩

theorem chunkAt_injective {i j : ℕ} (h : p.chunkAt i = p.chunkAt j) : i = j :=
  congrArg CursorChunk.chunkIndex h

/-- Nothing has arrived. -/
def unseen (now : Instant) : PartialPayload :=
  .ofChunk now (p.chunkAt 0)

/-- **The reassembler holds exactly the chunks at the indices `seen`.** -/
def HasSlots (r : CursorReassembler) (seen : ℕ → Bool) : Prop :=
  ∀ now, ∃ t, (r.partials.lookup p.key).getD (p.unseen now) =
    ⟨t, p.payload.length, checksum32 p.payload,
      slots (chunk cursorChunkBytes p.payload) p.count seen⟩

variable {p} {r : CursorReassembler} {seen : ℕ → Bool}

theorem hasSlots_of_lookup_none (h : r.partials.lookup p.key = none) :
    p.HasSlots r fun _ => false := by
  intro now
  refine ⟨now, ?_⟩
  rw [h, slots_none]
  rfl

theorem HasSlots.congr (h : p.HasSlots r seen) {r' : CursorReassembler} {seen' : ℕ → Bool}
    (hr : r'.partials.lookup p.key = r.partials.lookup p.key) (hseen : seen' = seen) :
    p.HasSlots r' seen' := by
  unfold HasSlots at *
  rw [hr, hseen]
  exact h

end Parcel

namespace CursorReassembler

variable {p : Parcel} {r : CursorReassembler} {seen : ℕ → Bool} {now : Instant} {i : ℕ}

/-- Nothing in the reassembler has expired. -/
def NoneExpired (r : CursorReassembler) (now : Instant) : Prop :=
  ∀ key p, r.partials.lookup key = some p → now - p.createdAt ≤ cursorReassemblyTimeout

theorem NoneExpired.lookup_expire (h : r.NoneExpired now) (key : PayloadKey) :
    (r.expire now).partials.lookup key = r.partials.lookup key := by
  rw [CursorReassembler.lookup_expire]
  cases hp : r.partials.lookup key with
  | none => rfl
  | some q => simp [Option.filter, PartialPayload.isFresh, h key q hp]

/-- A chunk goes into its slot. -/
theorem push_eq_place (hfresh : r.NoneExpired now) (hi : i < p.count) (hslots : p.HasSlots r seen) :
    ∃ t, r.push now (p.chunkAt i) = (r.expire now).place (p.chunkAt i)
      ⟨t, p.payload.length, checksum32 p.payload,
        slots (chunk cursorChunkBytes p.payload) p.count seen⟩ := by
  obtain ⟨t, ht⟩ := hslots now
  have hlookup : ((r.expire now).partials.lookup (chunkKey (p.chunkAt i))).getD
      (.ofChunk now (p.chunkAt i)) = ⟨t, p.payload.length, checksum32 p.payload,
        slots (chunk cursorChunkBytes p.payload) p.count seen⟩ := by
    rw [hfresh.lookup_expire, Parcel.chunkKey_chunkAt]
    exact ht
  refine ⟨t, ?_⟩
  unfold push
  dsimp only
  rw [p.validBounds_chunkAt hi, hlookup, if_neg (by simp), if_neg]
  simp [Parcel.chunkAt]

/-- **One arrival**: the row of slots gains one piece, and the payload comes out when no slot is
empty. -/
theorem push_chunk (hfresh : r.NoneExpired now) (hi : i < p.count) (hslots : p.HasSlots r seen) :
    (∀ j < p.count, j = i ∨ seen j = true) ∧
        (r.push now (p.chunkAt i)).2 = .ok (some p.payload) ∨
      ¬(∀ j < p.count, j = i ∨ seen j = true) ∧ (r.push now (p.chunkAt i)).2 = .ok none ∧
        p.HasSlots (r.push now (p.chunkAt i)).1 fun j => decide (j = i) || seen j := by
  obtain ⟨t, ht⟩ := push_eq_place hfresh hi hslots
  have hset : (slots (chunk cursorChunkBytes p.payload) p.count seen).set i
      (some (chunk cursorChunkBytes p.payload i)) =
        slots (chunk cursorChunkBytes p.payload) p.count fun j => decide (j = i) || seen j :=
    slots_set
  have hfull : (∀ j < p.count, j = i ∨ seen j = true) ↔
      ∀ j < p.count, (decide (j = i) || seen j) = true := by
    simp only [Bool.or_eq_true, decide_eq_true_eq]
  rw [ht, hfull, ← any_isNone_slots (f := chunk cursorChunkBytes p.payload)]
  unfold place
  dsimp only [Parcel.chunkAt]
  rw [hset]
  by_cases hany : (slots (chunk cursorChunkBytes p.payload) p.count
      fun j => decide (j = i) || seen j).any Option.isNone = false
  · refine Or.inl ⟨hany, ?_⟩
    have hwhole : (slots (chunk cursorChunkBytes p.payload) p.count
        fun j => decide (j = i) || seen j).flatMap (fun bytes => bytes.getD []) = p.payload := by
      rw [flatMap_slots (any_isNone_slots.mp hany), List.flatMap_def]
      exact flatten_chunks (by decide) p.payload
    rw [hany, if_neg (by simp), hwhole]
    simp
  · refine Or.inr ⟨hany, ?_⟩
    rw [if_pos (by simpa using hany)]
    refine ⟨rfl, fun now' => ⟨t, ?_⟩⟩
    have hkey : p.key = chunkKey (p.chunkAt i) := rfl
    exact congrArg (fun o => o.getD (p.unseen now')) ((lookup_insert _ _ _ _).trans (if_pos hkey))

/-! ## Whole runs -/

/-- The reassembler after the chunks `pushes`, each at its time. -/
def pushAll (pushes : List (Instant × CursorChunk)) : CursorReassembler :=
  pushes.foldl (fun r e => (r.push e.1 e.2).1) {}

theorem pushAll_concat (pushes : List (Instant × CursorChunk)) (e : Instant × CursorChunk) :
    pushAll (pushes ++ [e]) = ((pushAll pushes).push e.1 e.2).1 :=
  List.foldl_concat _ _ _ _

/-- A run of pushes at one time. -/
theorem createdAt_pushAll {pushes : List (Instant × CursorChunk)} {t : Instant}
    (ht : ∀ e ∈ pushes, e.1 = t) {key : PayloadKey} {q : PartialPayload}
    (hq : (pushAll pushes).partials.lookup key = some q) : q.createdAt = t := by
  induction pushes using List.reverseRecOn generalizing q with
  | nil => cases hq
  | append_singleton pre e ih =>
    rw [pushAll_concat] at hq
    rcases createdAt_push hq with hnow | ⟨q', hq', hsame⟩
    · rw [hnow, ht e (by simp)]
    · rw [← hsame]
      exact ih (fun e' he' => ht e' (List.mem_append_left _ he')) hq'

/-- **The chunks of the parcels arrive**, in any order and number, but nothing expires and no chunk
comes after its payload is complete. -/
structure Delivered (parcels : List Parcel) (pushes : List (Instant × CursorChunk)) : Prop where
  keys : ∀ p ∈ parcels, ∀ q ∈ parcels, p.key = q.key → p = q
  encoded : ∀ e ∈ pushes, ∃ p ∈ parcels, ∃ messages,
    encodeCursorChunks p.epoch p.kind p.sequence p.payload = .ok messages ∧
      pushMessage e.2 ∈ messages
  noneExpires : ∀ pre e, pre ++ [e] <+: pushes → (pushAll pre).NoneExpired e.1
  noneRepeats : ∀ pre e, pre ++ [e] <+: pushes → ∀ p ∈ parcels, chunkKey e.2 = p.key →
    ¬p.Complete (pre.map Prod.snd)

variable {parcels : List Parcel} {pushes : List (Instant × CursorChunk)}

theorem Delivered.of_prefix (h : Delivered parcels pushes) {pre : List (Instant × CursorChunk)}
    (hpre : pre <+: pushes) : Delivered parcels pre where
  keys := h.keys
  encoded := fun e he => h.encoded e (hpre.subset he)
  noneExpires := fun pre' e hpre' => h.noneExpires pre' e (hpre'.trans hpre)
  noneRepeats := fun pre' e hpre' => h.noneRepeats pre' e (hpre'.trans hpre)

/-- A chunk that arrives is a chunk of the parcel with its key. -/
theorem Delivered.eq_chunkAt (h : Delivered parcels pushes) {e : Instant × CursorChunk}
    (he : e ∈ pushes) {p : Parcel} (hp : p ∈ parcels) (hkey : chunkKey e.2 = p.key) :
    ∃ i < p.count, e.2 = p.chunkAt i := by
  obtain ⟨q, hq, messages, henc, hmem⟩ := h.encoded e he
  rw [q.encodeCursorChunks_eq, Except.ok.injEq] at henc
  rw [← henc, List.mem_map] at hmem
  obtain ⟨i, hi, heq⟩ := hmem
  have hchunk : e.2 = q.chunkAt i := by
    unfold pushMessage at heq
    simpa using heq.symm
  have hqp : q = p := h.keys q hq p hp (by rw [← hkey, hchunk]; rfl)
  subst hqp
  exact ⟨i, List.mem_range.mp hi, hchunk⟩

/-- The indices of the chunks of `p` among `pushes`. -/
def seenIn (p : Parcel) (pushes : List (Instant × CursorChunk)) (i : ℕ) : Bool :=
  decide (p.chunkAt i ∈ pushes.map Prod.snd)

theorem seenIn_concat (p : Parcel) (pushes : List (Instant × CursorChunk)) (t : Instant) (i : ℕ) :
    seenIn p (pushes ++ [(t, p.chunkAt i)]) = fun j => decide (j = i) || seenIn p pushes j := by
  funext j
  unfold seenIn
  rw [← Bool.decide_or, decide_eq_decide, List.map_append, List.mem_append, List.map_singleton,
    List.mem_singleton, or_comm]
  exact or_congr_left ⟨p.chunkAt_injective, fun hj => by rw [hj]⟩

theorem seenIn_concat_of_ne {p : Parcel} {e : Instant × CursorChunk} (h : p.key ≠ chunkKey e.2)
    (pushes : List (Instant × CursorChunk)) : seenIn p (pushes ++ [e]) = seenIn p pushes := by
  funext j
  have hne : p.chunkAt j ≠ e.2 := fun heq => h (by rw [← heq]; rfl)
  unfold seenIn
  simp [hne]

theorem complete_iff (p : Parcel) (pushes : List (Instant × CursorChunk)) :
    p.Complete (pushes.map Prod.snd) ↔ ∀ i < p.count, seenIn p pushes i = true := by
  unfold Parcel.Complete seenIn
  simp only [decide_eq_true_eq]

/-- **The invariant of a run**: a payload that is not complete is held with exactly the pieces that
have arrived. -/
theorem Delivered.hasSlots (h : Delivered parcels pushes) {p : Parcel} (hp : p ∈ parcels)
    (hopen : ¬p.Complete (pushes.map Prod.snd)) :
    p.HasSlots (pushAll pushes) (seenIn p pushes) := by
  induction pushes using List.reverseRecOn with
  | nil => exact Parcel.hasSlots_of_lookup_none rfl
  | append_singleton pre e ih =>
    have hpre : Delivered parcels pre := h.of_prefix (List.prefix_append _ _)
    have hbefore : ¬p.Complete (pre.map Prod.snd) := fun hc => hopen fun i hi => by
      rw [List.map_append]; exact List.mem_append_left _ (hc i hi)
    have hslots := ih hpre hbefore
    have hfresh := h.noneExpires pre e (List.prefix_refl _)
    rw [pushAll_concat]
    by_cases hkey : p.key = chunkKey e.2
    · obtain ⟨i, hi, he⟩ := h.eq_chunkAt (by simp) hp hkey.symm
      obtain ⟨t, c⟩ := e
      subst he
      rw [seenIn_concat]
      rcases push_chunk hfresh hi hslots with ⟨hall, -⟩ | ⟨-, -, hnext⟩
      · refine absurd ?_ hopen
        rw [complete_iff, seenIn_concat]
        intro j hj
        simpa using hall j hj
      · exact hnext
    · refine hslots.congr ?_ (seenIn_concat_of_ne hkey pre)
      rw [lookup_push_of_ne _ _ _ hkey, ← lookup_expire, hfresh.lookup_expire]

/-- **Reassembly.**  The push that supplies the last missing chunk of a payload gives exactly the
payload, and every earlier push of a chunk of it gives nothing; and whatever is pushed, the other
payloads that have not expired are kept as they are. -/
theorem reassembly_spec (h : Delivered parcels pushes) :
    (∀ pre e, pre ++ [e] <+: pushes → ∀ p ∈ parcels, chunkKey e.2 = p.key →
      ((pushAll pre).push e.1 e.2).2 =
        .ok (if p.Complete ((pre ++ [e]).map Prod.snd) then some p.payload else none)) ∧
    ∀ (r : CursorReassembler) (now : Instant) (chunk : CursorChunk) (key : PayloadKey)
      (q : PartialPayload), key ≠ chunkKey chunk → r.partials.lookup key = some q →
        now - q.createdAt ≤ cursorReassemblyTimeout →
          (r.push now chunk).1.partials.lookup key = some q := by
  constructor
  · intro pre e hpre p hp hkey
    have hdel := h.of_prefix hpre
    have hslots := (hdel.of_prefix (List.prefix_append pre [e])).hasSlots hp
      (h.noneRepeats pre e hpre p hp hkey)
    obtain ⟨i, hi, he⟩ := hdel.eq_chunkAt (by simp) hp hkey
    obtain ⟨t, c⟩ := e
    subst he
    have hcomplete : p.Complete ((pre ++ [(t, p.chunkAt i)]).map Prod.snd) ↔
        ∀ j < p.count, j = i ∨ seenIn p pre j = true := by
      rw [complete_iff, seenIn_concat]
      simp only [Bool.or_eq_true, decide_eq_true_eq]
    rcases push_chunk (h.noneExpires pre _ hpre) hi hslots with ⟨hall, hout⟩ | ⟨hmissing, hout, -⟩
    · rw [hout, if_pos (hcomplete.mpr hall)]
    · rw [hout, if_neg fun hc => hmissing (hcomplete.mp hc)]
  · intro r now chunk key q hne hq hfresh
    rw [lookup_push_of_ne r now chunk hne, hq]
    simp [Option.filter, PartialPayload.isFresh, hfresh]

/-- A payload of one byte more than a chunk. -/
def twoChunks : Parcel where
  epoch := [7]
  kind := .eventBatch
  sequence := 1
  payload := List.replicate 1025 5
  nonempty := by rw [List.length_replicate]; decide
  fits := by rw [List.length_replicate]; decide

/-- A payload of one byte. -/
def oneByte : Parcel where
  epoch := [7]
  kind := .reset
  sequence := 1
  payload := [9]
  nonempty := by decide
  fits := by decide

/-- The chunks of the two payloads, interleaved, one of them twice. -/
def interleaved : List (Instant × CursorChunk) :=
  [(0, twoChunks.chunkAt 0), (0, oneByte.chunkAt 0), (0, twoChunks.chunkAt 0),
    (0, twoChunks.chunkAt 1)]

theorem count_twoChunks : twoChunks.count = 2 := by
  unfold Parcel.count twoChunks
  rw [List.length_replicate]
  decide

theorem key_ne : twoChunks.key ≠ oneByte.key := by decide

theorem delivered_interleaved : Delivered [twoChunks, oneByte] interleaved where
  keys := by
    intro p hp q hq hkey
    simp only [List.mem_cons, List.not_mem_nil, or_false] at hp hq
    rcases hp with rfl | rfl <;> rcases hq with rfl | rfl
    · rfl
    · exact absurd hkey key_ne
    · exact absurd hkey.symm key_ne
    · rfl
  encoded := by
    have hmem : ∀ (p : Parcel) (i : ℕ), i < p.count →
        pushMessage (p.chunkAt i) ∈ (List.range p.count).map fun i => pushMessage (p.chunkAt i) :=
      fun p i hi => List.mem_map.mpr ⟨i, List.mem_range.mpr hi, rfl⟩
    have htwo := count_twoChunks
    intro e he
    simp only [interleaved, List.mem_cons, List.not_mem_nil, or_false] at he
    rcases he with rfl | rfl | rfl | rfl
    · exact ⟨twoChunks, by simp, _, twoChunks.encodeCursorChunks_eq, hmem _ 0 (by omega)⟩
    · exact ⟨oneByte, by simp, _, oneByte.encodeCursorChunks_eq, hmem _ 0 oneByte.count_pos⟩
    · exact ⟨twoChunks, by simp, _, twoChunks.encodeCursorChunks_eq, hmem _ 0 (by omega)⟩
    · exact ⟨twoChunks, by simp, _, twoChunks.encodeCursorChunks_eq, hmem _ 1 (by omega)⟩
  noneExpires := by
    intro pre e hpre key q hq
    have hall : ∀ e ∈ interleaved, e.1 = 0 := by
      intro e he
      simp only [interleaved, List.mem_cons, List.not_mem_nil, or_false] at he
      rcases he with rfl | rfl | rfl | rfl <;> rfl
    rw [hall e (hpre.subset (by simp)),
      createdAt_pushAll (fun e he => hall e (hpre.subset (List.mem_append_left _ he))) hq]
    decide +kernel
  noneRepeats := by
    intro pre e hpre p hp hkey hc
    simp only [List.mem_cons, List.not_mem_nil, or_false] at hp
    rcases hp with rfl | rfl
    · -- the second chunk comes last
      have hlen : pre.length + 1 ≤ 4 := by simpa [interleaved] using hpre.length_le
      have htake : pre = interleaved.take pre.length :=
        List.prefix_iff_eq_take.mp ((List.prefix_append pre [e]).trans hpre)
      have hmem := hc 1 (by rw [count_twoChunks]; omega)
      rw [htake] at hmem
      have hindex := List.mem_map_of_mem (f := CursorChunk.chunkIndex)
        (List.map_subset Prod.snd (List.take_subset_take_left interleaved
          (show pre.length ≤ 3 by omega)) hmem)
      exact absurd hindex (by decide)
    · -- a key that comes once
      obtain ⟨e', he', hchunk⟩ := List.mem_map.mp (hc 0 oneByte.count_pos)
      have hcount := hpre.sublist.countP_le (p := fun e => decide (chunkKey e.2 = oneByte.key))
      have hone : interleaved.countP (fun e => decide (chunkKey e.2 = oneByte.key)) = 1 := by decide
      have hpos : 0 < pre.countP fun e => decide (chunkKey e.2 = oneByte.key) :=
        List.countP_pos_iff.mpr ⟨e', he', by simp [hchunk]⟩
      rw [List.countP_append, hone, List.countP_singleton, if_pos (by simp [hkey])] at hcount
      omega

/-- The last of these pushes gives the long payload. -/
theorem reassembly_spec_interleaved :
    ((pushAll (interleaved.take 3)).push 0 (twoChunks.chunkAt 1)).2 =
      .ok (some twoChunks.payload) := by
  have hout := (reassembly_spec delivered_interleaved).1 (interleaved.take 3)
    (0, twoChunks.chunkAt 1) (List.prefix_refl _) twoChunks (by simp) rfl
  rw [if_pos] at hout
  · exact hout
  · intro i hi
    rw [count_twoChunks] at hi
    have hi' : i = 0 ∨ i = 1 := by omega
    rcases hi' with rfl | rfl <;> simp [interleaved]

end CursorReassembler

end FlyRuler.Cursor
