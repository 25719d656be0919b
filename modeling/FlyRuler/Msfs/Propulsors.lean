import FlyRuler.Lib.Records
import FlyRuler.Msfs.Smoothing

/-!
# The propulsors of an interpolated state

`interpolate_propulsors` of `bindings/msfs/src/smoothing.rs` goes over the propulsors of the left
sample and works on a copy of those of the right one: an entry with the same id is changed in place,
and one that is missing is put at the end.  The result is sorted by id.

How `lerp` rounds does not matter here, so it is a parameter.

* `Merged.step`: one propulsor of the left sample.
* `interpolatePropulsors_spec`: which propulsors come out, and with which numbers.
-/

namespace FlyRuler.Msfs

open FlyRuler.Pb FlyRuler.Lib.Records

/-! ## Numbers -/

/-- The numeric fields of a propulsor. -/
def propulsorNumbers : List (PropulsorState → Option F64) :=
  [PropulsorState.throttleRatio, PropulsorState.rpm, PropulsorState.bladePitchRad,
    PropulsorState.thrustNewton, PropulsorState.torqueNewtonMeter]

def IsFinite (value : Option F64) : Prop := ∃ x, value = some (.finite x)

variable {τ : Type} {lerpF64 : ℚ → ℚ → τ → F64}

/-- What becomes of a number: `lerp` of both values, if both are finite, else the one that is. -/
structure Blended (lerpF64 : ℚ → ℚ → τ → F64) (left right : Option F64) (t : τ)
    (value : Option F64) : Prop where
  both : ∀ l r, left = some (.finite l) → right = some (.finite r) →
    value = some (lerpF64 l r t)
  onlyLeft : IsFinite left → ¬IsFinite right → value = left
  onlyRight : ¬IsFinite left → IsFinite right → value = right
  neither : ¬IsFinite left → ¬IsFinite right → value = none

theorem bind_toFinite_eq_some_iff {value : Option F64} {x : ℚ} :
    value.bind F64.toFinite = some x ↔ value = some (.finite x) := by
  rcases value with _ | (y | _ | _ | _) <;> simp [F64.toFinite]

theorem bind_toFinite_eq_none_iff {value : Option F64} :
    value.bind F64.toFinite = none ↔ ¬IsFinite value := by
  unfold IsFinite
  simp only [← bind_toFinite_eq_some_iff, not_exists, Option.eq_none_iff_forall_ne_some, ne_eq]

theorem blended_interpolateOption (left right : Option F64) (t : τ) :
    Blended lerpF64 left right t (interpolateOption lerpF64 left right t) where
  both := by
    rintro l r rfl rfl
    rfl
  onlyLeft := by
    rintro ⟨l, rfl⟩ hright
    unfold interpolateOption
    rw [bind_toFinite_eq_none_iff.mpr hright]
    rfl
  onlyRight := by
    rintro hleft ⟨r, rfl⟩
    unfold interpolateOption
    rw [bind_toFinite_eq_none_iff.mpr hleft]
    rfl
  neither := by
    intro hleft hright
    unfold interpolateOption
    rw [bind_toFinite_eq_none_iff.mpr hleft, bind_toFinite_eq_none_iff.mpr hright]

/-- Every numeric field of a propulsor of both samples is interpolated. -/
theorem blended_interpolatePropulsor (left right propulsor : PropulsorState) (t : τ) :
    ∀ number ∈ propulsorNumbers, Blended lerpF64 (number left) (number right) t
      (number (interpolatePropulsor lerpF64 left right t propulsor)) := by
  intro number hnumber
  simp only [propulsorNumbers, List.mem_cons, List.not_mem_nil, or_false] at hnumber
  rcases hnumber with rfl | rfl | rfl | rfl | rfl
  all_goals exact blended_interpolateOption _ _ _

/-! ## The loop -/

/-- The entry of an id, from those of the two samples. -/
def combined (lerpF64 : ℚ → ℚ → τ → F64) (t : τ) :
    Option PropulsorState → Option PropulsorState → Option PropulsorState
  | some left, some right => some (interpolatePropulsor lerpF64 left right t right)
  | some left, none => some left
  | none, right => right

/-- The working copy when the loop has gone over `done`. -/
structure Merged (lerpF64 : ℚ → ℚ → τ → F64) (right : List PropulsorState) (t : τ)
    (done propulsors : List PropulsorState) : Prop where
  nodup : (propulsors.map PropulsorState.propulsorId).Nodup
  entry : ∀ id, entryOf PropulsorState.propulsorId id propulsors =
    combined lerpF64 t (entryOf PropulsorState.propulsorId id done)
      (entryOf PropulsorState.propulsorId id right)

section Loop
variable {right done propulsors : List PropulsorState} {left : PropulsorState} {t : τ}

/-- **One propulsor of the left sample** changes the entry of its id. -/
theorem Merged.step (h : Merged lerpF64 right t done propulsors)
    (hnew : left.propulsorId ∉ done.map PropulsorState.propulsorId) :
    Merged lerpF64 right t (done ++ [left]) (mergePropulsor lerpF64 right t propulsors left) := by
  have hdone : entryOf PropulsorState.propulsorId left.propulsorId done = none :=
    entryOf_eq_none_iff.mpr hnew
  have hown := h.entry left.propulsorId
  rw [hdone] at hown
  unfold mergePropulsor
  rcases hfind : right.find? fun candidate => candidate.propulsorId == left.propulsorId
    with _ | found
  · -- an id that only the left sample has
    have hright : entryOf PropulsorState.propulsorId left.propulsorId right = none := hfind
    rw [hright] at hown
    have hmissing : left.propulsorId ∉ propulsors.map PropulsorState.propulsorId :=
      entryOf_eq_none_iff.mp hown
    have hany : ¬(propulsors.any fun candidate =>
        candidate.propulsorId == left.propulsorId) = true := by
      simpa [List.any_eq_true] using hmissing
    simp only [hfind, if_neg hany]
    constructor
    · rw [List.map_append, List.map_singleton, List.nodup_append]
      refine ⟨h.nodup, List.nodup_singleton _, ?_⟩
      rintro id hid _ hlast rfl
      rw [List.mem_singleton] at hlast
      exact hmissing (hlast ▸ hid)
    · intro id
      rw [entryOf_concat hmissing, entryOf_concat hnew]
      split_ifs with hid
      · rw [hid, hright]
        rfl
      · exact h.entry id
  · -- an id of both samples: the working copy has the right entry still
    have hright : entryOf PropulsorState.propulsorId left.propulsorId right = some found := hfind
    rw [hright] at hown
    have hkey : ∀ propulsor, (interpolatePropulsor lerpF64 left found t propulsor).propulsorId =
        propulsor.propulsorId := fun _ => rfl
    simp only [hfind]
    constructor
    · rw [keys_modify hkey]
      exact h.nodup
    · intro id
      rw [entryOf_modify hkey, entryOf_concat hnew]
      split_ifs with hid
      · rw [hid, hown, hright]
        rfl
      · exact h.entry id

/-- **The whole loop.** -/
theorem merged_foldl {left : List PropulsorState}
    (hleft : (left.map PropulsorState.propulsorId).Nodup)
    (hright : (right.map PropulsorState.propulsorId).Nodup) :
    Merged lerpF64 right t left (left.foldl (mergePropulsor lerpF64 right t) right) := by
  induction left using List.reverseRecOn with
  | nil => exact ⟨hright, fun id => rfl⟩
  | append_singleton left last ih =>
    rw [List.map_append, List.map_singleton, List.nodup_append] at hleft
    obtain ⟨hbefore, -, hlast⟩ := hleft
    rw [List.foldl_concat]
    exact (ih hbefore).step fun hid => hlast _ hid _ (List.mem_singleton_self _) rfl

end Loop

/-! ## The result -/

/-- **The propulsors of an interpolated state** are in the order of their ids, which are those of
both samples; an id of both samples has the right entry with its numbers interpolated, and an id of
one sample has the entry it has there. -/
theorem interpolatePropulsors_spec (lerpF64 : ℚ → ℚ → τ → F64) {left right : List PropulsorState}
    (hleft : (left.map PropulsorState.propulsorId).Nodup)
    (hright : (right.map PropulsorState.propulsorId).Nodup) (t : τ) :
    (interpolatePropulsors lerpF64 left right t).Pairwise
        (fun a b => a.propulsorId < b.propulsorId) ∧
    (∀ id, id ∈ (interpolatePropulsors lerpF64 left right t).map PropulsorState.propulsorId ↔
      id ∈ left.map PropulsorState.propulsorId ∨ id ∈ right.map PropulsorState.propulsorId) ∧
    (∀ entry ∈ interpolatePropulsors lerpF64 left right t, ∀ l ∈ left, ∀ r ∈ right,
      l.propulsorId = entry.propulsorId → r.propulsorId = entry.propulsorId →
        entry.kind = r.kind ∧ entry.index = r.index ∧
          ∀ number ∈ propulsorNumbers, Blended lerpF64 (number l) (number r) t (number entry)) ∧
    (∀ l ∈ left, l.propulsorId ∉ right.map PropulsorState.propulsorId →
      l ∈ interpolatePropulsors lerpF64 left right t) ∧
    ∀ r ∈ right, r.propulsorId ∉ left.map PropulsorState.propulsorId →
      r ∈ interpolatePropulsors lerpF64 left right t := by
  have hmerged : Merged lerpF64 right t left (left.foldl (mergePropulsor lerpF64 right t) right) :=
    merged_foldl hleft hright
  have hperm : (interpolatePropulsors lerpF64 left right t).Perm
      (left.foldl (mergePropulsor lerpF64 right t) right) := List.perm_insertionSort _ _
  have hmem : ∀ entry, entry ∈ interpolatePropulsors lerpF64 left right t ↔
      combined lerpF64 t (entryOf PropulsorState.propulsorId entry.propulsorId left)
        (entryOf PropulsorState.propulsorId entry.propulsorId right) = some entry := by
    intro entry
    rw [hperm.mem_iff, ← hmerged.entry, entryOf_eq_some_iff hmerged.nodup]
    exact (and_iff_left rfl).symm
  refine ⟨pairwise_lt_sort hmerged.nodup, fun id => ?_, ?_, ?_, ?_⟩
  · rw [(hperm.map PropulsorState.propulsorId).mem_iff, ← not_iff_not,
      ← entryOf_eq_none_iff, hmerged.entry, not_or, ← entryOf_eq_none_iff, ← entryOf_eq_none_iff]
    rcases entryOf PropulsorState.propulsorId id left with _ | l <;>
      rcases entryOf PropulsorState.propulsorId id right with _ | r <;> simp [combined]
  · intro entry hentry l hl r hr hlid hrid
    rw [hmem, (entryOf_eq_some_iff hleft).mpr ⟨hl, hlid⟩,
      (entryOf_eq_some_iff hright).mpr ⟨hr, hrid⟩] at hentry
    obtain rfl : interpolatePropulsor lerpF64 l r t r = entry := Option.some.inj hentry
    exact ⟨rfl, rfl, blended_interpolatePropulsor l r r t⟩
  · intro l hl hmissing
    rw [hmem, (entryOf_eq_some_iff hleft).mpr ⟨hl, rfl⟩, entryOf_eq_none_iff.mpr hmissing]
    rfl
  · intro r hr hmissing
    rw [hmem, (entryOf_eq_some_iff hright).mpr ⟨hr, rfl⟩, entryOf_eq_none_iff.mpr hmissing]
    rfl

/-- A propulsor that turns. -/
def turning (propulsorId : String) (rpm : Option F64) (index : Option ℕ) : PropulsorState where
  propulsorId := propulsorId
  kind := 1
  throttleRatio := none
  rpm := rpm
  bladePitchRad := none
  thrustNewton := none
  torqueNewtonMeter := none
  index := index

theorem interpolatePropulsors_spec_twin :
    let left := [turning "right" (some (.finite 1000)) (some 1), turning "aux" none none]
    let right := [turning "right" (some (.finite 2000)) (some 2),
      turning "left" (some .nan) (some 1)]
    ((left.map PropulsorState.propulsorId).Nodup ∧ (right.map PropulsorState.propulsorId).Nodup) ∧
      interpolatePropulsors exactLerp left right (1 / 4) = [turning "aux" none none,
        turning "left" (some .nan) (some 1), turning "right" (some (.finite 1250)) (some 2)] ∧
      (interpolatePropulsors exactLerp left right (1 / 4)).Pairwise fun a b =>
        a.propulsorId < b.propulsorId := by
  intro left right
  have hleft : (left.map PropulsorState.propulsorId).Nodup := by decide
  have hright : (right.map PropulsorState.propulsorId).Nodup := by decide
  exact ⟨⟨hleft, hright⟩, by decide +kernel,
    (interpolatePropulsors_spec exactLerp hleft hright _).1⟩

end FlyRuler.Msfs
