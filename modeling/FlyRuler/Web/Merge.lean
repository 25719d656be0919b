import FlyRuler.Lib.Merge
import FlyRuler.Lib.TimeOrder
import FlyRuler.Management.Downsampling

/-!
# Merging series in the web client

`web/src/stores/series.ts`: the points of a series that arrive later are merged with those that
are there.  Both lists are sorted by time, one point is taken where their times are the same, and a
point with the time of the last one is written over it.  Arithmetic on points is exact.

* `mergePoints_kept`: the point at each time.
* `merges_mergePoints_iff`: when the points are those of the preferred side.
-/

namespace FlyRuler.Web

open FlyRuler.Pb FlyRuler.Store FlyRuler.Management FlyRuler.Lib.Merge

inductive DuplicatePreference where
  | existing
  | incoming
  deriving DecidableEq

/-- The filter of `mergePoints`: the points of finite numbers. -/
def finitePoints (points : List (F64 × F64)) : List Point :=
  points.filterMap fun point =>
    point.1.toFinite.bind fun timestamp => point.2.toFinite.map fun value => (timestamp, value)

/-- `sort((a, b) => a[0] - b[0])`, which is stable. -/
def sortPoints (points : List Point) : List Point := points.insertionSort fun a b => a.1 ≤ b.1

def pushDeduped (points : List Point) (point : Point) : List Point :=
  match points.getLast? with
  | some previous =>
    if previous.1 = point.1 then points.dropLast ++ [(previous.1, point.2)] else points ++ [point]
  | none => points ++ [point]

/-- The points so far and what is left of both sides. -/
structure MergeState where
  points : List Point
  left : List Point
  right : List Point

/-- One turn of the loop of `mergePoints`. -/
def mergeStep (preference : DuplicatePreference) (s : MergeState) : MergeState :=
  match s.left, s.right with
  | [], [] => s
  | existingPoint :: left, [] => ⟨pushDeduped s.points existingPoint, left, []⟩
  | [], incomingPoint :: right => ⟨pushDeduped s.points incomingPoint, [], right⟩
  | existingPoint :: left, incomingPoint :: right =>
    if existingPoint.1 < incomingPoint.1 then
      ⟨pushDeduped s.points existingPoint, left, incomingPoint :: right⟩
    else if incomingPoint.1 < existingPoint.1 then
      ⟨pushDeduped s.points incomingPoint, existingPoint :: left, right⟩
    else
      ⟨pushDeduped s.points (match preference with
        | .existing => existingPoint
        | .incoming => incomingPoint), left, right⟩

/-- Every turn takes a point, so there are at most as many turns as points. -/
def mergePoints (preference : DuplicatePreference) (existing incoming : List (F64 × F64)) :
    List Point :=
  let left := sortPoints (finitePoints existing)
  let right := sortPoints (finitePoints incoming)
  ((mergeStep preference)^[left.length + right.length] ⟨[], left, right⟩).points

/-- Finite points as the numbers they are. -/
def rawPoints (points : List Point) : List (F64 × F64) :=
  points.map fun point => (.finite point.1, .finite point.2)

/-- `computeStats`, which finds the numbers that `stats` of the server does. -/
def computeStats (points : List Point) : Option SeriesStats := stats points

def mergeSeriesData (preference : DuplicatePreference) (existing : Option SeriesData)
    (incoming : SeriesData) : SeriesData :=
  let points := mergePoints preference (rawPoints ((existing.map SeriesData.points).getD []))
    (rawPoints incoming.points)
  { key := incoming.key
    aircraftId := incoming.aircraftId
    selector := incoming.selector
    points := points
    totalPoints := max (max ((existing.map SeriesData.totalPoints).getD 0) incoming.totalPoints)
      points.length
    returnedPoints := points.length
    stats := computeStats points }

/-! ## The loop -/

/-- The point taken of two with one time. -/
def picked (preference : DuplicatePreference) (existingPoint incomingPoint : Point) : Point :=
  match preference with
  | .existing => existingPoint
  | .incoming => incomingPoint

theorem picked_fst {preference : DuplicatePreference} (a b : Point) (h : a.1 = b.1) :
    (picked preference a b).1 = a.1 := by
  cases preference with
  | existing => rfl
  | incoming => exact h.symm

theorem pushDeduped_eq : pushDeduped = pushLast Prod.fst := by
  funext points point
  unfold pushDeduped pushLast
  rcases points.getLast? with _ | previous
  · rfl
  · dsimp only
    split_ifs with h
    · rw [h]
    · rfl

theorem mergeStep_done (preference : DuplicatePreference) (points : List Point) (turns : ℕ) :
    (mergeStep preference)^[turns] ⟨points, [], []⟩ = ⟨points, [], []⟩ :=
  Function.iterate_fixed rfl turns

/-- **The loop** takes the points of a merge, one after the other. -/
theorem mergeStep_iterate (preference : DuplicatePreference) {turns : ℕ}
    (points left right : List Point) (hturns : left.length + right.length ≤ turns) :
    ∃ out, Interleaves Prod.fst (picked preference) left right out ∧
      (mergeStep preference)^[turns] ⟨points, left, right⟩ =
        ⟨out.foldl pushDeduped points, [], []⟩ := by
  induction turns generalizing points left right with
  | zero =>
    obtain ⟨hleft, hright⟩ := Nat.add_eq_zero_iff.mp (Nat.le_zero.mp hturns)
    rw [List.length_eq_zero_iff.mp hleft, List.length_eq_zero_iff.mp hright]
    exact ⟨[], .nil, rfl⟩
  | succ turns ih =>
    rw [Function.iterate_succ_apply]
    rcases left with _ | ⟨e, left⟩
    · rcases right with _ | ⟨i, right⟩
      · exact ⟨[], .nil, mergeStep_done preference points turns⟩
      · obtain ⟨out, hout, hloop⟩ := ih (pushDeduped points i) [] right (by simpa using hturns)
        exact ⟨i :: out, .right (fun a ha => nomatch ha) hout, hloop⟩
    · rcases right with _ | ⟨i, right⟩
      · obtain ⟨out, hout, hloop⟩ := ih (pushDeduped points e) left [] (by simpa using hturns)
        exact ⟨e :: out, .left (fun b hb => nomatch hb) hout, hloop⟩
      · simp only [List.length_cons] at hturns
        unfold mergeStep
        dsimp only
        split_ifs with hbefore hafter
        · obtain ⟨out, hout, hloop⟩ := ih (pushDeduped points e) left (i :: right)
            (by rw [List.length_cons]; omega)
          refine ⟨e :: out, .left (fun b hb => ?_) hout, hloop⟩
          rw [← Option.some.inj hb]
          exact hbefore
        · obtain ⟨out, hout, hloop⟩ := ih (pushDeduped points i) (e :: left) right
            (by rw [List.length_cons]; omega)
          refine ⟨i :: out, .right (fun a ha => ?_) hout, hloop⟩
          rw [← Option.some.inj ha]
          exact hafter
        · have hsame : e.1 = i.1 := le_antisymm (not_lt.mp hafter) (not_lt.mp hbefore)
          obtain ⟨out, hout, hloop⟩ :=
            ih (pushDeduped points (picked preference e i)) left right (by omega)
          exact ⟨picked preference e i :: out, .both hsame hout, hloop⟩

/-! ## The points at a time -/

theorem finitePoints_rawPoints (points : List Point) :
    finitePoints (rawPoints points) = points := by
  unfold finitePoints rawPoints
  rw [List.filterMap_map]
  exact List.filterMap_some

theorem sorted_sortPoints (points : List Point) : Sorted Prod.fst (sortPoints points) :=
  have : Std.Total fun a b : Point => a.1 ≤ b.1 := ⟨fun a b => le_total a.1 b.1⟩
  have : IsTrans Point fun a b => a.1 ≤ b.1 := ⟨fun _ _ _ => le_trans⟩
  List.pairwise_insertionSort _ points

/-- Sorting leaves the points of one time in their order. -/
theorem withKey_sortPoints (points : List Point) (t : Secs) :
    withKey Prod.fst t (sortPoints points) = withKey Prod.fst t points := by
  unfold withKey sortPoints
  rw [Lib.TimeOrder.filter_insertionSort (fun a b : Point => le_total a.1 b.1)
    (fun a b c : Point => le_trans)]
  refine List.Pairwise.insertionSort_eq ?_
  refine List.Pairwise.imp_of_mem ?_ (List.pairwise_of_forall fun _ _ => trivial)
  intro a b ha hb _
  have ha' := of_decide_eq_true (List.mem_filter.mp ha).2
  have hb' := of_decide_eq_true (List.mem_filter.mp hb).2
  exact (ha'.trans hb'.symm).le

/-- The points of the side that the preference names. -/
def preferred (preference : DuplicatePreference) (existing incoming : List Point) : List Point :=
  match preference with
  | .existing => existing
  | .incoming => incoming

/-- The points of the other side. -/
def other (preference : DuplicatePreference) (existing incoming : List Point) : List Point :=
  match preference with
  | .existing => incoming
  | .incoming => existing

/-- The point that is left at a time, of those of both sides there. -/
def lastOf (preference : DuplicatePreference) (existing incoming : List Point) : Option Point :=
  let preferred := preferred preference existing incoming
  let other := other preference existing incoming
  if preferred.length < other.length then other.getLast? else preferred.getLast?

theorem getLast?_paired_picked (preference : DuplicatePreference) (existing incoming : List Point) :
    (paired (picked preference) existing incoming).getLast? =
      lastOf preference existing incoming := by
  rw [getLast?_paired]
  split_ifs with hfew hmany
  · cases preference with
    | existing => exact (if_pos hfew).symm
    | incoming => exact (if_neg (not_lt.mpr hfew.le)).symm
  · cases preference with
    | existing => exact (if_neg hfew).symm
    | incoming => exact (if_pos hmany).symm
  · have hlast : lastOf preference existing incoming =
        (preferred preference existing incoming).getLast? := by
      cases preference with
      | existing => exact if_neg hfew
      | incoming => exact if_neg hmany
    have hlength : existing.length = incoming.length := by omega
    rw [hlast]
    rcases hexisting : existing.getLast? with _ | a
    · rw [List.getLast?_eq_none_iff.mp hexisting] at hlength ⊢
      rw [List.length_eq_zero_iff.mp hlength.symm]
      cases preference <;> rfl
    · rcases hincoming : incoming.getLast? with _ | b
      · rw [List.getLast?_eq_none_iff.mp hincoming] at hlength
        rw [List.length_eq_zero_iff.mp hlength] at hexisting
        exact nomatch hexisting
      · cases preference with
        | existing => exact hexisting.symm
        | incoming => exact hincoming.symm

/-- **What is left of both sides**: increasing times, and at each time the last point of the side
that has more points there, or of the preferred side. -/
theorem mergePoints_kept (preference : DuplicatePreference) (existing incoming : List Point) :
    Increasing Prod.fst (mergePoints preference (rawPoints existing) (rawPoints incoming)) ∧
      ∀ t, withKey Prod.fst t (mergePoints preference (rawPoints existing) (rawPoints incoming)) =
        (lastOf preference (withKey Prod.fst t existing) (withKey Prod.fst t incoming)).toList := by
  have hleft := sorted_sortPoints existing
  have hright := sorted_sortPoints incoming
  obtain ⟨out, hout, hloop⟩ := mergeStep_iterate preference [] (sortPoints existing)
    (sortPoints incoming) le_rfl
  have hpoints : mergePoints preference (rawPoints existing) (rawPoints incoming) =
      keepLast Prod.fst out := by
    unfold mergePoints keepLast
    rw [finitePoints_rawPoints, finitePoints_rawPoints]
    dsimp only
    rw [hloop, pushDeduped_eq]
  have hkept := kept_keepLast (hout.sorted picked_fst hleft hright)
  rw [hpoints]
  refine ⟨hkept.increasing, fun t => ?_⟩
  rw [hkept.withKey_eq, hout.withKey_eq picked_fst hleft hright, getLast?_paired_picked,
    withKey_sortPoints, withKey_sortPoints]

/-! ## The points of the preferred side -/

section Merges
variable {preference : DuplicatePreference} {existing incoming : List Point}

/-- A time of one of the points. -/
def HasTime (points : List Point) (t : Secs) : Prop := ∃ point ∈ points, point.1 = t

/-- **A merge of both sides**: increasing times, those of both sides; a point is one of the side
that has its time, and one of the preferred side where both have it. -/
structure Merges (preference : DuplicatePreference) (existing incoming points : List Point) :
    Prop where
  increasing : points.Pairwise fun a b => a.1 < b.1
  hasTime_iff : ∀ t, HasTime points t ↔ HasTime existing t ∨ HasTime incoming t
  of_existing : ∀ point ∈ points, ¬HasTime incoming point.1 → point ∈ existing
  of_incoming : ∀ point ∈ points, ¬HasTime existing point.1 → point ∈ incoming
  of_both : ∀ point ∈ points, HasTime existing point.1 → HasTime incoming point.1 →
    point ∈ preferred preference existing incoming

/-- At a time of both sides the preferred side has as many points as the other one, or the last
point of the other side is one of its own. -/
def PreferredLast (preference : DuplicatePreference) (existing incoming : List Point) : Prop :=
  ∀ t, HasTime existing t → HasTime incoming t →
    (withKey Prod.fst t (other preference existing incoming)).length ≤
        (withKey Prod.fst t (preferred preference existing incoming)).length ∨
      ∀ point ∈ (withKey Prod.fst t (other preference existing incoming)).getLast?,
        point ∈ preferred preference existing incoming

theorem preferred_withKey (t : Secs) :
    preferred preference (withKey Prod.fst t existing) (withKey Prod.fst t incoming) =
      withKey Prod.fst t (preferred preference existing incoming) := by
  cases preference <;> rfl

theorem other_withKey (t : Secs) :
    other preference (withKey Prod.fst t existing) (withKey Prod.fst t incoming) =
      withKey Prod.fst t (other preference existing incoming) := by
  cases preference <;> rfl

theorem withKey_eq_nil_iff {points : List Point} {t : Secs} :
    withKey Prod.fst t points = [] ↔ ¬HasTime points t := by
  constructor
  · rintro h ⟨point, hpoint, htime⟩
    have hmem : point ∈ withKey Prod.fst t points := mem_withKey.mpr ⟨hpoint, htime⟩
    rw [h] at hmem
    exact absurd hmem List.not_mem_nil
  · exact fun h => withKey_eq_nil fun point hpoint htime => h ⟨point, hpoint, htime⟩

theorem hasTime_preferred_or_other {t : Secs} :
    HasTime (preferred preference existing incoming) t ∨
        HasTime (other preference existing incoming) t ↔
      HasTime existing t ∨ HasTime incoming t := by
  cases preference with
  | existing => exact Iff.rfl
  | incoming => exact or_comm

/-- The point that is left is one of the longer side. -/
theorem mem_of_lastOf {t : Secs} {point : Point}
    (h : lastOf preference (withKey Prod.fst t existing) (withKey Prod.fst t incoming) =
      some point) :
    point.1 = t ∧ (point ∈ preferred preference existing incoming ∨
      point ∈ other preference existing incoming) := by
  unfold lastOf at h
  rw [preferred_withKey, other_withKey] at h
  dsimp only at h
  split_ifs at h with hmore
  · obtain ⟨hmem, htime⟩ := mem_withKey.mp (List.mem_of_getLast? h)
    exact ⟨htime, .inr hmem⟩
  · obtain ⟨hmem, htime⟩ := mem_withKey.mp (List.mem_of_getLast? h)
    exact ⟨htime, .inl hmem⟩

theorem lastOf_eq_none_iff {t : Secs} :
    lastOf preference (withKey Prod.fst t existing) (withKey Prod.fst t incoming) = none ↔
      ¬(HasTime existing t ∨ HasTime incoming t) := by
  unfold lastOf
  rw [preferred_withKey, other_withKey, ← hasTime_preferred_or_other, not_or,
    ← withKey_eq_nil_iff, ← withKey_eq_nil_iff]
  dsimp only
  split_ifs with hmore
  · rw [List.getLast?_eq_none_iff]
    refine ⟨fun h => ?_, And.right⟩
    rw [h] at hmore
    exact absurd hmore (Nat.not_lt_zero _)
  · rw [List.getLast?_eq_none_iff]
    refine ⟨fun h => ⟨h, ?_⟩, And.left⟩
    rw [h] at hmore
    exact List.length_eq_zero_iff.mp (Nat.le_zero.mp (not_lt.mp hmore))

theorem mem_mergePoints_iff {point : Point} :
    point ∈ mergePoints preference (rawPoints existing) (rawPoints incoming) ↔
      lastOf preference (withKey Prod.fst point.1 existing) (withKey Prod.fst point.1 incoming) =
        some point := by
  have hkey := (mergePoints_kept preference existing incoming).2 point.1
  constructor
  · intro hpoint
    have hmem : point ∈ withKey Prod.fst point.1 _ := mem_withKey.mpr ⟨hpoint, rfl⟩
    rwa [hkey, Option.mem_toList] at hmem
  · intro hlast
    refine (mem_withKey.mp (?_ : point ∈ withKey Prod.fst point.1 _)).1
    rw [hkey, hlast]
    exact List.mem_singleton_self point

theorem mem_existing_or_incoming {point : Point}
    (h : point ∈ mergePoints preference (rawPoints existing) (rawPoints incoming)) :
    point ∈ existing ∨ point ∈ incoming := by
  have hmem := (mem_of_lastOf (mem_mergePoints_iff.mp h)).2
  cases preference with
  | existing => exact hmem
  | incoming => exact hmem.symm

theorem hasTime_mergePoints_iff (t : Secs) :
    HasTime (mergePoints preference (rawPoints existing) (rawPoints incoming)) t ↔
      HasTime existing t ∨ HasTime incoming t := by
  constructor
  · rintro ⟨point, hpoint, rfl⟩
    refine (mem_existing_or_incoming hpoint).imp (fun h => ?_) fun h => ?_
    · exact ⟨point, h, rfl⟩
    · exact ⟨point, h, rfl⟩
  · intro htime
    rcases hlast : lastOf preference (withKey Prod.fst t existing) (withKey Prod.fst t incoming)
      with _ | point
    · exact absurd htime (lastOf_eq_none_iff.mp hlast)
    · obtain ⟨rfl, -⟩ := mem_of_lastOf hlast
      exact ⟨point, mem_mergePoints_iff.mpr hlast, rfl⟩

/-- **When the points are those of the preferred side.** -/
theorem merges_mergePoints_iff (preference : DuplicatePreference)
    (existing incoming : List Point) :
    Merges preference existing incoming
        (mergePoints preference (rawPoints existing) (rawPoints incoming)) ↔
      PreferredLast preference existing incoming := by
  constructor
  · intro h t hexisting hincoming
    by_cases hfew : (withKey Prod.fst t (other preference existing incoming)).length ≤
        (withKey Prod.fst t (preferred preference existing incoming)).length
    · exact .inl hfew
    · -- the last point of the other side is left at this time
      refine .inr fun point hpoint => ?_
      have hlast : lastOf preference (withKey Prod.fst t existing) (withKey Prod.fst t incoming) =
          some point := by
        unfold lastOf
        rw [preferred_withKey, other_withKey]
        exact (if_pos (not_le.mp hfew)).trans hpoint
      obtain ⟨rfl, -⟩ := mem_of_lastOf hlast
      exact h.of_both point (mem_mergePoints_iff.mpr hlast) hexisting hincoming
  · intro h
    refine
      { increasing := (mergePoints_kept preference existing incoming).1
        hasTime_iff := hasTime_mergePoints_iff
        of_existing := fun point hpoint htime => ?_
        of_incoming := fun point hpoint htime => ?_
        of_both := fun point hpoint hexisting hincoming => ?_ }
    · rcases mem_existing_or_incoming hpoint with hmem | hmem
      · exact hmem
      · exact absurd ⟨point, hmem, rfl⟩ htime
    · rcases mem_existing_or_incoming hpoint with hmem | hmem
      · exact absurd ⟨point, hmem, rfl⟩ htime
      · exact hmem
    · have hlast := mem_mergePoints_iff.mp hpoint
      unfold lastOf at hlast
      rw [preferred_withKey, other_withKey] at hlast
      dsimp only at hlast
      split_ifs at hlast with hmore
      · rcases h point.1 hexisting hincoming with hfew | hown
        · exact absurd hmore (not_lt.mpr hfew)
        · exact hown point hlast
      · exact (mem_withKey.mp (List.mem_of_getLast? hlast)).1

/-- One point of the preferred side and two of the other one, all at one time. -/
theorem not_merges_repeated : ¬Merges .existing [(2, 20)] [(2, 30), (2, 40)]
    (mergePoints .existing (rawPoints [(2, 20)]) (rawPoints [(2, 30), (2, 40)])) := by
  intro h
  have hpoint : ((2, 40) : Point) ∈
      mergePoints .existing (rawPoints [(2, 20)]) (rawPoints [(2, 30), (2, 40)]) := by
    decide +kernel
  have hmem := h.of_both (2, 40) hpoint ⟨(2, 20), by decide +kernel, rfl⟩
    ⟨(2, 40), by decide +kernel, rfl⟩
  exact absurd hmem (by decide +kernel)

end Merges

end FlyRuler.Web
