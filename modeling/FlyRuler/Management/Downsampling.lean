import FlyRuler.Lib.Buckets
import FlyRuler.Management.Series
import Mathlib.Algebra.BigOperators.Intervals
import Mathlib.Order.Interval.Finset.Nat

/-!
# Down-sampling, checked

`lttb` of `core/src/management/series.rs` with every index checked, and the copy of it in
`web/src/stores/series.ts`, both in exact arithmetic.  An index that is out of range, which stops
the one and makes the other read a property of `undefined`, is `none`.

* `bucketStart_lt`, `exists_bucket`, `bucket_unique`: the buckets are not empty and tile the
  interior.
* `lttbSelected_firstMax`: the choice in a bucket.
* `lttbChecked_eq`, `lttbWeb_eq`: no index is out of range, and the two lists are the same.
-/

namespace FlyRuler.Management

open FlyRuler.Lib.Buckets

/-! ## The Rust function -/

section Checked

variable (points : List Point)

/-- `&points[start..stop]`. -/
def slice? (start stop : ℕ) : Option (List Point) :=
  if start ≤ stop ∧ stop ≤ points.length then some ((points.take stop).drop start) else none

/-- `(bucket as f64 * every).floor() as usize + 1`. -/
def bucketFloor (every : ℚ) (bucket : ℕ) : ℕ := ⌊(bucket : ℚ) * every⌋₊ + 1

def addPoint (sum point : Point) : Point := (sum.1 + point.1, sum.2 + point.2)

def lttbAverageChecked (every : ℚ) (bucket : ℕ) : Option Point := do
  let averageStart := min (bucketFloor every (bucket + 1)) points.length
  let averageEnd := min (bucketFloor every (bucket + 2)) points.length
  let averageSlice ← slice? points averageStart averageEnd
  if averageSlice = [] then points[min (averageStart - 1) (points.length - 1)]?
  else
    let sum := averageSlice.foldl addPoint (0, 0)
    some (sum.1 / averageSlice.length, sum.2 / averageSlice.length)

def lttbNextChecked (every : ℚ) (bucket selected : ℕ) : Option ℕ := do
  let average ← lttbAverageChecked points every bucket
  let rangeStart := bucketFloor every bucket
  let rangeEnd := min (bucketFloor every (bucket + 1)) (points.length - 1)
  let anchor ← points[selected]?
  let best ← (List.range' rangeStart (max rangeEnd (rangeStart + 1) - rangeStart)).foldlM
    (fun best index => do
      let point ← points[min index (points.length - 2)]?
      let area := lttbArea anchor average point
      return if best.2 < area then (min index (points.length - 2), area) else best)
    (rangeStart, (-1 : ℚ))
  return best.1

/-- One bucket of the loop: what is sampled so far and the index that was selected last. -/
def lttbBucketChecked (every : ℚ) (acc : List Point × ℕ) (bucket : ℕ) :
    Option (List Point × ℕ) := do
  let next ← lttbNextChecked points every bucket acc.2
  let point ← points[next]?
  return (acc.1 ++ [point], next)

def lttbChecked (threshold : ℕ) : Option (List Point) :=
  if points.length ≤ threshold ∨ threshold < 3 then some points
  else do
    let first ← points[0]?
    let every : ℚ := ((points.length - 2 : ℕ) : ℚ) / ((threshold - 2 : ℕ) : ℚ)
    let sampled ← (List.range (threshold - 2)).foldlM (lttbBucketChecked points every) ([first], 0)
    let last ← points.getLast?
    return sampled.1 ++ [last]

end Checked

/-! ## The copy of the web client -/

section Web

variable (points : List Point)

/-- `points[index]!`, which is `undefined` out of range. -/
def webGet (index : ℤ) : Option Point := if 0 ≤ index then points[index.toNat]? else none

/-- One end of `slice`: an index from the end when it is negative. -/
def webSliceEnd (index : ℤ) : ℕ :=
  if index < 0 then (points.length + index).toNat else min index.toNat points.length

def webSlice (start stop : ℤ) : List Point :=
  (points.take (webSliceEnd points stop)).drop (webSliceEnd points start)

def lttbWebAverage (every : ℚ) (bucket : ℤ) : Option Point := do
  let averageStart := min (⌊((bucket + 1 : ℤ) : ℚ) * every⌋ + 1) (points.length : ℤ)
  let averageEnd := min (⌊((bucket + 2 : ℤ) : ℚ) * every⌋ + 1) (points.length : ℤ)
  let averageSlice := webSlice points averageStart averageEnd
  let fallback := webGet points (min (max (averageStart - 1) 0) (points.length - 1))
  let average := averageSlice.foldl addPoint (0, 0)
  if averageSlice.length = 0 then fallback
  else some (average.1 / averageSlice.length, average.2 / averageSlice.length)

def lttbWebNext (every : ℚ) (bucket selected : ℤ) : Option ℤ := do
  let average ← lttbWebAverage points every bucket
  let rangeStart := ⌊(bucket : ℚ) * every⌋ + 1
  let rangeEnd := min (⌊((bucket + 1 : ℤ) : ℚ) * every⌋ + 1) ((points.length : ℤ) - 1)
  let anchor ← webGet points selected
  let best ← (List.range (max rangeEnd (rangeStart + 1) - rangeStart).toNat).foldlM
    (fun best (offset : ℕ) => do
      let candidateIndex := min (rangeStart + (offset : ℤ)) ((points.length : ℤ) - 2)
      let point ← webGet points candidateIndex
      let area := lttbArea anchor average point
      return if best.2 < area then (candidateIndex, area) else best)
    (rangeStart, (-1 : ℚ))
  return best.1

def lttbWebBucket (every : ℚ) (acc : List Point × ℤ) (bucket : ℕ) : Option (List Point × ℤ) := do
  let next ← lttbWebNext points every bucket acc.2
  let point ← webGet points next
  return (acc.1 ++ [point], next)

def lttbWeb (threshold : ℕ) : Option (List Point) :=
  if points.length ≤ threshold ∨ threshold < 3 then some points
  else do
    let first ← webGet points 0
    let every : ℚ := ((points.length : ℚ) - 2) / ((threshold : ℚ) - 2)
    let sampled ← (List.range (threshold - 2)).foldlM (lttbWebBucket points every) ([first], 0)
    let last ← webGet points ((points.length : ℤ) - 1)
    return sampled.1 ++ [last]

end Web

/-! ## No index is out of range -/

section Total

variable {points : List Point}

theorem getElem?_getD {i : ℕ} (hi : i < points.length) : points[i]? = some (points.getD i 0) := by
  rw [List.getD_eq_getElem _ _ hi, List.getElem?_eq_getElem hi]

theorem foldl_addPoint (slice : List Point) (sum : Point) : slice.foldl addPoint sum =
    (sum.1 + (slice.map Prod.fst).sum, sum.2 + (slice.map Prod.snd).sum) := by
  induction slice generalizing sum with
  | nil => simp
  | cons point slice ih =>
    rw [List.foldl_cons, ih]
    simp only [addPoint, List.map_cons, List.sum_cons, add_assoc]

theorem bucketFloor_mono {every : ℚ} (h : 0 ≤ every) : Monotone (bucketFloor every) :=
  fun _ _ hij => Nat.succ_le_succ (floor_mul_mono h hij)

theorem lttbAverageChecked_eq {every : ℚ} (h : 0 ≤ every) (hlen : 2 < points.length) (bucket : ℕ) :
    lttbAverageChecked points every bucket = some (lttbAverage points every bucket) := by
  have hmono := bucketFloor_mono h (show bucket + 1 ≤ bucket + 2 by omega)
  have hstart : ⌊((bucket : ℚ) + 1) * every⌋₊ + 1 = bucketFloor every (bucket + 1) := by
    rw [bucketFloor, Nat.cast_succ]
  have hstop : ⌊((bucket : ℚ) + 2) * every⌋₊ + 1 = bucketFloor every (bucket + 2) := by
    rw [bucketFloor, Nat.cast_add, Nat.cast_ofNat]
  rw [lttbAverageChecked, lttbAverage, hstart, hstop]
  dsimp only
  rw [slice?, if_pos (by omega)]
  simp only [Option.bind_eq_bind, Option.bind_some, foldl_addPoint, zero_add]
  split_ifs
  · exact getElem?_getD (by omega)
  · rfl

theorem lttbNextChecked_eq {every : ℚ} (h : 0 ≤ every) (hlen : 2 < points.length) (bucket : ℕ)
    {selected : ℕ} (hsel : selected < points.length) :
    lttbNextChecked points every bucket selected =
      some (lttbNext points every bucket selected) := by
  have hstop : ⌊((bucket : ℚ) + 1) * every⌋₊ + 1 = bucketFloor every (bucket + 1) := by
    rw [bucketFloor, Nat.cast_succ]
  have hpoint : ∀ index, points[min index (points.length - 2)]? =
      some (points.getD (min index (points.length - 2)) 0) := by
    intro index
    exact getElem?_getD (by omega)
  rw [lttbNextChecked, lttbNext, hstop, lttbAverageChecked_eq h hlen, getElem?_getD hsel]
  simp only [Option.bind_eq_bind, Option.bind_some, hpoint, List.foldlM_pure]
  rfl

theorem lttbBucketChecked_eq {every : ℚ} (h : 0 ≤ every) (hlen : 2 < points.length)
    {acc : List Point × ℕ} (hacc : acc.2 < points.length) (bucket : ℕ) :
    lttbBucketChecked points every acc bucket =
      some (acc.1 ++ [points.getD (lttbNext points every bucket acc.2) 0],
        lttbNext points every bucket acc.2) := by
  rw [lttbBucketChecked, lttbNextChecked_eq h hlen bucket hacc]
  simp only [Option.bind_eq_bind, Option.bind_some]
  rw [getElem?_getD (lttbNext_lt hlen _ _ _)]
  rfl

theorem foldlM_lttbBucketChecked {every : ℚ} (h : 0 ≤ every) (hlen : 2 < points.length)
    (buckets : List ℕ) {acc : List Point × ℕ} (hacc : acc.2 < points.length) :
    buckets.foldlM (lttbBucketChecked points every) acc =
      some (buckets.foldl (fun acc bucket =>
        (acc.1 ++ [points.getD (lttbNext points every bucket acc.2) 0],
          lttbNext points every bucket acc.2)) acc) := by
  induction buckets generalizing acc with
  | nil => rfl
  | cons bucket buckets ih =>
    rw [List.foldlM_cons, lttbBucketChecked_eq h hlen hacc, List.foldl_cons]
    exact ih (lttbNext_lt hlen _ _ _)

/-- **No index of the function is out of range.** -/
theorem lttbChecked_eq (threshold : ℕ) :
    lttbChecked points threshold = some (lttb points threshold) := by
  rw [lttbChecked, lttb]
  split_ifs with hshort
  · rfl
  have hlen : 2 < points.length := by omega
  have hcast : ((points.length - 2 : ℕ) : ℚ) / ((threshold - 2 : ℕ) : ℚ) =
      ((points.length : ℚ) - 2) / ((threshold : ℚ) - 2) := by
    rw [Nat.cast_sub (by omega), Nat.cast_sub (by omega), Nat.cast_ofNat]
  have hevery : (0 : ℚ) ≤ ((points.length - 2 : ℕ) : ℚ) / ((threshold - 2 : ℕ) : ℚ) := by positivity
  have hlast : points.getLast? = some (points.getD (points.length - 1) 0) := by
    rw [List.getLast?_eq_getElem?, getElem?_getD (by omega)]
  rw [getElem?_getD (show 0 < points.length by omega), hlast]
  simp only [Option.bind_eq_bind, Option.bind_some]
  rw [foldlM_lttbBucketChecked hevery hlen _ (show 0 < points.length by omega), hcast]
  rfl

/-! ## The web client computes the same list -/

theorem webGet_natCast (i : ℕ) : webGet points (i : ℤ) = points[i]? := by
  rw [webGet, if_pos (Int.natCast_nonneg i), Int.toNat_natCast]

theorem webSliceEnd_natCast {i : ℕ} (hi : i ≤ points.length) : webSliceEnd points (i : ℤ) = i := by
  rw [webSliceEnd, if_neg (by omega), Int.toNat_natCast]
  omega

theorem floor_succ_eq {every : ℚ} (h : 0 ≤ every) (bucket : ℕ) :
    ⌊((bucket : ℤ) : ℚ) * every⌋ + 1 = (bucketFloor every bucket : ℤ) := by
  have hpos : (0 : ℚ) ≤ (bucket : ℚ) * every := by positivity
  rw [bucketFloor, Nat.cast_succ, Int.natCast_floor_eq_floor hpos, Int.cast_natCast]

theorem lttbWebAverage_eq {every : ℚ} (h : 0 ≤ every) (hlen : 2 < points.length) (bucket : ℕ) :
    lttbWebAverage points every bucket = lttbAverageChecked points every bucket := by
  have hmono := bucketFloor_mono h (show bucket + 1 ≤ bucket + 2 by omega)
  have hpos : 0 < bucketFloor every (bucket + 1) := Nat.succ_pos _
  have hstart : min (⌊((bucket + 1 : ℤ) : ℚ) * every⌋ + 1) (points.length : ℤ) =
      (min (bucketFloor every (bucket + 1)) points.length : ℕ) := by
    rw [Nat.cast_min, ← floor_succ_eq h, Nat.cast_succ]
  have hstop : min (⌊((bucket + 2 : ℤ) : ℚ) * every⌋ + 1) (points.length : ℤ) =
      (min (bucketFloor every (bucket + 2)) points.length : ℕ) := by
    rw [Nat.cast_min, ← floor_succ_eq h, Nat.cast_add, Nat.cast_ofNat]
  have hslice : slice? points (min (bucketFloor every (bucket + 1)) points.length)
      (min (bucketFloor every (bucket + 2)) points.length) =
        some ((points.take (min (bucketFloor every (bucket + 2)) points.length)).drop
          (min (bucketFloor every (bucket + 1)) points.length)) := if_pos (by omega)
  have hfallback : ∀ start : ℕ, 0 < start →
      min (max ((start : ℤ) - 1) 0) ((points.length : ℤ) - 1) =
        (min (start - 1) (points.length - 1) : ℕ) := by
    intro start hs
    omega
  rw [lttbWebAverage, lttbAverageChecked, hstart, hstop]
  dsimp only
  rw [hfallback _ (by omega), webGet_natCast, webSlice, webSliceEnd_natCast (by omega),
    webSliceEnd_natCast (by omega), hslice]
  simp only [Option.bind_eq_bind, Option.bind_some, List.length_eq_zero_iff]

/-- A scan whose places are kept as integers. -/
theorem foldl_scan_cast (f : ℕ → ℚ) (place : ℕ → ℕ) (indices : List ℕ) (best : ℕ × ℚ) :
    indices.foldl (fun best k => if best.2 < f k then ((place k : ℤ), f k) else best)
        ((best.1 : ℤ), best.2) =
      Prod.map Nat.cast id
        (indices.foldl (fun best k => if best.2 < f k then (place k, f k) else best) best) := by
  have hstep : ∀ (best : ℕ × ℚ) (k : ℕ),
      (if (Prod.map Nat.cast id best : ℤ × ℚ).2 < f k then ((place k : ℤ), f k)
        else Prod.map Nat.cast id best) =
        Prod.map Nat.cast id (if best.2 < f k then (place k, f k) else best) := by
    intro best k
    dsimp only [Prod.map, id]
    split_ifs <;> rfl
  exact List.foldl_hom (Prod.map Nat.cast id) hstep

theorem lttbWebNext_eq {every : ℚ} (h : 0 ≤ every) (hlen : 2 < points.length) (bucket : ℕ)
    {selected : ℕ} (hsel : selected < points.length) :
    lttbWebNext points every bucket selected =
      some ((lttbNext points every bucket selected : ℕ) : ℤ) := by
  have hstop : min (⌊((bucket + 1 : ℤ) : ℚ) * every⌋ + 1) ((points.length : ℤ) - 1) =
      (min (bucketFloor every (bucket + 1)) (points.length - 1) : ℕ) := by
    rw [Nat.cast_min, ← floor_succ_eq h, Nat.cast_succ, Nat.cast_sub (by omega), Nat.cast_one]
  have hnext := lttbNextChecked_eq h hlen bucket hsel
  rw [lttbNextChecked] at hnext
  rw [lttbWebNext, hstop, floor_succ_eq h, lttbWebAverage_eq h hlen, webGet_natCast]
  rw [lttbAverageChecked_eq h hlen, getElem?_getD hsel] at hnext ⊢
  dsimp only
  have hpoint : ∀ index, points[min index (points.length - 2)]? =
      some (points.getD (min index (points.length - 2)) 0) := by
    intro index
    exact getElem?_getD (by omega)
  have hcandidate : ∀ index : ℕ,
      min ((bucketFloor every bucket : ℤ) + (index : ℤ)) ((points.length : ℤ) - 2) =
        (min (bucketFloor every bucket + index) (points.length - 2) : ℕ) := by
    intro index
    omega
  have hcount : ∀ stop start : ℕ, (max (stop : ℤ) ((start : ℤ) + 1) - (start : ℤ)).toNat =
      max stop (start + 1) - start := by
    intro stop start
    omega
  simp only [Option.bind_eq_bind, Option.bind_some, hcandidate, hcount, webGet_natCast, hpoint,
    List.foldlM_pure, List.range'_eq_map_range, List.foldl_map] at hnext ⊢
  rw [← Option.some.inj hnext]
  have hscan := foldl_scan_cast
    (fun k => lttbArea (points.getD selected 0) (lttbAverage points every bucket)
      (points.getD (min (bucketFloor every bucket + k) (points.length - 2)) 0))
    (fun k => min (bucketFloor every bucket + k) (points.length - 2))
    (List.range (max (min (bucketFloor every (bucket + 1)) (points.length - 1))
      (bucketFloor every bucket + 1) - bucketFloor every bucket)) (bucketFloor every bucket, -1)
  exact congrArg (fun best => some best.1) hscan

theorem foldlM_lttbWebBucket {every : ℚ} (h : 0 ≤ every) (hlen : 2 < points.length)
    (buckets : List ℕ) (acc : List Point × ℕ) (hacc : acc.2 < points.length) :
    buckets.foldlM (lttbWebBucket points every) (acc.1, (acc.2 : ℤ)) =
      (buckets.foldlM (lttbBucketChecked points every) acc).map
        fun acc => (acc.1, (acc.2 : ℤ)) := by
  induction buckets generalizing acc with
  | nil => rfl
  | cons bucket buckets ih =>
    have hnext := lttbNext_lt hlen every bucket acc.2
    have hstep : lttbWebBucket points every (acc.1, (acc.2 : ℤ)) bucket =
        some (acc.1 ++ [points.getD (lttbNext points every bucket acc.2) 0],
          ((lttbNext points every bucket acc.2 : ℕ) : ℤ)) := by
      rw [lttbWebBucket, lttbWebNext_eq h hlen bucket hacc]
      simp only [Option.bind_eq_bind, Option.bind_some, webGet_natCast]
      rw [getElem?_getD hnext]
      rfl
    rw [List.foldlM_cons, List.foldlM_cons, hstep, lttbBucketChecked_eq h hlen hacc]
    exact ih (_, lttbNext points every bucket acc.2) hnext

/-- **The copy in the web client returns the same list.** -/
theorem lttbWeb_eq (threshold : ℕ) : lttbWeb points threshold = lttbChecked points threshold := by
  rw [lttbWeb, lttbChecked]
  split_ifs with hshort
  · rfl
  have hlen : 2 < points.length := by omega
  have hcast : ((points.length - 2 : ℕ) : ℚ) / ((threshold - 2 : ℕ) : ℚ) =
      ((points.length : ℚ) - 2) / ((threshold : ℚ) - 2) := by
    rw [Nat.cast_sub (by omega), Nat.cast_sub (by omega), Nat.cast_ofNat]
  have hevery : (0 : ℚ) ≤ ((points.length - 2 : ℕ) : ℚ) / ((threshold - 2 : ℕ) : ℚ) := by positivity
  have hlast : webGet points ((points.length : ℤ) - 1) = points.getLast? := by
    rw [List.getLast?_eq_getElem?, ← webGet_natCast, Nat.cast_sub (by omega), Nat.cast_one]
  have hfirst : webGet points 0 = points[0]? := webGet_natCast 0
  have hloop := foldlM_lttbWebBucket hevery hlen (List.range (threshold - 2))
    ([points.getD 0 0], 0) (by omega)
  rw [hlast, hfirst, ← hcast, getElem?_getD (show 0 < points.length by omega)]
  simp only [Option.bind_eq_bind, Option.bind_some]
  rw [Nat.cast_zero] at hloop
  rw [hloop, Option.map_eq_bind, Option.bind_assoc]
  rfl

end Total

/-! ## Buckets -/

/-- `every` for `length` points and a `threshold`. -/
def bucketRatio (length threshold : ℕ) : ℚ := ((length - 2 : ℕ) : ℚ) / ((threshold - 2 : ℕ) : ℚ)

def bucketStart (length threshold bucket : ℕ) : ℕ :=
  bucketFloor (bucketRatio length threshold) bucket

/-- The indices that compete for the interior point `bucket + 1` of the sample. -/
def bucket (length threshold bucket : ℕ) : Finset ℕ :=
  Finset.Ico (bucketStart length threshold bucket) (bucketStart length threshold (bucket + 1))

section Buckets

variable {length threshold : ℕ}

theorem one_le_bucketRatio (h3 : 3 ≤ threshold) (h : threshold ≤ length) :
    1 ≤ bucketRatio length threshold := by
  have hpos : (0 : ℚ) < ((threshold - 2 : ℕ) : ℚ) := by
    exact_mod_cast (show 0 < threshold - 2 by omega)
  have hle : ((threshold - 2 : ℕ) : ℚ) ≤ ((length - 2 : ℕ) : ℚ) := by
    exact_mod_cast (show threshold - 2 ≤ length - 2 by omega)
  exact (one_le_div hpos).mpr hle

theorem bucketStart_lt (h3 : 3 ≤ threshold) (h : threshold ≤ length) (i : ℕ) :
    bucketStart length threshold i < bucketStart length threshold (i + 1) := by
  have hlt := floor_mul_lt (one_le_bucketRatio h3 h) i
  simp only [bucketStart, bucketFloor, Nat.cast_succ]
  omega

theorem bucketStart_mono (h3 : 3 ≤ threshold) (h : threshold ≤ length) :
    Monotone (bucketStart length threshold) :=
  monotone_nat_of_le_succ fun i => (bucketStart_lt h3 h i).le

@[simp] theorem bucketStart_zero : bucketStart length threshold 0 = 1 := by
  simp [bucketStart, bucketFloor]

/-- The last bucket ends before the last point. -/
theorem bucketStart_last (h3 : 3 ≤ threshold) (h : threshold ≤ length) :
    bucketStart length threshold (threshold - 2) = length - 1 := by
  have hne : ((threshold - 2 : ℕ) : ℚ) ≠ 0 := by
    exact_mod_cast (show threshold - 2 ≠ 0 by omega)
  rw [bucketStart, bucketFloor, bucketRatio, mul_div_cancel₀ _ hne, Nat.floor_natCast]
  omega

theorem bucket_nonempty (h3 : 3 ≤ threshold) (h : threshold ≤ length) (i : ℕ) :
    (bucket length threshold i).Nonempty :=
  Finset.nonempty_Ico.mpr (bucketStart_lt h3 h i)

theorem bucket_disjoint (h3 : 3 ≤ threshold) (h : threshold ≤ length) {i i' : ℕ} (hne : i ≠ i') :
    Disjoint (bucket length threshold i) (bucket length threshold i') := by
  rw [Finset.disjoint_left]
  intro j hj hj'
  exact hne (bucket_unique (bucketStart_mono h3 h) (Finset.mem_Ico.mp hj) (Finset.mem_Ico.mp hj'))

theorem biUnion_bucket (h3 : 3 ≤ threshold) (h : threshold ≤ length) :
    (Finset.range (threshold - 2)).biUnion (bucket length threshold) =
      Finset.Ico 1 (length - 1) := by
  have hmono := bucketStart_mono h3 h
  have hlast := bucketStart_last h3 h
  have hzero : bucketStart length threshold 0 = 1 := bucketStart_zero
  ext j
  simp only [Finset.mem_biUnion, Finset.mem_range, bucket, Finset.mem_Ico]
  constructor
  · rintro ⟨i, hi, hlo, hhi⟩
    have hfrom := hmono (Nat.zero_le i)
    have hto := hmono (show i + 1 ≤ threshold - 2 by omega)
    omega
  · rintro ⟨hlo, hhi⟩
    exact exists_bucket (by omega) (by omega)

end Buckets

/-! ## What is selected -/

section Selected

variable {points : List Point} {threshold : ℕ}

/-- The average of the bucket after `i`, or the last point after the last bucket. -/
def nextAverage (points : List Point) (threshold i : ℕ) : Point :=
  if i + 1 < threshold - 2 then
    let next := bucket points.length threshold (i + 1)
    ((∑ j ∈ next, (points.getD j 0).1) / next.card, (∑ j ∈ next, (points.getD j 0).2) / next.card)
  else points.getD (points.length - 1) 0

/-- The index that is selected after `i` buckets. -/
def lttbSelected (points : List Point) (every : ℚ) : ℕ → ℕ
  | 0 => 0
  | i + 1 => lttbNext points every i (lttbSelected points every i)

def lttbIndices (points : List Point) (threshold : ℕ) : List ℕ :=
  (List.range (threshold - 1)).map
      (lttbSelected points (bucketRatio points.length threshold)) ++ [points.length - 1]

theorem foldl_lttbNext (every : ℚ) (count : ℕ) :
    (List.range count).foldl (fun (acc : List Point × ℕ) bucket =>
        (acc.1 ++ [points.getD (lttbNext points every bucket acc.2) 0],
          lttbNext points every bucket acc.2)) ([points.getD 0 0], 0) =
      ((List.range (count + 1)).map fun i => points.getD (lttbSelected points every i) 0,
        lttbSelected points every count) := by
  induction count with
  | zero => rfl
  | succ count ih =>
    rw [List.range_succ, List.foldl_append, ih, List.range_succ (n := count + 1), List.map_append]
    rfl

theorem lttb_eq_map (h3 : 3 ≤ threshold) (h : threshold < points.length) :
    lttb points threshold = (lttbIndices points threshold).map fun i => points.getD i 0 := by
  have hratio : ((points.length : ℚ) - 2) / ((threshold : ℚ) - 2) =
      bucketRatio points.length threshold := by
    rw [bucketRatio, Nat.cast_sub (by omega), Nat.cast_sub (by omega), Nat.cast_ofNat]
  have hsucc : threshold - 2 + 1 = threshold - 1 := by omega
  rw [lttb, if_neg (by omega), hratio]
  dsimp only
  rw [foldl_lttbNext, hsucc, lttbIndices, List.map_append, List.map_map]
  rfl

/-- The mean of a slice as a sum over its indices. -/
theorem slice_sum (value : Point → ℚ) {start stop : ℕ} (hstop : stop ≤ points.length) :
    (((points.take stop).drop start).map value).sum =
      ∑ j ∈ Finset.Ico start stop, value (points.getD j 0) := by
  have hslice : (points.take stop).drop start =
      (List.range' start (stop - start)).map fun j => points.getD j 0 := by
    refine List.ext_getElem (by simp; omega) fun k hk hk' => ?_
    simp only [List.length_drop, List.length_take] at hk
    simp only [List.getElem_drop, List.getElem_take, List.getElem_map, List.getElem_range', one_mul]
    rw [List.getD_eq_getElem _ _ (by omega)]
  rw [hslice, List.map_map]
  rfl

/-- The average of the next slice, whose ends are the next two boundaries, cut off at the end. -/
theorem lttbAverage_eq_sum (start stop : ℕ) {i : ℕ} (hlt : start < stop)
    (hstop : stop ≤ points.length)
    (hlo : start = min (bucketStart points.length threshold (i + 1)) points.length)
    (hhi : stop = min (bucketStart points.length threshold (i + 2)) points.length) :
    lttbAverage points (bucketRatio points.length threshold) i =
      ((∑ j ∈ Finset.Ico start stop, (points.getD j 0).1) / (stop - start : ℕ),
        (∑ j ∈ Finset.Ico start stop, (points.getD j 0).2) / (stop - start : ℕ)) := by
  have hone : ((i : ℚ) + 1) = ((i + 1 : ℕ) : ℚ) := (Nat.cast_succ i).symm
  have htwo : ((i : ℚ) + 2) = ((i + 2 : ℕ) : ℚ) := by rw [Nat.cast_add, Nat.cast_ofNat]
  have hlength : ((points.take stop).drop start).length = stop - start := by
    rw [List.length_drop, List.length_take]
    omega
  have hne : (points.take stop).drop start ≠ [] :=
    List.ne_nil_of_length_pos (by omega)
  rw [bucketStart, bucketFloor, ← hone] at hlo
  rw [bucketStart, bucketFloor, ← htwo] at hhi
  rw [lttbAverage, ← hlo, ← hhi, if_neg hne, hlength, slice_sum _ hstop, slice_sum _ hstop]

theorem lttbAverage_eq_nextAverage (h3 : 3 ≤ threshold) (h : threshold < points.length) {i : ℕ}
    (hi : i < threshold - 2) :
    lttbAverage points (bucketRatio points.length threshold) i =
      nextAverage points threshold i := by
  have hlast := bucketStart_last h3 h.le
  have hstep : bucketStart points.length threshold (i + 1) <
      bucketStart points.length threshold (i + 2) := bucketStart_lt h3 h.le (i + 1)
  rw [nextAverage]
  split_ifs with hnext
  · -- a bucket follows, and both of its ends lie before the last point
    have hend := bucketStart_mono h3 h.le (show i + 2 ≤ threshold - 2 by omega)
    have hcard : (bucket points.length threshold (i + 1)).card =
        bucketStart points.length threshold (i + 2) -
          bucketStart points.length threshold (i + 1) := Nat.card_Ico _ _
    rw [lttbAverage_eq_sum _ _ hstep (by omega) (by omega) (by omega)]
    dsimp only
    rw [hcard]
    rfl
  · -- the slice after the last bucket is the last point
    have heq : i + 1 = threshold - 2 := by omega
    rw [heq, hlast] at hstep
    rw [lttbAverage_eq_sum (points.length - 1) points.length (by omega) le_rfl
      (by rw [heq]; omega) (by omega)]
    have hsingle : Finset.Ico (points.length - 1) points.length = {points.length - 1} := by
      ext j
      simp only [Finset.mem_Ico, Finset.mem_singleton]
      omega
    rw [hsingle, Finset.sum_singleton, Finset.sum_singleton,
      show points.length - (points.length - 1) = 1 by omega, Nat.cast_one, div_one, div_one]

/-- **The choice in a bucket**: the first index of the bucket with the largest area. -/
theorem lttbNext_firstMax (h3 : 3 ≤ threshold) (h : threshold < points.length) {i : ℕ}
    (hi : i < threshold - 2) (selected : ℕ) :
    FirstMax (fun j => lttbArea (points.getD selected 0) (nextAverage points threshold i)
        (points.getD j 0))
      (bucketStart points.length threshold i) (bucketStart points.length threshold (i + 1))
      (lttbNext points (bucketRatio points.length threshold) i selected) := by
  have hone : ((i : ℚ) + 1) = ((i + 1 : ℕ) : ℚ) := (Nat.cast_succ i).symm
  have hlast := bucketStart_last h3 h.le
  have hlt := bucketStart_lt h3 h.le i
  have hend := bucketStart_mono h3 h.le (show i + 1 ≤ threshold - 2 by omega)
  have hstart : ⌊(i : ℚ) * bucketRatio points.length threshold⌋₊ + 1 =
      bucketStart points.length threshold i := rfl
  have hstop : ⌊((i : ℚ) + 1) * bucketRatio points.length threshold⌋₊ + 1 =
      bucketStart points.length threshold (i + 1) := by
    rw [hone]
    rfl
  rw [lttbNext, hstart, hstop, lttbAverage_eq_nextAverage h3 h hi]
  generalize bucketStart points.length threshold i = start at hlt ⊢
  generalize bucketStart points.length threshold (i + 1) = stop at hlt hend ⊢
  obtain ⟨count, hcount⟩ : ∃ count, stop = start + (count + 1) := ⟨stop - start - 1, by omega⟩
  have hlength : max (min stop (points.length - 1)) (start + 1) - start = count + 1 := by omega
  dsimp only
  rw [hlength, hcount]
  have harea : ∀ j, (-1 : ℚ) < lttbArea (points.getD selected 0) (nextAverage points threshold i)
      (points.getD j 0) := fun j => lt_of_lt_of_le (by decide +kernel) (abs_nonneg _)
  have hscan := scan_firstMax harea start start count
  rw [List.foldl_ext _ (scanStep fun j => lttbArea (points.getD selected 0)
    (nextAverage points threshold i) (points.getD j 0)) _ fun best index hindex => ?_]
  · exact hscan
  · -- inside the bucket the cap at the last interior point does nothing
    have hcap : min index (points.length - 2) = index := by
      rw [List.mem_range'_1] at hindex
      omega
    rw [hcap]
    rfl

/-- The index selected after `i` buckets lies before bucket `i`. -/
theorem lttbSelected_lt (h3 : 3 ≤ threshold) (h : threshold < points.length) {i : ℕ}
    (hi : i ≤ threshold - 2) :
    lttbSelected points (bucketRatio points.length threshold) i <
      bucketStart points.length threshold i := by
  cases i with
  | zero => simp [lttbSelected]
  | succ i => exact (lttbNext_firstMax h3 h (by omega) _).upper

theorem lttbSelected_lt_succ (h3 : 3 ≤ threshold) (h : threshold < points.length) {i : ℕ}
    (hi : i < threshold - 2) :
    lttbSelected points (bucketRatio points.length threshold) i <
      lttbSelected points (bucketRatio points.length threshold) (i + 1) :=
  lt_of_lt_of_le (lttbSelected_lt h3 h hi.le) (lttbNext_firstMax h3 h hi _).lower

theorem lttbIndices_length (h3 : 3 ≤ threshold) :
    (lttbIndices points threshold).length = threshold := by
  simp only [lttbIndices, List.length_append, List.length_map, List.length_range,
    List.length_singleton]
  omega

theorem lttbIndices_getD {i : ℕ} (hi : i < threshold - 1) :
    (lttbIndices points threshold).getD i 0 =
      lttbSelected points (bucketRatio points.length threshold) i := by
  have hlength : i < ((List.range (threshold - 1)).map
      (lttbSelected points (bucketRatio points.length threshold))).length := by simpa using hi
  rw [lttbIndices, List.getD_append _ _ _ _ hlength, List.getD_eq_getElem _ _ hlength]
  simp only [List.getElem_map, List.getElem_range]

theorem lttbIndices_last :
    (lttbIndices points threshold).getD (threshold - 1) 0 = points.length - 1 := by
  have hlength : ((List.range (threshold - 1)).map
      (lttbSelected points (bucketRatio points.length threshold))).length = threshold - 1 := by simp
  rw [lttbIndices, List.getD_append_right _ _ _ _ hlength.le, hlength, Nat.sub_self]
  rfl

theorem lttbIndices_lt_succ (h3 : 3 ≤ threshold) (h : threshold < points.length) {i : ℕ}
    (hi : i + 1 < threshold) : (lttbIndices points threshold).getD i 0 <
      (lttbIndices points threshold).getD (i + 1) 0 := by
  rcases Nat.lt_or_ge (i + 1) (threshold - 1) with hlt | hge
  · rw [lttbIndices_getD (by omega), lttbIndices_getD hlt]
    exact lttbSelected_lt_succ h3 h (by omega)
  · have heq : i + 1 = threshold - 1 := by omega
    have hbefore := lttbSelected_lt h3 h (show i ≤ threshold - 2 by omega)
    have hend := bucketStart_mono h3 h.le (show i ≤ threshold - 2 by omega)
    rw [bucketStart_last h3 h.le] at hend
    rw [heq, lttbIndices_last, lttbIndices_getD (by omega)]
    omega

theorem lttbIndices_pairwise (h3 : 3 ≤ threshold) (h : threshold < points.length) :
    (lttbIndices points threshold).Pairwise (· < ·) := by
  rw [← List.isChain_iff_pairwise, List.isChain_iff_getElem]
  intro i hi
  rw [lttbIndices_length h3] at hi
  have hlt := lttbIndices_lt_succ h3 h hi
  rwa [List.getD_eq_getElem _ _ (by rw [lttbIndices_length h3]; omega),
    List.getD_eq_getElem _ _ (by rw [lttbIndices_length h3]; omega)] at hlt

/-- **Down-sampling.**  Neither function reads out of range and both return the same `threshold`
points.  Their indices increase from the first to the last point, the buckets tile what lies
between, and the index from a bucket is the first one there with the largest triangle. -/
theorem lttb_spec (h3 : 3 ≤ threshold) (h : threshold < points.length) :
    ∃ indices : List ℕ,
      lttbChecked points threshold = some (indices.map fun i => points.getD i 0) ∧
      lttbWeb points threshold = lttbChecked points threshold ∧
      indices.length = threshold ∧ indices.getD 0 0 = 0 ∧
      indices.getD (threshold - 1) 0 = points.length - 1 ∧
      indices.Pairwise (· < ·) ∧
      (∀ i < threshold - 2,
        indices.getD (i + 1) 0 ∈ bucket points.length threshold i ∧
        FirstMax (fun j => lttbArea (points.getD (indices.getD i 0) 0)
            (nextAverage points threshold i) (points.getD j 0))
          (bucketStart points.length threshold i) (bucketStart points.length threshold (i + 1))
          (indices.getD (i + 1) 0)) ∧
      (∀ i < threshold - 2, (bucket points.length threshold i).Nonempty) ∧
      (∀ i i', i ≠ i' →
        Disjoint (bucket points.length threshold i) (bucket points.length threshold i')) ∧
      (Finset.range (threshold - 2)).biUnion (bucket points.length threshold) =
        Finset.Ico 1 (points.length - 1) := by
  refine ⟨lttbIndices points threshold, ?_, lttbWeb_eq _, lttbIndices_length h3, ?_,
    lttbIndices_last, lttbIndices_pairwise h3 h, fun i hi => ?_,
    fun i _ => bucket_nonempty h3 h.le i, fun i i' hne => bucket_disjoint h3 h.le hne,
    biUnion_bucket h3 h.le⟩
  · rw [lttbChecked_eq, lttb_eq_map h3 h]
  · rw [lttbIndices_getD (by omega)]
    rfl
  · have hfirst := lttbNext_firstMax h3 h hi
      (lttbSelected points (bucketRatio points.length threshold) i)
    rw [lttbIndices_getD (show i + 1 < threshold - 1 by omega),
      lttbIndices_getD (show i < threshold - 1 by omega)]
    exact ⟨Finset.mem_Ico.mpr ⟨hfirst.lower, hfirst.upper⟩, hfirst⟩

/-- Four of six points. -/
def sixPoints : List Point := [(0, 0), (1, 3), (2, 1), (3, 7), (4, 2), (5, 0)]

theorem lttb_spec_sixPoints :
    (3 ≤ 4 ∧ 4 < sixPoints.length) ∧
      ∃ indices : List ℕ, indices.length = 4 ∧
        lttbChecked sixPoints 4 = some (indices.map fun i => sixPoints.getD i 0) := by
  have h : 4 < sixPoints.length := by decide
  obtain ⟨indices, hsample, -, hlength, -⟩ := lttb_spec (by decide : 3 ≤ 4) h
  exact ⟨⟨by decide, h⟩, indices, hlength, hsample⟩

example : lttbChecked sixPoints 4 = some [(0, 0), (1, 3), (3, 7), (5, 0)] := by decide +kernel

end Selected

end FlyRuler.Management
