import FlyRuler.Pb
import Mathlib.Algebra.Order.Field.Basic
import Mathlib.Tactic.FieldSimp
import Mathlib.Tactic.Linarith
import Mathlib.Tactic.Ring

/-!
# The view of the timeline

`zoomTimeRange` of `web/src/utils.ts` and the view of `web/src/components/TimelineBar.vue`: the
part of the timeline that is shown, which the wheel and the buttons zoom and which follows the
bounds that the server sends.  Arithmetic is exact; what `Math.exp` makes of the wheel is given.

* `zoomed_zoomTimeRange`: what a zoom does with a view.
* `view_run`: the view after any run, and what the wheel does there.
-/

namespace FlyRuler.Web

open FlyRuler.Pb

/-! ## The zoom -/

/-- The length of the view after a zoom, before the whole range is taken for it. -/
def targetSpan (fullSpan minimumSpan viewSpan factor : ℚ) : ℚ :=
  min fullSpan (max (min minimumSpan fullSpan) (viewSpan * factor))

/-- The view around the anchor, shifted into the bounds. -/
def shifted (bounds : ℚ × ℚ) (nextStart target : ℚ) : ℚ × ℚ :=
  let nextEnd := nextStart + target
  let (nextStart, nextEnd) :=
    if nextStart < bounds.1 then (bounds.1, nextEnd + (bounds.1 - nextStart))
    else (nextStart, nextEnd)
  let (nextStart, nextEnd) :=
    if bounds.2 < nextEnd then (nextStart - (nextEnd - bounds.2), bounds.2)
    else (nextStart, nextEnd)
  (max bounds.1 nextStart, min bounds.2 nextEnd)

def zoomTimeRange (bounds view : ℚ × ℚ) (anchor factor : F64) (minimumSpan : ℚ) : ℚ × ℚ :=
  let fullSpan := bounds.2 - bounds.1
  match anchor.toFinite, factor.toFinite with
  | some anchor, some factor =>
    if fullSpan ≤ 0 ∨ factor ≤ 0 then bounds
    else
      let start := max bounds.1 (min view.1 bounds.2)
      let stop := max start (min view.2 bounds.2)
      let viewSpan := max (stop - start) (min minimumSpan fullSpan)
      let target := targetSpan fullSpan minimumSpan viewSpan factor
      if fullSpan * (1 - 1 / 1000000000) ≤ target then bounds
      else
        let clampedAnchor := min stop (max start anchor)
        let anchorRatio := min 1 (max 0 ((clampedAnchor - start) / viewSpan))
        shifted bounds (clampedAnchor - target * anchorRatio) target
  | _, _ => bounds

/-- The view lies within the bounds. -/
def Within (bounds view : ℚ × ℚ) : Prop :=
  bounds.1 ≤ view.1 ∧ view.1 < view.2 ∧ view.2 ≤ bounds.2

/-- What a zoom makes of a view within the bounds that is no shorter than the shortest one. -/
structure Zoomed (bounds view : ℚ × ℚ) (anchor factor : ℚ) (next : ℚ × ℚ) : Prop where
  within : Within bounds next
  -- the anchor stays in the view, and where it was in it, unless the view meets a bound
  anchored : next.1 ≤ anchor ∧ anchor ≤ next.2
  placed : next.1 = bounds.1 ∨ next.2 = bounds.2 ∨
    (anchor - next.1) * (view.2 - view.1) = (anchor - view.1) * (next.2 - next.1)
  outward : 1 ≤ factor → next.1 ≤ view.1 ∧ view.2 ≤ next.2
  -- a view of all but a billionth of the bounds may become the bounds
  inward : factor ≤ 1 → view.1 ≤ next.1 ∧ next.2 ≤ view.2 ∨
    next = bounds ∧ (bounds.2 - bounds.1) * (1 - 1 / 1000000000) ≤ view.2 - view.1

theorem zoomed_bounds {bounds view : ℚ × ℚ} {anchor : ℚ} (hview : Within bounds view)
    (hanchor : view.1 ≤ anchor ∧ anchor ≤ view.2) {factor : ℚ}
    (hwhole : factor ≤ 1 → (bounds.2 - bounds.1) * (1 - 1 / 1000000000) ≤ view.2 - view.1) :
    Zoomed bounds view anchor factor bounds where
  within := ⟨le_refl _, hview.1.trans_lt (hview.2.1.trans_le hview.2.2), le_refl _⟩
  anchored := ⟨hview.1.trans hanchor.1, hanchor.2.trans hview.2.2⟩
  placed := .inl rfl
  outward _ := ⟨hview.1, hview.2.2⟩
  inward hfactor := .inr ⟨rfl, hwhole hfactor⟩

/-- **The shift** leaves a view that fits as it is, and moves one that does not to a bound. -/
theorem shifted_eq {bounds : ℚ × ℚ} {target : ℚ} (hfits : target ≤ bounds.2 - bounds.1)
    (nextStart : ℚ) :
    shifted bounds nextStart target =
      if nextStart < bounds.1 then (bounds.1, bounds.1 + target)
      else if bounds.2 < nextStart + target then (bounds.2 - target, bounds.2)
      else (nextStart, nextStart + target) := by
  unfold shifted
  by_cases hleft : nextStart < bounds.1
  · have hright : ¬bounds.2 < nextStart + target + (bounds.1 - nextStart) := by linarith
    simp only [hleft, if_true, hright, if_false]
    refine Prod.ext (max_self _) ?_
    rw [min_eq_right (by linarith)]
    ring
  · by_cases hright : bounds.2 < nextStart + target
    · simp only [hleft, if_false, hright, if_true]
      refine Prod.ext ?_ (min_self _)
      rw [max_eq_right (by linarith)]
      ring
    · simp only [hleft, if_false, hright]
      refine Prod.ext (max_eq_right (by linarith)) (min_eq_right (by linarith))

section Zoom

variable {bounds view : ℚ × ℚ} {anchor factor minimumSpan : ℚ}

/-- **A zoom around the anchor**: the new view is that of the target length in which the anchor is
where it was, shifted into the bounds. -/
theorem zoomed_shifted (hview : Within bounds view)
    (hanchor : view.1 ≤ anchor ∧ anchor ≤ view.2) {target : ℚ} (hpos : 0 < target)
    (hfits : target ≤ bounds.2 - bounds.1)
    (houtward : 1 ≤ factor → view.2 - view.1 ≤ target)
    (hinward : factor ≤ 1 → target ≤ view.2 - view.1) :
    Zoomed bounds view anchor factor (shifted bounds
      (anchor - target * ((anchor - view.1) / (view.2 - view.1))) target) := by
  obtain ⟨hlower, hlt, hupper⟩ := hview
  obtain ⟨hleft, hright⟩ := hanchor
  have hspan : 0 < view.2 - view.1 := sub_pos.mpr hlt
  -- the anchor in the view, as a ratio
  obtain ⟨ratio, hratio⟩ : ∃ ratio, ratio = (anchor - view.1) / (view.2 - view.1) := ⟨_, rfl⟩
  have hplace : anchor - view.1 = ratio * (view.2 - view.1) := by
    rw [hratio, div_mul_cancel₀ _ hspan.ne']
  have hratio0 : 0 ≤ ratio := by
    rw [hratio]
    exact div_nonneg (sub_nonneg.mpr hleft) hspan.le
  have hratio1 : ratio ≤ 1 := by
    rw [hratio, div_le_one hspan]
    linarith
  rw [← hratio]
  have hbefore : target * ratio ≤ target := mul_le_of_le_one_right hpos.le hratio1
  have hbehind : 0 ≤ target * ratio := mul_nonneg hpos.le hratio0
  -- how far the ends of the unshifted view are from those of the old one
  have hout : 1 ≤ factor → anchor - target * ratio ≤ view.1 ∧
      view.2 ≤ anchor - target * ratio + target := by
    intro hfactor
    have hlonger := houtward hfactor
    constructor
    · nlinarith only [mul_le_mul_of_nonneg_left hlonger hratio0, hplace]
    · nlinarith only [mul_le_mul_of_nonneg_left hlonger (sub_nonneg.mpr hratio1), hplace]
  have hin : factor ≤ 1 → view.1 ≤ anchor - target * ratio ∧
      anchor - target * ratio + target ≤ view.2 := by
    intro hfactor
    have hshorter := hinward hfactor
    constructor
    · nlinarith only [mul_le_mul_of_nonneg_left hshorter hratio0, hplace]
    · nlinarith only [mul_le_mul_of_nonneg_left hshorter (sub_nonneg.mpr hratio1), hplace]
  rw [shifted_eq hfits]
  split_ifs with hbelow habove
  · refine ⟨⟨le_refl _, by dsimp only; linarith, by dsimp only; linarith⟩, ?_, .inl rfl, ?_, ?_⟩
    · exact ⟨hlower.trans hleft, by dsimp only; linarith⟩
    · intro hfactor
      exact ⟨hlower, by dsimp only; linarith [(hout hfactor).2]⟩
    · intro hfactor
      exact absurd hbelow (not_lt.mpr (hlower.trans (hin hfactor).1))
  · refine ⟨⟨by dsimp only; linarith, by dsimp only; linarith, le_refl _⟩, ?_, .inr (.inl rfl),
      ?_, ?_⟩
    · exact ⟨by dsimp only; linarith, hright.trans hupper⟩
    · intro hfactor
      exact ⟨by dsimp only; linarith [(hout hfactor).1], hupper⟩
    · intro hfactor
      exact absurd habove (not_lt.mpr ((hin hfactor).2.trans hupper))
  · refine ⟨⟨by dsimp only; linarith, by dsimp only; linarith, by dsimp only; linarith⟩, ?_,
      .inr (.inr ?_), fun hfactor => hout hfactor, fun hfactor => .inl (hin hfactor)⟩
    · exact ⟨by dsimp only; linarith, by dsimp only; linarith⟩
    · dsimp only
      rw [hplace]
      ring

theorem targetSpan_le (fullSpan minimumSpan viewSpan factor : ℚ) :
    targetSpan fullSpan minimumSpan viewSpan factor ≤ fullSpan := min_le_left _ _

theorem le_targetSpan (fullSpan minimumSpan viewSpan factor : ℚ) :
    min minimumSpan fullSpan ≤ targetSpan fullSpan minimumSpan viewSpan factor :=
  le_min (min_le_right _ _) (le_max_left _ _)

/-- **What a zoom does with a view.** -/
theorem zoomed_zoomTimeRange (hview : Within bounds view)
    (hanchor : view.1 ≤ anchor ∧ anchor ≤ view.2) (hmin : 0 < minimumSpan)
    (hlong : min minimumSpan (bounds.2 - bounds.1) ≤ view.2 - view.1) (hfactor : 0 < factor) :
    Zoomed bounds view anchor factor
      (zoomTimeRange bounds view (.finite anchor) (.finite factor) minimumSpan) := by
  obtain ⟨hlower, hlt, hupper⟩ := hview
  have hfull : 0 < bounds.2 - bounds.1 := by linarith
  have hstart : max bounds.1 (min view.1 bounds.2) = view.1 := by
    rw [min_eq_left (by linarith), max_eq_right hlower]
  have hstop : max view.1 (min view.2 bounds.2) = view.2 := by
    rw [min_eq_left hupper, max_eq_right hlt.le]
  have hclamped : min view.2 (max view.1 anchor) = anchor := by
    rw [max_eq_right hanchor.1, min_eq_right hanchor.2]
  have hratio : min 1 (max 0 ((anchor - view.1) / (view.2 - view.1))) =
      (anchor - view.1) / (view.2 - view.1) := by
    rw [max_eq_right (div_nonneg (by linarith) (by linarith)),
      min_eq_right ((div_le_one (by linarith)).mpr (by linarith))]
  unfold zoomTimeRange
  simp only [F64.toFinite, hstart, hstop, max_eq_left hlong, hclamped, hratio]
  rw [if_neg (by rw [not_or, not_le, not_le]; exact ⟨hfull, hfactor⟩)]
  have hshorter : factor ≤ 1 →
      targetSpan (bounds.2 - bounds.1) minimumSpan (view.2 - view.1) factor ≤
        view.2 - view.1 := by
    intro hin
    refine (min_le_right _ _).trans (max_le hlong ?_)
    exact mul_le_of_le_one_right (by linarith) hin
  split_ifs with hwhole
  · exact zoomed_bounds ⟨hlower, hlt, hupper⟩ hanchor fun hin => hwhole.trans (hshorter hin)
  · refine zoomed_shifted ⟨hlower, hlt, hupper⟩ hanchor ?_ (targetSpan_le _ _ _ _) ?_ hshorter
    · exact (lt_min hmin hfull).trans_le (le_targetSpan _ _ _ _)
    · intro hout
      refine le_min (by linarith) (le_max_of_le_right ?_)
      exact le_mul_of_one_le_right (by linarith) hout

/-- **Any zoom** of any view ends within proper bounds, in a view that is long enough or the whole
range. -/
theorem within_zoomTimeRange (hproper : bounds.1 < bounds.2) (hmin : 0 < minimumSpan)
    (view : ℚ × ℚ) (anchor factor : F64) :
    let next := zoomTimeRange bounds view anchor factor minimumSpan
    Within bounds next ∧ (next = bounds ∨
      min minimumSpan (bounds.2 - bounds.1) ≤ next.2 - next.1) := by
  have hwhole : Within bounds bounds := ⟨le_refl _, hproper, le_refl _⟩
  have hfull : 0 < bounds.2 - bounds.1 := sub_pos.mpr hproper
  unfold zoomTimeRange
  dsimp only
  split
  · split_ifs with hnothing hlarge
    · exact ⟨hwhole, .inl rfl⟩
    · exact ⟨hwhole, .inl rfl⟩
    · next anchor factor _ _ =>
      generalize hspan : max _ (min minimumSpan (bounds.2 - bounds.1)) = viewSpan
      have hfits := targetSpan_le (bounds.2 - bounds.1) minimumSpan viewSpan factor
      have hpos : 0 < targetSpan (bounds.2 - bounds.1) minimumSpan viewSpan factor :=
        (lt_min hmin hfull).trans_le (le_targetSpan _ _ _ _)
      have hlong := le_targetSpan (bounds.2 - bounds.1) minimumSpan viewSpan factor
      generalize targetSpan (bounds.2 - bounds.1) minimumSpan viewSpan factor = target at *
      rw [shifted_eq hfits]
      split_ifs with hbelow habove
      · exact ⟨⟨le_refl _, by dsimp only; linarith, by dsimp only; linarith⟩,
          .inr (by dsimp only; linarith)⟩
      · exact ⟨⟨by dsimp only; linarith, by dsimp only; linarith, le_refl _⟩,
          .inr (by dsimp only; linarith)⟩
      · exact ⟨⟨by dsimp only; linarith, by dsimp only; linarith, by dsimp only; linarith⟩,
          .inr (by dsimp only; linarith)⟩
  · exact ⟨hwhole, .inl rfl⟩

end Zoom

/-! ## The view -/

/-- What the component remembers; `bounds` are those of the playback, if there are any. -/
structure TimelineView where
  bounds : Option (ℚ × ℚ) := none
  viewStart : ℚ := 0
  viewEnd : ℚ := 1
  preview : ℚ := 0
  dragging : Bool := false
  suppressTrackPointer : Bool := false
  deriving DecidableEq

namespace TimelineView

variable (v : TimelineView)

/-- The computed `bounds`. -/
def range : ℚ × ℚ := v.bounds.getD (0, 1)

def visibleRange : ℚ × ℚ := (v.viewStart, v.viewEnd)

def fullSpan : ℚ := max (v.range.2 - v.range.1) (1 / 1000)

def visibleSpan : ℚ := max (v.viewEnd - v.viewStart) (1 / 1000)

def minimumSpan : ℚ := max (v.fullSpan / 10000) (1 / 1000)

/-- Two times are taken for the same. -/
def near (left right : ℚ) : Bool := decide (|left - right| ≤ 1 / 1000000000)

def isFullRange : Bool := near v.viewStart v.range.1 && near v.viewEnd v.range.2

def canZoomIn : Bool := decide (v.minimumSpan * (1001 / 1000) < v.visibleSpan)

def setView (view : ℚ × ℚ) : TimelineView := { v with viewStart := view.1, viewEnd := view.2 }

/-- The time at a place of the track, 0 and 1 being its ends; `timestampFromClientX`. -/
def timestampAt (place : ℚ) : ℚ := v.viewStart + min 1 (max 0 place) * v.visibleSpan

/-- The view was the whole range before the bounds changed. -/
def followedFullRange : Bool :=
  match v.bounds with
  | none => true
  | some (oldStart, oldEnd) => near v.viewStart oldStart && near v.viewEnd oldEnd

/-- The watch of the bounds, which runs when they change. -/
def watchBounds (bounds : Option (ℚ × ℚ)) : TimelineView :=
  if bounds = v.bounds then v
  else
    let v' := { v with bounds := bounds }
    match bounds with
    | none => v'.setView (0, 1)
    | some (start, stop) =>
      if stop ≤ start then v'.setView (0, 1)
      else if v.followedFullRange || decide (v.viewEnd ≤ start) || decide (stop ≤ v.viewStart) then
        v'.setView (start, stop)
      else
        let retainedSpan := min (v.viewEnd - v.viewStart) (stop - start)
        let viewStart := max start (min v.viewStart (stop - retainedSpan))
        v'.setView (viewStart, viewStart + retainedSpan)

/-- The watch of the cursor. -/
def watchCursor (cursor : Option ℚ) : TimelineView :=
  match cursor with
  | some cursor => if v.dragging then v else { v with preview := cursor }
  | none => v

def startDrag (place : ℚ) : TimelineView :=
  if v.suppressTrackPointer then { v with suppressTrackPointer := false }
  else { v with dragging := true, preview := v.timestampAt place }

def moveDrag (place : ℚ) : TimelineView :=
  if v.dragging then { v with preview := v.timestampAt place } else v

def finishDrag (place : ℚ) : TimelineView :=
  { v with preview := v.timestampAt place, dragging := false }

def zoomAnchor : ℚ :=
  if v.viewStart ≤ v.preview ∧ v.preview ≤ v.viewEnd then v.preview
  else (v.viewStart + v.viewEnd) / 2

def applyZoom (factor : F64) (anchor : ℚ) : TimelineView :=
  v.setView (zoomTimeRange v.range v.visibleRange (.finite anchor) factor v.minimumSpan)

/-- `Math.min(2, Math.max(0.5, scale))`. -/
def wheelFactor : F64 → F64
  | .finite scale => .finite (min 2 (max (1 / 2) scale))
  | .posInf => .finite 2
  | .negInf => .finite (1 / 2)
  | .nan => .nan

/-- `scale` is what `Math.exp` makes of the turn of the wheel. -/
def handleWheel (scale : F64) (place : ℚ) : TimelineView :=
  v.applyZoom (wheelFactor scale) (v.timestampAt place)

def zoomIn : TimelineView :=
  if v.canZoomIn then v.applyZoom (.finite (1 / 2)) v.zoomAnchor else v

def zoomOut : TimelineView :=
  if v.isFullRange then v else v.applyZoom (.finite 2) v.zoomAnchor

def resetZoom : TimelineView := if v.isFullRange then v else v.setView v.range

end TimelineView

inductive TimelineAction where
  | bounds (bounds : Option (ℚ × ℚ))
  | cursor (cursor : Option ℚ)
  | startEventJump
  | jumpCluster (timestamp : ℚ)
  | startDrag (place : ℚ)
  | moveDrag (place : ℚ)
  | finishDrag (place : ℚ)
  | wheel (scale : F64) (place : ℚ)
  | zoomIn
  | zoomOut
  | resetZoom

namespace TimelineView

def step (v : TimelineView) : TimelineAction → TimelineView
  | .bounds bounds => v.watchBounds bounds
  | .cursor cursor => v.watchCursor cursor
  | .startEventJump => { v with suppressTrackPointer := true }
  | .jumpCluster timestamp => { v with preview := timestamp }
  | .startDrag place => v.startDrag place
  | .moveDrag place => v.moveDrag place
  | .finishDrag place => v.finishDrag place
  | .wheel scale place => v.handleWheel scale place
  | .zoomIn => v.zoomIn
  | .zoomOut => v.zoomOut
  | .resetZoom => v.resetZoom

def run (actions : List TimelineAction) : TimelineView := actions.foldl step {}

/-- The view is in proper bounds, and whole or no shorter than a millisecond.  With bounds that are
not proper, of one time only, it is the range from 0 to 1 or these bounds. -/
def Sound (v : TimelineView) : Prop :=
  if v.range.1 < v.range.2 then
    Within v.range v.visibleRange ∧
      (v.visibleRange = v.range ∨ 1 / 1000 ≤ v.viewEnd - v.viewStart)
  else v.visibleRange = (0, 1) ∨ v.visibleRange = v.range

variable {v : TimelineView}

theorem minimumSpan_pos (v : TimelineView) : 0 < v.minimumSpan :=
  lt_max_of_lt_right (by norm_num)

theorem le_minimumSpan (v : TimelineView) : 1 / 1000 ≤ v.minimumSpan := le_max_right _ _

theorem sound_of_same {v' : TimelineView} (h : v.Sound) (hbounds : v'.bounds = v.bounds)
    (hview : v'.visibleRange = v.visibleRange) : v'.Sound := by
  obtain ⟨hstart, hend⟩ := Prod.mk.inj hview
  unfold Sound range at *
  rw [hbounds, hview, hstart, hend]
  exact h

theorem zoomTimeRange_improper {bounds : ℚ × ℚ} (h : bounds.2 ≤ bounds.1) (view : ℚ × ℚ)
    (anchor factor : F64) (minimumSpan : ℚ) :
    zoomTimeRange bounds view anchor factor minimumSpan = bounds := by
  unfold zoomTimeRange
  dsimp only
  split
  · rw [if_pos (.inl (by linarith))]
  · rfl

/-- The whole range is a sound view. -/
theorem sound_setView_range (v : TimelineView) : (v.setView v.range).Sound := by
  unfold Sound
  split_ifs with hproper
  · exact ⟨⟨le_refl _, hproper, le_refl _⟩, .inl rfl⟩
  · exact .inr rfl

/-- **Any zoom** leaves a sound view. -/
theorem sound_applyZoom (v : TimelineView) (factor : F64) (anchor : ℚ) :
    (v.applyZoom factor anchor).Sound := by
  unfold Sound
  have hrange : (v.applyZoom factor anchor).range = v.range := rfl
  rw [hrange]
  split_ifs with hproper
  · obtain ⟨hwithin, hlong⟩ := within_zoomTimeRange hproper v.minimumSpan_pos v.visibleRange
      (.finite anchor) factor
    refine ⟨hwithin, ?_⟩
    rcases hlong with hwhole | hlong
    · exact .inl hwhole
    · rcases le_or_gt (1 / 1000) (v.range.2 - v.range.1) with hfull | hfull
      · exact .inr ((le_min v.le_minimumSpan hfull).trans hlong)
      · -- a range this short is shown as a whole
        rw [min_eq_right (hfull.le.trans v.le_minimumSpan)] at hlong
        obtain ⟨hlower, -, hupper⟩ := hwithin
        exact .inl (Prod.ext (by dsimp only [visibleRange, applyZoom, setView] at *; linarith)
          (by dsimp only [visibleRange, applyZoom, setView] at *; linarith))
  · exact .inr (zoomTimeRange_improper (not_lt.mp hproper) _ _ _ _)

theorem sound_default (v : TimelineView) : ({ v with bounds := none }.setView (0, 1)).Sound := by
  unfold Sound
  rw [if_pos (by norm_num [range, setView])]
  exact ⟨⟨le_refl _, by norm_num [visibleRange, setView], le_refl _⟩, .inl rfl⟩

/-- A sound view that did not show its whole range, or had no proper one, is a millisecond long. -/
theorem Sound.long (h : v.Sound) {bounds : ℚ × ℚ} (hbounds : v.bounds = some bounds)
    (hpart : v.followedFullRange = false) : 1 / 1000 ≤ v.viewEnd - v.viewStart := by
  have hrange : v.range = bounds := by rw [range, hbounds, Option.getD_some]
  have hnot : v.visibleRange ≠ v.range := by
    rintro heq
    obtain ⟨hstart, hend⟩ := Prod.mk.inj (heq.trans hrange)
    rw [followedFullRange, hbounds] at hpart
    simp [near, hstart, hend] at hpart
  unfold Sound at h
  split_ifs at h with hproper
  · exact h.2.resolve_left hnot
  · obtain ⟨hstart, hend⟩ := Prod.mk.inj (h.resolve_right hnot)
    rw [hstart, hend]
    norm_num

/-- **New bounds** leave a sound view. -/
theorem Sound.watchBounds (h : v.Sound) (bounds : Option (ℚ × ℚ)) :
    (v.watchBounds bounds).Sound := by
  unfold TimelineView.watchBounds
  split_ifs with hsame
  · exact h
  rcases bounds with _ | ⟨start, stop⟩
  · exact sound_default v
  dsimp only
  split_ifs with himproper hfollow
  · -- not proper: the range from 0 to 1
    unfold Sound
    rw [if_neg (by simpa [range, setView] using himproper)]
    exact .inl rfl
  · exact sound_setView_range { v with bounds := some (start, stop) }
  · have hproper : start < stop := not_le.mp himproper
    simp only [Bool.or_eq_true, decide_eq_true_eq, not_or, Bool.not_eq_true, not_le] at hfollow
    obtain ⟨⟨hpart, hbehind⟩, hbefore⟩ := hfollow
    have hlong : 1 / 1000 ≤ v.viewEnd - v.viewStart := by
      rcases hbounds : v.bounds with _ | bounds
      · rw [followedFullRange, hbounds] at hpart
        cases hpart
      · exact h.long hbounds hpart
    have hspan : 0 < min (v.viewEnd - v.viewStart) (stop - start) :=
      lt_min (by linarith) (sub_pos.mpr hproper)
    have hshort := min_le_right (v.viewEnd - v.viewStart) (stop - start)
    unfold Sound
    rw [if_pos (by exact hproper)]
    refine ⟨⟨le_max_left _ _, ?_, ?_⟩, ?_⟩
    · exact lt_add_of_pos_right _ hspan
    · show max start _ + _ ≤ stop
      have hmax :
          max start (min v.viewStart (stop - min (v.viewEnd - v.viewStart) (stop - start))) ≤
          stop - min (v.viewEnd - v.viewStart) (stop - start) :=
        max_le (by linarith) (min_le_right _ _)
      linarith
    · rcases le_or_gt (v.viewEnd - v.viewStart) (stop - start) with hfits | hfull
      · refine .inr ?_
        show 1 / 1000 ≤ max start _ + min (v.viewEnd - v.viewStart) (stop - start) - max start _
        rw [min_eq_left hfits]
        linarith
      · refine .inl ?_
        have hstart : max start (min v.viewStart (stop - min (v.viewEnd - v.viewStart)
            (stop - start))) = start := by
          rw [min_eq_right hfull.le]
          exact max_eq_left ((min_le_right _ _).trans (by linarith))
        show (max start _, max start _ + _) = (start, stop)
        rw [hstart, min_eq_right hfull.le]
        exact Prod.ext rfl (by dsimp only; ring)

theorem Sound.step (h : v.Sound) (action : TimelineAction) : (v.step action).Sound := by
  cases action with
  | bounds bounds => exact h.watchBounds bounds
  | cursor cursor =>
    show (v.watchCursor cursor).Sound
    rcases cursor with _ | cursor
    · exact h
    · unfold watchCursor
      dsimp only
      split_ifs
      · exact h
      · exact sound_of_same h rfl rfl
  | startEventJump => exact sound_of_same h rfl rfl
  | jumpCluster timestamp => exact sound_of_same h rfl rfl
  | startDrag place =>
    show (v.startDrag place).Sound
    unfold startDrag
    split_ifs <;> exact sound_of_same h rfl rfl
  | moveDrag place =>
    show (v.moveDrag place).Sound
    unfold moveDrag
    split_ifs
    · exact sound_of_same h rfl rfl
    · exact h
  | finishDrag place => exact sound_of_same h rfl rfl
  | wheel scale place => exact sound_applyZoom v _ _
  | zoomIn =>
    show v.zoomIn.Sound
    unfold zoomIn
    split_ifs
    · exact sound_applyZoom v _ _
    · exact h
  | zoomOut =>
    show v.zoomOut.Sound
    unfold zoomOut
    split_ifs
    · exact h
    · exact sound_applyZoom v _ _
  | resetZoom =>
    show v.resetZoom.Sound
    unfold resetZoom
    split_ifs
    · exact h
    · exact sound_setView_range v

theorem wheelFactor_pos (scale : ℚ) : (0 : ℚ) < min 2 (max (1 / 2) scale) :=
  lt_min (by norm_num) (lt_max_of_lt_left (by norm_num))

/-- **A turn of the wheel** keeps the time under the pointer in its place, unless the view meets an
end of the range. -/
theorem Sound.wheel (h : v.Sound) (hproper : v.range.1 < v.range.2)
    (hlong : v.minimumSpan ≤ v.viewEnd - v.viewStart) (scale : ℚ) {place : ℚ} (hplace : 0 ≤ place)
    (hplace' : place ≤ 1) :
    let next := v.handleWheel (.finite scale) place
    Zoomed v.range v.visibleRange (v.timestampAt place) (min 2 (max (1 / 2) scale))
        next.visibleRange ∧
      (next.viewStart = v.range.1 ∨ next.viewEnd = v.range.2 ∨
        next.timestampAt place = v.timestampAt place) := by
  intro next
  have hview : Within v.range v.visibleRange := by
    unfold Sound at h
    rw [if_pos hproper] at h
    exact h.1
  have hspan : v.visibleSpan = v.viewEnd - v.viewStart :=
    max_eq_left (v.le_minimumSpan.trans hlong)
  have hpos : 0 < v.viewEnd - v.viewStart := v.minimumSpan_pos.trans_le hlong
  have htime : v.timestampAt place = v.viewStart + place * (v.viewEnd - v.viewStart) := by
    rw [timestampAt, max_eq_right hplace, min_eq_right hplace', hspan]
  have hanchor : v.viewStart ≤ v.timestampAt place ∧ v.timestampAt place ≤ v.viewEnd := by
    rw [htime]
    constructor
    · linarith [mul_nonneg hplace hpos.le]
    · linarith [mul_le_of_le_one_left hpos.le hplace']
  have hzoomed : Zoomed v.range v.visibleRange (v.timestampAt place) (min 2 (max (1 / 2) scale))
      next.visibleRange :=
    zoomed_zoomTimeRange hview hanchor v.minimumSpan_pos ((min_le_left _ _).trans hlong)
      (wheelFactor_pos scale)
  refine ⟨hzoomed, ?_⟩
  rcases hzoomed.placed with hstart | hend | hsame
  · exact .inl hstart
  · exact .inr (.inl hend)
  · have hsound : next.Sound := sound_applyZoom v _ _
    have hrange : next.range = v.range := rfl
    unfold Sound at hsound
    rw [hrange, if_pos hproper] at hsound
    rcases hsound.2 with hwhole | hnext
    · exact .inl (congrArg Prod.fst hwhole)
    · refine .inr (.inr ?_)
      -- both views have the anchor at the same ratio
      have hratio : v.timestampAt place - next.viewStart =
          place * (next.viewEnd - next.viewStart) := by
        refine mul_right_cancel₀ hpos.ne' ?_
        have hold : v.timestampAt place - v.viewStart = place * (v.viewEnd - v.viewStart) := by
          rw [htime]
          ring
        refine hsame.trans ?_
        show (v.timestampAt place - v.viewStart) * (next.viewEnd - next.viewStart) = _
        rw [hold]
        ring
      rw [timestampAt, max_eq_right hplace, min_eq_right hplace', visibleSpan, max_eq_left hnext,
        ← hratio]
      ring

/-- **The view of the timeline**, after any sequence of bounds that the server sends, turns of the
wheel, buttons and drags: it lies in the bounds and is at least a millisecond long, or shows them
whole.  There a turn of the wheel keeps the anchor in the view, and in its place unless the view
meets a bound; zooming out hides nothing, and zooming in shows nothing new, unless all but a
billionth of the range is shown. -/
theorem view_run (actions : List TimelineAction) :
    let v := run actions
    v.Sound ∧ (v.range.1 < v.range.2 → v.minimumSpan ≤ v.viewEnd - v.viewStart →
      ∀ scale place : ℚ, 0 ≤ place → place ≤ 1 →
        let next := v.handleWheel (.finite scale) place
        Zoomed v.range v.visibleRange (v.timestampAt place) (min 2 (max (1 / 2) scale))
            next.visibleRange ∧
          (next.viewStart = v.range.1 ∨ next.viewEnd = v.range.2 ∨
            next.timestampAt place = v.timestampAt place)) := by
  intro v
  have hsound : v.Sound := List.foldlRecOn actions _ (sound_default {}) fun _ h action _ =>
    h.step action
  exact ⟨hsound, fun hproper hlong scale place hplace hplace' =>
    hsound.wheel hproper hlong scale hplace hplace'⟩

example : (run [.bounds (some (0, 100)), .wheel (.finite (1 / 2)) (1 / 4)]).visibleRange =
    (25 / 2, 125 / 2) := by decide +kernel

end TimelineView

end FlyRuler.Web
