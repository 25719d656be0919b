import FlyRuler.Lib.TimeOrder
import FlyRuler.Web.Timeline
import Mathlib.Algebra.Order.BigOperators.Group.List
import Mathlib.Data.List.Induction

/-!
# The markers of the timeline

`eventClusters` of `web/src/components/TimelineBar.vue`: events whose markers would lie closer than
ten pixels share one, which lies at the mean of their places.  Arithmetic is exact.

* `Apart.push`: one more event.
* `eventClusters_apart`: the markers hold the visible events in order, none twice, and lie at least
  ten pixels apart.
-/

namespace FlyRuler.Web

open FlyRuler.Lib.TimeOrder

structure EventCluster (β : Type) where
  pixel : ℚ
  events : List β

section Clusters

variable {β : Type} (pixelOf : β → ℚ)

def meanPixel (events : List β) : ℚ := (events.map pixelOf).sum / events.length

/-- One turn of the loop: the event joins the last cluster, if that is near. -/
def pushEvent (distance : ℚ) (clusters : List (EventCluster β)) (event : β) :
    List (EventCluster β) :=
  match clusters.getLast? with
  | some previous =>
    if |previous.pixel - pixelOf event| < distance then
      clusters.dropLast ++ [⟨meanPixel pixelOf (previous.events ++ [event]),
        previous.events ++ [event]⟩]
    else clusters ++ [⟨pixelOf event, [event]⟩]
  | none => clusters ++ [⟨pixelOf event, [event]⟩]

def clusterEvents (distance : ℚ) (events : List β) : List (EventCluster β) :=
  events.foldl (pushEvent pixelOf distance) []

variable {pixelOf}

theorem le_meanPixel {events : List β} (hne : events ≠ []) {x : ℚ}
    (h : ∀ event ∈ events, x ≤ pixelOf event) : x ≤ meanPixel pixelOf events := by
  have hlength : (0 : ℚ) < events.length := Nat.cast_pos.mpr (List.length_pos_iff.mpr hne)
  have hsum := List.card_nsmul_le_sum (events.map pixelOf) x fun y hy => by
    obtain ⟨event, hevent, rfl⟩ := List.mem_map.mp hy
    exact h event hevent
  rw [List.length_map, nsmul_eq_mul] at hsum
  rw [meanPixel, le_div_iff₀ hlength]
  linarith

theorem meanPixel_le {events : List β} (hne : events ≠ []) {x : ℚ}
    (h : ∀ event ∈ events, pixelOf event ≤ x) : meanPixel pixelOf events ≤ x := by
  have hlength : (0 : ℚ) < events.length := Nat.cast_pos.mpr (List.length_pos_iff.mpr hne)
  have hsum := List.sum_le_card_nsmul (events.map pixelOf) x fun y hy => by
    obtain ⟨event, hevent, rfl⟩ := List.mem_map.mp hy
    exact h event hevent
  rw [List.length_map, nsmul_eq_mul] at hsum
  rw [meanPixel, div_le_iff₀ hlength]
  linarith

/-- The clusters of some events: these in order, each cluster at the mean of its events, and every
cluster a distance behind those before it, with all its events. -/
structure Apart (pixelOf : β → ℚ) (distance : ℚ) (events : List β)
    (clusters : List (EventCluster β)) : Prop where
  events : clusters.flatMap EventCluster.events = events
  mean : ∀ c ∈ clusters, c.events ≠ [] ∧ c.pixel = meanPixel pixelOf c.events
  behind : clusters.Pairwise fun a b => ∀ event ∈ b.events, a.pixel + distance ≤ pixelOf event

variable {distance : ℚ} {events : List β} {clusters : List (EventCluster β)}

theorem apart_nil : Apart pixelOf distance [] [] := ⟨rfl, nofun, .nil⟩

theorem meanPixel_singleton (event : β) : meanPixel pixelOf [event] = pixelOf event := by
  simp [meanPixel]

/-- A cluster of its own. -/
theorem Apart.concat (h : Apart pixelOf distance events clusters) {event : β}
    (hbehind : ∀ c ∈ clusters, c.pixel + distance ≤ pixelOf event) :
    Apart pixelOf distance (events ++ [event]) (clusters ++ [⟨pixelOf event, [event]⟩]) := by
  refine ⟨?_, fun c hc => ?_, ?_⟩
  · rw [List.flatMap_append, h.events]
    rfl
  · rcases List.mem_append.mp hc with hold | hnew
    · exact h.mean c hold
    · rw [List.mem_singleton.mp hnew]
      exact ⟨List.cons_ne_nil _ _, (meanPixel_singleton event).symm⟩
  · refine List.pairwise_append.mpr ⟨h.behind, List.pairwise_singleton _ _, fun a ha b hb => ?_⟩
    rw [List.mem_singleton.mp hb]
    intro event' hevent'
    rw [List.mem_singleton.mp hevent']
    exact hbehind a ha

/-- **One more event**, behind all the others. -/
theorem Apart.push (h : Apart pixelOf distance events clusters) {event : β}
    (hlast : ∀ earlier ∈ events, pixelOf earlier ≤ pixelOf event) :
    Apart pixelOf distance (events ++ [event]) (pushEvent pixelOf distance clusters event) := by
  have hearlier : ∀ c ∈ clusters, ∀ earlier ∈ c.events, pixelOf earlier ≤ pixelOf event := by
    intro c hc earlier hmem
    refine hlast earlier ?_
    rw [← h.events]
    exact List.mem_flatMap.mpr ⟨c, hc, hmem⟩
  unfold pushEvent
  rcases List.eq_nil_or_concat clusters with rfl | ⟨front, previous, rfl⟩
  · exact h.concat nofun
  rw [List.concat_eq_append] at h hearlier ⊢
  simp only [List.getLast?_append, List.getLast?_singleton, Option.some_or, List.dropLast_concat]
  have hprevious : previous ∈ front ++ [previous] :=
    List.mem_append_right _ (List.mem_singleton_self _)
  obtain ⟨hne, hmean⟩ := h.mean previous hprevious
  obtain ⟨hfront, -, hacross⟩ := List.pairwise_append.mp h.behind
  have hmiddle : previous.pixel ≤ pixelOf event := by
    rw [hmean]
    exact meanPixel_le hne (hearlier previous hprevious)
  -- every event of the last cluster is a distance behind the clusters before it
  have hbehind : ∀ a ∈ front, ∀ event' ∈ previous.events ++ [event],
      a.pixel + distance ≤ pixelOf event' := by
    intro a ha event' hevent'
    rcases List.mem_append.mp hevent' with hold | hnew
    · exact hacross a ha previous (List.mem_singleton_self _) event' hold
    · rw [List.mem_singleton.mp hnew]
      obtain ⟨first, hfirst⟩ := List.exists_mem_of_ne_nil _ hne
      exact (hacross a ha previous (List.mem_singleton_self _) first hfirst).trans
        (hearlier previous hprevious first hfirst)
  split_ifs with hnear
  · refine ⟨?_, fun c hc => ?_, ?_⟩
    · rw [← h.events]
      simp
    · rcases List.mem_append.mp hc with hold | hnew
      · exact h.mean c (List.mem_append_left _ hold)
      · rw [List.mem_singleton.mp hnew]
        exact ⟨by simp, rfl⟩
    · refine List.pairwise_append.mpr ⟨hfront, List.pairwise_singleton _ _, fun a ha b hb => ?_⟩
      rw [List.mem_singleton.mp hb]
      exact hbehind a ha
  · refine h.concat fun c hc => ?_
    rcases List.mem_append.mp hc with hold | hnew
    · exact hbehind c hold event (List.mem_append_right _ (List.mem_singleton_self _))
    · rw [List.mem_singleton.mp hnew]
      rw [abs_sub_comm, abs_of_nonneg (sub_nonneg.mpr hmiddle)] at hnear
      linarith

/-- **All events**, in the order of their places. -/
theorem apart_clusterEvents (distance : ℚ)
    (hsorted : events.Pairwise fun a b => pixelOf a ≤ pixelOf b) :
    Apart pixelOf distance events (clusterEvents pixelOf distance events) := by
  induction events using List.reverseRecOn with
  | nil => exact apart_nil
  | append_singleton events event ih =>
    obtain ⟨hfront, -, hlast⟩ := List.pairwise_append.mp hsorted
    rw [clusterEvents, List.foldl_append]
    exact (ih hfront).push fun earlier hearlier =>
      hlast earlier hearlier event (List.mem_singleton_self _)

end Clusters

/-! ## The markers -/

namespace TimelineView

variable {α : Type} (v : TimelineView) (trackWidth : ℚ)

def contentWidth : ℚ := max 1 (trackWidth - 16 * 2)

def timeToPixel (timestamp : ℚ) : ℚ :=
  16 + min 1 (max 0 ((timestamp - v.viewStart) / v.visibleSpan)) * contentWidth trackWidth

def isVisible (timestamp : ℚ) : Bool :=
  decide (v.viewStart - 1 / 1000000000 ≤ timestamp) &&
    decide (timestamp ≤ v.viewEnd + 1 / 1000000000)

def eventClusters (timelineEvents : List (Stamped ℚ α)) : List (EventCluster (Stamped ℚ α)) :=
  clusterEvents (fun event => v.timeToPixel trackWidth event.stamp) 10
    (timelineEvents.filter fun event => v.isVisible event.stamp)

variable {v trackWidth}

theorem timeToPixel_mono {t t' : ℚ} (h : t ≤ t') :
    v.timeToPixel trackWidth t ≤ v.timeToPixel trackWidth t' := by
  have hspan : 0 ≤ v.visibleSpan := le_max_of_le_right (by norm_num)
  have hwidth : 0 ≤ contentWidth trackWidth := le_max_of_le_left (by norm_num)
  have hratio : (t - v.viewStart) / v.visibleSpan ≤ (t' - v.viewStart) / v.visibleSpan :=
    div_le_div_of_nonneg_right (by linarith) hspan
  have hclamped : min 1 (max 0 ((t - v.viewStart) / v.visibleSpan)) ≤
      min 1 (max 0 ((t' - v.viewStart) / v.visibleSpan)) :=
    min_le_min_left _ (max_le_max_left _ hratio)
  unfold timeToPixel
  linarith [mul_le_mul_of_nonneg_right hclamped hwidth]

/-- A marker lies on the track. -/
theorem timeToPixel_mem (t : ℚ) : 16 ≤ v.timeToPixel trackWidth t ∧
    v.timeToPixel trackWidth t ≤ 16 + contentWidth trackWidth := by
  have hwidth : 0 ≤ contentWidth trackWidth := le_max_of_le_left (by norm_num)
  have hlower : 0 ≤ min 1 (max 0 ((t - v.viewStart) / v.visibleSpan)) :=
    le_min (by norm_num) (le_max_left _ _)
  have hupper : min 1 (max 0 ((t - v.viewStart) / v.visibleSpan)) ≤ 1 := min_le_left _ _
  unfold timeToPixel
  constructor
  · linarith [mul_nonneg hlower hwidth]
  · linarith [mul_le_of_le_one_left hwidth hupper]

/-- **The markers of the timeline**: in every view, of events in the order of time, they hold the
visible events in this order, each in one marker; each marker lies on the track at the mean of its
events, and at least ten pixels behind the one before it. -/
theorem eventClusters_apart (v : TimelineView) (trackWidth : ℚ)
    (timelineEvents : List (Stamped ℚ α))
    (hsorted : timelineEvents.Pairwise fun a b => a.stamp ≤ b.stamp) :
    let clusters := v.eventClusters trackWidth timelineEvents
    clusters.flatMap EventCluster.events =
        timelineEvents.filter (fun event => v.isVisible event.stamp) ∧
      (∀ c ∈ clusters, c.events ≠ [] ∧
        c.pixel = meanPixel (fun event => v.timeToPixel trackWidth event.stamp) c.events ∧
        16 ≤ c.pixel ∧ c.pixel ≤ 16 + contentWidth trackWidth) ∧
      clusters.Pairwise fun a b => a.pixel + 10 ≤ b.pixel := by
  intro clusters
  have hplaces : (timelineEvents.filter fun event => v.isVisible event.stamp).Pairwise
      fun a b => v.timeToPixel trackWidth a.stamp ≤ v.timeToPixel trackWidth b.stamp :=
    (hsorted.sublist List.filter_sublist).imp timeToPixel_mono
  have hapart := apart_clusterEvents 10 hplaces
  refine ⟨hapart.events, fun c hc => ?_, ?_⟩
  · obtain ⟨hne, hmean⟩ := hapart.mean c hc
    refine ⟨hne, hmean, ?_, ?_⟩
    · rw [hmean]
      exact le_meanPixel hne fun event _ => (timeToPixel_mem event.stamp).1
    · rw [hmean]
      exact meanPixel_le hne fun event _ => (timeToPixel_mem event.stamp).2
  · refine hapart.behind.imp_of_mem fun {a b} _ hb hbehind => ?_
    obtain ⟨hne, hmean⟩ := hapart.mean b hb
    rw [hmean]
    exact le_meanPixel hne hbehind

/-- Three events, two of them close together. -/
def threeEvents : List (Stamped ℚ String) := [⟨1 / 10, "a"⟩, ⟨11 / 100, "b"⟩, ⟨1 / 2, "c"⟩]

theorem eventClusters_apart_three :
    let clusters := ({} : TimelineView).eventClusters 132 threeEvents
    (clusters.flatMap EventCluster.events =
        threeEvents.filter (fun event => ({} : TimelineView).isVisible event.stamp) ∧
      (∀ c ∈ clusters, c.events ≠ [] ∧
        c.pixel =
          meanPixel (fun event => ({} : TimelineView).timeToPixel 132 event.stamp) c.events ∧
        16 ≤ c.pixel ∧ c.pixel ≤ 16 + contentWidth 132) ∧
      clusters.Pairwise fun a b => a.pixel + 10 ≤ b.pixel) ∧
      clusters.map EventCluster.pixel = [53 / 2, 66] :=
  ⟨eventClusters_apart {} 132 threeEvents (by decide +kernel), by decide +kernel⟩

end TimelineView

end FlyRuler.Web
