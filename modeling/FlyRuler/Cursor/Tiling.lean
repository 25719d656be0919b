import FlyRuler.Cursor.Delivery
import FlyRuler.Cursor.Progress
import Mathlib.Data.List.Sort

/-!
# The deltas tile the timeline

A store that does not change is replayed in one revision with a cursor that does not go back.  Then
a subscriber gets one baseline, and each refill after it is the window from where the last one ended
to the cursor of the snapshot: the windows meet, and the deltas are the window behind the baseline.
Whatever is lost and repeated on the way, the batches taken off the queue are those with the
sequences `1, 2, …` up to the last acknowledgement, so an empty queue leaves no gap.

* `deltaEvents_append`: two windows that meet are one.
* `OnTrack.advance`: what a turn queues continues the tiling.
* `Acked.turn`, `Acked.sequences`: the acknowledged batches are numbered without a gap.
* `tiled_run`: the tiling, whenever the queue is empty.
-/

namespace FlyRuler.Cursor

open FlyRuler.Pb FlyRuler.Store FlyRuler.Playback FlyRuler.Transport FlyRuler.Lib.TimeOrder
open FlyRuler.Lib.StopAndWait FlyRuler.Lib.Run

variable {env : Env} {store : TimeSeriesStore} {signs : ZeroSigns} {t : Tick} {a : SocketAddr}
  {revision ack : ℕ} {st : SubscriberState} {log : List Page}

/-! ## Windows -/

theorem deltaEvents_self (store : TimeSeriesStore) (signs : ZeroSigns) (cursor : Option Secs) :
    deltaEvents store signs cursor cursor = [] := by
  rcases cursor with _ | c
  · rfl
  · rw [deltaEvents_eq store signs (le_refl c)]
    refine List.filter_eq_nil_iff.mpr fun e _ => ?_
    simp only [Bool.and_eq_true, decide_eq_true_eq, not_and, not_le]
    exact id

/-- **Two windows that meet are one.** -/
theorem deltaEvents_append {b₁ b₂ b₃ : Option Secs} (h₁₂ : b₁.isSome = b₂.isSome)
    (h₂₃ : b₂.isSome = b₃.isSome) (hle₁₂ : ∀ x ∈ b₁, ∀ y ∈ b₂, x ≤ y)
    (hle₂₃ : ∀ x ∈ b₂, ∀ y ∈ b₃, x ≤ y) :
    deltaEvents store signs b₁ b₂ ++ deltaEvents store signs b₂ b₃ =
      deltaEvents store signs b₁ b₃ := by
  rcases b₂ with _ | y
  · rw [Option.isSome_none, Option.isSome_eq_false_iff, Option.isNone_iff_eq_none] at h₁₂
    rw [h₁₂]
    rfl
  · obtain ⟨x, rfl⟩ := Option.isSome_iff_exists.mp h₁₂
    obtain ⟨z, rfl⟩ := Option.isSome_iff_exists.mp h₂₃.symm
    have hxy := hle₁₂ x rfl y rfl
    have hyz := hle₂₃ y rfl z rfl
    rw [deltaEvents_eq store signs hxy, deltaEvents_eq store signs hyz,
      deltaEvents_eq store signs (hxy.trans hyz)]
    exact (filter_split (store.globalEvents_pairwise signs) hxy hyz).symm

/-! ## The tiling -/

/-- **The pages of one baseline at `first`, and then those of the window from `first` to
`cursor`.** -/
structure Tiles (env : Env) (store : TimeSeriesStore) (signs : ZeroSigns) (revision : ℕ)
    (base deltas : List Page) (first cursor : Option Secs) : Prop where
  baseline : IsBaseline revision base
  cursors : ∀ page ∈ base, page.cursor = first
  notBaseline : ∀ page ∈ deltas, page.batch.baseline = false
  isSome : first.isSome = cursor.isSome
  le : ∀ x ∈ first, ∀ y ∈ cursor, x ≤ y
  events : wire deltas = (deltaEvents store signs first cursor).map (cursorEvent env 0)

/-- The log of a subscriber that is on its way to the given revision and cursor. -/
inductive OnTrack (env : Env) (store : TimeSeriesStore) (signs : ZeroSigns) (revision : ℕ)
    (log : List Page) : Option ℕ → Option Secs → Prop
  | fresh (hlog : log = []) : OnTrack env store signs revision log none none
  | tiled (base deltas : List Page) (first cursor : Option Secs) (hlog : log = base ++ deltas)
      (tiles : Tiles env store signs revision base deltas first cursor) :
      OnTrack env store signs revision log (some revision) cursor

/-- The first refill is a baseline. -/
theorem tiles_first (env : Env) (store : TimeSeriesStore) (signs : ZeroSigns) {r : Refill}
    (hbase : r.baseline) (next : ℕ) :
    Tiles env store signs r.snapshot.revision (r.queued env next) [] r.snapshot.cursorSecs
      r.snapshot.cursorSecs := by
  have hqueued : r.queued env next = r.pages env next := by
    unfold Refill.queued Refill.hasPages
    rw [hbase]
    rfl
  rw [hqueued]
  refine ⟨isBaseline_pages hbase next, fun page hpage => ?_, by simp, rfl, fun x hx y hy => ?_, ?_⟩
  · obtain ⟨i, -, rfl⟩ := List.mem_map.mp hpage
    rfl
  · rw [Option.mem_unique hx hy]
  · rw [deltaEvents_self]
    rfl

/-- A refill without a baseline continues the tiling. -/
theorem Tiles.append {base deltas : List Page} {first cursor : Option Secs}
    (h : Tiles env store signs revision base deltas first cursor) {r : Refill}
    (hbase : r.baseline = false) (next : ℕ)
    (hevents : r.events = deltaEvents store signs cursor r.snapshot.cursorSecs)
    (hdata : cursor.isSome = r.snapshot.cursorSecs.isSome)
    (hle : ∀ x ∈ cursor, ∀ y ∈ r.snapshot.cursorSecs, x ≤ y) :
    Tiles env store signs revision base (deltas ++ r.queued env next) first
      r.snapshot.cursorSecs where
  baseline := h.baseline
  cursors := h.cursors
  notBaseline page hpage := by
    rcases List.mem_append.mp hpage with hold | hnew
    · exact h.notBaseline page hold
    · unfold Refill.queued at hnew
      split_ifs at hnew
      · obtain ⟨i, -, rfl⟩ := List.mem_map.mp hnew
        show (r.baseline && i == 0) = false
        rw [hbase]
        rfl
      · cases hnew
  isSome := h.isSome.trans hdata
  le x hx y hy := by
    obtain ⟨z, hz⟩ := Option.isSome_iff_exists.mp (h.isSome ▸ Option.isSome_of_mem hx)
    exact (h.le x hx z hz).trans (hle z hz y hy)
  events := by
    rw [wire_append, wire_queued, h.events, hevents, ← List.map_append,
      deltaEvents_append h.isSome hdata h.le hle]

/-- **What a turn queues** continues the tiling. -/
theorem OnTrack.advance (h : OnTrack env store signs revision log st.settled.lastRevision
      st.settled.lastCursor) (hone : OneRefill st.queue)
    (hseq : (st.completeFront ack).SequencesFit store t) (hsigns : t.signs = signs)
    (hrev : t.snapshot.revision = revision)
    (hdata : st.settled.lastRevision.isSome →
      st.settled.lastCursor.isSome = t.snapshot.cursorSecs.isSome)
    (hle : ∀ x ∈ st.settled.lastCursor, ∀ y ∈ t.snapshot.cursorSecs, x ≤ y) :
    OnTrack env store signs revision (log ++ st.newPages env store t ack)
      (st.advance env store t ack).settled.lastRevision
      (st.advance env store t ack).settled.lastCursor := by
  rcases (advance_cases env hone hseq).2 with ⟨hrevision, hcursor, hnew⟩ | hmoved
  · rw [hrevision, hcursor, hnew, List.append_nil]
    exact h
  · rw [hmoved.lastRevision, hmoved.lastCursor, hmoved.new, hrev]
    generalize st.settled = st₁ at h hdata hle ⊢
    generalize hr : st₁.lastRevision = lastRevision at h hdata
    generalize hc : st₁.lastCursor = lastCursor at h hdata hle
    rcases h with hlog | ⟨base, deltas, first, _, hlog, htiles⟩
    · have hbase : (st₁.refillOf store t).baseline := by
        unfold SubscriberState.refillOf SubscriberState.needsBaseline
        simp [hr]
      have htiles := tiles_first env store signs hbase st.nextEventSequence
      refine .tiled _ [] _ _ ?_ (hrev ▸ htiles)
      rw [hlog, List.nil_append, List.append_nil]
    · have hbase : (st₁.refillOf store t).baseline = false :=
        needsBaseline_eq_false_iff.mpr ⟨hr.trans (by rw [hrev]), hc ▸ hle⟩
      have hevents := events_refillOf_delta store hbase
      rw [hsigns] at hevents
      have htiles' := htiles.append hbase st.nextEventSequence (hc ▸ hevents) (hdata rfl) hle
      refine .tiled base _ first _ ?_ htiles'
      rw [hlog, List.append_assoc]

/-! ## Acknowledged pages -/

/-- **The pages taken off the queue are acknowledged**, and every acknowledgement up to the last is
that of a page the client has seen. -/
structure Acked (link : Link Page) (queue : List Page) (ack : ℕ) : Prop where
  done : ∃ done, link.log = done ++ queue ∧ ∀ page ∈ done, page.sequence ≤ ack
  seen : ∀ k, 0 < k → k ≤ ack → ∃ page ∈ link.seen, page.sequence = k

variable {link link' : Link Page} {queue : List Page}

/-- A turn takes at most an acknowledged page off the queue. -/
theorem Acked.turn (h : Acked link st.queue ack) (hseen : link'.seen = link.seen)
    (hlog : link'.log = link.log ++ st.newPages env store t ack) :
    Acked link' (st.advance env store t ack).queue ack := by
  refine ⟨?_, fun k hpos hle => hseen ▸ h.seen k hpos hle⟩
  obtain ⟨done, hdone, hle⟩ := h.done
  rw [hlog, hdone, SubscriberState.advance_queue]
  rcases SubscriberState.completeFront_queue st ack with ⟨hsame, -⟩ | ⟨front, hq, hack⟩
  · exact ⟨done, by rw [hsame, List.append_assoc], hle⟩
  · refine ⟨done ++ [front], by rw [hq]; simp, fun page hpage => ?_⟩
    rcases List.mem_append.mp hpage with hold | hnew
    · exact hle page hold
    · rw [List.mem_singleton.mp hnew]
      exact hack

/-- The next acknowledgement is accepted. -/
theorem Acked.next (h : Acked link queue ack) {page : Page} (hpage : page ∈ link.seen)
    (hseq : page.sequence = ack + 1) : Acked link queue (ack + 1) where
  done := by
    obtain ⟨done, hdone, hle⟩ := h.done
    exact ⟨done, hdone, fun page hmem => (hle page hmem).trans (Nat.le_succ ack)⟩
  seen k hpos hle := by
    rcases Nat.lt_or_ge ack k with hlt | hge
    · exact ⟨page, hpage, by omega⟩
    · exact h.seen k hpos hge

theorem Acked.of_client (h : Acked link queue ack) (hlog : link'.log = link.log)
    (hseen : link.seen ⊆ link'.seen) : Acked link' queue ack where
  done := by
    rw [hlog]
    exact h.done
  seen k hpos hle := by
    obtain ⟨page, hpage, hseq⟩ := h.seen k hpos hle
    exact ⟨page, hseen hpage, hseq⟩

/-- **With an empty queue, the pages are numbered without a gap**, and the client has seen them. -/
theorem Acked.sequences {history : List Act} (h : Acked link [] ack)
    (hcarries : Carries env history link) :
    link.log.map Page.sequence = List.range' 1 ack ∧ ∀ page ∈ link.log, page ∈ link.seen := by
  obtain ⟨done, hdone, hle⟩ := h.done
  rw [List.append_nil] at hdone
  have hpos : ∀ page ∈ link.log, 0 < page.sequence := fun page hpage =>
    (hcarries.labelled page hpage).pos
  have hseen : ∀ page ∈ link.log, page ∈ link.seen := by
    intro page hpage
    have hack := hle page (hdone ▸ hpage)
    obtain ⟨page', hpage', hseq⟩ := h.seen page.sequence (hpos page hpage) hack
    exact hcarries.sound.seen_of_le hcarries.increasing hpage hpage' hseq.ge
  refine ⟨hcarries.increasing.eq_of_mem_iff List.pairwise_lt_range' fun k => ?_, hseen⟩
  rw [List.mem_range'_1, List.mem_map]
  constructor
  · rintro ⟨page, hpage, rfl⟩
    have hack := hle page (hdone ▸ hpage)
    have hlt := hpos page hpage
    omega
  · rintro ⟨hlt, hack⟩
    obtain ⟨page, hpage, hseq⟩ := h.seen k hlt (by omega)
    exact ⟨page, hcarries.sound.mem_log (hcarries.sound.seen page hpage), hseq⟩

/-! ## The sequences of events -/

theorem eventSequence_eq {batchSequence index : ℕ} (hbatch : batchSequence < 0x100000000)
    (hindex : index < 0x100000000) :
    eventSequence batchSequence index = batchSequence * 0x100000000 + index := by
  unfold eventSequence
  have hshift : batchSequence <<< 32 = batchSequence * 0x100000000 := Nat.shiftLeft_eq _ 32
  rw [Nat.mod_eq_of_lt (by rw [hshift]; unfold u64Size; omega), ← hshift,
    Nat.shiftLeft_add_eq_or_of_lt (show index < 2 ^ 32 from hindex)]

/-- **The events on the pages are numbered in increasing order**, if the pages are. -/
theorem pairwise_event_sequences (hinc : (log.map Page.sequence).Pairwise (· < ·))
    (hlabel : ∀ page ∈ log, page.Labelled env) (hmax : ∀ page ∈ log, page.sequence < 0x100000000) :
    (log.flatMap fun page => page.batch.events).Pairwise fun e e' => e.sequence < e'.sequence := by
  -- an event is numbered by its page and its place there
  have hmem : ∀ page ∈ log, ∀ e ∈ page.batch.events, ∃ i < 32,
      e.sequence = page.sequence * 0x100000000 + i := by
    intro page hpage e he
    have hnum := List.mem_map_of_mem (f := CursorEvent.sequence) he
    rw [(hlabel page hpage).numbered] at hnum
    obtain ⟨i, hi, heq⟩ := List.mem_map.mp hnum
    have hsize : page.batch.events.length ≤ 32 := (hlabel page hpage).size
    have hlt := List.mem_range.mp hi
    refine ⟨i, by omega, ?_⟩
    rw [← heq, eventSequence_eq (hmax page hpage) (by omega)]
  rw [List.pairwise_flatMap]
  refine ⟨fun page hpage => ?_, ?_⟩
  · have hsize : page.batch.events.length ≤ 32 := (hlabel page hpage).size
    rw [← List.pairwise_map (f := CursorEvent.sequence) (R := (· < ·)),
      (hlabel page hpage).numbered, List.pairwise_map]
    refine List.pairwise_lt_range.imp_of_mem fun hi hj hlt => ?_
    have hi' := List.mem_range.mp hi
    have hj' := List.mem_range.mp hj
    rw [eventSequence_eq (hmax page hpage) (by omega),
      eventSequence_eq (hmax page hpage) (by omega)]
    omega
  · refine (List.pairwise_map.mp hinc).imp_of_mem fun hpage hpage' hlt e he e' he' => ?_
    obtain ⟨i, hi, heq⟩ := hmem _ hpage e he
    obtain ⟨j, hj, heq'⟩ := hmem _ hpage' e' he'
    omega

/-! ## One event -/

/-- The cursor of a tick. -/
def WorldEvent.cursor : WorldEvent → Option Secs
  | .tick _ t => t.snapshot.cursorSecs
  | _ => none

/-- The cursors of the ticks. -/
def cursorsOf (events : List WorldEvent) : List Secs := events.filterMap WorldEvent.cursor

/-- **The store does not change**: every tick reads it, with the same negative zeros, and has a
snapshot of it, in one revision and with a cursor that does not go back. -/
structure Frozen (store : TimeSeriesStore) (signs : ZeroSigns) (revision : ℕ)
    (events : List WorldEvent) : Prop where
  tick : ∀ store' t, .tick store' t ∈ events →
    store' = store ∧ t.signs = signs ∧ IsSnapshot store t.snapshot ∧
      t.snapshot.revision = revision
  cursors : (cursorsOf events).Pairwise (· ≤ ·)

/-- What every event preserves for a client that is served; `later` are the cursors to come. -/
structure Tiling (env : Env) (store : TimeSeriesStore) (signs : ZeroSigns) (revision : ℕ)
    (a : SocketAddr) (room : Room) (link : Link Page) (later : List Secs) : Prop where
  oneRefill : OneRefill (room.stateAt a).queue
  track : OnTrack env store signs revision link.log (room.stateAt a).settled.lastRevision
    (room.stateAt a).settled.lastCursor
  data : (room.stateAt a).settled.lastRevision.isSome →
    (room.stateAt a).settled.lastCursor.isSome = store.activeTimeBounds.isSome
  later : ∀ x ∈ (room.stateAt a).settled.lastCursor, ∀ y ∈ later, x ≤ y
  acked : ∃ ack < u64Size, (∀ s ∈ room.sessionAt a, s.cursorEventAck = ack) ∧
    Acked link (room.stateAt a).queue ack

variable {room room' : Room} {later later' : List Secs}

/-- **One turn.** -/
theorem Tiling.turn (h : Tiling env store signs revision a room link later) {s : Session}
    (hs : room.sessionAt a = some s) (hs' : room'.sessionAt a = some (Room.withEpoch env s))
    (hseen : link'.seen = link.seen)
    (hlog : link'.log = link.log ++ (room.stateAt a).newPages env store t s.cursorEventAck)
    (hsame : ((room.stateAt a).advance env store t s.cursorEventAck).SameQueue (room'.stateAt a))
    (hseq : ((room.stateAt a).completeFront s.cursorEventAck).SequencesFit store t)
    (hsigns : t.signs = signs) (hsnap : IsSnapshot store t.snapshot)
    (hrev : t.snapshot.revision = revision)
    (hlater : later = t.snapshot.cursorSecs.toList ++ later')
    (hle : ∀ x ∈ t.snapshot.cursorSecs, ∀ y ∈ later', x ≤ y) :
    Tiling env store signs revision a room' link' later' := by
  obtain ⟨ack, hsize, hack, hacked⟩ := h.acked
  have hset := hsame.settled
  have hdata := hsnap.cursor_isSome
  have hcases := (advance_cases env h.oneRefill hseq).2
  refine ⟨?_, ?_, fun hsome => ?_, fun x hx y hy => ?_, ack, hsize, fun s' hs'' => ?_, ?_⟩
  · rw [hsame.queue]
    exact (advance_cases env h.oneRefill hseq).1
  · rw [hset.1, hset.2, hlog]
    refine h.track.advance h.oneRefill hseq hsigns hrev (fun hsome => ?_) fun x hx y hy => ?_
    · rw [h.data hsome, hdata]
    · exact h.later x hx y (by rw [hlater]; exact List.mem_append_left _ (by simpa using hy))
  · rw [hset.1] at hsome
    rw [hset.2]
    rcases hcases with ⟨hrevision, hcursor, -⟩ | hmoved
    · rw [hcursor]
      exact h.data (hrevision ▸ hsome)
    · rw [hmoved.lastCursor, hdata]
  · rw [hset.2] at hx
    rcases hcases with ⟨-, hcursor, -⟩ | hmoved
    · exact h.later x (hcursor ▸ hx) y (by rw [hlater]; exact List.mem_append_right _ hy)
    · exact hle x (hmoved.lastCursor ▸ hx) y hy
  · rw [hs'] at hs''
    cases hs''
    rw [(Room.isSubscribed_withEpoch env s).2]
    exact hack s hs
  · rw [hsame.queue]
    rw [hack s hs] at hlog ⊢
    exact hacked.turn hseen hlog

/-- The publisher does nothing for the client. -/
theorem Tiling.of_state (h : Tiling env store signs revision a room link later)
    (hstate : room'.stateAt a = room.stateAt a) (hlater : later' ⊆ later)
    (hacked : ∃ ack < u64Size, (∀ s ∈ room'.sessionAt a, s.cursorEventAck = ack) ∧
      Acked link' (room.stateAt a).queue ack) (hlog : link'.log = link.log) :
    Tiling env store signs revision a room' link' later' where
  oneRefill := hstate ▸ h.oneRefill
  track := by
    rw [hstate, hlog]
    exact h.track
  data := hstate ▸ h.data
  later x hx y hy := h.later x (hstate ▸ hx) y (hlater hy)
  acked := hstate ▸ hacked

/-- What every event preserves. -/
structure TilingInv (env : Env) (store : TimeSeriesStore) (signs : ZeroSigns) (revision : ℕ)
    (a : SocketAddr) (w : World) (link : Link Page) (later : List Secs) : Prop where
  linked : Linked env a w link
  served : Tiling env store signs revision a w.room link later ∨ Dropped a w.room

variable {w : World} {events : List WorldEvent}

/-- **A tick.** -/
theorem TilingInv.tick (h : TilingInv env store signs revision a w link later)
    (hwrap : w.NoWrap a (.tick store t)) (hsigns : t.signs = signs)
    (hsnap : IsSnapshot store t.snapshot) (hrev : t.snapshot.revision = revision)
    (hlater : later = t.snapshot.cursorSecs.toList ++ later')
    (hle : ∀ x ∈ t.snapshot.cursorSecs, ∀ y ∈ later', x ≤ y) :
    ∃ link', TilingInv env store signs revision a (w.step env a (.tick store t)) link' later' := by
  obtain ⟨link', hlink, hseen, hticked⟩ := h.linked.tick hwrap
  refine ⟨link', hlink, ?_⟩
  have hlog := hlink.carries.log
  change link'.log = pagesOf ((w.room.tick env store t).historyAt a) at hlog
  show Tiling env store signs revision a (w.room.tick env store t) link' later' ∨
    Dropped a (w.room.tick env store t)
  rcases hticked with ⟨hhist, hsame | hdropped⟩ | ⟨hover, s, hs, hsub, hhist, -, hstate⟩
  · have hlog' : link'.log = link.log := by rw [hlog, hhist, h.linked.carries.log]
    rw [hsame]
    refine h.served.imp_left fun htiling => htiling.of_state rfl ?_ ?_ hlog'
    · rw [hlater]
      exact List.subset_append_right _ _
    · obtain ⟨ack, hsize, hack, hacked⟩ := htiling.acked
      exact ⟨ack, hsize, hack, hacked.of_client hlog' (hseen ▸ List.Subset.refl _)⟩
  · exact Or.inr hdropped
  · have htiling := h.served.resolve_right fun hdropped => hover hdropped.2
    rw [hhist, pagesOf_append, ← h.linked.carries.log, Room.pagesOf_serving] at hlog
    rcases hstate with hdropped | ⟨hs', hqueue⟩
    · exact Or.inr hdropped
    · exact Or.inl (htiling.turn hs hs' hseen hlog hqueue (hwrap s hs hsub) hsigns hsnap hrev
        hlater hle)

/-- **An operation of somebody else.** -/
theorem TilingInv.session (h : TilingInv env store signs revision a w link later) {op : SessionOp}
    (hop : spares a op) : TilingInv env store signs revision a
      { w with room := w.room.step env (.session op) } link later := by
  refine ⟨h.linked.session hop, ?_⟩
  rcases h.served with htiling | hdropped
  · refine Or.inl (htiling.of_state rfl (List.Subset.refl _) ?_ rfl)
    obtain ⟨ack, hsize, hack, hacked⟩ := htiling.acked
    refine ⟨ack, hsize, fun s hs => ?_, hacked⟩
    obtain ⟨s₀, hs₀, -, heq⟩ := spares_apply hop hs
    rw [heq]
    exact hack s₀ hs₀
  · have hover : Over a (w.room.step env (.session op)) := hdropped.2.session hop
    exact Or.inr ⟨hdropped.1, hover⟩

/-- **An acknowledgement arrives** at the server. -/
theorem TilingInv.acknowledge (h : TilingInv env store signs revision a w link later)
    {ack : CursorEventAck} (hmem : ack ∈ w.acks) :
    let op := .acknowledgeCursorEvent a ack.serverEpoch ack.eventSequence
    TilingInv env store signs revision a { w with room := w.room.step env (.session op) } link
      later := by
  refine ⟨h.linked.acknowledge hmem, ?_⟩
  rcases h.served with htiling | hdropped
  · refine Or.inl (htiling.of_state rfl (List.Subset.refl _) ?_ rfl)
    obtain ⟨count, hsize, hcount, hacked⟩ := htiling.acked
    rcases hs' : (w.room.step env (.session (.acknowledgeCursorEvent a ack.serverEpoch
        ack.eventSequence))).sessionAt a with _ | s'
    · exact ⟨count, hsize, by simp, hacked⟩
    · obtain ⟨s, hs, -, hsame | ⟨hnew, hnext⟩⟩ := acknowledge_apply hs'
      · refine ⟨count, hsize, fun s'' hs'' => ?_, hacked⟩
        rw [← Option.some.inj hs'', hsame]
        exact hcount s hs
      · -- the acknowledgement of the next page
        obtain ⟨page, hpage, hseq⟩ := h.linked.acks ack hmem
        have hcarries := h.linked.carries
        have hpos := (hcarries.labelled page
          (hcarries.sound.mem_log (hcarries.sound.seen page hpage))).pos
        rw [hcount s hs] at hnext
        have hlt : count + 1 < u64Size := by
          by_contra hge
          have heq : count + 1 = u64Size := by omega
          rw [heq, Nat.mod_self] at hnext
          omega
        rw [Nat.mod_eq_of_lt hlt] at hnext
        refine ⟨count + 1, hlt, fun s'' hs'' => ?_, hacked.next hpage (hseq.trans hnext)⟩
        rw [← Option.some.inj hs'', hnew, hnext]
  · have hover : Over a (w.room.step env (.session (.acknowledgeCursorEvent a ack.serverEpoch
      ack.eventSequence))) := hdropped.2.acknowledge ack
    exact Or.inr ⟨hdropped.1, hover⟩

/-- The client does something. -/
theorem TilingInv.of_client (h : TilingInv env store signs revision a w link later) {w' : World}
    (hlink : Linked env a w' link') (hroom : w'.room = w.room) (hlog : link'.log = link.log)
    (hseen : link.seen ⊆ link'.seen) : TilingInv env store signs revision a w' link' later := by
  refine ⟨hlink, ?_⟩
  rw [hroom]
  refine h.served.imp_left fun htiling => htiling.of_state rfl (List.Subset.refl _) ?_ hlog
  obtain ⟨ack, hsize, hack, hacked⟩ := htiling.acked
  exact ⟨ack, hsize, hack, hacked.of_client hlog hseen⟩

theorem Frozen.tail {event : WorldEvent} (h : Frozen store signs revision (event :: events)) :
    Frozen store signs revision events where
  tick store' t hmem := h.tick store' t (List.mem_cons_of_mem _ hmem)
  cursors := by
    have hcursors := h.cursors
    unfold cursorsOf at hcursors ⊢
    rw [List.filterMap_cons] at hcursors
    split at hcursors
    · exact hcursors
    · exact (List.pairwise_cons.mp hcursors).2

theorem TilingInv.mono (h : TilingInv env store signs revision a w link later)
    (hlater : later' ⊆ later) : TilingInv env store signs revision a w link later' :=
  ⟨h.linked, h.served.imp_left fun htiling => htiling.of_state rfl hlater htiling.acked rfl⟩

/-- **Every event** keeps the tiling. -/
theorem TilingInv.step {event : WorldEvent}
    (h : TilingInv env store signs revision a w link (cursorsOf (event :: events)))
    (hwrap : w.NoWrap a event) (hfrozen : Frozen store signs revision (event :: events)) :
    ∃ link', TilingInv env store signs revision a (w.step env a event) link'
      (cursorsOf events) := by
  have hstep := w.stepped env a event
  generalize hw' : w.step env a event = w' at hstep ⊢
  cases hstep with
  | same => exact ⟨link, h.mono ((List.sublist_cons_self event events).filterMap _).subset⟩
  | tick store' t =>
    obtain ⟨rfl, hsigns, hsnap, hrev⟩ := hfrozen.tick store' t List.mem_cons_self
    have hcursors := hfrozen.cursors
    have hlater : cursorsOf (.tick store' t :: events) =
        t.snapshot.cursorSecs.toList ++ cursorsOf events := by
      unfold cursorsOf
      rcases hc : t.snapshot.cursorSecs with _ | c <;> simp [WorldEvent.cursor, hc]
    rw [hlater, List.pairwise_append] at hcursors
    rw [← hw']
    exact h.tick hwrap hsigns hsnap hrev hlater fun x hx y hy =>
      hcursors.2.2 x (by simpa using hx) y hy
  | session op hop => exact ⟨link, h.session hop⟩
  | acknowledge i ack hack => exact ⟨link, h.acknowledge hack⟩
  | call => exact ⟨link, h.of_client h.linked.call rfl rfl (List.Subset.refl _)⟩
  | deliver i payload hp =>
    obtain ⟨link', hlink, hlog, hseen⟩ := h.linked.deliver (mem_payloads_of_arriving hp)
    exact ⟨link', h.of_client hlink rfl hlog hseen⟩

/-- A client that has just subscribed. -/
theorem World.Start.tilingInv (h : w.Start a) (later : List Secs) :
    TilingInv env store signs revision a w {} later := by
  refine ⟨h.linked, Or.inl ?_⟩
  have hstate := Room.stateAt_of_none h.state
  obtain ⟨s, hs, -, hack⟩ := h.session
  refine ⟨?_, ?_, ?_, ?_, 0, by decide, fun s' hs' => ?_, ?_⟩
  · rw [hstate]
    exact oneRefill_nil
  · rw [hstate]
    exact .fresh rfl
  · rw [hstate]
    intro hsome
    cases hsome
  · rw [hstate]
    intro x hx
    cases hx
  · rw [hs] at hs'
    rw [← Option.some.inj hs', hack]
  · rw [hstate]
    exact ⟨⟨[], rfl, by simp⟩, by omega⟩

/-! ## Whole runs -/

/-- **The log of a subscriber with an empty queue.** It is one baseline and the events behind it, up
to the cursor, each once and in the order of the global page; batches and events are numbered
without a gap and in increasing order. -/
structure Tiled (env : Env) (store : TimeSeriesStore) (signs : ZeroSigns) (revision : ℕ)
    (log : List Page) (cursor : Secs) : Prop where
  events : ∃ base deltas first, log = base ++ deltas ∧ IsBaseline revision base ∧
    (∀ page ∈ base, page.cursor = some first) ∧
    (∀ page ∈ deltas, page.batch.baseline = false) ∧
    wire deltas = (store.eventsBetween signs first cursor).map (cursorEvent env 0)
  pages : ∀ page ∈ log, page.batch.events.length ≤ pageSize
  contiguous : (log.map fun page => page.batch.eventSequence) = List.range' 1 log.length
  increasing : log.length < 0x100000000 →
    (log.flatMap fun page => page.batch.events).Pairwise fun e e' => e.sequence < e'.sequence

/-- The tiling, once the queue is empty. -/
theorem TilingInv.tiled (h : TilingInv env store signs revision a w link later)
    (hpending : (w.room.stateAt a).pending = []) {cursor : Secs}
    (hcursor : (w.room.stateAt a).lastCursor = some cursor) :
    Tiled env store signs revision (pagesOf (w.room.historyAt a)) cursor ∧
      (∀ page ∈ pagesOf (w.room.historyAt a), page.batch ∈ w.batches) ∧
      ∀ s ∈ w.room.sessionAt a, s.cursorEventAck = (pagesOf (w.room.historyAt a)).length := by
  have hcarries := h.linked.carries
  have htiling := h.served.resolve_right fun hdropped => by
    rw [hdropped.1] at hcursor
    cases hcursor
  obtain ⟨ack, -, hack, hacked⟩ := htiling.acked
  rw [SubscriberState.queue_eq_nil.mpr hpending] at hacked
  obtain ⟨hsequences, hseen⟩ := hacked.sequences hcarries
  have hlength : ack = link.log.length := by
    have hlen := congrArg List.length hsequences
    rw [List.length_map, List.length_range'] at hlen
    exact hlen.symm
  rw [← hcarries.log]
  have hlabel := hcarries.labelled
  have hbatch : (link.log.map fun page => page.batch.eventSequence) = link.log.map Page.sequence :=
    List.map_congr_left fun page hpage => (hlabel page hpage).sequence
  refine ⟨⟨?_, fun page hpage => (hlabel page hpage).size, ?_, fun hmax => ?_⟩,
    fun page hpage => ?_, fun s hs => (hack s hs).trans hlength⟩
  · have htrack := htiling.track
    rw [SubscriberState.settled_of_nil hpending, hcursor] at htrack
    generalize (w.room.stateAt a).lastRevision = lastRevision at htrack
    generalize hc : some cursor = last at htrack
    rcases htrack with hlog | ⟨base, deltas, first, _, hlog, htiles⟩
    · cases hc
    · subst hc
      obtain ⟨c, rfl⟩ := Option.isSome_iff_exists.mp htiles.isSome
      refine ⟨base, deltas, c, hlog, htiles.baseline, htiles.cursors, htiles.notBaseline, ?_⟩
      rw [htiles.events, deltaEvents_eq store signs (htiles.le c rfl cursor rfl)]
  · rw [hbatch, hsequences, hlength]
  · refine pairwise_event_sequences hcarries.increasing hlabel fun page hpage => ?_
    have hmem := List.mem_map_of_mem (f := Page.sequence) hpage
    rw [hsequences, List.mem_range'_1] at hmem
    omega
  · rw [← h.linked.seen]
    exact List.mem_map_of_mem (hseen page hpage)

theorem TilingInv.run (events : List WorldEvent)
    (h : TilingInv env store signs revision a w link (cursorsOf events))
    (hwrap : Meets (World.step env a) (World.NoWrap a) w events)
    (hfrozen : Frozen store signs revision events) :
    ∃ link', TilingInv env store signs revision a (events.foldl (World.step env a) w) link' [] := by
  induction events generalizing w link with
  | nil => exact ⟨_, h⟩
  | cons event events ih =>
    obtain ⟨link', h'⟩ := h.step hwrap.1 hfrozen
    exact ih h' hwrap.2 hfrozen.tail

namespace World

/-- **A store that does not change is tiled**: in every run from a new subscription over it, in one
revision and with a cursor that does not go back, a subscriber with an empty queue at the cursor
`cursor` has been sent a baseline and then the events behind it up to `cursor`.  The client has
received all these batches, and its session has acknowledged them. -/
theorem tiled_run {a : SocketAddr} {w : World} (hstart : w.Start a) (env : Env)
    (store : TimeSeriesStore) (signs : ZeroSigns) (revision : ℕ) (events : List WorldEvent)
    (hfrozen : Frozen store signs revision events) (hwrap : Meets (step env a) (NoWrap a) w events)
    {cursor : Secs}
    (hpending : ((events.foldl (step env a) w).room.stateAt a).pending = [])
    (hcursor : ((events.foldl (step env a) w).room.stateAt a).lastCursor = some cursor) :
    let w' := events.foldl (step env a) w
    let log := pagesOf (w'.room.historyAt a)
    Tiled env store signs revision log cursor ∧ (∀ page ∈ log, page.batch ∈ w'.batches) ∧
      ∀ s ∈ w'.room.sessionAt a, s.cursorEventAck = log.length := by
  have hinit : TilingInv env store signs revision a w {} (cursorsOf events) := hstart.tilingInv _
  obtain ⟨link, h⟩ := hinit.run events hwrap hfrozen
  exact h.tiled hpending hcursor

/-- A store with one aircraft that is spawned at 1 and has an event at 2. -/
def twoEvents : TimeSeriesStore :=
  ((({} : TimeSeriesStore).appendState "01" (.finite 1) {}).appendEvent "01" (.finite 1)
    (.spawn {})).appendEvent "01" (.finite 2) (.custom "x")

/-- A paused replay at some cursor. -/
def pausedAt (cursor : Secs) : PlaybackInner := { mode := .replayPaused, cursorSecs := some cursor }

/-- A tick of a paused replay of `twoEvents`. -/
def pausedTick (cursor now : Secs) : WorldEvent :=
  .tick twoEvents ⟨((pausedAt cursor).snapshot twoEvents now).2, now, now, .plain⟩

/-- The baseline and the delta are delivered and acknowledged. -/
def tilingRun : List WorldEvent :=
  [pausedTick 1 0, .call, .deliver 0, .call, .deliver 1, .acknowledge 0, pausedTick 2 1, .call,
    .deliver 3, .acknowledge 1, pausedTick 2 2]

theorem frozen_tilingRun : Frozen twoEvents .plain 0 tilingRun where
  tick store t hmem := by
    unfold tilingRun pausedTick at hmem
    simp only [List.mem_cons, WorldEvent.tick.injEq, reduceCtorEq, false_or, List.not_mem_nil,
      or_false] at hmem
    rcases hmem with ⟨rfl, rfl⟩ | ⟨rfl, rfl⟩ | ⟨rfl, rfl⟩ <;>
      exact ⟨rfl, rfl, ⟨pausedAt _, _, rfl⟩, rfl⟩
  cursors := by decide +kernel

theorem tiled_run_delta :
    let w := tilingRun.foldl (step Env.small 1) (connected 1 0 "u" 30)
    let log := pagesOf (w.room.historyAt 1)
    Tiled Env.small twoEvents .plain 0 log 2 ∧ (∀ page ∈ log, page.batch ∈ w.batches) ∧
      ∀ s ∈ w.room.sessionAt 1, s.cursorEventAck = log.length :=
  tiled_run (start_connected 1 0 "u" 30) Env.small twoEvents .plain 0 tilingRun frozen_tilingRun
    (by decide +kernel) (by decide +kernel) (by decide +kernel)

end World

end FlyRuler.Cursor
