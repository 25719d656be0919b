import FlyRuler.Management.Catalog
import FlyRuler.Management.SeriesKeys
import FlyRuler.Management.Workspace

/-!
# Edits of the workspace document

What the page does with its document: the calls of `web/src/stores/workspace.ts` that change it,
with the helpers of `web/src/utils.ts`, and the inputs that the components bind to its fields.  The
document is the one of the server, whose numbers are those of JSON; the copies through JSON that the
page makes are the document itself.

* `Sound`: the documents that a page has.
* `Sound.edit`: one edit of such a document.
* `Sound.validate`, `Sound.normalize`: what the server says to such a document, and a page keeps
  of it.
* `reconcileDataContext_reconciled`: when a page has followed its data it is at rest.
-/

namespace FlyRuler.Web.Editor

open FlyRuler.Pb FlyRuler.Management

/-! ## Helpers -/

def colors : List String := ["#4b92f0", "#38a169", "#d69e2e", "#e35d6a", "#8b5cf6", "#06b6d4"]

def createCurveStyle (aircraftId : String) (field : SeriesCatalogItem) (index : ℕ) :
    WorkspaceCurveStyle :=
  { aircraftId
    selector := field.selector
    «alias» := field.label
    color := colors.getD (index % colors.length) "#4b92f0"
    linePattern := "solid"
    lineWidth := .finite 2
    opacity := .finite 1
    visible := true
    yAxis := "left"
    smooth := false
    showSymbol := false
    scale := .finite 1
    offset := .finite 0
    unit := field.unit
    valueFormat := "auto"
    precision := 3 }

def curveKey (curve : WorkspaceCurveStyle) : String :=
  Management.Web.curveKey ⟨curve.aircraftId, curve.selector⟩

def defaultWorkspace : WorkspaceSnapshot :=
  { version := 1
    theme := .light
    locale := "zh-CN"
    leftPanelOpen := true
    rightPanelOpen := true
    basketOpen := true
    selectedAircraftId := none
    selectedChartId := none
    syncCharts := true
    queryStart := none
    queryEnd := none
    maxPoints := 2000
    charts := []
    basket := [] }

/-- `Number.isFinite`. -/
def isFinite (value : F64) : Bool := value.toFinite.isSome

def finiteOrNull (value : Option F64) : Option F64 := value.filter isFinite

/-- The entries of a view that are finite. -/
def normalizeChartView (view : WorkspaceChartView) : WorkspaceChartView :=
  { zoomStart := view.zoomStart.filter isFinite
    zoomEnd := view.zoomEnd.filter isFinite
    zoomStartValue := view.zoomStartValue.filter isFinite
    zoomEndValue := view.zoomEndValue.filter isFinite }

def normalizeWorkspace (workspace : WorkspaceSnapshot) : WorkspaceSnapshot :=
  let start := finiteOrNull workspace.queryStart
  let stop := finiteOrNull workspace.queryEnd
  let reversed := match start, stop with
    | some start, some stop => stop.lt start
    | _, _ => false
  { workspace with
    queryStart := if reversed then none else start
    queryEnd := if reversed then none else stop
    charts := workspace.charts.map fun chart =>
      { chart with view := normalizeChartView chart.view } }

/-- `Math.max`. -/
def mathMax (a b : F64) : F64 := if a = .nan ∨ b = .nan then .nan else if a.lt b then b else a

/-- `Math.min`. -/
def mathMin (a b : F64) : F64 := if a = .nan ∨ b = .nan then .nan else if b.lt a then b else a

def effectiveTimeRange (start stop : Option F64) (bounds : Option (F64 × F64)) :
    Option (F64 × F64) :=
  match start, stop, bounds with
  | some start, some stop, some bounds =>
    if !isFinite start || !isFinite stop || stop.lt start then none
    else if stop.lt bounds.1 || bounds.2.lt start then none
    else some (mathMax start bounds.1, mathMin stop bounds.2)
  | _, _, _ => none

/-- Equal up to a millionth; what is not finite differs from everything. -/
def sameOptionalNumber : Option F64 → Option F64 → Bool
  | some (.finite left), some (.finite right) => |left - right| ≤ 1 / 1000000
  | none, none => true
  | _, _ => false

def sameChartView (left right : WorkspaceChartView) : Bool :=
  sameOptionalNumber left.zoomStart right.zoomStart &&
    sameOptionalNumber left.zoomEnd right.zoomEnd &&
    sameOptionalNumber left.zoomStartValue right.zoomStartValue &&
    sameOptionalNumber left.zoomEndValue right.zoomEndValue

/-! ## The calls of the store -/

structure LayoutItem where
  i : String
  x : ℤ
  y : ℤ
  w : ℕ
  h : ℕ

/-- A change in place of the first chart with this id. -/
def modifyChart (id : String) (f : WorkspaceChart → WorkspaceChart) :
    List WorkspaceChart → List WorkspaceChart
  | [] => []
  | chart :: charts => if chart.id = id then f chart :: charts else chart :: modifyChart id f charts

/-- The view of the chart becomes the normalized one, if it is another. -/
def setChartView (normalized : WorkspaceChartView) (chart : WorkspaceChart) : WorkspaceChart :=
  if sameChartView chart.view normalized then chart else { chart with view := normalized }

/-- The curves of an aircraft that is not there become curves of the only one that is. -/
def adoptCurve (aircraftIds : List String) (curve : WorkspaceCurveStyle) : WorkspaceCurveStyle :=
  match aircraftIds with
  | [onlyAircraft] =>
    if curve.aircraftId ∈ aircraftIds then curve else { curve with aircraftId := onlyAircraft }
  | _ => curve

/-- The aircraft that is selected among those that are there; an empty id is no reason to select. -/
def adoptAircraft (aircraftIds : List String) : Option String → Option String
  | some id => if id ∈ aircraftIds then some id else aircraftIds.head?
  | none => aircraftIds.head?.filter (· ≠ "")

section

variable (workspace : WorkspaceSnapshot)

def selectedChart : Option WorkspaceChart :=
  workspace.charts.find? fun chart => some chart.id = workspace.selectedChartId

def selectAircraft (id : Option String) : WorkspaceSnapshot :=
  { workspace with selectedAircraftId := id }

def reconcileDataContext (aircraftIds : List String) (bounds : Option (F64 × F64)) :
    WorkspaceSnapshot :=
  let range := effectiveTimeRange workspace.queryStart workspace.queryEnd bounds
  let asked := workspace.queryStart.isSome || workspace.queryEnd.isSome
  { workspace with
    selectedAircraftId := adoptAircraft aircraftIds workspace.selectedAircraftId
    basket := workspace.basket.map (adoptCurve aircraftIds)
    queryStart := if asked then range.map Prod.fst else workspace.queryStart
    queryEnd := if asked then range.map Prod.snd else workspace.queryEnd
    charts := workspace.charts.map fun chart =>
      setChartView (normalizeChartView chart.view)
        { chart with curves := chart.curves.map (adoptCurve aircraftIds) } }

def addToBasket (curve : WorkspaceCurveStyle) : WorkspaceSnapshot :=
  if workspace.basket.any fun item => curveKey item = curveKey curve then workspace
  else { workspace with basket := workspace.basket ++ [curve] }

/-- `id` is the new one, made of the time and a random number. -/
def createChart (id : String) (title : Option String) : WorkspaceSnapshot :=
  let chart : WorkspaceChart :=
    { id
      title := title.getD ("Chart " ++ toString (workspace.charts.length + 1))
      x := 0
      y := workspace.charts.length * 5
      w := 6
      h := 5
      legendVisible := true
      curves := workspace.basket
      view := {} }
  { workspace with
    charts := workspace.charts ++ [chart], selectedChartId := some id, basket := [] }

/-- The keys are those from before the loop. -/
def addCurves (basket : List WorkspaceCurveStyle) (chart : WorkspaceChart) : WorkspaceChart :=
  let existing := chart.curves.map curveKey
  { chart with curves := chart.curves ++ basket.filter fun curve => curveKey curve ∉ existing }

def addBasketToSelected (id : String) (fallbackTitle : Option String) : WorkspaceSnapshot :=
  match selectedChart workspace with
  | none => createChart workspace id fallbackTitle
  | some chart =>
    { workspace with
      charts := modifyChart chart.id (addCurves workspace.basket) workspace.charts
      basket := [] }

def removeChart (id : String) : WorkspaceSnapshot :=
  let charts := workspace.charts.filter fun chart => chart.id ≠ id
  { workspace with
    charts := charts
    selectedChartId :=
      if workspace.selectedChartId = some id then charts.head?.map WorkspaceChart.id
      else workspace.selectedChartId }

/-- The last item of an id counts. -/
def updateLayout (layout : List LayoutItem) : WorkspaceSnapshot :=
  { workspace with
    charts := workspace.charts.map fun chart =>
      match layout.reverse.find? fun item => item.i = chart.id with
      | some item => { chart with x := item.x, y := item.y, w := item.w, h := item.h }
      | none => chart }

/-- Without `synchronize`, the setting of the document. -/
def updateChartView (chartId : String) (view : WorkspaceChartView) (synchronize : Option Bool) :
    WorkspaceSnapshot :=
  if workspace.charts.all fun chart => chart.id ≠ chartId then workspace
  else
    let charts := modifyChart chartId (setChartView (normalizeChartView view)) workspace.charts
    { workspace with
      charts :=
        if synchronize.getD workspace.syncCharts then
          charts.map fun other =>
            if other.id ≠ chartId then setChartView (normalizeChartView view) other else other
        else charts }

end

/-! ## The inputs of the components -/

/-- The field of a curve that an input of the inspector is bound to, with what is put in. -/
inductive CurveInput where
  | color (value : String)
  | «alias» (value : String)
  | visible
  | aircraft (id : String)
  | linePattern (value : String)
  | yAxis (value : String)
  | lineWidth (value : F64)
  | opacity (value : F64)
  | scale (value : F64)
  | offset (value : F64)
  | unit (value : String)
  | valueFormat (value : String)
  | precision (value : ℕ)
  | smooth (value : Bool)
  | showSymbol (value : Bool)

def CurveInput.apply (curve : WorkspaceCurveStyle) : CurveInput → WorkspaceCurveStyle
  | color value => { curve with color := value }
  | «alias» value => { curve with «alias» := value }
  | visible => { curve with visible := !curve.visible }
  | aircraft id => { curve with aircraftId := id }
  | linePattern value => { curve with linePattern := value }
  | yAxis value => { curve with yAxis := value }
  | lineWidth value => { curve with lineWidth := value }
  | opacity value => { curve with opacity := value }
  | scale value => { curve with scale := value }
  | offset value => { curve with offset := value }
  | unit value => { curve with unit := some value }
  | valueFormat value => { curve with valueFormat := value }
  | precision value => { curve with precision := value }
  | smooth value => { curve with smooth := value }
  | showSymbol value => { curve with showSymbol := value }

/-- What the options of an input and its limits let through. -/
def CurveInput.Offered : CurveInput → Prop
  | linePattern value => value ∈ ["solid", "dashed", "dotted"]
  | yAxis value => value ∈ ["left", "right"]
  | lineWidth value => withinLimits (1 / 2) 8 value
  | opacity value => withinLimits 0 1 value
  | scale value | offset value => isFinite value
  | valueFormat value => value ∈ ["auto", "fixed", "scientific"]
  | precision value => value ≤ 8
  | _ => True

inductive WorkspaceEdit where
  | selectAircraft (id : Option String)
  | reconcileDataContext (aircraftIds : List String) (bounds : Option (F64 × F64))
  -- a field of the catalog, which `addField` of the sidebar puts into the basket
  | addField (field : SeriesCatalogItem) (index : ℕ)
  | createChart (id : String) (title : Option String)
  | addBasketToSelected (id : String) (fallbackTitle : Option String)
  -- a click on a chart
  | selectChart (id : String)
  | removeChart (id : String)
  | updateLayout (layout : List LayoutItem)
  | updateChartView (chartId : String) (view : WorkspaceChartView) (synchronize : Option Bool)
  -- the inputs of the inspector: of the document, of the selected chart, and of a curve of it
  | setMaxPoints (limit : ℕ)
  | setTitle (title : String)
  | setLegendVisible (visible : Bool)
  | removeCurve (index : ℕ)
  | setCurve (index : ℕ) (input : CurveInput)
  -- the buttons of the toolbar
  | toggleTheme
  | setLocale (locale : String)
  | toggleLeftPanel
  | toggleRightPanel

section

variable (workspace : WorkspaceSnapshot)

/-- A change of the selected chart. -/
def modifySelected (f : WorkspaceChart → WorkspaceChart) : WorkspaceSnapshot :=
  match selectedChart workspace with
  | none => workspace
  | some chart => { workspace with charts := modifyChart chart.id f workspace.charts }

def addField (field : SeriesCatalogItem) (index : ℕ) : WorkspaceSnapshot :=
  match workspace.selectedAircraftId with
  | none | some "" => workspace
  | some aircraftId => addToBasket workspace (createCurveStyle aircraftId field index)

def edit : WorkspaceEdit → WorkspaceSnapshot
  | .selectAircraft id => selectAircraft workspace id
  | .reconcileDataContext aircraftIds bounds => reconcileDataContext workspace aircraftIds bounds
  | .addField field index => addField workspace field index
  | .createChart id title => createChart workspace id title
  | .addBasketToSelected id fallbackTitle => addBasketToSelected workspace id fallbackTitle
  | .selectChart id =>
    if workspace.charts.any fun chart => chart.id = id then
      { workspace with selectedChartId := some id }
    else workspace
  | .removeChart id => removeChart workspace id
  | .updateLayout layout => updateLayout workspace layout
  | .updateChartView chartId view synchronize => updateChartView workspace chartId view synchronize
  | .setMaxPoints limit => { workspace with maxPoints := limit }
  | .setTitle title => modifySelected workspace fun chart => { chart with title }
  | .setLegendVisible visible =>
    modifySelected workspace fun chart => { chart with legendVisible := visible }
  | .removeCurve index =>
    modifySelected workspace fun chart => { chart with curves := chart.curves.eraseIdx index }
  | .setCurve index input =>
    modifySelected workspace fun chart =>
      { chart with curves := chart.curves.modify index fun curve => input.apply curve }
  | .toggleTheme =>
    { workspace with theme := if workspace.theme = .dark then .light else .dark }
  | .setLocale locale => { workspace with locale }
  | .toggleLeftPanel => { workspace with leftPanelOpen := !workspace.leftPanelOpen }
  | .toggleRightPanel => { workspace with rightPanelOpen := !workspace.rightPanelOpen }

/-- Finite bounds in their order. -/
def Ordered (bounds : F64 × F64) : Prop := ∃ a b : ℚ, bounds = (.finite a, .finite b) ∧ a ≤ b

/-- What the page lets through: the bounds of the store are in order, the id of a new chart is new,
and the inputs keep to their options and limits. -/
def Offered : WorkspaceEdit → Prop
  | .reconcileDataContext _ bounds => ∀ range ∈ bounds, Ordered range
  | .createChart id _ | .addBasketToSelected id _ => ∀ chart ∈ workspace.charts, chart.id ≠ id
  | .setMaxPoints limit => limit ∈ [100, 250, 500, 1000, 2000, 5000, 10000, 20000]
  | .setCurve _ input => input.Offered
  | _ => True

end

/-! ## Sound documents -/

/-- A chart with curves that the server takes and a view that JSON keeps. -/
structure SoundChart (chart : WorkspaceChart) : Prop where
  curves : ∀ curve ∈ chart.curves, validCurve curve
  view : normalizeChartView chart.view = chart.view

/-- **The documents of a page**: the server finds nothing wrong with a value, JSON keeps everything,
and the selected chart is one of the charts, whose ids differ. -/
structure Sound (workspace : WorkspaceSnapshot) : Prop where
  version : workspace.version = 1
  maxPoints : 100 ≤ workspace.maxPoints ∧ workspace.maxPoints ≤ 20000
  query : validQuery workspace.queryStart workspace.queryEnd
  charts : ∀ chart ∈ workspace.charts, SoundChart chart
  basket : ∀ curve ∈ workspace.basket, validCurve curve
  ids : (workspace.charts.map WorkspaceChart.id).Nodup
  selected : ∀ id ∈ workspace.selectedChartId, id ∈ workspace.charts.map WorkspaceChart.id

theorem sound_default : Sound defaultWorkspace where
  version := rfl
  maxPoints := by decide
  query := rfl
  charts := by simp [defaultWorkspace]
  basket := by simp [defaultWorkspace]
  ids := by simp [defaultWorkspace]
  selected := by simp [defaultWorkspace]

/-! ### Views -/

@[simp] theorem filter_isFinite_idem (value : Option F64) :
    (value.filter isFinite).filter isFinite = value.filter isFinite := by
  rw [Option.filter_filter]
  simp only [Bool.and_self]

@[simp] theorem normalizeChartView_idem (view : WorkspaceChartView) :
    normalizeChartView (normalizeChartView view) = normalizeChartView view := by
  simp only [normalizeChartView, filter_isFinite_idem]

@[simp] theorem normalizeChartView_empty : normalizeChartView {} = {} := rfl

theorem sameOptionalNumber_filter {value : Option F64}
    (h : sameOptionalNumber value (value.filter isFinite)) : value.filter isFinite = value := by
  rcases value with _ | value | _ | _ | _
  · rfl
  · rfl
  all_goals cases h

/-- A view that is taken for its normalized one is that. -/
theorem normalizeChartView_of_same {view : WorkspaceChartView}
    (h : sameChartView view (normalizeChartView view)) : normalizeChartView view = view := by
  simp only [sameChartView, normalizeChartView, Bool.and_eq_true] at h
  obtain ⟨⟨⟨hstart, hend⟩, hstartValue⟩, hendValue⟩ := h
  simp only [normalizeChartView, sameOptionalNumber_filter hstart, sameOptionalNumber_filter hend,
    sameOptionalNumber_filter hstartValue, sameOptionalNumber_filter hendValue]

@[simp] theorem setChartView_id (view : WorkspaceChartView) (chart : WorkspaceChart) :
    (setChartView view chart).id = chart.id := by
  rw [setChartView]
  split <;> rfl

@[simp] theorem setChartView_curves (view : WorkspaceChartView) (chart : WorkspaceChart) :
    (setChartView view chart).curves = chart.curves := by
  rw [setChartView]
  split <;> rfl

/-- The view of a chart is normalized whatever it was. -/
theorem setChartView_normalize (chart : WorkspaceChart) :
    setChartView (normalizeChartView chart.view) chart =
      { chart with view := normalizeChartView chart.view } := by
  rw [setChartView]
  split
  · rename_i hsame
    rw [normalizeChartView_of_same hsame]
  · rfl

theorem SoundChart.setChartView {chart : WorkspaceChart} (h : SoundChart chart)
    (view : WorkspaceChartView) : SoundChart (setChartView (normalizeChartView view) chart) := by
  refine ⟨by simpa using h.curves, ?_⟩
  rw [Editor.setChartView]
  split
  · exact h.view
  · exact normalizeChartView_idem view

/-! ### Curves -/

theorem validCurve_createCurveStyle (aircraftId : String) (field : SeriesCatalogItem) (index : ℕ) :
    validCurve (createCurveStyle aircraftId field index) := by
  simp [validCurve, createCurveStyle, withinLimits, F64.toFinite]
  norm_num

@[simp] theorem validCurve_adoptCurve (aircraftIds : List String) (curve : WorkspaceCurveStyle) :
    validCurve (adoptCurve aircraftIds curve) = validCurve curve := by
  rcases aircraftIds with _ | ⟨onlyAircraft, _ | _⟩
  · rfl
  · simp only [adoptCurve]
    split <;> rfl
  · rfl

theorem validCurve_iff {curve : WorkspaceCurveStyle} :
    validCurve curve ↔ withinLimits (1 / 2) 8 curve.lineWidth ∧ withinLimits 0 1 curve.opacity ∧
      isFinite curve.scale ∧ isFinite curve.offset ∧ curve.precision ≤ 8 ∧
      curve.linePattern ∈ ["solid", "dashed", "dotted"] ∧ curve.yAxis ∈ ["left", "right"] ∧
      curve.valueFormat ∈ ["auto", "fixed", "scientific"] := by
  simp only [validCurve, isFinite, Bool.and_eq_true, decide_eq_true_eq, and_assoc]

theorem validCurve_apply {curve : WorkspaceCurveStyle} {input : CurveInput}
    (hcurve : validCurve curve) (hinput : input.Offered) : validCurve (input.apply curve) := by
  rw [validCurve_iff] at hcurve ⊢
  obtain ⟨hwidth, hopacity, hscale, hoffset, hprecision, hpattern, hyAxis, hformat⟩ := hcurve
  rcases input with _ | _ | _ | _ | _ | _ | _ | _ | _ | _ | _ | _ | _ | _ | _ <;>
    refine ⟨?_, ?_, ?_, ?_, ?_, ?_, ?_, ?_⟩ <;> assumption

theorem mem_of_mem_modify {α : Type} {f : α → α} {i : ℕ} {l : List α} {x : α}
    (h : x ∈ l.modify i f) : x ∈ l ∨ ∃ y ∈ l, x = f y := by
  rw [List.mem_iff_getElem?] at h
  obtain ⟨j, hj⟩ := h
  rw [List.getElem?_modify, Option.map_eq_map] at hj
  obtain ⟨y, hy, rfl⟩ := Option.map_eq_some_iff.mp hj
  have hmem := List.mem_of_getElem? hy
  split
  · exact .inr ⟨y, hmem, rfl⟩
  · exact .inl hmem

/-! ### Charts -/

section

variable {workspace : WorkspaceSnapshot} {charts : List WorkspaceChart}
  {f : WorkspaceChart → WorkspaceChart}

theorem map_id_modifyChart (id : String) (charts : List WorkspaceChart)
    (hid : ∀ chart, (f chart).id = chart.id) :
    (modifyChart id f charts).map WorkspaceChart.id = charts.map WorkspaceChart.id := by
  induction charts with
  | nil => rfl
  | cons chart charts ih =>
    rw [modifyChart]
    split
    · rw [List.map_cons, List.map_cons, hid]
    · rw [List.map_cons, List.map_cons, ih]

theorem sound_modifyChart (id : String)
    (hf : ∀ chart, SoundChart chart → SoundChart (f chart))
    (h : ∀ chart ∈ charts, SoundChart chart) :
    ∀ chart ∈ modifyChart id f charts, SoundChart chart := by
  induction charts with
  | nil => exact h
  | cons chart charts ih =>
    rw [List.forall_mem_cons] at h
    rw [modifyChart]
    split
    · exact List.forall_mem_cons.mpr ⟨hf chart h.1, h.2⟩
    · exact List.forall_mem_cons.mpr ⟨h.1, ih h.2⟩

/-- Other charts with the same ids. -/
theorem Sound.setCharts (h : Sound workspace)
    (hids : charts.map WorkspaceChart.id = workspace.charts.map WorkspaceChart.id)
    (hcharts : ∀ chart ∈ charts, SoundChart chart) : Sound { workspace with charts } where
  version := h.version
  maxPoints := h.maxPoints
  query := h.query
  charts := hcharts
  basket := h.basket
  ids := hids ▸ h.ids
  selected := hids ▸ h.selected

theorem Sound.modifySelected (h : Sound workspace) (hid : ∀ chart, (f chart).id = chart.id)
    (hf : ∀ chart, SoundChart chart → SoundChart (f chart)) :
    Sound (modifySelected workspace f) := by
  rw [Editor.modifySelected]
  split
  · exact h
  · exact h.setCharts (map_id_modifyChart _ _ hid) (sound_modifyChart _ hf h.charts)

end

/-! ### Ranges -/

theorem mathMax_finite (a b : ℚ) : mathMax (.finite a) (.finite b) = .finite (max a b) := by
  simp only [mathMax, F64.lt, reduceCtorEq, or_self, if_false, decide_eq_true_eq]
  split
  · rename_i hlt
    rw [max_eq_right hlt.le]
  · rename_i hle
    rw [max_eq_left (not_lt.mp hle)]

theorem mathMin_finite (a b : ℚ) : mathMin (.finite a) (.finite b) = .finite (min a b) := by
  simp only [mathMin, F64.lt, reduceCtorEq, or_self, if_false, decide_eq_true_eq]
  split
  · rename_i hlt
    rw [min_eq_right hlt.le]
  · rename_i hle
    rw [min_eq_left (not_lt.mp hle)]

section

variable {start stop : Option F64} {first last : ℚ}

theorem effectiveTimeRange_finite {a b : ℚ} (hab : a ≤ b) (hb : first ≤ b) (ha : a ≤ last) :
    effectiveTimeRange (some (.finite a)) (some (.finite b)) (some (.finite first, .finite last)) =
      some (.finite (max a first), .finite (min b last)) := by
  simp [effectiveTimeRange, isFinite, F64.toFinite, F64.lt, not_lt.mpr hab, not_lt.mpr hb,
    not_lt.mpr ha, mathMax_finite, mathMin_finite]

/-- There is a range only of numbers in order that meet the bounds. -/
theorem effectiveTimeRange_cases (start stop : Option F64) (first last : ℚ) :
    effectiveTimeRange start stop (some (.finite first, .finite last)) = none ∨
      ∃ a b : ℚ, start = some (.finite a) ∧ stop = some (.finite b) ∧
        a ≤ b ∧ first ≤ b ∧ a ≤ last := by
  rcases start with _ | start
  · exact .inl rfl
  rcases stop with _ | stop
  · exact .inl rfl
  by_cases h : !isFinite start || !isFinite stop || stop.lt start
  · exact .inl (if_pos h)
  by_cases hout : stop.lt (.finite first) || F64.lt (.finite last) start
  · exact .inl ((if_neg h).trans (if_pos hout))
  rcases start with a | _ | _ | _
  · rcases stop with b | _ | _ | _
    · simp only [isFinite, F64.toFinite, F64.lt, Option.isSome_some, Bool.not_true, Bool.false_or,
        Bool.or_eq_true, decide_eq_true_eq, not_or, not_lt] at h hout
      exact .inr ⟨a, b, rfl, rfl, h, hout⟩
    all_goals exact absurd rfl h
  all_goals exact absurd rfl h

theorem effectiveTimeRange_none (start stop : Option F64) :
    effectiveTimeRange start stop none = none := by
  rcases start with _ | start
  · rfl
  · rcases stop with _ | stop <;> rfl

/-- **The effective range** of any query: it lies within the bounds, if there is one. -/
theorem effectiveTimeRange_ordered (start stop : Option F64) {bounds : Option (F64 × F64)}
    (hbounds : ∀ range ∈ bounds, Ordered range) :
    effectiveTimeRange start stop bounds = none ∨
      ∃ first a b last : ℚ, bounds = some (.finite first, .finite last) ∧
        effectiveTimeRange start stop bounds = some (.finite a, .finite b) ∧
        first ≤ a ∧ a ≤ b ∧ b ≤ last := by
  rcases bounds with _ | bounds
  · exact .inl (effectiveTimeRange_none start stop)
  · obtain ⟨first, last, rfl, hle⟩ := hbounds bounds rfl
    rcases effectiveTimeRange_cases start stop first last with h | ⟨a, b, rfl, rfl, hab, hb, ha⟩
    · exact .inl h
    · have hordered : max a first ≤ min b last := le_min (max_le hab hb) (max_le ha hle)
      exact .inr ⟨first, max a first, min b last, last, rfl, effectiveTimeRange_finite hab hb ha,
        le_max_right a first, hordered, min_le_right b last⟩

/-- A range within the bounds stays. -/
theorem effectiveTimeRange_within {a b : ℚ} (ha : first ≤ a) (hab : a ≤ b) (hb : b ≤ last) :
    effectiveTimeRange (some (.finite a)) (some (.finite b)) (some (.finite first, .finite last)) =
      some (.finite a, .finite b) := by
  rw [effectiveTimeRange_finite hab (ha.trans hab) (hab.trans hb), max_eq_left ha, min_eq_left hb]

end

theorem validQuery_finite {a b : ℚ} (h : a ≤ b) :
    validQuery (some (.finite a)) (some (.finite b)) := by
  simpa [validQuery, F64.toFinite, F64.le] using h

/-! ### Following the data -/

/-- A chart that follows the data. -/
def adoptChart (aircraftIds : List String) (chart : WorkspaceChart) : WorkspaceChart :=
  { chart with
    curves := chart.curves.map (adoptCurve aircraftIds)
    view := normalizeChartView chart.view }

theorem SoundChart.adoptChart {chart : WorkspaceChart} (h : SoundChart chart)
    (aircraftIds : List String) : SoundChart (adoptChart aircraftIds chart) :=
  ⟨by simpa [Editor.adoptChart] using h.curves, normalizeChartView_idem chart.view⟩

/-- The query becomes the effective range, whether one was asked for or not. -/
theorem reconcileDataContext_eq (workspace : WorkspaceSnapshot) (aircraftIds : List String)
    (bounds : Option (F64 × F64)) :
    reconcileDataContext workspace aircraftIds bounds =
      let range := effectiveTimeRange workspace.queryStart workspace.queryEnd bounds
      { workspace with
        selectedAircraftId := adoptAircraft aircraftIds workspace.selectedAircraftId
        basket := workspace.basket.map (adoptCurve aircraftIds)
        queryStart := range.map Prod.fst
        queryEnd := range.map Prod.snd
        charts := workspace.charts.map (adoptChart aircraftIds) } := by
  have hcharts : workspace.charts.map (fun chart => setChartView (normalizeChartView chart.view)
      { chart with curves := chart.curves.map (adoptCurve aircraftIds) }) =
      workspace.charts.map (adoptChart aircraftIds) :=
    List.map_congr_left fun chart _ => setChartView_normalize _
  rw [reconcileDataContext]
  dsimp only
  rw [hcharts]
  split
  · rfl
  · rename_i hasked
    rw [Bool.or_eq_true, not_or, Option.not_isSome_iff_eq_none, Option.not_isSome_iff_eq_none]
      at hasked
    obtain ⟨hstart, hend⟩ := hasked
    rw [hstart, hend]
    rfl

/-! ### One edit -/

section

variable {workspace : WorkspaceSnapshot}

theorem Sound.selectAircraft (h : Sound workspace) (id : Option String) :
    Sound (selectAircraft workspace id) :=
  ⟨h.version, h.maxPoints, h.query, h.charts, h.basket, h.ids, h.selected⟩

theorem Sound.addToBasket (h : Sound workspace) {curve : WorkspaceCurveStyle}
    (hcurve : validCurve curve) : Sound (addToBasket workspace curve) := by
  rw [Editor.addToBasket]
  split
  · exact h
  · refine ⟨h.version, h.maxPoints, h.query, h.charts, ?_, h.ids, h.selected⟩
    exact List.forall_mem_append.mpr ⟨h.basket, by simpa using hcurve⟩

theorem Sound.addField (h : Sound workspace) (field : SeriesCatalogItem) (index : ℕ) :
    Sound (addField workspace field index) := by
  rw [Editor.addField]
  split
  · exact h
  · exact h
  · exact h.addToBasket (validCurve_createCurveStyle _ field index)

theorem Sound.createChart (h : Sound workspace) {id : String} (title : Option String)
    (hnew : ∀ chart ∈ workspace.charts, chart.id ≠ id) :
    Sound (createChart workspace id title) where
  version := h.version
  maxPoints := h.maxPoints
  query := h.query
  charts := by
    refine List.forall_mem_append.mpr ⟨h.charts, ?_⟩
    exact List.forall_mem_singleton.mpr ⟨h.basket, normalizeChartView_empty⟩
  basket := by simp [Editor.createChart]
  ids := by
    rw [Editor.createChart, List.map_append, List.nodup_append]
    refine ⟨h.ids, List.nodup_singleton _, ?_⟩
    intro other hother new hnewid
    obtain ⟨chart, hchart, rfl⟩ := List.mem_map.mp hother
    rw [List.map_singleton, List.mem_singleton] at hnewid
    exact hnewid ▸ hnew chart hchart
  selected := by simp [Editor.createChart]

theorem SoundChart.addCurves {chart : WorkspaceChart} (h : SoundChart chart)
    {basket : List WorkspaceCurveStyle} (hbasket : ∀ curve ∈ basket, validCurve curve) :
    SoundChart (addCurves basket chart) :=
  ⟨List.forall_mem_append.mpr
    ⟨h.curves, fun curve hcurve => hbasket curve (List.mem_of_mem_filter hcurve)⟩, h.view⟩

theorem Sound.emptyBasket (h : Sound workspace) : Sound { workspace with basket := [] } :=
  ⟨h.version, h.maxPoints, h.query, h.charts, by simp, h.ids, h.selected⟩

theorem Sound.addBasketToSelected (h : Sound workspace) {id : String} (title : Option String)
    (hnew : ∀ chart ∈ workspace.charts, chart.id ≠ id) :
    Sound (addBasketToSelected workspace id title) := by
  rw [Editor.addBasketToSelected]
  split
  · exact h.createChart title hnew
  · rename_i chart _
    have hcharts := sound_modifyChart (f := addCurves workspace.basket) chart.id
      (fun _ hchart => hchart.addCurves h.basket) h.charts
    have hids := map_id_modifyChart (f := addCurves workspace.basket) chart.id workspace.charts
      fun _ => rfl
    exact (h.setCharts hids hcharts).emptyBasket

theorem Sound.selectChart (h : Sound workspace) (id : String) :
    Sound (edit workspace (.selectChart id)) := by
  rw [edit]
  split
  · rename_i hany
    refine ⟨h.version, h.maxPoints, h.query, h.charts, h.basket, h.ids, ?_⟩
    rintro _ ⟨⟩
    obtain ⟨chart, hchart, hid⟩ := List.any_eq_true.mp hany
    exact List.mem_map.mpr ⟨chart, hchart, of_decide_eq_true hid⟩
  · exact h

theorem Sound.removeChart (h : Sound workspace) (id : String) :
    Sound (removeChart workspace id) where
  version := h.version
  maxPoints := h.maxPoints
  query := h.query
  charts := fun chart hchart => h.charts chart (List.mem_of_mem_filter hchart)
  basket := h.basket
  ids := h.ids.sublist (List.filter_sublist.map _)
  selected := by
    intro selected hselected
    rw [Editor.removeChart] at hselected ⊢
    dsimp only at hselected ⊢
    split at hselected
    · obtain ⟨chart, hchart, rfl⟩ := Option.mem_map.mp hselected
      exact List.mem_map_of_mem (List.mem_of_mem_head? hchart)
    · rename_i hother
      obtain ⟨chart, hchart, rfl⟩ := List.mem_map.mp (h.selected selected hselected)
      refine List.mem_map_of_mem (List.mem_filter.mpr ⟨hchart, decide_eq_true ?_⟩)
      rintro rfl
      exact hother hselected

theorem Sound.updateLayout (h : Sound workspace) (layout : List LayoutItem) :
    Sound (updateLayout workspace layout) := by
  refine h.setCharts ?_ (List.forall_mem_map.mpr fun chart hchart => ?_)
  · rw [List.map_map]
    refine List.map_congr_left fun chart _ => ?_
    rw [Function.comp_apply]
    split <;> rfl
  · split
    · exact ⟨(h.charts chart hchart).curves, (h.charts chart hchart).view⟩
    · exact h.charts chart hchart

theorem Sound.updateChartView (h : Sound workspace) (chartId : String) (view : WorkspaceChartView)
    (synchronize : Option Bool) : Sound (updateChartView workspace chartId view synchronize) := by
  rw [Editor.updateChartView]
  split
  · exact h
  · have hids := map_id_modifyChart chartId workspace.charts
      (setChartView_id (normalizeChartView view))
    have hcharts := sound_modifyChart chartId (fun _ hchart => hchart.setChartView view) h.charts
    refine h.setCharts ?_ ?_
    · split
      · rw [List.map_map, ← hids]
        refine List.map_congr_left fun chart _ => ?_
        rw [Function.comp_apply]
        split
        · exact setChartView_id _ chart
        · rfl
      · exact hids
    · split
      · refine List.forall_mem_map.mpr fun chart hchart => ?_
        split
        · exact (hcharts chart hchart).setChartView view
        · exact hcharts chart hchart
      · exact hcharts

theorem Sound.reconcileDataContext (h : Sound workspace) (aircraftIds : List String)
    {bounds : Option (F64 × F64)} (hbounds : ∀ range ∈ bounds, Ordered range) :
    Sound (reconcileDataContext workspace aircraftIds bounds) := by
  have hquery : validQuery
      ((effectiveTimeRange workspace.queryStart workspace.queryEnd bounds).map Prod.fst)
      ((effectiveTimeRange workspace.queryStart workspace.queryEnd bounds).map Prod.snd) := by
    rcases effectiveTimeRange_ordered workspace.queryStart workspace.queryEnd hbounds with
      hrange | ⟨-, a, b, -, -, hrange, -, hab, -⟩
    · rw [hrange]
      rfl
    · rw [hrange]
      exact validQuery_finite hab
  have hids : (workspace.charts.map (adoptChart aircraftIds)).map WorkspaceChart.id =
      workspace.charts.map WorkspaceChart.id := by
    rw [List.map_map]
    rfl
  have hcharts : ∀ chart ∈ workspace.charts.map (adoptChart aircraftIds), SoundChart chart :=
    List.forall_mem_map.mpr fun chart hchart => (h.charts chart hchart).adoptChart aircraftIds
  rw [reconcileDataContext_eq]
  exact ⟨h.version, h.maxPoints, hquery, hcharts, by simpa using h.basket, hids ▸ h.ids,
    hids ▸ h.selected⟩

/-- **One edit.** -/
theorem Sound.edit (h : Sound workspace) (change : WorkspaceEdit)
    (hoffered : Offered workspace change) : Sound (edit workspace change) := by
  cases change with
  | selectAircraft id => exact h.selectAircraft id
  | reconcileDataContext aircraftIds bounds => exact h.reconcileDataContext aircraftIds hoffered
  | addField field index => exact h.addField field index
  | createChart id title => exact h.createChart title hoffered
  | addBasketToSelected id title => exact h.addBasketToSelected title hoffered
  | selectChart id => exact h.selectChart id
  | removeChart id => exact h.removeChart id
  | updateLayout layout => exact h.updateLayout layout
  | updateChartView chartId view synchronize => exact h.updateChartView chartId view synchronize
  | setMaxPoints limit =>
    have hlimit : 100 ≤ limit ∧ limit ≤ 20000 := by
      simp only [Offered, List.mem_cons, List.not_mem_nil, or_false] at hoffered
      omega
    exact ⟨h.version, hlimit, h.query, h.charts, h.basket, h.ids, h.selected⟩
  | setTitle title => exact h.modifySelected (fun _ => rfl) fun _ hchart => ⟨hchart.1, hchart.2⟩
  | setLegendVisible visible =>
    exact h.modifySelected (fun _ => rfl) fun _ hchart => ⟨hchart.1, hchart.2⟩
  | removeCurve index =>
    exact h.modifySelected (fun _ => rfl) fun _ hchart =>
      ⟨fun curve hcurve => hchart.1 curve (List.mem_of_mem_eraseIdx hcurve), hchart.2⟩
  | setCurve index input =>
    refine h.modifySelected (fun _ => rfl) fun chart hchart => ⟨?_, hchart.2⟩
    intro curve hcurve
    rcases mem_of_mem_modify hcurve with hold | ⟨old, hold, rfl⟩
    · exact hchart.1 curve hold
    · exact validCurve_apply (hchart.1 old hold) hoffered
  | toggleTheme | setLocale _ | toggleLeftPanel | toggleRightPanel =>
    exact ⟨h.version, h.maxPoints, h.query, h.charts, h.basket, h.ids, h.selected⟩

/-! ## The server and the document -/

/-- **What the server says to a sound document**: it can only be too complex. -/
theorem Sound.validate (h : Sound workspace) :
    validate workspace =
      if MAX_CHARTS < workspace.charts.length ∨
          workspace.charts.any (fun chart => MAX_CURVES_PER_CHART < chart.curves.length) then
        .error .tooComplex
      else .ok () := by
  have hcurves : (workspace.charts.flatMap WorkspaceChart.curves ++ workspace.basket).all
      validCurve := by
    rw [List.all_eq_true]
    refine List.forall_mem_append.mpr ⟨fun curve hcurve => ?_, h.basket⟩
    obtain ⟨chart, hchart, hmem⟩ := List.mem_flatMap.mp hcurve
    exact (h.charts chart hchart).curves curve hmem
  rw [Management.validate, if_pos hcurves]
  simp only [h.version, h.maxPoints, h.query, ne_eq, not_true_eq_false, and_self, false_or,
    Bool.not_true, Bool.false_eq_true, if_false]

/-- A valid query is finite and in order. -/
theorem validQuery_cases {start stop : Option F64} (h : validQuery start stop) :
    finiteOrNull start = start ∧ finiteOrNull stop = stop ∧
      ∀ a ∈ start, ∀ b ∈ stop, b.lt a = false := by
  simp only [validQuery, Bool.and_eq_true] at h
  obtain ⟨⟨hstart, hstop⟩, horder⟩ := h
  refine ⟨?_, ?_, ?_⟩
  · rcases start with _ | start
    · rfl
    · exact Option.filter_some_pos hstart
  · rcases stop with _ | stop
    · rfl
    · exact Option.filter_some_pos hstop
  · rintro a rfl b rfl
    rcases a with a | _ | _ | _
    · rcases b with b | _ | _ | _
      · exact decide_eq_false (not_lt.mpr (of_decide_eq_true horder))
      all_goals cases hstop
    all_goals cases hstart

/-- **A sound document is a normal one.** -/
theorem Sound.normalize (h : Sound workspace) : normalizeWorkspace workspace = workspace := by
  obtain ⟨hstart, hstop, horder⟩ := validQuery_cases h.query
  have hviews : workspace.charts.map
      (fun chart => { chart with view := normalizeChartView chart.view }) = workspace.charts := by
    refine (List.map_congr_left fun chart hchart => ?_).trans (List.map_id _)
    rw [(h.charts chart hchart).view]
    rfl
  have hreversed : (match workspace.queryStart, workspace.queryEnd with
      | some start, some stop => stop.lt start
      | _, _ => false) = false := by
    split
    · rename_i a b ha hb
      exact horder a ha b hb
    · rfl
  simp only [normalizeWorkspace, hviews, hstart, hstop, hreversed, Bool.false_eq_true, if_false]

end

/-! ## At rest -/

theorem adoptAircraft_mem {aircraftIds : List String} {selected : Option String} {id : String}
    (h : id ∈ adoptAircraft aircraftIds selected) : id ∈ aircraftIds := by
  rcases selected with _ | selected
  · exact List.mem_of_mem_head? (Option.mem_filter_iff.mp h).1
  · simp only [adoptAircraft] at h
    split at h
    · rename_i hmem
      cases h
      exact hmem
    · exact List.mem_of_mem_head? h

/-- An aircraft that is there stays selected, and none stays none. -/
theorem adoptAircraft_idem (aircraftIds : List String) (selected : Option String) :
    adoptAircraft aircraftIds (adoptAircraft aircraftIds selected) =
      adoptAircraft aircraftIds selected := by
  rcases hadopted : adoptAircraft aircraftIds selected with _ | id
  · rcases selected with _ | selected
    · exact hadopted
    · simp only [adoptAircraft] at hadopted ⊢
      split at hadopted
      · cases hadopted
      · rw [hadopted]
        rfl
  · exact if_pos (adoptAircraft_mem hadopted)

theorem adoptCurve_idem (aircraftIds : List String) (curve : WorkspaceCurveStyle) :
    adoptCurve aircraftIds (adoptCurve aircraftIds curve) = adoptCurve aircraftIds curve := by
  rcases aircraftIds with _ | ⟨onlyAircraft, _ | _⟩
  · rfl
  · simp only [adoptCurve, List.mem_singleton]
    split
    · rfl
    · exact if_pos rfl
  · rfl

theorem adoptChart_idem (aircraftIds : List String) (chart : WorkspaceChart) :
    adoptChart aircraftIds (adoptChart aircraftIds chart) = adoptChart aircraftIds chart := by
  have hcurves : (chart.curves.map (adoptCurve aircraftIds)).map (adoptCurve aircraftIds) =
      chart.curves.map (adoptCurve aircraftIds) := by
    rw [List.map_map]
    exact List.map_congr_left fun curve _ => adoptCurve_idem aircraftIds curve
  simp only [adoptChart, hcurves, normalizeChartView_idem]

/-- The document has followed its data: what is selected is there, the query lies within the bounds,
and following the data again changes nothing. -/
structure Reconciled (aircraftIds : List String) (bounds : Option (F64 × F64))
    (workspace : WorkspaceSnapshot) : Prop where
  selected : ∀ id ∈ workspace.selectedAircraftId, id ∈ aircraftIds
  query : workspace.queryStart = none ∧ workspace.queryEnd = none ∨
    ∃ first a b last : ℚ, bounds = some (.finite first, .finite last) ∧
      workspace.queryStart = some (.finite a) ∧ workspace.queryEnd = some (.finite b) ∧
      first ≤ a ∧ a ≤ b ∧ b ≤ last
  settled : reconcileDataContext workspace aircraftIds bounds = workspace

/-- **A page that follows its data comes to rest at once**, from any document. -/
theorem reconcileDataContext_reconciled (workspace : WorkspaceSnapshot) (aircraftIds : List String)
    {bounds : Option (F64 × F64)} (hbounds : ∀ range ∈ bounds, Ordered range) :
    Reconciled aircraftIds bounds (reconcileDataContext workspace aircraftIds bounds) := by
  have hbasket : (workspace.basket.map (adoptCurve aircraftIds)).map (adoptCurve aircraftIds) =
      workspace.basket.map (adoptCurve aircraftIds) := by
    rw [List.map_map]
    exact List.map_congr_left fun curve _ => adoptCurve_idem aircraftIds curve
  have hcharts : (workspace.charts.map (adoptChart aircraftIds)).map (adoptChart aircraftIds) =
      workspace.charts.map (adoptChart aircraftIds) := by
    rw [List.map_map]
    exact List.map_congr_left fun chart _ => adoptChart_idem aircraftIds chart
  have hrange := effectiveTimeRange_ordered workspace.queryStart workspace.queryEnd hbounds
  constructor
  · rw [reconcileDataContext_eq]
    exact fun id hid => adoptAircraft_mem hid
  · rw [reconcileDataContext_eq]
    dsimp only
    rcases hrange with hrange | ⟨first, a, b, last, rfl, hrange, hbetween⟩
    · rw [hrange]
      exact .inl ⟨rfl, rfl⟩
    · rw [hrange]
      exact .inr ⟨first, a, b, last, rfl, rfl, rfl, hbetween⟩
  · rw [reconcileDataContext_eq workspace, reconcileDataContext_eq]
    dsimp only
    rw [hbasket, hcharts, adoptAircraft_idem]
    rcases hrange with hrange | ⟨first, a, b, last, rfl, hrange, ha, hab, hb⟩
    · rw [hrange]
      rfl
    · rw [hrange]
      dsimp only [Option.map_some]
      rw [effectiveTimeRange_within ha hab hb]
      rfl

/-- A query that reaches beyond the bounds on both sides. -/
theorem reconcileDataContext_reconciled_clamped :
    Reconciled ["a"] (some (.finite 2, .finite 5))
      (reconcileDataContext
        { defaultWorkspace with queryStart := some (.finite 0), queryEnd := some (.finite 10) }
        ["a"] (some (.finite 2, .finite 5))) := by
  refine reconcileDataContext_reconciled _ _ ?_
  rintro _ ⟨⟩
  exact ⟨2, 5, rfl, by norm_num⟩

end FlyRuler.Web.Editor
