import OpenDnp3.App.Measurement
import OpenDnp3.App.ObjectHeader
import OpenDnp3.Lib.SortedAssoc

/-!
# Static data

One measurement type of the database: a map from indices to cells.  A cell holds the current
value, the configuration, the value of the last event and the point's part in a pending
response, its *selection*.

Besides the flag in every cell a map has a range `selected`.  Iterating over a map visits the
selected points in index order and unselects each one when it moves on; the range shrinks
along, so that the iterator always stands at the start of the range.
-/

namespace OpenDnp3.Outstation

open App Lib

/-! ## Cells -/

structure PointConfig (S : Spec) where
  clazz : PointClass
  svariation : S.StaticVariation
  evariation : S.EventVariation
  deadband : S.Deadband

/-- Whether a point is requested in a response, with the value and the variation that will
    be reported. -/
structure SelectedValue (S : Spec) where
  selected : Bool
  value : S.Meas
  variation : S.StaticVariation

/-- A point: its value, its configuration, its last event and its selection. -/
structure StaticDataCell (S : Spec) where
  value : S.Meas
  config : PointConfig S
  lastEvent : S.Meas
  selection : SelectedValue S

/-- An event as it is handed to the event receiver. -/
structure Event (S : Spec) where
  value : S.Meas
  index : Nat
  clazz : EventClass
  variation : S.EventVariation

variable {S : Spec}

namespace StaticDataCell

/-- `StaticDataCell(config)`. -/
def ofConfig (config : PointConfig S) : StaticDataCell S where
  value := S.default
  config := config
  lastEvent := S.default
  selection := ⟨false, S.default, S.DefaultStaticVariation⟩

/-- Select the point with its current value; `getVariation` uses or overrides the default
    variation. -/
def select (getVariation : S.StaticVariation → S.StaticVariation) (c : StaticDataCell S) :
    StaticDataCell S :=
  { c with
    selection := ⟨true, c.value, S.checkForPromotion c.value (getVariation c.config.svariation)⟩ }

def unselect (c : StaticDataCell S) : StaticDataCell S :=
  { c with selection := { c.selection with selected := false } }

/-- Does the new value make an event? -/
def triggers (c : StaticDataCell S) (new_value : S.Meas) (mode : EventMode) : Bool :=
  mode == .Force || mode == .EventOnly || S.isEvent c.lastEvent new_value c.config.deadband

/-- The cell after an update. -/
def update (new_value : S.Meas) (mode : EventMode) (c : StaticDataCell S) : StaticDataCell S :=
  { c with
    value := if mode ≠ .EventOnly then new_value else c.value
    lastEvent := if c.triggers new_value mode then new_value else c.lastEvent }

/-- The event that an update hands on, if any. -/
def updateEvent (index : Nat) (new_value : S.Meas) (mode : EventMode) (c : StaticDataCell S) :
    List (Event S) :=
  if c.triggers new_value mode then
    if mode ≠ .Suppress then
      match c.config.clazz.toEventClass with
      | some ec => [⟨new_value, index, ec, c.config.evariation⟩]
      | none => []
    else []
  else []

def assignClass (clazz : PointClass) (c : StaticDataCell S) : StaticDataCell S :=
  { c with config := { c.config with clazz } }

/-- The point's part in the pending response. -/
def pending (c : StaticDataCell S) : Option (S.Meas × S.StaticVariation) :=
  if c.selection.selected then some (c.selection.value, c.selection.variation) else none

@[simp] theorem selected_select (g : S.StaticVariation → S.StaticVariation)
    (c : StaticDataCell S) : (c.select g).selection.selected = true := rfl

@[simp] theorem selected_unselect (c : StaticDataCell S) :
    c.unselect.selection.selected = false := rfl

@[simp] theorem selection_update (new_value : S.Meas) (mode : EventMode)
    (c : StaticDataCell S) : (c.update new_value mode).selection = c.selection := rfl

end StaticDataCell

/-! ## The map -/

/-- The range starts at a selected point, unless it is empty, and contains all of them. -/
structure Covers (cells : List (Nat × StaticDataCell S)) (selected : Range) : Prop where
  start_selected : selected.isValid = true →
    ∃ c, (selected.start, c) ∈ cells ∧ c.selection.selected = true
  contains : ∀ p ∈ cells, p.2.selection.selected = true → selected.contains p.1 = true

/-- The points of a type.  The range covers every selected point. -/
structure StaticDataMap (S : Spec) where
  cells : List (Nat × StaticDataCell S)
  selected : Range
  sorted : KeySorted cells
  covers : Covers cells selected

namespace StaticDataMap

/-- A map with nothing selected in it. -/
def ofCells (cells : List (Nat × StaticDataCell S)) (sorted : KeySorted cells)
    (h : ∀ p ∈ cells, p.2.selection.selected = false) : StaticDataMap S where
  cells := cells
  selected := .invalid
  sorted := sorted
  covers :=
    { start_selected := fun hvalid => Bool.noConfusion hvalid
      contains := fun p hp hsel => Bool.noConfusion ((h p hp).symm.trans hsel) }

theorem sorted_nil : KeySorted ([] : List (Nat × PointConfig S)) := .nil

/-- `StaticDataMap(config)`. -/
def ofConfig (config : List (Nat × PointConfig S)) (sorted : KeySorted config) :
    StaticDataMap S :=
  ofCells (config.map fun p => (p.1, .ofConfig p.2))
    (by rw [KeySorted, List.pairwise_map]; exact sorted)
    (by
      intro p hp
      obtain ⟨q, -, rfl⟩ := List.mem_map.mp hp
      rfl)

def find (m : StaticDataMap S) (index : Nat) : Option (StaticDataCell S) :=
  m.cells.lookup index

def hasAnySelection (m : StaticDataMap S) : Bool := m.selected.isValid

def getSelectedRange (m : StaticDataMap S) : Range := m.selected

/-- The range from the first to the last of some points. -/
def spanOf (points : List (Nat × StaticDataCell S)) : Range :=
  if h : points = [] then .invalid else ⟨(points.head h).1, (points.getLast h).1⟩

def getFullRange (m : StaticDataMap S) : Range := spanOf m.cells

variable (m : StaticDataMap S)

theorem mem_cells_iff {index : Nat} {c : StaticDataCell S} :
    (index, c) ∈ m.cells ↔ m.find index = some c :=
  m.sorted.mem_iff_lookup

/-- Nothing is selected exactly when the range is empty. -/
theorem hasAnySelection_iff :
    m.hasAnySelection = true ↔ ∃ i c, m.find i = some c ∧ c.selection.selected = true := by
  constructor
  · intro hvalid
    obtain ⟨c, hmem, hsel⟩ := m.covers.start_selected hvalid
    exact ⟨_, c, m.mem_cells_iff.mp hmem, hsel⟩
  · rintro ⟨i, c, hfind, hsel⟩
    have hcontains := m.covers.contains _ (m.mem_cells_iff.mpr hfind) hsel
    rw [Range.contains_iff] at hcontains
    exact (Range.isValid_iff _).mpr (Nat.le_trans hcontains.1 hcontains.2)

/-! ### Changing values -/

/-- Change cells without touching what is selected. -/
def mapCells (m : StaticDataMap S) (f : Nat → StaticDataCell S → StaticDataCell S)
    (hf : ∀ i c, (f i c).selection.selected = c.selection.selected) : StaticDataMap S where
  cells := mapValues f m.cells
  selected := m.selected
  sorted := keySorted_mapValues m.sorted f
  covers := by
    constructor
    · intro hvalid
      obtain ⟨c, hmem, hsel⟩ := m.covers.start_selected hvalid
      exact ⟨f _ c, mem_mapValues.mpr ⟨_, hmem, rfl⟩, (hf _ c).trans hsel⟩
    · intro q hq hsel
      obtain ⟨p, hp, rfl⟩ := mem_mapValues.mp hq
      exact m.covers.contains p hp ((hf _ _).symm.trans hsel)

/-- Change one cell without touching whether it is selected. -/
def modifyAt (m : StaticDataMap S) (index : Nat) (f : StaticDataCell S → StaticDataCell S)
    (hf : ∀ c, (f c).selection.selected = c.selection.selected) : StaticDataMap S :=
  m.mapCells (fun i c => if i = index then f c else c) fun i c => by
    split
    · exact hf c
    · rfl

theorem find_modifyAt (index : Nat) (f : StaticDataCell S → StaticDataCell S)
    (hf : ∀ c, (f c).selection.selected = c.selection.selected) (i : Nat) :
    (m.modifyAt index f hf).find i = (m.find i).map fun c => if i = index then f c else c :=
  lookup_mapValues (fun i c => if i = index then f c else c) m.cells i

/-- `update`: the new map, the events for the receiver, and whether the point exists. -/
def update (m : StaticDataMap S) (new_value : S.Meas) (index : Nat) (mode : EventMode) :
    StaticDataMap S × List (Event S) × Bool :=
  match m.find index with
  | none => (m, [], false)
  | some c =>
    (m.modifyAt index (StaticDataCell.update new_value mode) (fun _ => rfl),
      c.updateEvent index new_value mode, true)

theorem find_update (new_value : S.Meas) (index : Nat) (mode : EventMode) (i : Nat) :
    (m.update new_value index mode).1.find i =
      (m.find i).map fun c => if i = index then c.update new_value mode else c := by
  unfold update
  split
  · rename_i hnone
    by_cases hi : i = index
    · subst hi
      rw [hnone]
      rfl
    · simp [hi]
  · exact m.find_modifyAt index (StaticDataCell.update new_value mode) (fun _ => rfl) i

/-- The map of times and intervals has its own `update`: no events, whatever the mode. -/
def updateTimeAndInterval (m : StaticDataMap TimeAndIntervalSpec) (value : TimeAndInterval)
    (index : Nat) : StaticDataMap TimeAndIntervalSpec × Bool :=
  match m.find index with
  | none => (m, false)
  | some _ => (m.modifyAt index (fun c => { c with value }) (fun _ => rfl), true)

/-- `modify`: set the flags of the points from `start` to `stop`.  The source's loop leaves
    with `false` at the first point behind `stop`. -/
def modify (setFlags : S.Meas → UInt8 → S.Meas) (m : StaticDataMap S) (start stop : Nat)
    (flags : UInt8) : StaticDataMap S × List (Event S) × Bool :=
  if stop < start then
    (m, [], false)
  else
    let points := m.cells.filter fun p => start ≤ p.1
    let visited := points.takeWhile fun p => p.1 ≤ stop
    let result := visited.foldl (fun (acc : StaticDataMap S × List (Event S)) p =>
      let (m', events, _) := acc.1.update (setFlags p.2.value flags) p.1 .Detect
      (m', acc.2 ++ events)) (m, [])
    (result.1, result.2, visited.length == points.length)

/-- `assign_class(clazz)`. -/
def assignClass (m : StaticDataMap S) (clazz : PointClass) : StaticDataMap S × Range :=
  (m.mapCells (fun _ c => c.assignClass clazz) (fun _ _ => rfl), m.getFullRange)

/-- `assign_class(clazz, range)`. -/
def assignClassRange (m : StaticDataMap S) (clazz : PointClass) (range : Range) :
    StaticDataMap S × Range :=
  (m.mapCells (fun i c => if range.contains i then c.assignClass clazz else c) (fun i c => by
    split <;> rfl), range.intersection m.getFullRange)

/-! ### Selecting -/

theorem mem_spanOf {points : List (Nat × StaticDataCell S)} (hsorted : KeySorted points)
    {p : Nat × StaticDataCell S} (hp : p ∈ points) : (spanOf points).contains p.1 = true := by
  have hne : points ≠ [] := List.ne_nil_of_mem hp
  rw [spanOf, dif_neg hne, Range.contains_iff]
  exact ⟨hsorted.head_le hne p hp, hsorted.le_getLast hne p hp⟩

theorem start_spanOf {points : List (Nat × StaticDataCell S)} (hne : points ≠ []) :
    ∃ p ∈ points, (spanOf points).start = p.1 := by
  refine ⟨points.head hne, List.head_mem hne, ?_⟩
  rw [spanOf, dif_neg hne]

/-- `select_all`: select all points; how many there are. -/
def selectAll (m : StaticDataMap S) (getVariation : S.StaticVariation → S.StaticVariation) :
    StaticDataMap S × Nat :=
  if h : m.cells = [] then
    (m, 0)
  else
    ({ cells := mapValues (fun _ c => c.select getVariation) m.cells
       selected := spanOf m.cells
       sorted := keySorted_mapValues m.sorted _
       covers := by
        constructor
        · intro _
          obtain ⟨p, hp, hstart⟩ := start_spanOf h
          exact ⟨p.2.select getVariation, mem_mapValues.mpr ⟨p, hp, by rw [hstart]⟩, rfl⟩
        · intro q hq _
          obtain ⟨p, hp, rfl⟩ := mem_mapValues.mp hq
          exact mem_spanOf (p := p) m.sorted hp },
      m.cells.length)

/-- `select(range)`: select the points in the range, on top of what is selected; how many
    there are. -/
def select (m : StaticDataMap S) (range : Range)
    (getVariation : S.StaticVariation → S.StaticVariation) : StaticDataMap S × Nat :=
  let points := m.cells.filter fun p => range.contains p.1
  if h : points = [] then
    (m, 0)
  else
    ({ cells := mapValues (fun i c => if range.contains i then c.select getVariation else c) m.cells
       selected := m.selected.union (spanOf points)
       sorted := keySorted_mapValues m.sorted _
       covers := by
        constructor
        · intro _
          rcases m.selected.start_union (spanOf points) with hstart | ⟨hvalid, hstart⟩
          · -- the new range starts at a point selected now
            obtain ⟨p, hp, hspan⟩ := start_spanOf h
            obtain ⟨hmem, hin⟩ := List.mem_filter.mp hp
            refine ⟨p.2.select getVariation, mem_mapValues.mpr ⟨p, hmem, ?_⟩, rfl⟩
            rw [hstart, hspan, if_pos hin]
          · -- or where the old one did, at a point selected before
            obtain ⟨c, hmem, hsel⟩ := m.covers.start_selected hvalid
            rw [hstart]
            refine ⟨_, mem_mapValues.mpr ⟨_, hmem, rfl⟩, ?_⟩
            dsimp only
            split
            · rfl
            · exact hsel
        · intro q hq hsel
          obtain ⟨p, hp, rfl⟩ := mem_mapValues.mp hq
          dsimp only at hsel ⊢
          by_cases hin : range.contains p.1 = true
          · have hpoint : p ∈ points := List.mem_filter.mpr ⟨hp, hin⟩
            exact Range.contains_union_right _ (mem_spanOf (m.sorted.filter _) hpoint)
          · rw [if_neg hin] at hsel
            exact Range.contains_union_left _ (m.covers.contains p hp hsel) },
      points.length)

/-- The default variation of the point. -/
def useDefault (variation : S.StaticVariation) : S.StaticVariation := variation

/-- The requested variation instead of the point's default, if there is one. -/
def override (requested : Option S.StaticVariation) :
    S.StaticVariation → S.StaticVariation := fun default => requested.getD default

theorem find_select (range : Range) (getVariation : S.StaticVariation → S.StaticVariation)
    (i : Nat) :
    (m.select range getVariation).1.find i =
      (m.find i).map fun c => if range.contains i then c.select getVariation else c := by
  unfold select
  dsimp only
  split
  · rename_i hnil
    cases hfind : m.find i with
    | none => rfl
    | some c =>
      have hin : ¬ range.contains i = true := fun hin =>
        List.filter_eq_nil_iff.mp hnil (i, c) (m.mem_cells_iff.mpr hfind) hin
      rw [Option.map_some, if_neg hin]
  · exact lookup_mapValues (fun i c => if range.contains i then c.select getVariation else c)
      m.cells i

theorem find_selectAll (getVariation : S.StaticVariation → S.StaticVariation) (i : Nat) :
    (m.selectAll getVariation).1.find i = (m.find i).map fun c => c.select getVariation := by
  unfold selectAll
  split
  · rename_i hnil
    have hfind : m.find i = none := by rw [find, hnil]; rfl
    rw [hfind]
    rfl
  · exact lookup_mapValues (fun _ c => c.select getVariation) m.cells i

/-! ### Iterating -/

/-- `begin()`: the first point of the selected range, unless the range is empty. -/
def begin? (m : StaticDataMap S) : Option (Nat × SelectedValue S) :=
  if m.selected.isValid then
    (m.cells.find? fun p => decide (m.selected.start ≤ p.1)).map fun p => (p.1, p.2.selection)
  else none

/-- The cells after the point at `index` has been unselected. -/
def unselectAt (cells : List (Nat × StaticDataCell S)) (index : Nat) :
    List (Nat × StaticDataCell S) :=
  mapValues (fun i c => if i = index then c.unselect else c) cells

/-- A selected point other than the first one lies behind it. -/
theorem start_lt_of_selected {q : Nat × StaticDataCell S}
    (hq : q ∈ unselectAt m.cells m.selected.start) (hsel : q.2.selection.selected = true) :
    m.selected.start < q.1 ∧ q.1 ≤ m.selected.stop := by
  obtain ⟨p, hp, rfl⟩ := mem_mapValues.mp hq
  by_cases hstart : p.1 = m.selected.start
  · rw [if_pos hstart] at hsel
    cases hsel
  · rw [if_neg hstart] at hsel
    have hcontains := m.covers.contains p hp hsel
    rw [Range.contains_iff] at hcontains
    exact ⟨Nat.lt_of_le_of_ne hcontains.1 (Ne.symm hstart), hcontains.2⟩

/-- The iterator's `operator++` at the start of the range: unselect the point, go on to the
    next selected one and shorten the range to start there. -/
def advance (m : StaticDataMap S) : StaticDataMap S :=
  let cells := unselectAt m.cells m.selected.start
  let isNext : Nat × StaticDataCell S → Bool :=
    fun p => decide (m.selected.start < p.1) && p.2.selection.selected
  have later : ∀ q ∈ cells, q.2.selection.selected = true → isNext q = true := fun _ hq hsel =>
    Bool.and_eq_true_iff.mpr ⟨decide_eq_true (m.start_lt_of_selected hq hsel).1, hsel⟩
  match h : cells.find? isNext with
  | none =>
    { cells
      selected := .invalid
      sorted := keySorted_mapValues m.sorted _
      covers :=
        { start_selected := fun hvalid => Bool.noConfusion hvalid
          contains := fun q hq hsel => absurd (later q hq hsel) (List.find?_eq_none.mp h q hq) } }
  | some next =>
    { cells
      selected := ⟨next.1, m.selected.stop⟩
      sorted := keySorted_mapValues m.sorted _
      covers :=
        { start_selected := fun _ =>
            ⟨next.2, List.mem_of_find?_eq_some h,
              (Bool.and_eq_true_iff.mp (show isNext next = true from List.find?_some h)).2⟩
          contains := fun q hq hsel => (Range.contains_iff _ _).mpr
            ⟨(keySorted_mapValues m.sorted _).find?_le h hq (later q hq hsel),
              (m.start_lt_of_selected hq hsel).2⟩ } }

theorem cells_advance : m.advance.cells = unselectAt m.cells m.selected.start := by
  unfold advance
  dsimp only
  split <;> rfl

theorem find_advance (i : Nat) :
    m.advance.find i =
      (m.find i).map fun c => if i = m.selected.start then c.unselect else c := by
  rw [find, cells_advance]
  exact lookup_mapValues (fun i c => if i = m.selected.start then c.unselect else c) m.cells i

/-- The iterator stands at a selected point. -/
theorem begin_of_valid (hvalid : m.selected.isValid = true) :
    ∃ c, m.find m.selected.start = some c ∧ c.selection.selected = true ∧
      m.begin? = some (m.selected.start, c.selection) := by
  obtain ⟨c, hmem, hsel⟩ := m.covers.start_selected hvalid
  refine ⟨c, m.mem_cells_iff.mp hmem, hsel, ?_⟩
  rw [begin?, if_pos hvalid, m.sorted.find?_ge hmem]
  rfl

theorem begin_of_not_valid (hvalid : m.selected.isValid = false) : m.begin? = none := by
  rw [begin?, hvalid]
  rfl

/-- How many points are selected. -/
def numSelected (m : StaticDataMap S) : Nat := m.cells.countP fun p => p.2.selection.selected

theorem numSelected_le : m.numSelected ≤ m.cells.length :=
  List.countP_le_length

theorem numSelected_eq_zero_iff : m.numSelected = 0 ↔ m.hasAnySelection = false := by
  rw [numSelected, List.countP_eq_zero, Bool.eq_false_iff, Ne, hasAnySelection_iff]
  constructor
  · rintro hnone ⟨i, c, hfind, hsel⟩
    exact hnone _ (m.mem_cells_iff.mpr hfind) hsel
  · intro hnone p hp hsel
    exact hnone ⟨p.1, p.2, m.mem_cells_iff.mp hp, hsel⟩

/-- Each step of an iteration uses up one selected point. -/
theorem numSelected_advance (hvalid : m.selected.isValid = true) :
    m.advance.numSelected + 1 = m.numSelected := by
  obtain ⟨c, hmem, hsel⟩ := m.covers.start_selected hvalid
  rw [numSelected, cells_advance]
  exact m.sorted.countP_mapValues hmem hsel rfl

theorem numSelected_mapCells (f : Nat → StaticDataCell S → StaticDataCell S)
    (hf : ∀ i c, (f i c).selection.selected = c.selection.selected) :
    (m.mapCells f hf).numSelected = m.numSelected := by
  simp only [numSelected, mapCells, mapValues, List.countP_map, Function.comp_def, hf]

/-- The iteration without a body, at most `fuel` steps of it. -/
def clearFrom : Nat → StaticDataMap S → StaticDataMap S
  | 0, m => m
  | fuel + 1, m =>
    match m.begin? with
    | none => m
    | some _ => clearFrom fuel m.advance

/-- `clear_selection`: the act of iterating clears the selection. -/
def clearSelection (m : StaticDataMap S) : StaticDataMap S := clearFrom m.cells.length m

/-- Where nothing is selected there is nothing to do for the selected points. -/
theorem map_find_of_not_selected (hnone : m.hasAnySelection = false)
    (f : StaticDataCell S → StaticDataCell S) (i : Nat) :
    ((m.find i).map fun c => if c.selection.selected then f c else c) = m.find i := by
  cases hfind : m.find i with
  | none => rfl
  | some c =>
    have hsel : ¬ c.selection.selected = true := fun hsel =>
      Bool.eq_false_iff.mp hnone (m.hasAnySelection_iff.mpr ⟨i, c, hfind, hsel⟩)
    rw [Option.map_some, if_neg hsel]

theorem find_clearFrom {fuel : Nat} {m : StaticDataMap S} (hfuel : m.numSelected ≤ fuel)
    (i : Nat) :
    (clearFrom fuel m).find i =
      (m.find i).map fun c => if c.selection.selected then c.unselect else c := by
  induction fuel generalizing m with
  | zero =>
    have hnone := (numSelected_eq_zero_iff m).mp (Nat.le_zero.mp hfuel)
    rw [m.map_find_of_not_selected hnone]
    rfl
  | succ fuel ih =>
    rw [clearFrom]
    by_cases hvalid : m.selected.isValid = true
    · obtain ⟨c, hstart, hsel, hbegin⟩ := m.begin_of_valid hvalid
      have hcount := m.numSelected_advance hvalid
      rw [hbegin]
      rw [ih (by omega), find_advance, Option.map_map]
      by_cases hi : i = m.selected.start
      · -- the point at the iterator: selected before, not any more
        subst hi
        simp [hstart, hsel]
      · simp [Function.comp_def, hi]
    · have hnone : m.hasAnySelection = false := Bool.eq_false_iff.mpr hvalid
      rw [m.begin_of_not_valid hnone, m.map_find_of_not_selected hnone]

theorem find_clearSelection (i : Nat) :
    m.clearSelection.find i =
      (m.find i).map fun c => if c.selection.selected then c.unselect else c :=
  find_clearFrom m.numSelected_le i

/-- Clearing leaves nothing selected. -/
@[simp] theorem hasAnySelection_clearSelection : m.clearSelection.hasAnySelection = false := by
  rw [Bool.eq_false_iff, Ne, hasAnySelection_iff]
  rintro ⟨i, c, hfind, hsel⟩
  rw [find_clearSelection, Option.map_eq_some_iff] at hfind
  obtain ⟨c₀, -, rfl⟩ := hfind
  split at hsel
  · cases hsel
  · contradiction

end StaticDataMap

end OpenDnp3.Outstation
