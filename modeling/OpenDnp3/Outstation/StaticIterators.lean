import OpenDnp3.Lib.Machine
import OpenDnp3.Outstation.StaticDataMap

/-!
# Iterators over static data

A step of an iterator unselects the point that it leaves and moves the start of the selected range
to the point that it comes to.  `StaticDataMap.advance` is this step at the start of the range.  A
caller may also keep an iterator while points are selected, and go on with it or with a copy of it
later.  The range is then not always right, so here the map comes without its invariant.
-/

namespace OpenDnp3.Outstation

open App Lib

/-- A map with any selection.  At each of `iters` an iterator has stood, and a copy may still. -/
structure IteratedMap (S : Spec) where
  cells : List (Nat × StaticDataCell S)
  selected : Range
  iters : List Nat
  sorted : KeySorted cells

namespace IteratedMap

variable {S : Spec}

/-! ## Calls -/

section

variable (m : IteratedMap S) (getVariation : S.StaticVariation → S.StaticVariation)

/-- `map[index] = cell`. -/
def insert (index : Nat) (cell : StaticDataCell S) : IteratedMap S :=
  { m with
    cells := insertKey index cell m.cells
    sorted := keySorted_insertKey m.sorted _ _ }

/-- `StaticDataMap(config)`. -/
def ofConfig (config : List (Nat × PointConfig S)) : IteratedMap S :=
  config.foldl (fun m p => m.insert p.1 (.ofConfig p.2)) ⟨[], .invalid, [], .nil⟩

def add (value : S.Meas) (index : Nat) (config : PointConfig S) : IteratedMap S :=
  if (m.cells.lookup index).isSome then m
  else m.insert index { StaticDataCell.ofConfig config with value }

def mapCells (f : Nat → StaticDataCell S → StaticDataCell S) : IteratedMap S :=
  { m with
    cells := mapValues f m.cells
    sorted := keySorted_mapValues m.sorted f }

def update (new_value : S.Meas) (index : Nat) (mode : EventMode) : IteratedMap S :=
  m.mapCells fun i c => if i = index then c.update new_value mode else c

/-- The own `update` of the map of times and intervals. -/
def updateTimeAndInterval (value : S.Meas) (index : Nat) : IteratedMap S :=
  m.mapCells fun i c => if i = index then { c with value } else c

def modify (setFlags : S.Meas → UInt8 → S.Meas) (start stop : Nat) (flags : UInt8) :
    IteratedMap S :=
  if stop < start then m
  else m.mapCells fun i c =>
    if start ≤ i ∧ i ≤ stop then c.update (setFlags c.value flags) .Detect else c

def selectAll : IteratedMap S :=
  if m.cells = [] then m
  else { m.mapCells fun _ c => c.select getVariation with
    selected := StaticDataMap.spanOf m.cells }

def select (range : Range) : IteratedMap S :=
  let points := m.cells.filter fun p => range.contains p.1
  if points = [] then m
  else { m.mapCells fun i c => if range.contains i then c.select getVariation else c with
    selected := m.selected.union (StaticDataMap.spanOf points) }

/-- Where `begin()` stands; `none` is `end()`. -/
def begin? : Option Nat :=
  if m.selected.isValid then
    (m.cells.find? fun p => decide (m.selected.start ≤ p.1)).map (·.1)
  else none

/-- The loop of `operator++` over the points behind the iterator. -/
def walk : List (Nat × StaticDataCell S) → Range → Option Nat × Range
  | [], _ => (none, .invalid)
  | p :: rest, range =>
    let range := { range with start := p.1 }
    if p.2.selection.selected then (some p.1, range) else walk rest range

/-- `operator++` of an iterator at a point: where it comes to, and the map. -/
def increment (index : Nat) : Option Nat × IteratedMap S :=
  let cells := StaticDataMap.unselectAt m.cells index
  let (position, selected) := walk (cells.filter fun p => index < p.1) m.selected
  (position,
    { cells
      selected
      iters := position.toList ++ m.iters
      sorted := keySorted_mapValues m.sorted _ })

/-- `for (; it != end(); ++it)`: the points visited, and the map.  `none` is out of fuel. -/
def iterate : Nat → Option Nat → IteratedMap S → Option (List Nat × IteratedMap S)
  | _, none, m => some ([], m)
  | 0, some _, _ => none
  | fuel + 1, some index, m =>
    (iterate fuel (m.increment index).1 (m.increment index).2).map fun (visited, m) =>
      (index :: visited, m)

/-- `clear_selection`; its iterator is gone afterwards. -/
def clearSelection : IteratedMap S :=
  (iterate m.cells.length m.begin? m).elim m fun (_, m') => { m' with iters := m.iters }

inductive Call (S : Spec) where
  | add (value : S.Meas) (index : Nat) (config : PointConfig S)
  | update (value : S.Meas) (index : Nat) (mode : EventMode)
  | updateTimeAndInterval (value : S.Meas) (index : Nat)
  | modify (setFlags : S.Meas → UInt8 → S.Meas) (start stop : Nat) (flags : UInt8)
  | selectAll (getVariation : S.StaticVariation → S.StaticVariation)
  | select (range : Range) (getVariation : S.StaticVariation → S.StaticVariation)
  | clearSelection
  | begin
  | increment (index : Nat)

def step : Call S → IteratedMap S
  | .add value index config => m.add value index config
  | .update value index mode => m.update value index mode
  | .updateTimeAndInterval value index => m.updateTimeAndInterval value index
  | .modify setFlags start stop flags => m.modify setFlags start stop flags
  | .selectAll getVariation => m.selectAll getVariation
  | .select range getVariation => m.select getVariation range
  | .clearSelection => m.clearSelection
  | .begin => { m with iters := m.begin?.toList ++ m.iters }
  | .increment index => if index ∈ m.iters then (m.increment index).2 else m

end

/-! ## The selected points -/

/-- The indices of the selected cells. -/
def pointsOf (cells : List (Nat × StaticDataCell S)) : List Nat :=
  (cells.filter (·.2.selection.selected)).map (·.1)

def points (m : IteratedMap S) : List Nat := pointsOf m.cells

/-- **The range is right.** -/
structure Consistent (m : IteratedMap S) : Prop where
  valid : m.selected.isValid = true ↔ m.points ≠ []
  start : m.selected.isValid = true → m.selected.start ∈ m.points
  contains : ∀ i ∈ m.points, m.selected.contains i = true

/-- An iteration visits the selected points in increasing order and leaves none selected. -/
def Iterates (m : IteratedMap S) : Prop :=
  m.points.Pairwise (· < ·) ∧
    ∃ m', iterate m.cells.length m.begin? m = some (m.points, m') ∧ m'.points = []

/-- **The condition**: no selected point lies before an iterator that is stepped. -/
def InOrder (m : IteratedMap S) : Call S → Prop
  | .increment index => index ∈ m.iters → ∀ i ∈ m.points, index ≤ i
  | _ => True

variable {m m' : IteratedMap S} {cells : List (Nat × StaticDataCell S)} {index : Nat}

theorem mem_pointsOf : index ∈ pointsOf cells ↔
    ∃ c, (index, c) ∈ cells ∧ c.selection.selected = true := by
  simp [pointsOf]

theorem pairwise_points (m : IteratedMap S) : m.points.Pairwise (· < ·) :=
  List.pairwise_map.mpr (m.sorted.filter _)

theorem pointsOf_mapValues {f : Nat → StaticDataCell S → StaticDataCell S}
    (hf : ∀ i c, (f i c).selection.selected = c.selection.selected) :
    pointsOf (mapValues f cells) = pointsOf cells := by
  simp [pointsOf, mapValues, List.filter_map, Function.comp_def, hf]

theorem pointsOf_unselectAt :
    pointsOf (StaticDataMap.unselectAt cells index) = (pointsOf cells).filter (· ≠ index) := by
  simp only [pointsOf, StaticDataMap.unselectAt, mapValues, List.filter_map, List.map_map,
    List.filter_filter]
  refine congrArg₂ _ rfl (List.filter_congr fun p _ => ?_)
  by_cases hp : p.1 = index <;> simp [hp, StaticDataCell.unselect]

/-- A cell that is not selected replaces no selected one. -/
theorem pointsOf_insertKey {c : StaticDataCell S} (hc : c.selection.selected = false)
    (hnone : index ∉ pointsOf cells) : pointsOf (insertKey index c cells) = pointsOf cells := by
  induction cells with
  | nil => simp [insertKey, pointsOf, hc]
  | cons p rest ih =>
    have hrest := ih fun hmem => hnone (by
      obtain ⟨d, hd, hsel⟩ := mem_pointsOf.mp hmem
      exact mem_pointsOf.mpr ⟨d, List.mem_cons_of_mem _ hd, hsel⟩)
    unfold insertKey
    split_ifs with hlt heq
    · simp [pointsOf, hc]
    · have hp : p.2.selection.selected = false := by
        rw [Bool.eq_false_iff]
        exact fun hsel => hnone (mem_pointsOf.mpr ⟨p.2, by simp [heq], hsel⟩)
      simp [pointsOf, hc, hp]
    · unfold pointsOf at hrest ⊢
      rw [List.filter_cons, List.filter_cons]
      split <;> simp [hrest]

/-! ## Steps of an iterator -/

/-- The loop stops at the first selected point. -/
theorem walk_eq (range : Range) : walk cells range = match pointsOf cells with
    | [] => (none, .invalid)
    | i :: _ => (some i, ⟨i, range.stop⟩) := by
  induction cells generalizing range with
  | nil => rfl
  | cons p rest ih =>
    unfold walk
    cases hp : p.2.selection.selected with
    | true => simp [pointsOf, hp]
    | false => simpa [pointsOf, hp] using ih { range with start := p.1 }

/-- Everything about a step, by the selected points behind the iterator. -/
theorem increment_spec (m : IteratedMap S) (index : Nat) :
    (m.increment index).2.points = m.points.filter (· ≠ index) ∧
    (m.increment index).1 = (m.points.filter (index < ·)).head? ∧
    (m.increment index).2.selected = match m.points.filter (index < ·) with
      | [] => .invalid
      | i :: _ => ⟨i, m.selected.stop⟩ := by
  have hlater : pointsOf ((StaticDataMap.unselectAt m.cells index).filter
      fun p => decide (index < p.1)) = m.points.filter (index < ·) := by
    simp only [points, pointsOf, StaticDataMap.unselectAt, mapValues, List.filter_map,
      List.map_map, List.filter_filter]
    refine congrArg₂ _ rfl (List.filter_congr fun p _ => ?_)
    by_cases hp : index < p.1 <;> simp [hp, Nat.ne_of_gt]
  refine ⟨pointsOf_unselectAt, ?_⟩
  simp only [increment, walk_eq, hlater]
  cases m.points.filter (index < ·) with
  | nil | cons => exact ⟨rfl, rfl⟩

/-- **A step of an iterator keeps the range right** exactly if no selected point lies before it. -/
theorem consistent_increment_iff (h : m.Consistent) (index : Nat) :
    (m.increment index).2.Consistent ↔ ∀ i ∈ m.points, index ≤ i := by
  obtain ⟨hpoints, -, hselected⟩ := m.increment_spec index
  constructor
  · intro h' i hi
    by_contra hlt
    have hcontains := h'.contains i (by rw [hpoints]; simp [hi]; omega)
    rw [hselected, Range.contains_iff] at hcontains
    split at hcontains
    · simp only [Range.invalid] at hcontains
      omega
    · -- the range starts behind the iterator
      rename_i j rest hlater
      have hj : j ∈ m.points.filter (index < ·) := by simp [hlater]
      simp only [List.mem_filter, decide_eq_true_eq] at hj
      exact hlt (Nat.le_of_lt (Nat.lt_of_lt_of_le hj.2 hcontains.1))
  · intro hfirst
    have hsame : (m.increment index).2.points = m.points.filter (index < ·) := by
      rw [hpoints]
      refine List.filter_congr fun i hi => ?_
      have hle := hfirst i hi
      simp only [decide_eq_decide]
      omega
    cases hlater : m.points.filter (index < ·) with
    | nil =>
      rw [hlater] at hsame hselected
      exact ⟨by simp [hselected, hsame, Range.invalid], by simp [hselected, Range.invalid],
        by simp [hsame]⟩
    | cons j rest =>
      rw [hlater] at hsame hselected
      have hsorted := (m.increment index).2.pairwise_points
      rw [hsame, List.pairwise_cons] at hsorted
      -- the points that are left are in the old range, and `j` is the first of them
      have hrange : ∀ i ∈ j :: rest, j ≤ i ∧ i ≤ m.selected.stop := by
        intro i hi
        have hmem : i ∈ m.points := List.mem_of_mem_filter (hlater ▸ hi)
        have hold := (Range.contains_iff _ _).mp (h.contains i hmem)
        rcases List.mem_cons.mp hi with rfl | hi
        · exact ⟨Nat.le_refl _, hold.2⟩
        · exact ⟨Nat.le_of_lt (hsorted.1 i hi), hold.2⟩
      refine ⟨?_, ?_, ?_⟩
      · simpa [hselected, hsame] using (hrange j List.mem_cons_self).2
      · simp [hselected, hsame]
      · intro i hi
        rw [hsame] at hi
        rw [hselected, Range.contains_iff]
        exact hrange i hi

/-! ## Iterations -/

theorem Consistent.begin_eq (h : m.Consistent) : m.begin? = m.points.head? := by
  unfold begin?
  split
  · rename_i hvalid
    obtain ⟨c, hmem, hsel⟩ := mem_pointsOf.mp (h.start hvalid)
    rw [m.sorted.find?_ge hmem]
    cases hp : m.points with
    | nil => exact absurd hp (h.valid.mp hvalid)
    | cons j rest =>
      have hsorted := m.pairwise_points
      have hstart := h.start hvalid
      have hj := (Range.contains_iff _ _).mp (h.contains j (by simp [hp]))
      rw [hp] at hstart hsorted
      rcases List.mem_cons.mp hstart with heq | hlater
      · simp [heq]
      · exact absurd ((List.pairwise_cons.mp hsorted).1 _ hlater) (Nat.not_lt.mpr hj.1)
  · rename_i hvalid
    have hnil : m.points = [] := not_not.mp (mt h.valid.mpr hvalid)
    simp [hnil]

/-- **An iteration** from the first selected point visits all of them and leaves none. -/
theorem iterate_spec {fuel : Nat} (h : m.Consistent) (hfuel : m.points.length ≤ fuel) :
    ∃ m', iterate fuel m.points.head? m = some (m.points, m') ∧ m'.Consistent ∧
      m'.points = [] := by
  induction fuel generalizing m with
  | zero =>
    have hnil : m.points = [] := List.length_eq_zero_iff.mp (Nat.le_zero.mp hfuel)
    rw [hnil]
    exact ⟨m, rfl, h, hnil⟩
  | succ fuel ih =>
    cases hp : m.points with
    | nil => exact ⟨m, rfl, h, hp⟩
    | cons i rest =>
      obtain ⟨hpoints, hposition, -⟩ := m.increment_spec i
      have hsorted := m.pairwise_points
      rw [hp, List.pairwise_cons] at hsorted
      -- the position is the first of the points that are left, and the rest stays consistent
      have hrest : (m.increment i).2.points = rest := by
        rw [hpoints, hp]
        simpa using fun j hj => Nat.ne_of_gt (hsorted.1 j hj)
      have hhead : (m.increment i).1 = (m.increment i).2.points.head? := by
        have hlater : m.points.filter (i < ·) = rest := by
          rw [hp]
          simpa using hsorted.1
        rw [hposition, hrest, hlater]
      have hkeeps : (m.increment i).2.Consistent := by
        rw [consistent_increment_iff h, hp]
        simpa using fun j hj => Nat.le_of_lt (hsorted.1 j hj)
      have hlength : (m.increment i).2.points.length ≤ fuel := by
        rw [hrest]
        rw [hp] at hfuel
        exact Nat.le_of_succ_le_succ hfuel
      obtain ⟨m', hiterate, hm', hnone⟩ := ih hkeeps hlength
      refine ⟨m', ?_, hm', hnone⟩
      rw [hrest] at hhead hiterate
      simp [iterate, hhead, hiterate]

theorem length_points_le (m : IteratedMap S) : m.points.length ≤ m.cells.length := by
  rw [points, pointsOf, List.length_map]
  exact List.length_filter_le ..

theorem Consistent.iterates (h : m.Consistent) : m.Iterates := by
  obtain ⟨m', hiterate, -, hnone⟩ := iterate_spec h m.length_points_le
  rw [← h.begin_eq] at hiterate
  exact ⟨m.pairwise_points, m', hiterate, hnone⟩

/-! ## Every call -/

theorem Consistent.of_eq (h : m.Consistent) (hpoints : m'.points = m.points)
    (hselected : m'.selected = m.selected) : m'.Consistent :=
  ⟨by rw [hpoints, hselected]; exact h.valid, by rw [hpoints, hselected]; exact h.start,
    by rw [hpoints, hselected]; exact h.contains⟩

theorem consistent_iff_covers : m.Consistent ↔ Covers m.cells m.selected := by
  constructor
  · exact fun h => ⟨fun hvalid => mem_pointsOf.mp (h.start hvalid),
      fun p hp hsel => h.contains p.1 (mem_pointsOf.mpr ⟨p.2, hp, hsel⟩)⟩
  · intro h
    have hcontains : ∀ i ∈ m.points, m.selected.contains i = true := by
      intro i hi
      obtain ⟨c, hmem, hsel⟩ := mem_pointsOf.mp hi
      exact h.contains _ hmem hsel
    have hstart : m.selected.isValid = true → m.selected.start ∈ m.points :=
      fun hvalid => mem_pointsOf.mpr (h.start_selected hvalid)
    refine ⟨⟨fun hvalid => List.ne_nil_of_mem (hstart hvalid), fun hne => ?_⟩, hstart, hcontains⟩
    have hin := (Range.contains_iff _ _).mp (hcontains _ (List.head_mem hne))
    exact (Range.isValid_iff _).mpr (Nat.le_trans hin.1 hin.2)

variable (getVariation : S.StaticVariation → S.StaticVariation)

/-- Selecting is as in a map with its invariant. -/
theorem Consistent.select (h : m.Consistent) (range : Range) :
    (m.select getVariation range).Consistent := by
  have hcovers := (StaticDataMap.select ⟨m.cells, m.selected, m.sorted,
    consistent_iff_covers.mp h⟩ range getVariation).1.covers
  rw [consistent_iff_covers]
  unfold IteratedMap.select
  unfold StaticDataMap.select at hcovers
  dsimp only at hcovers ⊢
  split_ifs at hcovers ⊢ <;> exact hcovers

theorem Consistent.selectAll (h : m.Consistent) : (m.selectAll getVariation).Consistent := by
  have hcovers := (StaticDataMap.selectAll ⟨m.cells, m.selected, m.sorted,
    consistent_iff_covers.mp h⟩ getVariation).1.covers
  rw [consistent_iff_covers]
  unfold IteratedMap.selectAll
  unfold StaticDataMap.selectAll at hcovers
  split_ifs at hcovers ⊢ <;> exact hcovers

theorem Consistent.clearSelection (h : m.Consistent) : m.clearSelection.Consistent := by
  obtain ⟨m', hiterate, hm', -⟩ := iterate_spec h m.length_points_le
  rw [IteratedMap.clearSelection, h.begin_eq, hiterate]
  exact hm'.of_eq rfl rfl

theorem consistent_ofConfig (config : List (Nat × PointConfig S)) :
    (ofConfig config).Consistent := by
  have hall : (ofConfig config).points = [] ∧ (ofConfig config).selected = .invalid := by
    refine List.foldlRecOn (motive := fun m : IteratedMap S => m.points = [] ∧
      m.selected = .invalid) _ _ ⟨rfl, rfl⟩ ?_
    rintro m ⟨hnone, hinvalid⟩ p -
    have hsame : (m.insert p.1 (.ofConfig p.2)).points = m.points :=
      pointsOf_insertKey rfl (by change p.1 ∉ m.points; simp [hnone])
    exact ⟨hsame.trans hnone, hinvalid⟩
  exact ⟨by simp [hall, Range.invalid], by simp [hall, Range.invalid], by simp [hall]⟩

/-- **One call** keeps the range right exactly if it is in order. -/
theorem consistent_step_iff (h : m.Consistent) (call : Call S) :
    (m.step call).Consistent ↔ m.InOrder call := by
  -- calls that change cells but no selection
  have hmap : ∀ f : Nat → StaticDataCell S → StaticDataCell S,
      (∀ i c, (f i c).selection.selected = c.selection.selected) → (m.mapCells f).Consistent :=
    fun f hf => h.of_eq (pointsOf_mapValues hf) rfl
  cases call with
  | increment index =>
    simp only [step, InOrder]
    split
    · rename_i hmem
      simp [consistent_increment_iff h, hmem]
    · rename_i hmem
      simp [h, hmem]
  | add value index config =>
    refine iff_of_true ?_ trivial
    change (m.add value index config).Consistent
    unfold add
    split
    · exact h
    · rename_i hnone
      refine h.of_eq (pointsOf_insertKey rfl fun hmem => hnone ?_) rfl
      obtain ⟨c, hc, -⟩ := mem_pointsOf.mp hmem
      simp [m.sorted.lookup_of_mem hc]
  | update | updateTimeAndInterval =>
    exact iff_of_true (hmap _ fun i c => by split <;> rfl) trivial
  | modify setFlags start stop flags =>
    refine iff_of_true ?_ trivial
    change (m.modify setFlags start stop flags).Consistent
    unfold modify
    split
    · exact h
    · exact hmap _ fun i c => by split <;> rfl
  | selectAll getVariation => exact iff_of_true (h.selectAll getVariation) trivial
  | select range getVariation => exact iff_of_true (h.select getVariation range) trivial
  | clearSelection => exact iff_of_true h.clearSelection trivial
  | begin => exact iff_of_true (h.of_eq rfl rfl) trivial

/-- **The selected range** is valid exactly if a point is selected, starts at a selected point and
    contains all of them, and an iteration visits exactly them, in every state of precisely the
    runs in which an iterator is stepped only while no selected point lies before it. -/
theorem selection_consistent_iff (config : List (Nat × PointConfig S)) (calls : List (Call S)) :
    Always step (fun m => m.Consistent ∧ m.Iterates) (ofConfig config) calls ↔
      Along step InOrder (ofConfig config) calls := by
  refine always_iff_along ?_ ⟨consistent_ofConfig config, (consistent_ofConfig config).iterates⟩
  rintro m call ⟨h, -⟩
  rw [← consistent_step_iff h call]
  exact ⟨And.left, fun h' => ⟨h', h'.iterates⟩⟩

/-- A point is selected before an iterator, and the iterator goes on: nothing is left to iterate
    over, though the point is selected. -/
theorem select_before_iterator :
    let config : PointConfig BinarySpec := ⟨.Class1, .Group1Var2, .Group2Var1, ()⟩
    let m := run step (ofConfig [(3, config), (5, config)]) [.select ⟨5, 5⟩ id, .begin,
      .select ⟨3, 3⟩ id, .increment 5]
    m.points = [3] ∧ m.selected.isValid = false ∧ m.begin? = none ∧ ¬m.Consistent := by
  refine ⟨rfl, rfl, rfl, fun h => ?_⟩
  exact Bool.noConfusion (h.valid.mpr (List.cons_ne_nil 3 []))

end IteratedMap

end OpenDnp3.Outstation
