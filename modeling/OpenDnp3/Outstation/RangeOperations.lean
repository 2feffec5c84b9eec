import OpenDnp3.Outstation.OContext

/-!
# Operations on a range of points

Two operations of the database work on all the points of a range: `modify` sets their flags
for the application, and an ASSIGN_CLASS request moves them to another class.  The indices of
a map are sparse, so that a range names indices which have no point.  Both operations change
exactly the points that are there; what they report about it is computed from the position of
other points in the map, and is right only for some maps.
-/

namespace OpenDnp3.Outstation

open App Lib

/-! ## Setting flags -/

/-- A type of measurements with a flags byte: how to read it, how to write it, and all the
    rest of the measurement, which writing it does not touch. -/
structure FlagsField (M : Type) where
  Rest : Type
  flags : M → UInt8
  rest : M → Rest
  setFlags : M → UInt8 → M
  flags_setFlags : ∀ meas byte, flags (setFlags meas byte) = byte
  rest_setFlags : ∀ meas byte, rest (setFlags meas byte) = rest meas

/-- The flags of the typed measurements: the rest is the value and the time. -/
def FlagsField.typed (T : Type) : FlagsField (TypedMeasurement T) where
  Rest := T × DNPTime
  flags := TypedMeasurement.flags
  rest meas := (meas.value, meas.time)
  setFlags := TypedMeasurement.setFlags
  flags_setFlags _ _ := rfl
  rest_setFlags _ _ := rfl

namespace StaticDataMap

variable {S : Spec}

variable (m : StaticDataMap S) (clazz : PointClass)

/-- The events of updating one point in the mode `Detect`. -/
theorem events_update {p : Nat × StaticDataCell S} (hp : p ∈ m.cells) (new_value : S.Meas)
    (mode : EventMode) :
    (m.update new_value p.1 mode).2.1 = p.2.updateEvent p.1 new_value mode := by
  have hfind : m.find p.1 = some p.2 := m.mem_cells_iff.mp hp
  simp only [update, hfind]

/-- The loop of `modify`, over points that are still as they were when it began: each is
    updated once, and the events follow each other. -/
theorem modify_loop (setFlags : S.Meas → UInt8 → S.Meas) (flags : UInt8)
    (points : List (Nat × StaticDataCell S)) (hsorted : KeySorted points)
    (acc : StaticDataMap S × List (Event S))
    (hpoints : ∀ p ∈ points, acc.1.find p.1 = some p.2) :
    let result := points.foldl (fun (acc : StaticDataMap S × List (Event S)) p =>
      let (m', events, _) := acc.1.update (setFlags p.2.value flags) p.1 .Detect
      (m', acc.2 ++ events)) acc
    (∀ i, result.1.find i = (acc.1.find i).map fun c =>
      if i ∈ points.map Prod.fst then c.update (setFlags c.value flags) .Detect else c) ∧
    result.2 = acc.2 ++ points.flatMap fun p =>
      p.2.updateEvent p.1 (setFlags p.2.value flags) .Detect := by
  induction points generalizing acc with
  | nil => simp
  | cons p points ih =>
    obtain ⟨hfirst, hrest⟩ := List.pairwise_cons.mp hsorted
    have hp : acc.1.find p.1 = some p.2 := hpoints p List.mem_cons_self
    -- the later points have other indices, so that the update leaves them as they are
    have hlater : ∀ q ∈ points,
        (acc.1.update (setFlags p.2.value flags) p.1 .Detect).1.find q.1 = some q.2 := by
      intro q hq
      rw [find_update, hpoints q (List.mem_cons_of_mem _ hq), Option.map_some,
        if_neg (Nat.ne_of_gt (hfirst q hq))]
    obtain ⟨hfind, hevents⟩ := ih hrest
      ((acc.1.update (setFlags p.2.value flags) p.1 .Detect).1,
        acc.2 ++ (acc.1.update (setFlags p.2.value flags) p.1 .Detect).2.1) hlater
    refine ⟨?_, ?_⟩
    · intro i
      rw [List.foldl_cons]
      refine (hfind i).trans ?_
      rw [find_update, Option.map_map]
      by_cases hi : i = p.1
      · -- no later point has the index of this one
        have hnot : p.1 ∉ points.map Prod.fst := by
          intro hmem
          obtain ⟨q, hq, heq⟩ := List.mem_map.mp hmem
          exact Nat.ne_of_gt (hfirst q hq) heq
        subst hi
        simp [hp, hnot]
      · have hsame : (i ∈ (p :: points).map Prod.fst) = (i ∈ points.map Prod.fst) := by
          simp [hi]
        simp only [hi, hsame, if_false, Function.comp_def]
    · rw [List.foldl_cons]
      refine hevents.trans ?_
      simp [update, hp]

/-- The points that the loop of `modify` visits are those of the range. -/
theorem visited_eq (start stop : Nat) :
    ((m.cells.filter fun p => start ≤ p.1).takeWhile fun p => p.1 ≤ stop) =
      m.cells.filter fun p => (⟨start, stop⟩ : Range).contains p.1 := by
  rw [KeySorted.takeWhile_le (m.sorted.filter _), List.filter_filter]
  apply List.filter_congr
  intro p _
  simp [Range.contains, Bool.and_comm]

/-- **What `modify` is for**: it sets the flags of the points of the range and nothing else,
    hands on the events of updating these points, and says whether there was one. -/
structure ModifiesRange (F : FlagsField S.Meas) (m : StaticDataMap S) (start stop : Nat)
    (flags : UInt8) (result : StaticDataMap S × List (Event S) × Bool) : Prop where
  /-- A point of the range has the new flags, and is otherwise as it was. -/
  inside : ∀ i c, m.find i = some c → start ≤ i → i ≤ stop →
    ∃ c', result.1.find i = some c' ∧ F.flags c'.value = flags ∧
      F.rest c'.value = F.rest c.value ∧ c'.config = c.config ∧ c'.selection = c.selection
  /-- Every other index has the point that it had, or still none. -/
  outside : ∀ i, (m.find i = none ∨ i < start ∨ stop < i) → result.1.find i = m.find i
  /-- The events are those of the points' own updates, one after the other. -/
  events : result.2.1 = (m.cells.filter fun p => (⟨start, stop⟩ : Range).contains p.1).flatMap
    fun p => (m.update (F.setFlags p.2.value flags) p.1 .Detect).2.1
  /-- The result says whether there is a point to change. -/
  returns : result.2.2 = true ↔
    start ≤ stop ∧ ∃ i c, m.find i = some c ∧ start ≤ i ∧ i ≤ stop

/-- What `modify` really does, for a range that is not empty. -/
theorem modify_eq (F : FlagsField S.Meas) (m : StaticDataMap S) {start stop : Nat}
    (hle : start ≤ stop) (flags : UInt8) :
    (∀ i, (m.modify F.setFlags start stop flags).1.find i = (m.find i).map fun c =>
      if start ≤ i ∧ i ≤ stop then c.update (F.setFlags c.value flags) .Detect else c) ∧
    (m.modify F.setFlags start stop flags).2.1 =
      (m.cells.filter fun p => (⟨start, stop⟩ : Range).contains p.1).flatMap
        (fun p => (m.update (F.setFlags p.2.value flags) p.1 .Detect).2.1) ∧
    ((m.modify F.setFlags start stop flags).2.2 = true ↔
      ∀ i c, m.find i = some c → i ≤ stop) := by
  -- the loop visits the points of the range in order
  have hfound : ∀ p ∈ m.cells.filter (fun p => (⟨start, stop⟩ : Range).contains p.1),
      m.find p.1 = some p.2 := fun p hp => m.mem_cells_iff.mp (List.mem_filter.mp hp).1
  obtain ⟨hfind, hevents⟩ := modify_loop F.setFlags flags _ (m.sorted.filter _) (m, []) hfound
  simp only [modify, if_neg (Nat.not_lt.mpr hle), visited_eq]
  refine ⟨?_, ?_, ?_⟩
  · intro i
    refine (hfind i).trans ?_
    cases hi : m.find i with
    | none => rfl
    | some c =>
      have hkeys : i ∈ (m.cells.filter fun p =>
          (⟨start, stop⟩ : Range).contains p.1).map Prod.fst ↔ start ≤ i ∧ i ≤ stop := by
        rw [List.mem_map]
        constructor
        · rintro ⟨p, hp, rfl⟩
          simpa using (List.mem_filter.mp hp).2
        · intro hin
          exact ⟨(i, c), List.mem_filter.mpr ⟨m.mem_cells_iff.mpr hi, by simpa using hin⟩, rfl⟩
      simp only [hkeys]
  · refine hevents.trans ?_
    rw [List.nil_append]
    refine List.flatMap_congr fun p hp => ?_
    exact (m.events_update (List.mem_filter.mp hp).1 _ _).symm
  · -- the loop ends by itself when no point from `start` on is behind `stop`
    rw [← visited_eq, beq_iff_eq, KeySorted.takeWhile_le (m.sorted.filter _),
      List.length_filter_eq_length_iff]
    constructor
    · intro h i c hi
      by_cases hstart : start ≤ i
      · have hmem : (i, c) ∈ m.cells.filter fun p => start ≤ p.1 :=
          List.mem_filter.mpr ⟨m.mem_cells_iff.mpr hi, by simpa using hstart⟩
        simpa using h (i, c) hmem
      · omega
    · intro h p hp
      have hi : m.find p.1 = some p.2 := m.mem_cells_iff.mp (List.mem_filter.mp hp).1
      simpa using h p.1 p.2 hi

/-- **What `modify` says is right exactly when**, for a range that is not empty, the map has a
    point in the range or else one behind it, and not both.  The rest of its contract holds for
    every map: it sets the flags of the points in the range, and nothing else. -/
theorem modifiesRange_iff (F : FlagsField S.Meas) (m : StaticDataMap S) (start stop : Nat)
    (flags : UInt8) :
    ModifiesRange F m start stop flags (m.modify F.setFlags start stop flags) ↔
      (start ≤ stop →
        ((∃ i c, m.find i = some c ∧ start ≤ i ∧ i ≤ stop) ↔
          ∀ i c, m.find i = some c → i ≤ stop)) := by
  by_cases hle : start ≤ stop
  · obtain ⟨hfind, hevents, hreturns⟩ := m.modify_eq F hle flags
    constructor
    · intro h _
      -- the returned value is what the loop's end condition says
      rw [← hreturns, h.returns]
      exact ⟨fun hex => ⟨hle, hex⟩, fun hex => hex.2⟩
    · intro h
      refine ⟨?_, ?_, hevents, ?_⟩
      · intro i c hi hstart hstop
        refine ⟨c.update (F.setFlags c.value flags) .Detect, ?_, ?_, ?_, rfl, rfl⟩
        · rw [hfind, hi, Option.map_some, if_pos ⟨hstart, hstop⟩]
        · exact F.flags_setFlags c.value flags
        · exact F.rest_setFlags c.value flags
      · intro i hout
        rw [hfind]
        rcases hout with hnone | hout
        · rw [hnone]
          rfl
        · have hnot : ¬ (start ≤ i ∧ i ≤ stop) := by omega
          simp [hnot]
      · rw [hreturns, ← h hle]
        exact ⟨fun hex => ⟨hle, hex⟩, fun hex => hex.2⟩
  · -- an empty range: nothing is changed, and the result is `false`
    have hempty : m.modify F.setFlags start stop flags = (m, [], false) :=
      if_pos (Nat.lt_of_not_le hle)
    constructor
    · intro _ hle'
      exact absurd hle' hle
    · intro _
      rw [hempty]
      refine ⟨?_, fun _ _ => rfl, ?_, ?_⟩
      · intro i c _ hstart hstop
        exact absurd (Nat.le_trans hstart hstop) hle
      · have hnil : (m.cells.filter fun p => (⟨start, stop⟩ : Range).contains p.1) = [] := by
          rw [List.filter_eq_nil_iff]
          intro p _ hin
          rw [Range.contains_iff] at hin
          exact hle (Nat.le_trans hin.1 hin.2)
        rw [hnil]
        rfl
      · constructor
        · intro hfalse
          cases hfalse
        · rintro ⟨hle', -⟩
          exact absurd hle' hle

/-- Setting the flags of point 0 of the points 0 and 1 does set them and says it did not. -/
theorem modify_before_last :
    let m := (Sample.database 2).binary_input
    let result := m.modify TypedMeasurement.setFlags 0 0 0x01
    (result.1.find 0).map (fun c => c.value.flags) = some 0x01 ∧
      (m.find 0).map (fun c => c.value.flags) = some 0x02 ∧ result.2.2 = false ∧
      ¬ ModifiesRange (FlagsField.typed Bool) m 0 0 0x01 result := by
  refine ⟨by decide, by decide, by decide, ?_⟩
  intro h
  have hfound : ∃ c, (Sample.database 2).binary_input.find 0 = some c := ⟨_, rfl⟩
  obtain ⟨c, hc⟩ := hfound
  have htrue := h.returns.mpr ⟨Nat.le_refl 0, 0, c, hc, Nat.le_refl 0, Nat.le_refl 0⟩
  exact absurd htrue (by decide)

theorem stop_spanOf {points : List (Nat × StaticDataCell S)} (hne : points ≠ []) :
    ∃ p ∈ points, (spanOf points).stop = p.1 := by
  refine ⟨points.getLast hne, List.getLast_mem hne, ?_⟩
  rw [spanOf, dif_neg hne]

/-- Changing the cells does not move the first and the last point. -/
theorem getFullRange_mapCells (f : Nat → StaticDataCell S → StaticDataCell S)
    (hf : ∀ i c, (f i c).selection.selected = c.selection.selected) :
    (m.mapCells f hf).getFullRange = m.getFullRange := by
  simp only [getFullRange, spanOf, mapCells, mapValues]
  by_cases hnil : m.cells = []
  · simp [hnil]
  · simp [hnil, List.head_map, List.getLast_map]

/-- The index has a point, or lies between two indices that have one. -/
def Between (m : StaticDataMap S) (j : Nat) : Prop :=
  ∃ i k, i ≤ j ∧ j ≤ k ∧ (m.find i).isSome ∧ (m.find k).isSome

/-- The full range is what lies between points. -/
theorem contains_getFullRange (j : Nat) : m.getFullRange.contains j = true ↔ m.Between j := by
  constructor
  · intro hin
    rw [Range.contains_iff] at hin
    by_cases hnil : m.cells = []
    · simp only [getFullRange, spanOf, hnil, dif_pos, Range.invalid] at hin
      omega
    · obtain ⟨first, hfirst, hstart⟩ := start_spanOf hnil
      obtain ⟨last, hlast, hstop⟩ := stop_spanOf hnil
      refine ⟨first.1, last.1, ?_, ?_, ?_, ?_⟩
      · exact hstart ▸ hin.1
      · exact hstop ▸ hin.2
      · rw [m.mem_cells_iff.mp hfirst]
        rfl
      · rw [m.mem_cells_iff.mp hlast]
        rfl
  · rintro ⟨i, k, hij, hjk, hi, hk⟩
    obtain ⟨ci, hci⟩ := Option.isSome_iff_exists.mp hi
    obtain ⟨ck, hck⟩ := Option.isSome_iff_exists.mp hk
    have hfirst := mem_spanOf m.sorted (m.mem_cells_iff.mpr hci)
    have hlast := mem_spanOf m.sorted (m.mem_cells_iff.mpr hck)
    rw [Range.contains_iff] at hfirst hlast ⊢
    exact ⟨Nat.le_trans hfirst.1 hij, Nat.le_trans hjk hlast.2⟩

theorem find_assignClass (i : Nat) :
    (m.assignClass clazz).1.find i = (m.find i).map fun c => c.assignClass clazz :=
  lookup_mapValues (fun _ c => StaticDataCell.assignClass clazz c) m.cells i

theorem find_assignClassRange (range : Range) (i : Nat) :
    (m.assignClassRange clazz range).1.find i =
      (m.find i).map fun c => if range.contains i then c.assignClass clazz else c :=
  lookup_mapValues (fun i c => if range.contains i then StaticDataCell.assignClass clazz c else c)
    m.cells i

theorem getFullRange_assignClass : (m.assignClass clazz).1.getFullRange = m.getFullRange :=
  m.getFullRange_mapCells (fun _ c => StaticDataCell.assignClass clazz c) fun _ _ => rfl

theorem getFullRange_assignClassRange (range : Range) :
    (m.assignClassRange clazz range).1.getFullRange = m.getFullRange :=
  m.getFullRange_mapCells
    (fun i c => if range.contains i then StaticDataCell.assignClass clazz c else c) fun i c => by
      split <;> rfl

end StaticDataMap

/-! ## The maps of the database -/

namespace Database

/-- The measurement type that a type of an assignment stands for. -/
def AssignClassType.spec : AssignClassType → Spec
  | .BinaryInput => BinarySpec
  | .DoubleBinaryInput => DoubleBitBinarySpec
  | .Counter => CounterSpec
  | .FrozenCounter => FrozenCounterSpec
  | .AnalogInput => AnalogSpec
  | .BinaryOutputStatus => BinaryOutputStatusSpec
  | .AnalogOutputStatus => AnalogOutputStatusSpec

def mapOf (db : Database) : (type : AssignClassType) → StaticDataMap type.spec
  | .BinaryInput => db.binary_input
  | .DoubleBinaryInput => db.double_binary
  | .Counter => db.counter
  | .FrozenCounter => db.frozen_counter
  | .AnalogInput => db.analog_input
  | .BinaryOutputStatus => db.binary_output_status
  | .AnalogOutputStatus => db.analog_output_status

variable (db : Database) (assign : Assigner) (type : AssignClassType)

theorem range_assignWith : (db.assignWith assign type).2 = (assign _ (db.mapOf type)).2 := by
  cases type <;> rfl

/-- An assignment works on the map of its type and leaves the others as they are. -/
theorem mapOf_assignWith (other : AssignClassType) :
    (db.assignWith assign type).1.mapOf other =
      if other = type then (assign _ (db.mapOf other)).1 else db.mapOf other := by
  cases type <;> cases other <;> rfl

/-- The parts of the database that no class is assigned in. -/
def Unassignable (db db' : Database) : Prop :=
  db'.time_and_interval = db.time_and_interval ∧ db'.octet_string = db.octet_string ∧
    db'.allowed_class_zero_types = db.allowed_class_zero_types

theorem unassignable_assignWith : db.Unassignable (db.assignWith assign type).1 := by
  cases type <;> exact ⟨rfl, rfl, rfl⟩

end Database

/-! ## Assigning classes -/

/-- What a pair of headers asks for: put the points of a type into a class, either all of them
    or those of a range.  A range is not empty: the parser refuses such a header. -/
structure Assignment where
  type : Database.AssignClassType
  clazz : PointClass
  range : Option Range
  isValid : ∀ r, range = some r → r.isValid = true

namespace Assignment

/-- Does the point header name this index of the type? -/
def names (a : Assignment) (i : Nat) : Bool :=
  match a.range with
  | none => true
  | some r => r.contains i

/-- The class header and the point header of an assignment. -/
def IsPair (a : Assignment) : ParsedHeader → ParsedHeader → Prop
  | .allObjects record, point =>
    AssignRun.pointClass record.enumeration = some a.clazz ∧
      match a.range, point with
      | none, .allObjects record =>
        AssignRun.assignClassType record.enumeration = some a.type
      | some r, .range record range =>
        AssignRun.assignClassType record.enumeration = some a.type ∧ range = r
      | _, _ => False
  | _, _ => False

/-- The headers of a request made of such pairs. -/
inductive Headers : List Assignment → List ParsedHeader → Prop
  | nil : Headers [] []
  | cons {a : Assignment} {clazz point : ParsedHeader} {rest : List Assignment}
      {headers : List ParsedHeader} (pair : a.IsPair clazz point) (tail : Headers rest headers) :
      Headers (a :: rest) (clazz :: point :: headers)

/-- An index that the pair names has no point; for a pair that names all points of the type,
    there is none at all. -/
def Missing (a : Assignment) (db : Database) : Prop :=
  match a.range with
  | none => ∀ i, (db.mapOf a.type).find i = none
  | some r => ∃ i, r.contains i = true ∧ (db.mapOf a.type).find i = none

/-- The cell of a type at an index after the pair. -/
def assignCell (a : Assignment) (type : Database.AssignClassType) (i : Nat)
    (c : StaticDataCell type.spec) : StaticDataCell type.spec :=
  if type = a.type ∧ a.names i = true then c.assignClass a.clazz else c

/-- The cell after the pairs of a request, one after the other. -/
def assignCells (assignments : List Assignment) (type : Database.AssignClassType) (i : Nat)
    (c : StaticDataCell type.spec) : StaticDataCell type.spec :=
  assignments.foldl (fun c a => a.assignCell type i c) c

/-- No index that the pair names is missing between two points of the type. -/
def NoGap (a : Assignment) (db : Database) : Prop :=
  ∀ i, a.names i = true → (db.mapOf a.type).Between i → ((db.mapOf a.type).find i).isSome

/-! ### What one pair does -/

/-- The range that the source computes from the requested one and the full range. -/
def reported (a : Assignment) (db : Database) : Range :=
  match a.range with
  | none => (db.mapOf a.type).getFullRange
  | some r => r.intersection (db.mapOf a.type).getFullRange

/-- The database after the pair. -/
def assign (a : Assignment) (db : Database) : Database :=
  match a.range with
  | none => (db.assignClassToAll a.type a.clazz).1
  | some r => (db.assignClassToRange a.type a.clazz r).1

/-- Is the pair an error? -/
def fails (a : Assignment) (db : Database) : Bool :=
  match a.range with
  | none => !(a.reported db).isValid
  | some r => !decide (a.reported db = r)

/-- What the application is told about the pair. -/
def notes (a : Assignment) (db : Database) : List Action :=
  if (a.reported db).isValid then [.recordClassAssignment a.type a.clazz (a.reported db)] else []

/-- The indication for requests that do or do not fail. -/
def errorOf (failed : Bool) : IINField := if failed then IINBit.PARAM_ERROR.mask else .empty

theorem errorOf_or (first second : Bool) :
    (errorOf first).or (errorOf second) = errorOf (first || second) := by
  cases first <;> cases second <;> decide

theorem ite_errorOf (p : Prop) [Decidable p] :
    (if p then .empty else IINBit.PARAM_ERROR.mask) = errorOf (!decide p) := by
  by_cases hp : p <;> simp [errorOf, hp]

theorem isSet_errorOf (failed : Bool) : (errorOf failed).isSet .PARAM_ERROR = failed := by
  cases failed <;> decide

variable (a : Assignment) (db : Database)

theorem contains_reported (i : Nat) :
    (a.reported db).contains i = true ↔ a.names i = true ∧ (db.mapOf a.type).Between i := by
  rw [← StaticDataMap.contains_getFullRange]
  unfold reported names
  cases a.range with
  | none => simp
  | some r =>
    simp only [Range.contains_iff, Range.intersection]
    omega

theorem station_assigned (run : AssignRun) (type : Database.AssignClassType) (db : Database)
    (actual : Range) :
    (run.assigned type db actual).station = (run.station.setDatabase db).record
      (if actual.isValid then [.recordClassAssignment type run.clazz actual] else []) := by
  by_cases hvalid : actual.isValid = true
  · simp only [AssignRun.assigned, hvalid, if_true]
  · simp [AssignRun.assigned, hvalid, Station.record]

/-- **The step of one pair**: the class header is remembered and the point header uses it. -/
theorem onHeaders_pair {a : Assignment} {clazz point : ParsedHeader} (h : a.IsPair clazz point)
    (run : HandlerRun AssignRun) (hclass : run.state.classHeader = none) :
    let after := onHeader assignClassHandler (onHeader assignClassHandler run clazz) point
    after.state.classHeader = none ∧
      after.state.station = (run.state.station.setDatabase (a.assign run.state.station.database)
        ).record (a.notes run.state.station.database) ∧
      after.errors = run.errors.or (errorOf (a.fails run.state.station.database)) := by
  obtain ⟨⟨station, classHeader, previous⟩, errors, n⟩ := run
  obtain rfl : classHeader = none := hclass
  obtain ⟨type, cls, range, hvalid⟩ := a
  cases clazz with
  | allObjects record =>
    obtain ⟨hclazz, hpoint⟩ := h
    -- the class header
    have hfirst : onHeader assignClassHandler ⟨⟨station, none, previous⟩, errors, n⟩
        (.allObjects record) = ⟨⟨station, some n, cls⟩, errors, n + 1⟩ := by
      simp [onHeader, assignClassHandler, AssignRun.isExpectingAssignment, AssignRun.recordClass,
        hclazz, IINField.or, IINField.empty]
    simp only [hfirst]
    have hexpecting : AssignRun.isExpectingAssignment ⟨station, some n, cls⟩ (n + 1) = true := by
      simp [AssignRun.isExpectingAssignment]
    -- the point header
    cases range with
    | none =>
      cases point with
      | allObjects record' =>
        have htype : AssignRun.assignClassType record'.enumeration = some type := hpoint
        simp only [onHeader, assignClassHandler, hexpecting, htype, if_true,
          AssignRun.processAssignAll, station_assigned, assign, notes, fails, reported,
          Database.assignClassToAll, Database.range_assignWith, StaticDataMap.assignClass]
        refine ⟨rfl, rfl, ?_⟩
        rw [ite_errorOf, Bool.decide_eq_true]
      | _ => cases hpoint
    | some r =>
      cases point with
      | range record' r' =>
        obtain ⟨htype, rfl⟩ : AssignRun.assignClassType record'.enumeration = some type ∧ r' = r :=
          hpoint
        simp only [onHeader, assignClassHandler, hexpecting, htype, if_true,
          AssignRun.processAssignRange, station_assigned, assign, notes, fails, reported,
          Database.assignClassToRange, Database.range_assignWith, StaticDataMap.assignClassRange]
        exact ⟨rfl, rfl, congrArg _ (ite_errorOf _)⟩
      | _ => cases hpoint
  | _ => cases h

/-- A pair changes the class of the points it names. -/
theorem find_assign (type : Database.AssignClassType) (i : Nat) :
    ((a.assign db).mapOf type).find i = ((db.mapOf type).find i).map (a.assignCell type i) := by
  obtain ⟨atype, cls, range, hvalid⟩ := a
  by_cases htype : type = atype
  · subst htype
    cases range with
    | none =>
      simp only [assign, Database.assignClassToAll, Database.mapOf_assignWith, if_true]
      refine (StaticDataMap.find_assignClass _ cls i).trans (Option.map_congr ?_)
      intro c _
      simp [assignCell, names]
    | some r =>
      simp only [assign, Database.assignClassToRange, Database.mapOf_assignWith, if_true]
      refine (StaticDataMap.find_assignClassRange _ cls r i).trans (Option.map_congr ?_)
      intro c _
      simp [assignCell, names]
  · -- another type: its map is not touched
    have hcell : assignCell ⟨atype, cls, range, hvalid⟩ type i = id := by
      funext c
      simp [assignCell, htype]
    rw [hcell, Option.map_id]
    cases range <;>
      simp only [assign, Database.assignClassToAll, Database.assignClassToRange,
        Database.mapOf_assignWith, htype, if_false, id]

theorem unassignable_assign : db.Unassignable (a.assign db) := by
  unfold assign
  split <;> exact db.unassignable_assignWith _ _

/-! ### What the pairs of a request do -/

theorem getFullRange_assign (type : Database.AssignClassType) :
    ((a.assign db).mapOf type).getFullRange = (db.mapOf type).getFullRange := by
  unfold assign
  split
  · simp only [Database.assignClassToAll, Database.mapOf_assignWith]
    split
    · exact StaticDataMap.getFullRange_assignClass _ _
    · rfl
  · simp only [Database.assignClassToRange, Database.mapOf_assignWith]
    split
    · exact StaticDataMap.getFullRange_assignClassRange _ _ _
    · rfl

/-- So a pair reports the same before and after another one. -/
theorem reported_assign (b : Assignment) (db : Database) :
    b.reported (a.assign db) = b.reported db := by
  simp only [reported, getFullRange_assign]

/-- **The run of a request**: the pairs are carried out in order, the application is told about
    each one, and the request fails when one of them does. -/
theorem onHeaders_pairs {assignments : List Assignment} {headers : List ParsedHeader}
    (h : Headers assignments headers) (run : HandlerRun AssignRun) {failed : Bool}
    (hclass : run.state.classHeader = none) (herrors : run.errors = errorOf failed) :
    let after := headers.foldl (onHeader assignClassHandler) run
    after.state.station = (run.state.station.setDatabase
        (assignments.foldl (fun db a => a.assign db) run.state.station.database)).record
        (assignments.flatMap fun a => a.notes run.state.station.database) ∧
      after.errors = errorOf (failed || assignments.any fun a => a.fails run.state.station.database)
      := by
  induction h generalizing run failed with
  | nil => simp [herrors, Station.record, Station.setDatabase]
  | cons pair tail ih =>
    rename_i a clazz point rest headers
    obtain ⟨hclass', hstation, herrors'⟩ := onHeaders_pair pair run hclass
    rw [herrors, errorOf_or] at herrors'
    obtain ⟨hst, herr⟩ := ih _ hclass' herrors'
    -- the next pair works on the points that this one has assigned
    have hdb : (onHeader assignClassHandler (onHeader assignClassHandler run clazz) point
        ).state.station.database = a.assign run.state.station.database := by
      rw [hstation]
      rfl
    rw [List.foldl_cons, List.foldl_cons]
    refine ⟨?_, ?_⟩
    · refine hst.trans ?_
      rw [hdb, hstation]
      simp only [notes, reported_assign, List.foldl_cons, List.flatMap_cons, Station.record,
        Station.setDatabase, List.append_assoc]
    · refine herr.trans ?_
      rw [hdb]
      simp only [fails, reported_assign, List.any_cons, Bool.or_assoc]

/-- The points after the pairs. -/
theorem find_assigns (assignments : List Assignment) (db : Database)
    (type : Database.AssignClassType) (i : Nat) :
    ((assignments.foldl (fun db a => a.assign db) db).mapOf type).find i =
      ((db.mapOf type).find i).map (assignCells assignments type i) := by
  induction assignments generalizing db with
  | nil => exact Option.map_id'.symm
  | cons a rest ih =>
    rw [List.foldl_cons, ih, find_assign, Option.map_map]
    rfl

theorem unassignable_assigns (assignments : List Assignment) (db : Database) :
    db.Unassignable (assignments.foldl (fun db a => a.assign db) db) := by
  induction assignments generalizing db with
  | nil => exact ⟨rfl, rfl, rfl⟩
  | cons a rest ih =>
    obtain ⟨htime, hoctets, hclass0⟩ := a.unassignable_assign db
    obtain ⟨htime', hoctets', hclass0'⟩ := ih (a.assign db)
    exact ⟨htime'.trans htime, hoctets'.trans hoctets, hclass0'.trans hclass0⟩

/-- Without a gap, a pair fails exactly when a point is missing. -/
theorem fails_iff_missing {a : Assignment} {db : Database} (h : a.NoGap db) :
    a.fails db = true ↔ a.Missing db := by
  obtain ⟨type, cls, range, hvalid⟩ := a
  cases range with
  | none =>
    have hreported := contains_reported ⟨type, cls, none, hvalid⟩ db
    simp only [fails, Missing, Bool.not_eq_true', ← Bool.not_eq_true, Range.isValid_iff]
    constructor
    · intro hempty i
      -- a point would make the full range valid
      by_contra hsome
      have hin := (hreported i).mpr ⟨rfl, i, i, Nat.le_refl i, Nat.le_refl i,
        Option.isSome_iff_ne_none.mpr hsome, Option.isSome_iff_ne_none.mpr hsome⟩
      rw [Range.contains_iff] at hin
      exact hempty (Nat.le_trans hin.1 hin.2)
    · intro hnone hle
      have hin := (hreported _).mp ((Range.contains_iff _ _).mpr ⟨Nat.le_refl _, hle⟩)
      obtain ⟨i, -, -, -, hsome, -⟩ := hin.2
      rw [hnone i] at hsome
      cases hsome
  | some r =>
    have hreported := contains_reported ⟨type, cls, some r, hvalid⟩ db
    have hr : r.start ≤ r.stop := (Range.isValid_iff r).mp (hvalid r rfl)
    simp only [fails, Missing, Bool.not_eq_true', decide_eq_false_iff_not]
    constructor
    · intro hne
      by_contra hall
      -- with all its points there, the ends of the range lie in the full range
      have hexists : ∀ i, r.contains i = true →
          (reported ⟨type, cls, some r, hvalid⟩ db).contains i = true := by
        intro i hi
        have hsome : ((db.mapOf type).find i).isSome = true := by
          rw [Option.isSome_iff_ne_none]
          exact fun hnone => hall ⟨i, hi, hnone⟩
        exact (hreported i).mpr ⟨hi, i, i, Nat.le_refl i, Nat.le_refl i, hsome, hsome⟩
      have hstart := hexists r.start ((Range.contains_iff _ _).mpr ⟨Nat.le_refl _, hr⟩)
      have hstop := hexists r.stop ((Range.contains_iff _ _).mpr ⟨hr, Nat.le_refl _⟩)
      apply hne
      simp only [reported, Range.intersection, Range.contains_iff] at hstart hstop ⊢
      rw [Nat.max_eq_left (by omega), Nat.min_eq_left (by omega)]
    · rintro ⟨i, hi, hnone⟩ heq
      -- the missing index would be between two points
      have hin := (hreported i).mp (by rw [heq]; exact hi)
      have hsome := h i hin.1 hin.2
      rw [hnone] at hsome
      cases hsome

/-! ### The contract of a request -/

/-- **What an ASSIGN_CLASS request is for**: each pair changes the class of the points it names,
    the application is told about assigned points only, and a missing point is an error. -/
structure AssignsClasses (assignments : List Assignment) (st : Station)
    (result : Station × IINField) : Prop where
  /-- The class of a point is changed by exactly the pairs that name it, and nothing else of
      the point is. -/
  points : ∀ type i, (result.1.database.mapOf type).find i =
    ((st.database.mapOf type).find i).map (assignCells assignments type i)
  others : st.database.Unassignable result.1.database
  /-- Every range that is reported is one of a pair, and all of its indices have points. -/
  told : ∀ type clazz range,
    .recordClassAssignment type clazz range ∈ result.1.log.drop st.log.length →
    ∃ a ∈ assignments, a.type = type ∧ a.clazz = clazz ∧ ∀ i, range.contains i = true →
      a.names i = true ∧ ((st.database.mapOf type).find i).isSome
  error : result.2.isSet .PARAM_ERROR = true ↔ ∃ a ∈ assignments, a.Missing st.database

/-- **A request keeps the contract exactly when** no index that it names is missing between two
    points of its type. -/
theorem assignsClasses_iff {env : Env} (henv : env.supportsAssignClass = true)
    {objects : List UInt8} {headers : List ParsedHeader} {assignments : List Assignment}
    (hparse : parse .NoContents assignClassHandler.isAllowed objects = .ok headers)
    (hpairs : Headers assignments headers) (st : Station) :
    AssignsClasses assignments st (handleAssignClass env objects st) ↔
      ∀ a ∈ assignments, a.NoGap st.database := by
  obtain ⟨hstation, herrors⟩ := onHeaders_pairs hpairs ⟨⟨st, none, .Class0⟩, .empty, 0⟩
    rfl (show IINField.empty = errorOf false from rfl)
  have hresult : handleAssignClass env objects st =
      ((st.setDatabase (assignments.foldl (fun db a => a.assign db) st.database)).record
        (assignments.flatMap fun a => a.notes st.database),
        errorOf (assignments.any fun a => a.fails st.database)) := by
    unfold handleAssignClass handleObjects
    rw [if_pos henv, hparse]
    exact Prod.ext hstation herrors
  rw [hresult]
  have hlog : ((st.setDatabase (assignments.foldl (fun db a => a.assign db) st.database)).record
      (assignments.flatMap fun a => a.notes st.database)).log.drop st.log.length =
      assignments.flatMap fun a => a.notes st.database := by
    simp [Station.record, Station.setDatabase]
  constructor
  · intro h a ha i hnames hbetween
    -- the index is in the range that the pair reports
    have hin := (a.contains_reported st.database i).mpr ⟨hnames, hbetween⟩
    have hvalid : (a.reported st.database).isValid = true := by
      rw [Range.contains_iff] at hin
      exact (Range.isValid_iff _).mpr (Nat.le_trans hin.1 hin.2)
    have hnote : Action.recordClassAssignment a.type a.clazz (a.reported st.database) ∈
        assignments.flatMap fun a => a.notes st.database := by
      refine List.mem_flatMap.mpr ⟨a, ha, ?_⟩
      rw [notes, if_pos hvalid]
      exact List.mem_singleton_self _
    obtain ⟨_, _, _, _, hall⟩ := h.told a.type a.clazz _ (by rw [hlog]; exact hnote)
    exact (hall i hin).2
  · intro h
    refine ⟨find_assigns assignments st.database, unassignable_assigns assignments st.database,
      ?_, ?_⟩
    · intro type clazz range hmem
      rw [hlog] at hmem
      obtain ⟨a, ha, hnote⟩ := List.mem_flatMap.mp hmem
      unfold notes at hnote
      split at hnote
      · cases List.mem_singleton.mp hnote
        refine ⟨a, ha, rfl, rfl, ?_⟩
        intro i hi
        obtain ⟨hnames, hbetween⟩ := (a.contains_reported st.database i).mp hi
        exact ⟨hnames, h a ha i hnames hbetween⟩
      · cases hnote
    · rw [isSet_errorOf, List.any_eq_true]
      constructor
      · rintro ⟨a, ha, hfails⟩
        exact ⟨a, ha, (fails_iff_missing (h a ha)).mp hfails⟩
      · rintro ⟨a, ha, hmissing⟩
        exact ⟨a, ha, (fails_iff_missing (h a ha)).mpr hmissing⟩

/-- Class 2 for the binary inputs 0 to 2 and class 3 for all of them, of three. -/
theorem assignsClasses_dense :
    let st := (Sample.outstation 3 10 2048 false).station
    AssignsClasses [⟨.BinaryInput, .Class2, some ⟨0, 2⟩, by decide⟩,
        ⟨.BinaryInput, .Class3, none, by decide⟩] st
      (handleAssignClass (Sample.env 0)
        [60, 3, 0x06, 1, 0, 0x00, 0, 2, 60, 4, 0x06, 1, 0, 0x06] st) := by
  have hparse : parse .NoContents assignClassHandler.isAllowed
      [60, 3, 0x06, 1, 0, 0x00, 0, 2, 60, 4, 0x06, 1, 0, 0x06] =
      .ok [.allObjects ⟨⟨60, 3⟩, 60, 3, .ALL_OBJECTS, 0⟩,
        .range ⟨⟨1, 0⟩, 1, 0, .UINT8_START_STOP, 1⟩ ⟨0, 2⟩,
        .allObjects ⟨⟨60, 4⟩, 60, 4, .ALL_OBJECTS, 2⟩,
        .allObjects ⟨⟨1, 0⟩, 1, 0, .ALL_OBJECTS, 3⟩] := by decide +kernel
  refine (assignsClasses_iff rfl hparse ?_ _).mpr ?_
  · exact .cons ⟨rfl, rfl, rfl⟩ (.cons ⟨rfl, rfl⟩ .nil)
  · intro a ha i _ hbetween
    have htype : a.type = .BinaryInput := by
      rcases List.mem_cons.mp ha with rfl | ha
      · rfl
      · cases List.mem_singleton.mp ha
        rfl
    rw [htype] at hbetween ⊢
    rw [← StaticDataMap.contains_getFullRange, Range.contains_iff] at hbetween
    have hstop : i ≤ 2 := hbetween.2
    obtain rfl | rfl | rfl : i = 0 ∨ i = 1 ∨ i = 2 := by omega
    all_goals rfl

/-- An outstation with the binary inputs 0 and 2. -/
def sparseStation : Station :=
  (Sample.outstation 0 10 2048 false).station.setDatabase
    { Sample.database 0 with
      binary_input := .ofConfig [(0, ⟨.Class1, .Group1Var2, .Group2Var1, ()⟩),
        (2, ⟨.Class1, .Group1Var2, .Group2Var1, ()⟩)] (by simp [KeySorted]) }

/-- Class 2 for the binary inputs 0 to 2, of which 1 is missing: the application is told about
    all three, and there is no error. -/
theorem assignClass_gap :
    let a : Assignment := ⟨.BinaryInput, .Class2, some ⟨0, 2⟩, by decide⟩
    let result := handleAssignClass (Sample.env 0) [60, 3, 0x06, 1, 0, 0x00, 0, 2] sparseStation
    result.2 = .empty ∧
      result.1.log = [.recordClassAssignment .BinaryInput .Class2 ⟨0, 2⟩] ∧
      (sparseStation.database.mapOf .BinaryInput).find 1 = none ∧
      ¬ AssignsClasses [a] sparseStation result := by
  refine ⟨by decide +kernel, by rfl, rfl, ?_⟩
  intro h
  exact absurd (h.error.mpr ⟨_, List.mem_singleton_self _, 1, rfl, rfl⟩) (by decide +kernel)

end Assignment

end OpenDnp3.Outstation
