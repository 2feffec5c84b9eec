import OpenDnp3.Outstation.Database

/-!
# Freezing counters

A freeze copies counters into the frozen counters of the same index, and may clear the
counters.  The code adds the counters it is asked for to the selection of the database and
then freezes *every* selected counter, consuming the selection on the way.
-/

namespace OpenDnp3.Outstation

open App Lib

/-! ## The request handler -/

namespace FreezeRequestHandler

/-- Which headers a freeze request may have. -/
def isAllowed (gv : GroupVariation) (qc : QualifierCode) : Bool :=
  if gv ≠ ⟨20, 0⟩ then false
  else
    match qc with
    | .ALL_OBJECTS | .UINT8_START_STOP | .UINT16_START_STOP => true
    | _ => false

/-- `ProcessHeader` for a header without indices. -/
def processAllObjects (clear : Bool) (now : DNPTime) (db : Database) (gv : GroupVariation) :
    Database × List AnyEvent :=
  (db.selectAll gv).1.freezeSelectedCounters clear .Detect now

/-- `ProcessHeader` for a header with a range. -/
def processRange (clear : Bool) (now : DNPTime) (db : Database) (gv : GroupVariation)
    (range : Range) : Database × List AnyEvent :=
  (db.selectRange gv range).1.freezeSelectedCounters clear .Detect now

end FreezeRequestHandler

/-! ## What the loop does to each counter -/

section Loop

variable (clear : Bool) (mode : EventMode) (now : DNPTime)

/-- The value that replaces a cleared counter. -/
def clearedValue (selection : SelectedValue CounterSpec) : TypedMeasurement UInt32 :=
  ⟨0, selection.value.flags, now⟩

/-- The value that goes into the frozen counter. -/
def frozenValue (selection : SelectedValue CounterSpec) : TypedMeasurement UInt32 :=
  ⟨selection.value.value, selection.value.flags, now⟩

/-- A counter after its pass of the loop, the iterator not yet moved on. -/
def passCounter (c : StaticDataCell CounterSpec) (selection : SelectedValue CounterSpec) :
    StaticDataCell CounterSpec :=
  if clear then
    { c with selection := { c.selection with value := clearedValue now selection } }.update
      (clearedValue now selection) mode
  else c

namespace StaticDataMap

variable {S : Spec}

@[simp] theorem selected_update (m : StaticDataMap S) (value : S.Meas) (index : Nat)
    (mode : EventMode) : (m.update value index mode).1.selected = m.selected := by
  unfold update
  split <;> rfl

@[simp] theorem numSelected_modifyAt (m : StaticDataMap S) (index : Nat)
    (f : StaticDataCell S → StaticDataCell S)
    (hf : ∀ c, (f c).selection.selected = c.selection.selected) :
    (m.modifyAt index f hf).numSelected = m.numSelected :=
  m.numSelected_mapCells _ _

@[simp] theorem numSelected_update (m : StaticDataMap S) (value : S.Meas) (index : Nat)
    (mode : EventMode) : (m.update value index mode).1.numSelected = m.numSelected := by
  unfold update
  split
  · rfl
  · exact m.numSelected_modifyAt index (StaticDataCell.update value mode) fun _ => rfl

end StaticDataMap

namespace Database

/-- Counters and frozen counters aside, the two databases are the same. -/
def SameElsewhere (db db' : Database) : Prop :=
  (db'.setCounter db.counter).setFrozenCounter db.frozen_counter = db

theorem SameElsewhere.trans {db db' db'' : Database} (h : SameElsewhere db db')
    (h' : SameElsewhere db' db'') : SameElsewhere db db'' := by
  rw [← h, ← h']
  rfl

variable (db : Database) (index : Nat) (selection : SelectedValue CounterSpec)

theorem selected_counter_freezeOne :
    (db.freezeOne clear mode now index selection).1.counter.selected = db.counter.selected := by
  cases clear with
  | false => rfl
  | true => exact StaticDataMap.selected_update ..

theorem numSelected_counter_freezeOne :
    (db.freezeOne clear mode now index selection).1.counter.numSelected =
      db.counter.numSelected := by
  cases clear with
  | false => rfl
  | true => exact (StaticDataMap.numSelected_update ..).trans (db.counter.numSelected_modifyAt ..)

theorem find_counter_freezeOne (i : Nat) :
    (db.freezeOne clear mode now index selection).1.counter.find i =
      (db.counter.find i).map fun c =>
        if i = index then passCounter clear mode now c selection else c := by
  cases clear with
  | false =>
    show db.counter.find i = _
    simp [passCounter]
  | true =>
    refine (StaticDataMap.find_update _ _ index mode i).trans ?_
    rw [StaticDataMap.find_modifyAt, Option.map_map]
    congr 1
    funext c
    by_cases hi : i = index
    · simp only [Function.comp_apply, hi, if_true]
      rfl
    · simp [hi]

theorem find_frozen_freezeOne (i : Nat) :
    (db.freezeOne clear mode now index selection).1.frozen_counter.find i =
      (db.frozen_counter.find i).map fun f =>
        if i = index then f.update (frozenValue now selection) mode else f := by
  cases clear <;> exact StaticDataMap.find_update ..

theorem sameElsewhere_freezeOne :
    SameElsewhere db (db.freezeOne clear mode now index selection).1 := by
  cases clear <;> rfl

/-- What the loop makes of a counter: a selected one has its pass and is unselected. -/
def freezeCounterCell (clear : Bool) (mode : EventMode) (now : DNPTime)
    (c : StaticDataCell CounterSpec) : StaticDataCell CounterSpec :=
  (passCounter clear mode now c c.selection).unselect

/-- What the loop makes of a frozen counter, given the counter of the same index. -/
def freezeFrozenCell (mode : EventMode) (now : DNPTime) (c : Option (StaticDataCell CounterSpec))
    (f : StaticDataCell FrozenCounterSpec) : StaticDataCell FrozenCounterSpec :=
  match c with
  | some c => if c.selection.selected then f.update (frozenValue now c.selection) mode else f
  | none => f

theorem freezeFrozenCell_of_not_selected {m : StaticDataMap CounterSpec}
    (hnone : m.hasAnySelection = false) (i : Nat) (f : StaticDataCell FrozenCounterSpec) :
    freezeFrozenCell mode now (m.find i) f = f := by
  unfold freezeFrozenCell
  split
  · rename_i c hfind
    have hsel : ¬ c.selection.selected = true := fun hsel =>
      Bool.eq_false_iff.mp hnone (m.hasAnySelection_iff.mpr ⟨i, c, hfind, hsel⟩)
    rw [if_neg hsel]
  · rfl

/-- The database after a whole pass: body and step of the iterator. -/
def pass (clear : Bool) (mode : EventMode) (now : DNPTime) (db : Database) (index : Nat)
    (selection : SelectedValue CounterSpec) : Database :=
  let db := (db.freezeOne clear mode now index selection).1
  db.setCounter db.counter.advance

theorem find_counter_pass (i : Nat) :
    (pass clear mode now db db.counter.selected.start selection).counter.find i =
      (db.counter.find i).map fun c =>
        if i = db.counter.selected.start then (passCounter clear mode now c selection).unselect
        else c := by
  show (StaticDataMap.advance _).find i = _
  rw [StaticDataMap.find_advance, selected_counter_freezeOne, find_counter_freezeOne,
    Option.map_map]
  congr 1
  funext c
  by_cases hi : i = db.counter.selected.start <;> simp [hi]

theorem numSelected_counter_pass (hvalid : db.counter.selected.isValid = true) :
    (pass clear mode now db index selection).counter.numSelected + 1 =
      db.counter.numSelected := by
  have hvalid' : (db.freezeOne clear mode now index selection).1.counter.selected.isValid = true := by
    rw [selected_counter_freezeOne]
    exact hvalid
  exact (StaticDataMap.numSelected_advance _ hvalid').trans (numSelected_counter_freezeOne ..)

theorem sameElsewhere_pass : SameElsewhere db (pass clear mode now db index selection) :=
  (sameElsewhere_freezeOne clear mode now db index selection).trans rfl

/-- What freezing makes of the counters and frozen counters. -/
structure Frozen (clear : Bool) (mode : EventMode) (now : DNPTime) (db db' : Database) : Prop where
  counter : ∀ i, db'.counter.find i = (db.counter.find i).map fun c =>
    if c.selection.selected then freezeCounterCell clear mode now c else c
  frozen : ∀ i, db'.frozen_counter.find i =
    (db.frozen_counter.find i).map (freezeFrozenCell mode now (db.counter.find i))
  elsewhere : SameElsewhere db db'

theorem frozen_of_not_selected {db : Database} (hnone : db.counter.hasAnySelection = false) :
    Frozen clear mode now db db where
  counter i := (db.counter.map_find_of_not_selected hnone _ i).symm
  frozen i := by
    simp only [funext (freezeFrozenCell_of_not_selected mode now hnone i), Option.map_id']
  elsewhere := rfl

/-- A pass and what is frozen after it make up the whole. -/
theorem Frozen.of_pass {db db' : Database} {c : StaticDataCell CounterSpec}
    (hstart : db.counter.find db.counter.selected.start = some c)
    (hsel : c.selection.selected = true)
    (h : Frozen clear mode now (pass clear mode now db db.counter.selected.start c.selection) db') :
    Frozen clear mode now db db' where
  counter i := by
    rw [h.counter, find_counter_pass, Option.map_map]
    by_cases hi : i = db.counter.selected.start
    · subst hi
      simp [hstart, hsel, freezeCounterCell]
    · simp [Function.comp_def, hi]
  frozen i := by
    have hfrozen := find_frozen_freezeOne clear mode now db db.counter.selected.start c.selection i
    rw [h.frozen, find_counter_pass]
    refine (congrArg (Option.map _) hfrozen).trans ?_
    rw [Option.map_map]
    by_cases hi : i = db.counter.selected.start
    · -- frozen in this pass; the counter is not selected any more
      subst hi
      have hnow : freezeFrozenCell mode now (some c) =
          StaticDataCell.update (frozenValue now c.selection) mode := funext fun f => if_pos hsel
      rw [hstart, hnow]
      simp [Function.comp_def, freezeFrozenCell]
    · simp [Function.comp_def, hi]
  elsewhere := (sameElsewhere_pass clear mode now db _ _).trans h.elsewhere

/-- **The loop**: every selected counter is frozen with the value it was selected with. -/
theorem frozen_freezeFrom {fuel : Nat} {db : Database} (hfuel : db.counter.numSelected ≤ fuel) :
    Frozen clear mode now db (freezeFrom clear mode now fuel db).1 := by
  induction fuel generalizing db with
  | zero =>
    have hnone := (StaticDataMap.numSelected_eq_zero_iff _).mp (Nat.le_zero.mp hfuel)
    exact frozen_of_not_selected clear mode now hnone
  | succ fuel ih =>
    rw [freezeFrom]
    by_cases hvalid : db.counter.selected.isValid = true
    · obtain ⟨c, hstart, hsel, hbegin⟩ := db.counter.begin_of_valid hvalid
      have hcount := numSelected_counter_pass clear mode now db db.counter.selected.start
        c.selection hvalid
      rw [hbegin]
      exact .of_pass clear mode now hstart hsel (ih (by omega))
    · have hnone : db.counter.hasAnySelection = false := Bool.eq_false_iff.mpr hvalid
      rw [db.counter.begin_of_not_valid hnone]
      exact frozen_of_not_selected clear mode now hnone

/-- What becomes of each counter and frozen counter. -/
theorem frozen_freezeSelectedCounters (db : Database) :
    Frozen clear mode now db (db.freezeSelectedCounters clear mode now).1 := by
  have hloop := frozen_freezeFrom clear mode now db.counter.numSelected_le
  refine ⟨fun i => ?_, hloop.frozen, hloop.elsewhere.trans rfl⟩
  -- the loop leaves nothing for `clear_selection` to do
  refine (StaticDataMap.find_clearSelection _ i).trans ?_
  rw [hloop.counter, Option.map_map]
  congr 1
  funext c
  by_cases hsel : c.selection.selected = true
  · simp [hsel, freezeCounterCell]
  · simp [hsel]

theorem not_selected_freezeSelectedCounters (db : Database) :
    (db.freezeSelectedCounters clear mode now).1.counter.hasAnySelection = false :=
  StaticDataMap.hasAnySelection_clearSelection _

end Database

end Loop

/-! ## What a freeze should do -/

/-- The calls that freeze counters: the application's `FreezeCounter`, and the headers of a
    freeze request. -/
inductive FreezeCall where
  | freezeCounter (index : Nat) (mode : EventMode)
  | rangeHeader (range : Range)
  | allObjectsHeader
  deriving DecidableEq, Repr

namespace FreezeCall

def mode : FreezeCall → EventMode
  | freezeCounter _ mode => mode
  | rangeHeader _ | allObjectsHeader => .Detect

/-- The counters that a call names. -/
def names : FreezeCall → Nat → Bool
  | freezeCounter index _, i => i == index
  | rangeHeader range, i => range.contains i
  | allObjectsHeader, _ => true

/-- Make the call. -/
def perform (call : FreezeCall) (clear : Bool) (now : DNPTime) (db : Database) : Database :=
  match call with
  | freezeCounter index mode => (db.freezeCounter index clear mode now).1
  | rangeHeader range => (FreezeRequestHandler.processRange clear now db ⟨20, 0⟩ range).1
  | allObjectsHeader => (FreezeRequestHandler.processAllObjects clear now db ⟨20, 0⟩).1

end FreezeCall

/-- A cell without its part in the pending response. -/
def StaticDataCell.point {S : Spec} (c : StaticDataCell S) : S.Meas × PointConfig S × S.Meas :=
  (c.value, c.config, c.lastEvent)

/-- **A faithful freeze** of the counters in `named`: their present values are in the frozen
    counters, they are zero if asked for, all other points are as they were, and so is the
    selection of every point. -/
structure Freezes (named : Nat → Bool) (clear : Bool) (now : DNPTime) (db db' : Database) :
    Prop where
  frozen_named : ∀ i c f, named i = true → db.counter.find i = some c →
    db.frozen_counter.find i = some f →
    (db'.frozen_counter.find i).map (·.value) = some ⟨c.value.value, c.value.flags, now⟩
  frozen_other : ∀ i, named i = false ∨ db.counter.find i = none →
    (db'.frozen_counter.find i).map (·.point) = (db.frozen_counter.find i).map (·.point)
  counter_cleared : clear = true → ∀ i c, named i = true → db.counter.find i = some c →
    (db'.counter.find i).map (·.value) = some ⟨0, c.value.flags, now⟩
  counter_other : ∀ i, named i = false ∨ clear = false →
    (db'.counter.find i).map (·.point) = (db.counter.find i).map (·.point)
  pending_counter : ∀ i,
    (db'.counter.find i).map (·.pending) = (db.counter.find i).map (·.pending)
  pending_frozen : ∀ i,
    (db'.frozen_counter.find i).map (·.pending) = (db.frozen_counter.find i).map (·.pending)
  elsewhere : db.SameElsewhere db'

/-- Every call selects the counters it names and freezes what is selected then. -/
theorem FreezeCall.perform_eq (call : FreezeCall) (clear : Bool) (now : DNPTime)
    (db : Database) : ∃ (counter : StaticDataMap CounterSpec)
      (g : StaticCounterVariation → StaticCounterVariation),
      (∀ i, counter.find i = (db.counter.find i).map fun c =>
        if call.names i then StaticDataCell.select (S := CounterSpec) g c else c) ∧
      call.perform clear now db =
        ((db.setCounter counter).freezeSelectedCounters clear call.mode now).1 := by
  cases call with
  | freezeCounter index mode =>
    refine ⟨(db.counter.select ⟨index, index⟩ StaticDataMap.useDefault).1,
      StaticDataMap.useDefault (S := CounterSpec), fun i => ?_, rfl⟩
    rw [StaticDataMap.find_select]
    -- one index is a range of one
    have hnames : ∀ i, (Range.mk index index).contains i = (i == index) := by
      intro i
      rw [Bool.eq_iff_iff, Range.contains_iff, beq_iff_eq]
      show index ≤ i ∧ i ≤ index ↔ i = index
      omega
    simp only [FreezeCall.names, hnames]
    rfl
  | rangeHeader range =>
    exact ⟨(db.counter.select range (StaticDataMap.override none)).1,
      StaticDataMap.override (S := CounterSpec) none,
      db.counter.find_select range (StaticDataMap.override none), rfl⟩
  | allObjectsHeader =>
    exact ⟨(db.counter.selectAll (StaticDataMap.override none)).1,
      StaticDataMap.override (S := CounterSpec) none,
      db.counter.find_selectAll (StaticDataMap.override none), rfl⟩

section NoPendingCounters

variable (call : FreezeCall) (clear : Bool) (now : DNPTime) (db : Database)

theorem not_selected_of_find (hnone : db.counter.hasAnySelection = false) {i : Nat}
    {c : StaticDataCell CounterSpec} (hfind : db.counter.find i = some c) :
    c.selection.selected = false := by
  rw [Bool.eq_false_iff]
  intro hsel
  exact Bool.eq_false_iff.mp hnone (db.counter.hasAnySelection_iff.mpr ⟨i, c, hfind, hsel⟩)

/-- The counters after a call: a named one has had its pass with its present value. -/
theorem find_counter_perform (hnone : db.counter.hasAnySelection = false) :
    ∃ g : StaticCounterVariation → StaticCounterVariation, ∀ i,
      (call.perform clear now db).counter.find i = (db.counter.find i).map fun c =>
        if call.names i then
          Database.freezeCounterCell clear call.mode now (StaticDataCell.select (S := CounterSpec) g c)
        else c := by
  obtain ⟨counter, g, hselect, hperform⟩ := call.perform_eq clear now db
  have hfrozen := Database.frozen_freezeSelectedCounters clear call.mode now
    (db.setCounter counter)
  rw [← hperform] at hfrozen
  refine ⟨g, fun i => ?_⟩
  rw [hfrozen.counter]
  show Option.map _ (counter.find i) = _
  rw [hselect]
  cases hfind : db.counter.find i with
  | none => rfl
  | some c =>
    have hsel := not_selected_of_find db hnone hfind
    cases call.names i <;> simp [hsel]

/-- The frozen counters after a call: where a counter of the same index is named, its present
    value. -/
theorem find_frozen_perform (hnone : db.counter.hasAnySelection = false) (i : Nat) :
    (call.perform clear now db).frozen_counter.find i = (db.frozen_counter.find i).map fun f =>
      match call.names i, db.counter.find i with
      | true, some c => f.update ⟨c.value.value, c.value.flags, now⟩ call.mode
      | _, _ => f := by
  obtain ⟨counter, g, hselect, hperform⟩ := call.perform_eq clear now db
  have hfrozen := Database.frozen_freezeSelectedCounters clear call.mode now
    (db.setCounter counter)
  rw [← hperform] at hfrozen
  rw [hfrozen.frozen]
  show Option.map (Database.freezeFrozenCell _ _ (counter.find i)) (db.frozen_counter.find i) = _
  rw [hselect]
  cases hfind : db.counter.find i with
  | none => cases call.names i <;> rfl
  | some c =>
    have hsel := not_selected_of_find db hnone hfind
    cases call.names i with
    | false =>
      cases db.frozen_counter.find i <;> simp [Database.freezeFrozenCell, hsel]
    | true => rfl

end NoPendingCounters

/-- Without a pending selection of counters, a call freezes what it names. -/
theorem freezes_of_not_selected (call : FreezeCall) (clear : Bool) (now : DNPTime)
    (db : Database) (hmode : call.mode ≠ .EventOnly)
    (hnone : db.counter.hasAnySelection = false) :
    Freezes call.names clear now db (call.perform clear now db) := by
  obtain ⟨g, hcounter⟩ := find_counter_perform call clear now db hnone
  have hfrozen := find_frozen_perform call clear now db hnone
  constructor
  case frozen_named =>
    intro i c f hnamed hfind hfrozenFind
    rw [hfrozen, hfrozenFind, hfind, hnamed]
    simp [StaticDataCell.update, hmode]
  -- a counter that is missing or not named leaves its frozen counter alone
  case frozen_other =>
    intro i hother
    rw [hfrozen]
    rcases hother with hnamed | hmissing
    · simp [hnamed]
    · cases call.names i <;> simp [hmissing]
  case counter_cleared =>
    intro hclear i c hnamed hfind
    rw [hcounter, hfind, hnamed, hclear]
    simp [Database.freezeCounterCell, passCounter, StaticDataCell.update, StaticDataCell.unselect,
      hmode, clearedValue, StaticDataCell.select]
  case counter_other =>
    intro i hother
    rw [hcounter, Option.map_map]
    rcases hother with hnamed | hclear
    · simp [Function.comp_def, hnamed]
    · cases call.names i <;>
        simp [Function.comp_def, hclear, Database.freezeCounterCell, passCounter,
          StaticDataCell.point, StaticDataCell.unselect, StaticDataCell.select]
  -- selections for a response are none before, and the pass leaves none
  case pending_counter =>
    intro i
    rw [hcounter]
    cases hfind : db.counter.find i with
    | none => rfl
    | some c =>
      have hsel := not_selected_of_find db hnone hfind
      cases call.names i <;>
        simp [StaticDataCell.pending, hsel, Database.freezeCounterCell]
  case pending_frozen =>
    intro i
    rw [hfrozen, Option.map_map]
    congr 1
    funext f
    split <;> rfl
  case elsewhere =>
    obtain ⟨counter, -, -, hperform⟩ := call.perform_eq clear now db
    have hselect : db.SameElsewhere (db.setCounter counter) := rfl
    rw [hperform]
    exact hselect.trans (Database.frozen_freezeSelectedCounters _ _ _ _).elsewhere

/-- **Freezing is exact** — present values of exactly the named counters, nothing else changed,
    the pending response untouched — if and only if no counter was selected for a pending
    response before the call. -/
theorem freeze_exact_iff (call : FreezeCall) (clear : Bool) (now : DNPTime) (db : Database)
    (hmode : call.mode ≠ .EventOnly) :
    Freezes call.names clear now db (call.perform clear now db) ↔
      db.counter.hasAnySelection = false := by
  constructor
  · intro h
    rw [Bool.eq_false_iff]
    intro hany
    -- a selected counter loses its selection
    obtain ⟨i, c, hfind, hsel⟩ := db.counter.hasAnySelection_iff.mp hany
    have hpending := h.pending_counter i
    obtain ⟨counter, g, hselect, hperform⟩ := call.perform_eq clear now db
    have hafter := Database.not_selected_freezeSelectedCounters clear call.mode now
      (db.setCounter counter)
    rw [← hperform] at hafter
    rw [hfind] at hpending
    cases hfind' : (call.perform clear now db).counter.find i with
    | none => simp [hfind'] at hpending
    | some c' =>
      have hsel' := not_selected_of_find _ hafter hfind'
      simp [hfind', StaticDataCell.pending, hsel, hsel'] at hpending
  · exact freezes_of_not_selected call clear now db hmode

/-! ## A freeze between two fragments -/

/-- A database whose only points are counters and frozen counters. -/
def Database.ofCounters (counter : StaticDataMap CounterSpec)
    (frozen_counter : StaticDataMap FrozenCounterSpec) : Database where
  binary_input := .ofConfig [] StaticDataMap.sorted_nil
  double_binary := .ofConfig [] StaticDataMap.sorted_nil
  analog_input := .ofConfig [] StaticDataMap.sorted_nil
  counter := counter
  frozen_counter := frozen_counter
  binary_output_status := .ofConfig [] StaticDataMap.sorted_nil
  analog_output_status := .ofConfig [] StaticDataMap.sorted_nil
  time_and_interval := .ofConfig [] StaticDataMap.sorted_nil
  octet_string := .ofConfig [] StaticDataMap.sorted_nil
  allowed_class_zero_types := []

/-- Counters 0 and 1 stand at 5 and 7; their frozen counters have not been set. -/
def twoCounters : Database :=
  let counter : StaticDataMap CounterSpec :=
    .ofConfig [(0, ⟨.Class0, .Group20Var1, .Group22Var1, 0⟩),
      (1, ⟨.Class0, .Group20Var1, .Group22Var1, 0⟩)] (by unfold KeySorted; decide)
  let frozen : StaticDataMap FrozenCounterSpec :=
    .ofConfig [(0, ⟨.Class0, .Group21Var1, .Group23Var1, 0⟩),
      (1, ⟨.Class0, .Group21Var1, .Group23Var1, 0⟩)] (by unfold KeySorted; decide)
  let db : Database := .ofCounters counter frozen
  let db := (db.apply .invalid (.counter ⟨5, 1, .ofValue 0⟩ 0 .Detect)).1
  (db.apply .invalid (.counter ⟨7, 1, .ofValue 0⟩ 1 .Detect)).1

/-- **Freezing counter 0 with a clear while a response with both counters is unfinished**:
    counter 1 is frozen and cleared as well, and the response has lost its counters. -/
theorem freeze_takes_pending_counters :
    let reading := (twoCounters.selectAll ⟨20, 0⟩).1
    let after := FreezeCall.perform (.freezeCounter 0 .Detect) true (.ofValue 100) reading
    (reading.frozen_counter.find 1).map (·.value.value) = some 0 ∧
    (after.frozen_counter.find 1).map (·.value.value) = some 7 ∧
    (reading.counter.find 1).map (·.value.value) = some 7 ∧
    (after.counter.find 1).map (·.value.value) = some 0 ∧
    reading.counter.hasAnySelection = true ∧ after.counter.hasAnySelection = false ∧
    ¬ Freezes (FreezeCall.names (.freezeCounter 0 .Detect)) true (.ofValue 100) reading after := by
  refine ⟨by decide +kernel, by decide +kernel, by decide +kernel, by decide +kernel,
    by decide +kernel, by decide +kernel, fun h => ?_⟩
  have hvalue := congrArg (Option.map fun p => p.1.value) (h.frozen_other 1 (.inl rfl))
  revert hvalue
  decide +kernel

/-- With nothing selected, freezing and clearing both counters is exact. -/
theorem freeze_exact_two_counters :
    twoCounters.counter.hasAnySelection = false ∧
    Freezes (FreezeCall.names (.rangeHeader ⟨0, 1⟩)) true (.ofValue 100) twoCounters
      (FreezeCall.perform (.rangeHeader ⟨0, 1⟩) true (.ofValue 100) twoCounters) :=
  have hnone : twoCounters.counter.hasAnySelection = false := by decide +kernel
  ⟨hnone, (freeze_exact_iff (.rangeHeader ⟨0, 1⟩) true (.ofValue 100) twoCounters
    (by decide)).mpr hnone⟩

end OpenDnp3.Outstation
