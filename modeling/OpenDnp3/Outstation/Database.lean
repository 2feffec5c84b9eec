import OpenDnp3.App.Header
import OpenDnp3.App.HeaderWriter
import OpenDnp3.Outstation.StaticDataMap

/-!
# The database

The nine measurement types of an outstation, selecting points for a response, writing the
selected points, and the update interface of the application.

An update hands its events to the event buffer.  The database never reads the event buffer,
so the functions here return the events in the order in which they were handed on.
-/

namespace OpenDnp3.Outstation

open App

variable {S : Spec}

/-! ## Writing selected points -/

namespace StaticWriters

/-- Iterate over a map while the points go into the same header (`continues`) and fit
    (`write`).  A point that does not is not consumed.  The result says whether there was
    space. -/
def writePoints {σ : Type} (continues : σ → Nat → SelectedValue S → Bool)
    (write : σ → SelectedValue S → Option σ) :
    Nat → StaticDataMap S → σ → StaticDataMap S × σ × Bool
  | 0, m, s => (m, s, true)
  | fuel + 1, m, s =>
    match m.begin? with
    | none => (m, s, true)
    | some (index, selection) =>
      if continues s index selection then
        match write s selection with
        | none => (m, s, false)
        | some s' => writePoints continues write fuel m.advance s'
      else (m, s, true)

/-- The header being written: its iterator, the buffer and the index that comes next. -/
structure Progress (It : Type) where
  iter : Option It
  writer : HeaderWriter
  next_index : Nat

/-- `LoadWithRangeIterator`. -/
def loadWithRangeIterator (m : StaticDataMap S) (iter : Option (RangeWriteIterator S.Meas))
    (w : HeaderWriter) (variation : S.StaticVariation) :
    StaticDataMap S × HeaderWriter × Bool :=
  let (m, s, notFull) := writePoints
    (fun s index selection => selection.variation = variation && index == s.next_index)
    (fun (s : Progress (RangeWriteIterator S.Meas)) selection => do
      let iter ← s.iter
      let (iter, w) ← iter.write s.writer selection.value
      pure ⟨some iter, w, s.next_index + 1⟩)
    m.cells.length m ⟨iter, w, m.getSelectedRange.start⟩
  (m, s.iter.elim s.writer fun iter => iter.finish s.writer, notFull)

/-- `LoadWithBitfieldIterator`. -/
def loadWithBitfieldIterator (m : StaticDataMap BinarySpec)
    (iter : Option BitfieldRangeWriteIterator) (w : HeaderWriter)
    (variation : StaticBinaryVariation) : StaticDataMap BinarySpec × HeaderWriter × Bool :=
  let (m, s, notFull) := writePoints (S := BinarySpec)
    (fun s index selection => selection.variation = variation && index == s.next_index)
    (fun (s : Progress BitfieldRangeWriteIterator) selection => do
      let iter ← s.iter
      let (iter, w) ← iter.write s.writer selection.value.value
      pure ⟨some iter, w, s.next_index + 1⟩)
    m.cells.length m ⟨iter, w, m.getSelectedRange.start⟩
  (m, s.iter.elim s.writer fun iter => iter.finish s.writer, notFull)

/-- The header for the selected range: one-byte indices where they suffice. -/
def rangeIndexType (range : Range) : IndexType × QualifierCode :=
  if range.isOneByte then (.U8, .UINT8_START_STOP) else (.U16, .UINT16_START_STOP)

/-- `WriteSingleBitfield`. -/
def writeSingleBitfield (id : GroupVariationID) (svariation : StaticBinaryVariation)
    (m : StaticDataMap BinarySpec) (w : HeaderWriter) :
    StaticDataMap BinarySpec × HeaderWriter × Bool :=
  let range := m.getSelectedRange
  let (indexType, qc) := rangeIndexType range
  let (iter, w) := BitfieldRangeWriteIterator.start? w id indexType qc range.start
  loadWithBitfieldIterator m iter w svariation

/-- `WriteWithSerializer`. -/
def writeWithSerializer (serializer : DNP3Serializer S.Meas) (svariation : S.StaticVariation)
    (m : StaticDataMap S) (w : HeaderWriter) : StaticDataMap S × HeaderWriter × Bool :=
  let range := m.getSelectedRange
  let (indexType, qc) := rangeIndexType range
  let (iter, w) := RangeWriteIterator.start? w indexType qc serializer range.start
  loadWithRangeIterator m iter w svariation

/-- What `write_some_octet_strings` remembers: the index and the length that would continue
    the header, once there was a first string. -/
structure OctetProgress where
  iter : Option (RangeWriteIterator OctetString)
  writer : HeaderWriter
  expected : Option (Nat × Nat)

/-- `write_octet_strings`: a header holds strings of one length. -/
def writeOctetStrings (m : StaticDataMap OctetStringSpec) (w : HeaderWriter) :
    StaticDataMap OctetStringSpec × HeaderWriter × Bool :=
  let range := m.getSelectedRange
  let starting_size := m.begin?.elim 0 fun p => p.2.value.data.length
  let (indexType, qc) := rangeIndexType range
  let (iter, w) := RangeWriteIterator.start? w indexType qc
    (.octetString false starting_size) range.start
  let (m, s, notFull) := writePoints (S := OctetStringSpec) (σ := OctetProgress × Nat)
    (fun s index selection =>
      match s.1.expected with
      | none => true
      | some (next_index, last_length) =>
        index == next_index && selection.value.data.length == last_length)
    (fun s selection => do
      let iter ← s.1.iter
      let (iter, w) ← iter.write s.1.writer selection.value
      pure (⟨some iter, w, some (s.2 + 1, selection.value.data.length)⟩, s.2 + 1))
    m.cells.length m (⟨iter, w, none⟩, range.start)
  (m, s.1.iter.elim s.1.writer fun iter => iter.finish s.1.writer, notFull)

/-- `StaticWriters::get`. -/
def binary : StaticBinaryVariation → StaticDataMap BinarySpec → HeaderWriter →
    StaticDataMap BinarySpec × HeaderWriter × Bool
  | .Group1Var1 => writeSingleBitfield ⟨1, 1⟩ .Group1Var1
  | .Group1Var2 => writeWithSerializer .staticBinary .Group1Var2

/-- The writers of the types whose variations all have a serializer. -/
def serialized (get : S.StaticVariation → DNP3Serializer S.Meas) (variation : S.StaticVariation) :
    StaticDataMap S → HeaderWriter → StaticDataMap S × HeaderWriter × Bool :=
  writeWithSerializer (get variation) variation

/-- `load_type`: write headers until there is nothing left (`true`) or no space (`false`). -/
def loadType (get : S.StaticVariation → StaticDataMap S → HeaderWriter →
    StaticDataMap S × HeaderWriter × Bool) :
    Nat → StaticDataMap S → HeaderWriter → StaticDataMap S × HeaderWriter × Bool
  | 0, m, w => (m, w, true)
  | fuel + 1, m, w =>
    match m.begin? with
    | none => (m, w, true)
    | some (_, selection) =>
      match get selection.variation m w with
      | (m, w, false) => (m, w, false)
      | (m, w, true) => loadType get fuel m w

end StaticWriters

/-! ## The database -/

/-- The types of points that a class 0 READ may leave out. -/
inductive StaticTypeBitmask where
  | BinaryInput
  | DoubleBinaryInput
  | Counter
  | FrozenCounter
  | AnalogInput
  | BinaryOutputStatus
  | AnalogOutputStatus
  | TimeAndInterval
  | OctetString
  deriving DecidableEq, Repr

/-- The points of an outstation.  The allowed class zero types are configuration. -/
structure Database where
  binary_input : StaticDataMap BinarySpec
  double_binary : StaticDataMap DoubleBitBinarySpec
  analog_input : StaticDataMap AnalogSpec
  counter : StaticDataMap CounterSpec
  frozen_counter : StaticDataMap FrozenCounterSpec
  binary_output_status : StaticDataMap BinaryOutputStatusSpec
  analog_output_status : StaticDataMap AnalogOutputStatusSpec
  time_and_interval : StaticDataMap TimeAndIntervalSpec
  octet_string : StaticDataMap OctetStringSpec
  allowed_class_zero_types : List StaticTypeBitmask

/-- An event of any type, as the event receiver takes it. -/
inductive AnyEvent where
  | binary (event : Event BinarySpec)
  | doubleBitBinary (event : Event DoubleBitBinarySpec)
  | analog (event : Event AnalogSpec)
  | counter (event : Event CounterSpec)
  | frozenCounter (event : Event FrozenCounterSpec)
  | binaryOutputStatus (event : Event BinaryOutputStatusSpec)
  | analogOutputStatus (event : Event AnalogOutputStatusSpec)
  | octetString (event : Event OctetStringSpec)

/-- A measurement type with the variation that a request asks for, if it asks for one. -/
inductive StaticTarget where
  | binary (variation : Option StaticBinaryVariation)
  | doubleBinary (variation : Option StaticDoubleBinaryVariation)
  | binaryOutputStatus (variation : Option StaticBinaryOutputStatusVariation)
  | counter (variation : Option StaticCounterVariation)
  | frozenCounter (variation : Option StaticFrozenCounterVariation)
  | analog (variation : Option StaticAnalogVariation)
  | analogOutputStatus (variation : Option StaticAnalogOutputStatusVariation)
  | timeAndInterval (variation : Option StaticTimeAndIntervalVariation)
  | octetString (variation : Option StaticOctetStringVariation)
  deriving DecidableEq, Repr

/-- The switch that `SelectAll`, `SelectRange` and `SelectIndices` share. -/
def StaticTarget.of : GroupVariation → Option StaticTarget
  | ⟨1, 0⟩ => some (.binary none)
  | ⟨1, 1⟩ => some (.binary (some .Group1Var1))
  | ⟨1, 2⟩ => some (.binary (some .Group1Var2))
  | ⟨3, 0⟩ => some (.doubleBinary none)
  | ⟨3, 2⟩ => some (.doubleBinary (some .Group3Var2))
  | ⟨10, 0⟩ => some (.binaryOutputStatus none)
  | ⟨10, 2⟩ => some (.binaryOutputStatus (some .Group10Var2))
  | ⟨20, 0⟩ => some (.counter none)
  | ⟨20, 1⟩ => some (.counter (some .Group20Var1))
  | ⟨20, 2⟩ => some (.counter (some .Group20Var2))
  | ⟨20, 5⟩ => some (.counter (some .Group20Var5))
  | ⟨20, 6⟩ => some (.counter (some .Group20Var6))
  | ⟨21, 0⟩ => some (.frozenCounter none)
  | ⟨21, 1⟩ => some (.frozenCounter (some .Group21Var1))
  | ⟨21, 2⟩ => some (.frozenCounter (some .Group21Var2))
  | ⟨21, 5⟩ => some (.frozenCounter (some .Group21Var5))
  | ⟨21, 6⟩ => some (.frozenCounter (some .Group21Var6))
  | ⟨21, 9⟩ => some (.frozenCounter (some .Group21Var9))
  | ⟨21, 10⟩ => some (.frozenCounter (some .Group21Var10))
  | ⟨30, 0⟩ => some (.analog none)
  | ⟨30, 1⟩ => some (.analog (some .Group30Var1))
  | ⟨30, 2⟩ => some (.analog (some .Group30Var2))
  | ⟨30, 3⟩ => some (.analog (some .Group30Var3))
  | ⟨30, 4⟩ => some (.analog (some .Group30Var4))
  | ⟨30, 5⟩ => some (.analog (some .Group30Var5))
  | ⟨30, 6⟩ => some (.analog (some .Group30Var6))
  | ⟨40, 0⟩ => some (.analogOutputStatus none)
  | ⟨40, 1⟩ => some (.analogOutputStatus (some .Group40Var1))
  | ⟨40, 2⟩ => some (.analogOutputStatus (some .Group40Var2))
  | ⟨40, 3⟩ => some (.analogOutputStatus (some .Group40Var3))
  | ⟨40, 4⟩ => some (.analogOutputStatus (some .Group40Var4))
  | ⟨50, 4⟩ => some (.timeAndInterval (some .Group50Var4))
  | ⟨110, 0⟩ => some (.octetString none)
  | _ => none

/-- A way of selecting points in a map of any type; it says whether it found all it was asked
    for. -/
abbrev Selector : Type 1 :=
  (S : Spec) → StaticDataMap S → Option S.StaticVariation → StaticDataMap S × Bool

namespace Selector

/-- `select_all`: never a parameter error. -/
def all : Selector := fun _ m variation =>
  ((m.selectAll (StaticDataMap.override variation)).1, true)

/-- `select_range`: every index of the range should exist. -/
def range (range : Range) : Selector := fun _ m variation =>
  let (m, count) := m.select range (StaticDataMap.override variation)
  (m, count == range.count)

/-- `select_indices`: every index should exist. -/
def indices (indices : List Nat) : Selector := fun _ m variation =>
  indices.foldl (fun acc index =>
    let (m, count) := acc.1.select ⟨index, index⟩ (StaticDataMap.override variation)
    (m, acc.2 && count == 1)) (m, true)

end Selector

namespace Database

open StaticWriters

def setCounter (db : Database) (counter : StaticDataMap CounterSpec) : Database :=
  { db with counter }

def setFrozenCounter (db : Database) (frozen_counter : StaticDataMap FrozenCounterSpec) :
    Database :=
  { db with frozen_counter }

/-- Select in the map of the target; missing points are a parameter error. -/
def selectIn (db : Database) (select : Selector) (target : StaticTarget) : Database × IINField :=
  let (db, found) : Database × Bool :=
    match target with
    | .binary v => let (m, found) := select _ db.binary_input v
      ({ db with binary_input := m }, found)
    | .doubleBinary v => let (m, found) := select _ db.double_binary v
      ({ db with double_binary := m }, found)
    | .binaryOutputStatus v => let (m, found) := select _ db.binary_output_status v
      ({ db with binary_output_status := m }, found)
    | .counter v => let (m, found) := select _ db.counter v
      (db.setCounter m, found)
    | .frozenCounter v => let (m, found) := select _ db.frozen_counter v
      (db.setFrozenCounter m, found)
    | .analog v => let (m, found) := select _ db.analog_input v
      ({ db with analog_input := m }, found)
    | .analogOutputStatus v => let (m, found) := select _ db.analog_output_status v
      ({ db with analog_output_status := m }, found)
    | .timeAndInterval v => let (m, found) := select _ db.time_and_interval v
      ({ db with time_and_interval := m }, found)
    | .octetString v => let (m, found) := select _ db.octet_string v
      ({ db with octet_string := m }, found)
  (db, if found then .empty else IINField.empty.setBit .PARAM_ERROR)

/-- Select with the switch over the group and variation. -/
def selectWith (db : Database) (select : Selector) (gv : GroupVariation) : Database × IINField :=
  match StaticTarget.of gv with
  | some target => db.selectIn select target
  | none => (db, IINField.empty.setBit .FUNC_NOT_SUPPORTED)

/-- `select_all_class_zero` for each type, in the source's order. -/
def classZeroTargets : List (StaticTypeBitmask × StaticTarget) :=
  [(.BinaryInput, .binary none), (.DoubleBinaryInput, .doubleBinary none),
    (.BinaryOutputStatus, .binaryOutputStatus none), (.Counter, .counter none),
    (.FrozenCounter, .frozenCounter none), (.AnalogInput, .analog none),
    (.AnalogOutputStatus, .analogOutputStatus none),
    (.TimeAndInterval, .timeAndInterval none), (.OctetString, .octetString none)]

/-- `SelectAll`; group 60 variation 1 is class 0. -/
def selectAll (db : Database) (gv : GroupVariation) : Database × IINField :=
  if gv = ⟨60, 1⟩ then
    (classZeroTargets.foldl (fun db p =>
      if db.allowed_class_zero_types.contains p.1 then (db.selectIn .all p.2).1 else db) db, .empty)
  else db.selectWith .all gv

/-- `SelectRange`. -/
def selectRange (db : Database) (gv : GroupVariation) (range : Range) : Database × IINField :=
  db.selectWith (.range range) gv

/-- `SelectIndices`. -/
def selectIndices (db : Database) (gv : GroupVariation) (indices : List Nat) :
    Database × IINField :=
  db.selectWith (.indices indices) gv

def unselect (db : Database) : Database :=
  { db with
    binary_input := db.binary_input.clearSelection
    double_binary := db.double_binary.clearSelection
    binary_output_status := db.binary_output_status.clearSelection
    counter := db.counter.clearSelection
    frozen_counter := db.frozen_counter.clearSelection
    analog_input := db.analog_input.clearSelection
    analog_output_status := db.analog_output_status.clearSelection
    time_and_interval := db.time_and_interval.clearSelection
    octet_string := db.octet_string.clearSelection }

def hasAnySelection (db : Database) : Bool :=
  db.binary_input.hasAnySelection || db.double_binary.hasAnySelection ||
    db.analog_input.hasAnySelection || db.counter.hasAnySelection ||
    db.frozen_counter.hasAnySelection || db.binary_output_status.hasAnySelection ||
    db.analog_output_status.hasAnySelection || db.time_and_interval.hasAnySelection ||
    db.octet_string.hasAnySelection

/-! ### Loading a response -/

/-- Load one measurement type and put its map back. -/
def loadInto (get : S.StaticVariation → StaticDataMap S → HeaderWriter →
      StaticDataMap S × HeaderWriter × Bool)
    (m : StaticDataMap S) (put : StaticDataMap S → Database) (w : HeaderWriter) :
    Database × HeaderWriter × Bool :=
  let (m, w, done) := loadType get m.cells.length m w
  (put m, w, done)

/-- `load_type` for each measurement type, in the source's order. -/
def loaders : List (Database → HeaderWriter → Database × HeaderWriter × Bool) :=
  [fun db => loadInto binary db.binary_input fun m => { db with binary_input := m },
    fun db => loadInto (serialized .staticDoubleBinary) db.double_binary
      fun m => { db with double_binary := m },
    fun db => loadInto (serialized .staticAnalog) db.analog_input
      fun m => { db with analog_input := m },
    fun db => loadInto (serialized .staticCounter) db.counter db.setCounter,
    fun db => loadInto (serialized .staticFrozenCounter) db.frozen_counter db.setFrozenCounter,
    fun db => loadInto (serialized .staticBinaryOutputStatus) db.binary_output_status
      fun m => { db with binary_output_status := m },
    fun db => loadInto (serialized .staticAnalogOutputStatus) db.analog_output_status
      fun m => { db with analog_output_status := m },
    fun db => loadInto (serialized fun _ => .timeAndInterval) db.time_and_interval
      fun m => { db with time_and_interval := m },
    fun db => loadInto (fun _ => writeOctetStrings) db.octet_string
      fun m => { db with octet_string := m }]

/-- `Load`: one type after the other, until one runs out of space. -/
def load (db : Database) (w : HeaderWriter) : Database × HeaderWriter × Bool :=
  loaders.foldl (fun acc loader => if acc.2.2 then loader acc.1 acc.2.1 else acc) (db, w, true)

/-! ### The update interface -/

inductive FlagsType where
  | BinaryInput
  | DoubleBinaryInput
  | Counter
  | FrozenCounter
  | AnalogInput
  | BinaryOutputStatus
  | AnalogOutputStatus
  deriving DecidableEq, Repr

/-- The types of points that can be assigned to a class. -/
inductive AssignClassType where
  | BinaryInput
  | DoubleBinaryInput
  | Counter
  | FrozenCounter
  | AnalogInput
  | BinaryOutputStatus
  | AnalogOutputStatus
  deriving DecidableEq, Repr

/-- An operation on a map of any type that reports the range it was about. -/
abbrev Assigner : Type 1 := (S : Spec) → StaticDataMap S → StaticDataMap S × Range

def assignWith (db : Database) (assign : Assigner) : AssignClassType → Database × Range
  | .BinaryInput => let (m, r) := assign _ db.binary_input
    ({ db with binary_input := m }, r)
  | .DoubleBinaryInput => let (m, r) := assign _ db.double_binary
    ({ db with double_binary := m }, r)
  | .Counter => let (m, r) := assign _ db.counter
    (db.setCounter m, r)
  | .FrozenCounter => let (m, r) := assign _ db.frozen_counter
    (db.setFrozenCounter m, r)
  | .AnalogInput => let (m, r) := assign _ db.analog_input
    ({ db with analog_input := m }, r)
  | .BinaryOutputStatus => let (m, r) := assign _ db.binary_output_status
    ({ db with binary_output_status := m }, r)
  | .AnalogOutputStatus => let (m, r) := assign _ db.analog_output_status
    ({ db with analog_output_status := m }, r)

/-- `AssignClassToAll`. -/
def assignClassToAll (db : Database) (type : AssignClassType) (clazz : PointClass) :
    Database × Range :=
  db.assignWith (fun _ m => m.assignClass clazz) type

/-- `AssignClassToRange`. -/
def assignClassToRange (db : Database) (type : AssignClassType) (clazz : PointClass)
    (range : Range) : Database × Range :=
  db.assignWith (fun _ m => m.assignClassRange clazz range) type

/-! ### Freezing counters -/

/-- One pass of the loop of `FreezeSelectedCounters`, for the counter at `index`: the value
    captured when it was selected goes into the frozen counter, and with `clear` a zero goes
    into the counter. -/
def freezeOne (db : Database) (clear : Bool) (mode : EventMode) (now : DNPTime) (index : Nat)
    (selection : SelectedValue CounterSpec) : Database × List AnyEvent :=
  let new_value : TypedMeasurement UInt32 := ⟨selection.value.value, selection.value.flags, now⟩
  let (frozen, frozenEvents, _) := db.frozen_counter.update new_value index mode
  let db := db.setFrozenCounter frozen
  if clear then
    let cleared : TypedMeasurement UInt32 := ⟨0, selection.value.flags, now⟩
    let selected := db.counter.modifyAt index
      (fun c => { c with selection := { c.selection with value := cleared } }) (fun _ => rfl)
    let (counter, counterEvents, _) := selected.update cleared index mode
    (db.setCounter counter, frozenEvents.map .frozenCounter ++ counterEvents.map .counter)
  else (db, frozenEvents.map .frozenCounter)

/-- The loop of `FreezeSelectedCounters`, at most `fuel` passes of it. -/
def freezeFrom (clear : Bool) (mode : EventMode) (now : DNPTime) :
    Nat → Database → Database × List AnyEvent
  | 0, db => (db, [])
  | fuel + 1, db =>
    match db.counter.begin? with
    | none => (db, [])
    | some (index, selection) =>
      let (db, events) := db.freezeOne clear mode now index selection
      let (db, later) := freezeFrom clear mode now fuel (db.setCounter db.counter.advance)
      (db, events ++ later)

/-- `FreezeSelectedCounters`. -/
def freezeSelectedCounters (db : Database) (clear : Bool) (mode : EventMode) (now : DNPTime) :
    Database × List AnyEvent :=
  let (db, events) := freezeFrom clear mode now db.counter.cells.length db
  (db.setCounter db.counter.clearSelection, events)

/-- `FreezeCounter`. -/
def freezeCounter (db : Database) (index : Nat) (clear : Bool) (mode : EventMode)
    (now : DNPTime) : Database × List AnyEvent × Bool :=
  let (counter, num_selected) := db.counter.select ⟨index, index⟩ StaticDataMap.useDefault
  let (db, events) := (db.setCounter counter).freezeSelectedCounters clear mode now
  (db, events, num_selected > 0)

/-! ### Updates from the application -/

/-- The calls of `IUpdateHandler`. -/
inductive Update where
  | binary (meas : TypedMeasurement Bool) (index : Nat) (mode : EventMode)
  | doubleBitBinary (meas : TypedMeasurement DoubleBit) (index : Nat) (mode : EventMode)
  | analog (meas : TypedMeasurement Float) (index : Nat) (mode : EventMode)
  | counter (meas : TypedMeasurement UInt32) (index : Nat) (mode : EventMode)
  | freezeCounter (index : Nat) (clear : Bool) (mode : EventMode)
  | binaryOutputStatus (meas : TypedMeasurement Bool) (index : Nat) (mode : EventMode)
  | analogOutputStatus (meas : TypedMeasurement Float) (index : Nat) (mode : EventMode)
  | octetString (meas : OctetString) (index : Nat) (mode : EventMode)
  | timeAndInterval (meas : TimeAndInterval) (index : Nat)
  | modify (type : FlagsType) (start stop : Nat) (flags : UInt8)

/-- `Modify`. -/
def modify (db : Database) (type : FlagsType) (start stop : Nat) (flags : UInt8) :
    Database × List AnyEvent :=
  match type with
  | .BinaryInput =>
    let (m, events, _) := db.binary_input.modify TypedMeasurement.setFlags start stop flags
    ({ db with binary_input := m }, events.map .binary)
  | .DoubleBinaryInput =>
    let (m, events, _) := db.double_binary.modify TypedMeasurement.setFlags start stop flags
    ({ db with double_binary := m }, events.map .doubleBitBinary)
  | .AnalogInput =>
    let (m, events, _) := db.analog_input.modify TypedMeasurement.setFlags start stop flags
    ({ db with analog_input := m }, events.map .analog)
  | .Counter =>
    let (m, events, _) := db.counter.modify TypedMeasurement.setFlags start stop flags
    (db.setCounter m, events.map .counter)
  | .FrozenCounter =>
    let (m, events, _) := db.frozen_counter.modify TypedMeasurement.setFlags start stop flags
    (db.setFrozenCounter m, events.map .frozenCounter)
  | .BinaryOutputStatus =>
    let (m, events, _) := db.binary_output_status.modify TypedMeasurement.setFlags start stop flags
    ({ db with binary_output_status := m }, events.map .binaryOutputStatus)
  | .AnalogOutputStatus =>
    let (m, events, _) := db.analog_output_status.modify TypedMeasurement.setFlags start stop flags
    ({ db with analog_output_status := m }, events.map .analogOutputStatus)

/-- One call of the update interface; `now` is what the time source says. -/
def apply (db : Database) (now : DNPTime) : Update → Database × List AnyEvent
  | .binary meas index mode =>
    let (m, events, _) := db.binary_input.update meas index mode
    ({ db with binary_input := m }, events.map .binary)
  | .doubleBitBinary meas index mode =>
    let (m, events, _) := db.double_binary.update meas index mode
    ({ db with double_binary := m }, events.map .doubleBitBinary)
  | .analog meas index mode =>
    let (m, events, _) := db.analog_input.update meas index mode
    ({ db with analog_input := m }, events.map .analog)
  | .counter meas index mode =>
    let (m, events, _) := db.counter.update meas index mode
    (db.setCounter m, events.map .counter)
  | .freezeCounter index clear mode =>
    let (db, events, _) := db.freezeCounter index clear mode now
    (db, events)
  | .binaryOutputStatus meas index mode =>
    let (m, events, _) := db.binary_output_status.update meas index mode
    ({ db with binary_output_status := m }, events.map .binaryOutputStatus)
  | .analogOutputStatus meas index mode =>
    let (m, events, _) := db.analog_output_status.update meas index mode
    ({ db with analog_output_status := m }, events.map .analogOutputStatus)
  | .octetString meas index mode =>
    let (m, events, _) := db.octet_string.update meas index mode
    ({ db with octet_string := m }, events.map .octetString)
  | .timeAndInterval meas index =>
    ({ db with time_and_interval := (db.time_and_interval.updateTimeAndInterval meas index).1 }, [])
  | .modify type start stop flags => db.modify type start stop flags

end Database

end OpenDnp3.Outstation
