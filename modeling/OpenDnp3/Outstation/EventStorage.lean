import Mathlib.Data.List.Forall2
import OpenDnp3.Outstation.Database

/-!
# The event buffer

Events wait in one master list, in the order of their updates, until a response that carried
them is confirmed.  Each event is unselected, selected for the response being built, or written
into a response.  A type has a capacity of its own: when it is full, its oldest event makes
room for a new one.

The typed lists of the source hold the details of the events of one type; they are the
sub-sequences of the master list here.  Every event gets a number (`id`) that no other event of
the same run has; the code has no such number and nothing it does depends on it.
-/

namespace OpenDnp3.Outstation

open App

/-! ## Records -/

/-- The types of events, each with a capacity of its own. -/
inductive EventType where
  | Binary
  | DoubleBitBinary
  | Analog
  | Counter
  | FrozenCounter
  | BinaryOutputStatus
  | AnalogOutputStatus
  | OctetString
  deriving DecidableEq, Repr

/-- The specification that the templates are instantiated with for a type of event. -/
@[reducible] def EventType.spec : EventType → Spec
  | .Binary => BinarySpec
  | .DoubleBitBinary => DoubleBitBinarySpec
  | .Analog => AnalogSpec
  | .Counter => CounterSpec
  | .FrozenCounter => FrozenCounterSpec
  | .BinaryOutputStatus => BinaryOutputStatusSpec
  | .AnalogOutputStatus => AnalogOutputStatusSpec
  | .OctetString => OctetStringSpec

/-- Is the event part of a response, and has that been built? -/
inductive EventState where
  | unselected
  | selected
  | written
  deriving DecidableEq, Repr

/-- Event details that vary by type. -/
structure TypedEventRecord (S : Spec) where
  value : S.Meas
  defaultVariation : S.EventVariation
  selectedVariation : S.EventVariation

/-- An event in the buffer, with its class and its place in a response. -/
structure EventRecord where
  id : Nat
  index : Nat
  clazz : EventClass
  state : EventState
  type : EventType
  data : TypedEventRecord type.spec

namespace EventRecord

def setState (r : EventRecord) (state : EventState) : EventRecord := { r with state }

@[simp] theorem state_setState (r : EventRecord) (state : EventState) :
    (r.setState state).state = state := rfl

/-- Select a record of the given type, in the asked variation or in its default. -/
def selectAs (type : EventType) (variation : Option type.spec.EventVariation)
    (r : EventRecord) : EventRecord :=
  if h : type = r.type then
    let asked : Option r.type.spec.EventVariation := h ▸ variation
    { r with
      state := .selected
      data := { r.data with selectedVariation := asked.getD r.data.defaultVariation } }
  else r

theorem id_selectAs (type : EventType) (variation : Option type.spec.EventVariation)
    (r : EventRecord) : (r.selectAs type variation).id = r.id := by
  unfold selectAs
  split <;> rfl

theorem type_selectAs (type : EventType) (variation : Option type.spec.EventVariation)
    (r : EventRecord) : (r.selectAs type variation).type = r.type := by
  unfold selectAs
  split <;> rfl

theorem state_selectAs {type : EventType} (variation : Option type.spec.EventVariation)
    {r : EventRecord} (h : r.type = type) : (r.selectAs type variation).state = .selected := by
  unfold selectAs
  rw [dif_pos h.symm]

end EventRecord

/-- The event that an update hands to the buffer, with its type. -/
def AnyEvent.typed : AnyEvent → (type : EventType) × Event type.spec
  | .binary event => ⟨.Binary, event⟩
  | .doubleBitBinary event => ⟨.DoubleBitBinary, event⟩
  | .analog event => ⟨.Analog, event⟩
  | .counter event => ⟨.Counter, event⟩
  | .frozenCounter event => ⟨.FrozenCounter, event⟩
  | .binaryOutputStatus event => ⟨.BinaryOutputStatus, event⟩
  | .analogOutputStatus event => ⟨.AnalogOutputStatus, event⟩
  | .octetString event => ⟨.OctetString, event⟩

def AnyEvent.type (event : AnyEvent) : EventType := event.typed.1

/-! ## Counters -/

/-- One number for each class. -/
structure ClazzCount where
  num_class_1 : Nat
  num_class_2 : Nat
  num_class_3 : Nat
  deriving DecidableEq, Repr

namespace ClazzCount

def zero : ClazzCount := ⟨0, 0, 0⟩

def get (c : ClazzCount) : EventClass → Nat
  | .EC1 => c.num_class_1
  | .EC2 => c.num_class_2
  | .EC3 => c.num_class_3

def increment (c : ClazzCount) : EventClass → ClazzCount
  | .EC1 => { c with num_class_1 := c.num_class_1 + 1 }
  | .EC2 => { c with num_class_2 := c.num_class_2 + 1 }
  | .EC3 => { c with num_class_3 := c.num_class_3 + 1 }

def decrement (c : ClazzCount) : EventClass → ClazzCount
  | .EC1 => { c with num_class_1 := c.num_class_1 - 1 }
  | .EC2 => { c with num_class_2 := c.num_class_2 - 1 }
  | .EC3 => { c with num_class_3 := c.num_class_3 - 1 }

end ClazzCount

structure EventClassCounters where
  total : ClazzCount
  written : ClazzCount
  selected : Nat
  deriving DecidableEq, Repr

namespace EventClassCounters

def zero : EventClassCounters := ⟨.zero, .zero, 0⟩

def onAdd (c : EventClassCounters) (clazz : EventClass) : EventClassCounters :=
  { c with total := c.total.increment clazz }

def onSelect (c : EventClassCounters) (n : Nat) : EventClassCounters :=
  { c with selected := c.selected + n }

/-- Only selected events are written. -/
def onWrite (c : EventClassCounters) (clazz : EventClass) : EventClassCounters :=
  { c with selected := c.selected - 1, written := c.written.increment clazz }

def resetOnFail (c : EventClassCounters) : EventClassCounters :=
  { c with selected := 0, written := .zero }

def onRemove (c : EventClassCounters) (clazz : EventClass) (state : EventState) :
    EventClassCounters :=
  let c : EventClassCounters :=
    match state with
    | .selected => { c with selected := c.selected - 1 }
    | .written => { c with written := c.written.decrement clazz }
    | .unselected => c
  { c with total := c.total.decrement clazz }

end EventClassCounters

/-! ## The lists -/

/-- How many events of each type the buffer holds. -/
structure EventBufferConfig where
  maxBinaryEvents : Nat
  maxDoubleBinaryEvents : Nat
  maxAnalogEvents : Nat
  maxCounterEvents : Nat
  maxFrozenCounterEvents : Nat
  maxBinaryOutputStatusEvents : Nat
  maxAnalogOutputStatusEvents : Nat
  maxOctetStringEvents : Nat
  deriving DecidableEq, Repr

def EventBufferConfig.capacity (config : EventBufferConfig) : EventType → Nat
  | .Binary => config.maxBinaryEvents
  | .DoubleBitBinary => config.maxDoubleBinaryEvents
  | .Analog => config.maxAnalogEvents
  | .Counter => config.maxCounterEvents
  | .FrozenCounter => config.maxFrozenCounterEvents
  | .BinaryOutputStatus => config.maxBinaryOutputStatusEvents
  | .AnalogOutputStatus => config.maxAnalogOutputStatusEvents
  | .OctetString => config.maxOctetStringEvents

def EventType.all : List EventType :=
  [.Binary, .DoubleBitBinary, .Counter, .FrozenCounter, .Analog, .BinaryOutputStatus,
    .AnalogOutputStatus, .OctetString]

/-- The events in the order of their arrival, with the counters and the capacities. -/
structure EventLists where
  config : EventBufferConfig
  events : List EventRecord
  counters : EventClassCounters
  /-- The number that the next event will get. -/
  nextId : Nat

namespace EventLists

def ofConfig (config : EventBufferConfig) : EventLists := ⟨config, [], .zero, 0⟩

/-- `GetList`: the events of one type, oldest first. -/
def getList (lists : EventLists) (type : EventType) : List EventRecord :=
  lists.events.filter (·.type = type)

def isFullAndCapacityNotZero (lists : EventLists) (type : EventType) : Bool :=
  lists.config.capacity type != 0 && (lists.getList type).length == lists.config.capacity type

def isAnyTypeFull (lists : EventLists) : Bool :=
  EventType.all.any lists.isFullAndCapacityNotZero

/-- The numbers of the events in the buffer. -/
def ids (lists : EventLists) : List Nat := lists.events.map EventRecord.id

/-- The numbers of the events in one state. -/
def idsIn (lists : EventLists) (state : EventState) : List Nat :=
  (lists.events.filter (·.state = state)).map EventRecord.id

variable {lists : EventLists} {id : Nat} {event : AnyEvent} {r : EventRecord}
  {mark : EventRecord → EventRecord} {wanted : EventRecord → Bool}

theorem mem_ids :
    id ∈ lists.ids ↔ ∃ r ∈ lists.events, r.id = id := by
  exact List.mem_map

theorem mem_idsIn {state : EventState} :
    id ∈ lists.idsIn state ↔ ∃ r ∈ lists.events, r.state = state ∧ r.id = id := by
  unfold idsIn
  rw [List.mem_map]
  constructor
  · rintro ⟨r, hr, hid⟩
    rw [List.mem_filter] at hr
    exact ⟨r, hr.1, of_decide_eq_true hr.2, hid⟩
  · rintro ⟨r, hr, hstate, hid⟩
    exact ⟨r, List.mem_filter.mpr ⟨hr, decide_eq_true hstate⟩, hid⟩

/-! ### Updates -/

/-- The event that a new event of this type pushes out: the head of a full list. -/
def evicted (lists : EventLists) (type : EventType) : Option EventRecord :=
  if lists.isFullAndCapacityNotZero type then (lists.getList type).head? else none

/-- Take one event out. -/
def remove (lists : EventLists) (r : EventRecord) : EventLists :=
  { lists with
    events := lists.events.eraseP (·.id = r.id)
    counters := lists.counters.onRemove r.clazz r.state }

/-- Append a new event. -/
def add (lists : EventLists) (event : AnyEvent) : EventLists :=
  let e := event.typed.2
  { lists with
    events := lists.events ++
      [⟨lists.nextId, e.index, e.clazz, .unselected, event.typed.1,
        ⟨e.value, e.variation, e.variation⟩⟩]
    counters := lists.counters.onAdd e.clazz
    nextId := lists.nextId + 1 }

/-- `EventUpdate::Update`; the flag says that an event was pushed out. -/
def update (lists : EventLists) (event : AnyEvent) : EventLists × Bool :=
  if lists.config.capacity event.type = 0 then
    (lists, false)
  else
    match lists.evicted event.type with
    | none => (lists.add event, false)
    | some oldest => ((lists.remove oldest).add event, true)

/-! ### Selections -/

/-- Walk over the master list and mark the wanted records that are still unselected, at most
    `max` of them.  The result says how many were marked. -/
def selectFrom (wanted : EventRecord → Bool) (mark : EventRecord → EventRecord) :
    Nat → List EventRecord → List EventRecord × Nat
  | _, [] => ([], 0)
  | 0, rs => (rs, 0)
  | max + 1, r :: rs =>
    if r.state = .unselected && wanted r then
      let (rs, n) := selectFrom wanted mark max rs
      (mark r :: rs, n + 1)
    else
      let (rs, n) := selectFrom wanted mark (max + 1) rs
      (r :: rs, n)

def selectWhere (lists : EventLists) (wanted : EventRecord → Bool)
    (mark : EventRecord → EventRecord) (max : Nat) : EventLists :=
  let (events, n) := selectFrom wanted mark max lists.events
  { lists with events, counters := lists.counters.onSelect n }

/-- `SelectByType`, with the variation asked for or the default one. -/
def selectByType (lists : EventLists) (type : EventType)
    (variation : Option type.spec.EventVariation) (max : Nat) : EventLists :=
  lists.selectWhere (·.type = type) (·.selectAs type variation) max

/-- `SelectByClass`: the variation of an earlier selection is kept. -/
def selectByClass (lists : EventLists) (clazz : ClassField) (max : Nat) : EventLists :=
  lists.selectWhere (fun r => clazz.hasEventType r.clazz) (·.setState .selected) max

/-! ### Writing -/

/-- An `IEventWriter`: the header it begins, and what it makes of a value before it writes
    it.  It refuses values that do not belong under the header. -/
structure EventWriter (M : Type) where
  start : HeaderWriter → Option (PrefixedWriteIterator M) × HeaderWriter
  prepare : M → Option M

namespace EventWriter

/-- `BasicEventWriter`. -/
def basic {M : Type} (serializer : DNP3Serializer M) : EventWriter M where
  start w := PrefixedWriteIterator.start? w .U16 .UINT16_CNT_UINT16_INDEX serializer
  prepare := some

/-- `CTOEventWriter`: times are relative to a common time of occurrence, which is the time of
    the first event. -/
def withCTO {T : Type} (cto : DNPTime) (serializer : DNP3Serializer (TypedMeasurement T)) :
    EventWriter (TypedMeasurement T) where
  start w := PrefixedWriteIterator.startWithCTO? w .U16 .UINT16_CNT_UINT16_INDEX serializer
    (if cto.quality = .SYNCHRONIZED then ⟨51, 1⟩ else ⟨51, 2⟩) (DNP3Serializer.time48 cto)
  prepare meas :=
    if (cto.quality == .SYNCHRONIZED) != (meas.time.quality == .SYNCHRONIZED) then none
    else if meas.time.value < cto.value then none
    else if meas.time.value - cto.value > 65535 then none
    else some { meas with time := .ofValue (meas.time.value - cto.value) }

/-- `OctetStringEventWriter`: strings of one length. -/
def octetString (size : Nat) : EventWriter OctetString where
  start w := PrefixedWriteIterator.start? w .U16 .UINT16_CNT_UINT16_INDEX (.octetString true size)
  prepare value := if value.data.length = size then some value else none

/-- `ASDUEventWriteHandler::Write`: the writer for a variation and the first value. -/
def ofVariation : (type : EventType) → type.spec.EventVariation → type.spec.Meas →
    EventWriter type.spec.Meas
  | .Binary, .Group2Var3, first => withCTO first.time (.eventBinary .Group2Var3)
  | .Binary, variation, _ => basic (.eventBinary variation)
  | .DoubleBitBinary, .Group4Var3, first => withCTO first.time (.eventDoubleBinary .Group4Var3)
  | .DoubleBitBinary, variation, _ => basic (.eventDoubleBinary variation)
  | .Analog, variation, _ => basic (.eventAnalog variation)
  | .Counter, variation, _ => basic (.eventCounter variation)
  | .FrozenCounter, variation, _ => basic (.eventFrozenCounter variation)
  | .BinaryOutputStatus, variation, _ => basic (.eventBinaryOutputStatus variation)
  | .AnalogOutputStatus, variation, _ => basic (.eventAnalogOutputStatus variation)
  | .OctetString, _, first => octetString first.data.length

end EventWriter

/-- The header being written, the counters and the numbers of the events written so far. -/
structure WriteProgress (M : Type) where
  iter : Option (PrefixedWriteIterator M)
  writer : HeaderWriter
  counters : EventClassCounters
  ids : List Nat

/-- Write a record, if it has the type and variation of the header and the writer takes it. -/
def writeRecord (type : EventType) (variation : type.spec.EventVariation)
    (handler : EventWriter type.spec.Meas) (p : WriteProgress type.spec.Meas) (r : EventRecord) :
    Option (WriteProgress type.spec.Meas) :=
  if h : r.type = type then
    let data : TypedEventRecord type.spec := h ▸ r.data
    if data.selectedVariation = variation then do
      let meas ← handler.prepare data.value
      let iter ← p.iter
      let (iter, w) ← iter.write p.writer meas r.index
      pure ⟨some iter, w, p.counters.onWrite r.clazz, p.ids ++ [r.id]⟩
    else none
  else none

/-- `EventCollection::WriteSome`: go on from the iterator's position until a selected record
    cannot be written.  The result has the records passed, those left, and the progress. -/
def writeSome (type : EventType) (variation : type.spec.EventVariation)
    (handler : EventWriter type.spec.Meas) :
    List EventRecord → WriteProgress type.spec.Meas →
      List EventRecord × List EventRecord × WriteProgress type.spec.Meas
  | [], p => ([], [], p)
  | r :: rs, p =>
    if p.counters.selected = 0 then
      ([], r :: rs, p)
    else if r.state = .selected then
      match writeRecord type variation handler p r with
      | none => ([], r :: rs, p)
      | some p =>
        let (done, rest, p) := writeSome type variation handler rs p
        (r.setState .written :: done, rest, p)
    else
      let (done, rest, p) := writeSome type variation handler rs p
      (r :: done, rest, p)

/-- What one header has taken: the records passed, those left, the counters, the buffer and
    the numbers of the events written. -/
structure HeaderWritten where
  done : List EventRecord
  rest : List EventRecord
  counters : EventClassCounters
  writer : HeaderWriter
  ids : List Nat

/-- `EventTypeImpl::WriteSome`: a header in the type and variation of its first record. -/
def writeHeaderFrom (first : EventRecord) (behind : List EventRecord)
    (counters : EventClassCounters) (w : HeaderWriter) : HeaderWritten :=
  let handler := EventWriter.ofVariation first.type first.data.selectedVariation first.data.value
  let (iter, w) := handler.start w
  let (done, rest, p) := writeSome first.type first.data.selectedVariation handler
    (first :: behind) ⟨iter, w, counters, []⟩
  ⟨done, rest, p.counters, p.iter.elim p.writer fun iter => iter.finish p.writer, p.ids⟩

/-- What all headers have taken. -/
structure Written where
  events : List EventRecord
  counters : EventClassCounters
  writer : HeaderWriter
  ids : List Nat

/-- The loop of `EventWriting::Write`: one header after the other, until a header takes no
    event.  A round that writes something passes a record, so the number of records bounds
    the number of rounds. -/
def writeFrom : Nat → List EventRecord → EventClassCounters → HeaderWriter → Written
  | 0, rs, counters, w => ⟨rs, counters, w, []⟩
  | fuel + 1, rs, counters, w =>
    if counters.selected = 0 then
      ⟨rs, counters, w, []⟩
    else
      match rs.dropWhile (·.state ≠ .selected) with
      | [] => ⟨rs, counters, w, []⟩
      | first :: behind =>
        let passed := rs.takeWhile (·.state ≠ .selected)
        let header := writeHeaderFrom first behind counters w
        if header.ids.isEmpty then
          ⟨passed ++ (header.done ++ header.rest), header.counters, header.writer, []⟩
        else
          let later := writeFrom fuel header.rest header.counters header.writer
          ⟨passed ++ (header.done ++ later.events), later.counters, later.writer,
            header.ids ++ later.ids⟩

/-- `EventStorage::Write`. -/
def write (lists : EventLists) (w : HeaderWriter) : EventLists × HeaderWriter × List Nat :=
  let result := writeFrom lists.events.length lists.events lists.counters w
  ({ lists with events := result.events, counters := result.counters }, result.writer, result.ids)

/-! ### Confirmations -/

/-- `ClearWritten`: the confirmed events leave the buffer. -/
def clearWritten (lists : EventLists) : EventLists :=
  { lists with
    events := lists.events.filter (·.state ≠ .written)
    counters := (lists.events.filter (·.state = .written)).foldl
      (fun c r => c.onRemove r.clazz r.state) lists.counters }

/-- `Unselect`: keep the total, but clear the selected and written marks. -/
def unselect (lists : EventLists) : EventLists :=
  { lists with
    events := lists.events.map (·.setState .unselected)
    counters := lists.counters.resetOnFail }

/-- `NumUnwritten`. -/
def numUnwritten (lists : EventLists) (clazz : EventClass) : Nat :=
  lists.counters.total.get clazz - lists.counters.written.get clazz

/-! ### What the operations do to the events -/

/-- The event of a new update: unselected, with the next number. -/
theorem events_add (lists : EventLists) (event : AnyEvent) :
    ∃ r : EventRecord, (lists.add event).events = lists.events ++ [r] ∧
      r.id = lists.nextId ∧ r.state = .unselected :=
  ⟨_, rfl, rfl, rfl⟩

variable {type : EventType}

/-- The event that an update pushes out is the oldest of its type, and its type is full. -/
theorem evicted_oldest {oldest : EventRecord} (h : lists.evicted type = some oldest) :
    (lists.getList type).head? = some oldest ∧
      (lists.getList type).length = lists.config.capacity type ∧ oldest ∈ lists.events := by
  unfold evicted at h
  split at h
  · rename_i hfull
    unfold isFullAndCapacityNotZero at hfull
    rw [Bool.and_eq_true, beq_iff_eq] at hfull
    have hmem : oldest ∈ lists.getList type := List.mem_of_mem_head? h
    exact ⟨h, hfull.2, (List.mem_filter.mp hmem).1⟩
  · cases h

/-- **What an update does**: it appends the event to the others, of which at most the oldest one of
    a full type has been taken out, or it does nothing. -/
theorem update_eq (lists : EventLists) (event : AnyEvent) :
    (lists.update event).1 = lists ∨
      ∃ base : EventLists, (lists.update event).1 = base.add event ∧ base.nextId = lists.nextId ∧
        (∀ r ∈ base.events, r ∈ lists.events) ∧
        (∀ r ∈ lists.events, r ∈ base.events ∨
          ∃ oldest, lists.evicted event.type = some oldest ∧ oldest.id = r.id) ∧
        base.counters.selected ≤ lists.counters.selected := by
  unfold update
  split
  · exact .inl rfl
  · right
    split
    · exact ⟨lists, rfl, rfl, fun _ h => h, fun _ h => .inl h, Nat.le_refl _⟩
    · rename_i oldest hevicted
      refine ⟨_, rfl, rfl, fun _ => List.mem_of_mem_eraseP, ?_, ?_⟩
      · intro r hr
        by_cases hid : r.id = oldest.id
        · exact .inr ⟨oldest, hevicted, hid.symm⟩
        · exact .inl ((List.mem_eraseP_of_neg (by simpa using hid)).mpr hr)
      · -- the event that is pushed out may have been selected
        change (lists.counters.onRemove oldest.clazz oldest.state).selected ≤ _
        cases oldest.state with
        | selected => exact Nat.sub_le _ _
        | written | unselected => exact Nat.le_refl _

/-- The events of an updated buffer: those from before and the new one. -/
theorem mem_of_mem_update (h : r ∈ (lists.update event).1.events) :
    r ∈ lists.events ∨ (r.id = lists.nextId ∧ r.state = .unselected) := by
  rcases lists.update_eq event with hsame | ⟨base, hadd, hnext, hold, -⟩
  · exact .inl (hsame ▸ h)
  · obtain ⟨new, hevents, hid, hstate⟩ := base.events_add event
    rw [hadd, hevents, List.mem_append, List.mem_singleton] at h
    rcases h with hmem | rfl
    · exact .inl (hold r hmem)
    · exact .inr ⟨hid.trans hnext, hstate⟩

/-- How a record changes when it is selected. -/
def Selects (r r' : EventRecord) : Prop :=
  r' = r ∨ (r.state = .unselected ∧ r'.state = .selected ∧ r'.id = r.id)

theorem exists_of_forall₂ {R : EventRecord → EventRecord → Prop}
    {before after : List EventRecord} (h : List.Forall₂ R before after) {r' : EventRecord}
    (hr' : r' ∈ after) : ∃ r ∈ before, R r r' := by
  induction h with
  | nil => cases hr'
  | cons hhead _ ih =>
    rcases List.mem_cons.mp hr' with rfl | htail
    · exact ⟨_, List.mem_cons_self, hhead⟩
    · obtain ⟨r, hr, hR⟩ := ih htail
      exact ⟨r, List.mem_cons_of_mem _ hr, hR⟩

/-- A walk over the master list leaves a record as it is or marks it. -/
theorem selectFrom_marks (max : Nat) (rs : List EventRecord) :
    List.Forall₂ (fun r r' => r' = r ∨ (r.state = .unselected ∧ wanted r = true ∧ r' = mark r))
      rs (selectFrom wanted mark max rs).1 := by
  induction rs generalizing max with
  | nil => unfold selectFrom; exact .nil
  | cons r rs ih =>
    cases max with
    | zero =>
      exact List.forall₂_same.mpr fun _ _ => .inl rfl
    | succ max =>
      unfold selectFrom
      split
      · rename_i hr
        rw [Bool.and_eq_true, decide_eq_true_eq] at hr
        exact .cons (.inr ⟨hr.1, hr.2, rfl⟩) (ih max)
      · exact .cons (.inl rfl) (ih (max + 1))

theorem selectFrom_spec
    (hmark : ∀ r, wanted r = true → (mark r).state = .selected ∧ (mark r).id = r.id)
    (max : Nat) (rs : List EventRecord) :
    List.Forall₂ Selects rs (selectFrom wanted mark max rs).1 := by
  refine (selectFrom_marks max rs).imp ?_
  rintro r _ (rfl | ⟨hstate, hwanted, rfl⟩)
  · exact .inl rfl
  · exact .inr ⟨hstate, hmark r hwanted⟩

/-- A record is selected after `selectFrom` because it was before, or because it was wanted. -/
theorem mem_selectFrom {max : Nat} {rs : List EventRecord} {r' : EventRecord}
    (h : r' ∈ (selectFrom wanted mark max rs).1) :
    r' ∈ rs ∨ ∃ r ∈ rs, wanted r = true ∧ r' = mark r := by
  obtain ⟨r, hr, rfl | ⟨-, hwanted, heq⟩⟩ := exists_of_forall₂ (selectFrom_marks max rs) h
  · exact .inl hr
  · exact .inr ⟨r, hr, hwanted, heq⟩

/-- **What writing does to the master list**: some selected records, in their order, are marked as
    written, and the others stay as they are. -/
inductive Wrote : List EventRecord → List EventRecord → List EventRecord → Prop where
  | nil : Wrote [] [] []
  | keep (r : EventRecord) {rs rs' written : List EventRecord} (h : Wrote rs rs' written) :
    Wrote (r :: rs) (r :: rs') written
  | write (r : EventRecord) (hselected : r.state = .selected) {rs rs' written : List EventRecord}
    (h : Wrote rs rs' written) : Wrote (r :: rs) (r.setState .written :: rs') (r :: written)

theorem Wrote.refl (rs : List EventRecord) : Wrote rs rs [] := by
  induction rs with
  | nil => exact .nil
  | cons r rs ih => exact .keep r ih

theorem Wrote.append {rs₁ rs₁' written₁ rs₂ rs₂' written₂ : List EventRecord}
    (h₁ : Wrote rs₁ rs₁' written₁) (h₂ : Wrote rs₂ rs₂' written₂) :
    Wrote (rs₁ ++ rs₂) (rs₁' ++ rs₂') (written₁ ++ written₂) := by
  induction h₁ with
  | nil => exact h₂
  | keep r _ ih => exact .keep r ih
  | write r hselected _ ih => exact .write r hselected ih

/-- The counters after these events have been written. -/
def onWriteAll (counters : EventClassCounters) (written : List EventRecord) :
    EventClassCounters :=
  written.foldl (fun c r => c.onWrite r.clazz) counters

theorem onWriteAll_append (counters : EventClassCounters) (first second : List EventRecord) :
    onWriteAll counters (first ++ second) = onWriteAll (onWriteAll counters first) second :=
  List.foldl_append

theorem progress_writeRecord {variation : type.spec.EventVariation}
    {handler : EventWriter type.spec.Meas} {p p' : WriteProgress type.spec.Meas}
    (h : writeRecord type variation handler p r = some p') :
    p'.ids = p.ids ++ [r.id] ∧ p'.counters = p.counters.onWrite r.clazz := by
  unfold writeRecord at h
  split at h
  · dsimp only at h
    split at h
    · rw [Option.bind_eq_bind, Option.bind_eq_some_iff] at h
      obtain ⟨meas, -, h⟩ := h
      rw [Option.bind_eq_bind, Option.bind_eq_some_iff] at h
      obtain ⟨iter, -, h⟩ := h
      rw [Option.bind_eq_bind, Option.bind_eq_some_iff] at h
      obtain ⟨written, -, h⟩ := h
      cases h
      exact ⟨rfl, rfl⟩
    · cases h
  · cases h

theorem wrote_writeSome {variation : type.spec.EventVariation}
    {handler : EventWriter type.spec.Meas} (rs : List EventRecord)
    (p : WriteProgress type.spec.Meas) :
    ∃ front written, rs = front ++ (writeSome type variation handler rs p).2.1 ∧
      Wrote front (writeSome type variation handler rs p).1 written ∧
      (writeSome type variation handler rs p).2.2.ids = p.ids ++ written.map EventRecord.id ∧
      (writeSome type variation handler rs p).2.2.counters = onWriteAll p.counters written := by
  induction rs generalizing p with
  | nil => exact ⟨[], [], rfl, .nil, (List.append_nil _).symm, rfl⟩
  | cons r rs ih =>
    -- every way to stop leaves the rest as it is
    have hstop : ∃ front written, r :: rs = front ++ r :: rs ∧ Wrote front [] written ∧
        p.ids = p.ids ++ written.map EventRecord.id ∧
        p.counters = onWriteAll p.counters written :=
      ⟨[], [], rfl, .nil, (List.append_nil _).symm, rfl⟩
    unfold writeSome
    split
    · exact hstop
    · split
      · rename_i hselected
        split
        · exact hstop
        · rename_i p' hwrite
          obtain ⟨hids, hcounters⟩ := progress_writeRecord hwrite
          obtain ⟨front, written, hfront, hwrote, hids', hcounters'⟩ := ih p'
          refine ⟨r :: front, r :: written, congrArg (r :: ·) hfront, .write r hselected hwrote,
            ?_, ?_⟩
          · rw [hids', hids, List.append_assoc]
            rfl
          · rw [hcounters', hcounters]
            rfl
      · obtain ⟨front, written, hfront, hwrote, hids, hcounters⟩ := ih p
        exact ⟨r :: front, written, congrArg (r :: ·) hfront, .keep r hwrote, hids, hcounters⟩

theorem wrote_writeHeaderFrom (first : EventRecord) (behind : List EventRecord)
    (counters : EventClassCounters) (w : HeaderWriter) :
    ∃ front written, first :: behind = front ++ (writeHeaderFrom first behind counters w).rest ∧
      Wrote front (writeHeaderFrom first behind counters w).done written ∧
      (writeHeaderFrom first behind counters w).ids = written.map EventRecord.id ∧
      (writeHeaderFrom first behind counters w).counters = onWriteAll counters written := by
  exact wrote_writeSome (first :: behind) _

/-- A header that takes an event leaves fewer records. -/
theorem rest_writeHeaderFrom (first : EventRecord) (behind : List EventRecord)
    (counters : EventClassCounters) (w : HeaderWriter)
    (h : (writeHeaderFrom first behind counters w).ids ≠ []) :
    (writeHeaderFrom first behind counters w).rest.length ≤ behind.length := by
  obtain ⟨front, written, hfront, hwrote, hids, -⟩ :=
    wrote_writeHeaderFrom first behind counters w
  generalize writeHeaderFrom first behind counters w = header at hfront hwrote hids h ⊢
  have hlength := congrArg List.length hfront
  rw [List.length_append, List.length_cons] at hlength
  cases front with
  | nil =>
    have hnone : written = [] := by
      generalize header.done = done at hwrote
      cases hwrote
      rfl
    rw [hnone] at hids
    exact absurd hids h
  | cons r front =>
    rw [List.length_cons] at hlength
    omega

/-- The round of the loop that finds a selected record passes over those before it. -/
theorem split_at_selected {rs behind : List EventRecord} {first : EventRecord}
    (h : rs.dropWhile (·.state ≠ .selected) = first :: behind) :
    rs = rs.takeWhile (·.state ≠ .selected) ++ first :: behind ∧ first.state = .selected := by
  constructor
  · rw [← h]
    exact (List.takeWhile_append_dropWhile ..).symm
  · have hhead := List.head?_dropWhile_not (fun r : EventRecord => decide (r.state ≠ .selected)) rs
    rw [h] at hhead
    simpa using hhead

theorem wrote_writeFrom (fuel : Nat) (rs : List EventRecord) (counters : EventClassCounters)
    (w : HeaderWriter) :
    ∃ written, Wrote rs (writeFrom fuel rs counters w).events written ∧
      (writeFrom fuel rs counters w).ids = written.map EventRecord.id ∧
      (writeFrom fuel rs counters w).counters = onWriteAll counters written := by
  induction fuel generalizing rs counters w with
  | zero => exact ⟨[], .refl rs, rfl, rfl⟩
  | succ fuel ih =>
    unfold writeFrom
    split
    · exact ⟨[], .refl rs, rfl, rfl⟩
    · split
      · exact ⟨[], .refl rs, rfl, rfl⟩
      · rename_i first behind hdrop
        -- the records before the first selected one are passed over, then comes a header
        obtain ⟨hrs, -⟩ := split_at_selected hdrop
        obtain ⟨front, written, hfront, hwrote, hids, hcounters⟩ :=
          wrote_writeHeaderFrom first behind counters w
        generalize writeHeaderFrom first behind counters w = header at hfront hwrote hids hcounters
        have hjoin : ∀ later more, Wrote header.rest later more →
            Wrote rs (rs.takeWhile (·.state ≠ .selected) ++ (header.done ++ later))
              (written ++ more) := by
          intro later more hlater
          have h := (Wrote.refl (rs.takeWhile (·.state ≠ .selected))).append
            (hwrote.append hlater)
          rwa [← hfront, ← hrs] at h
        dsimp only
        split
        · rename_i hnone
          -- the header took nothing
          rw [List.isEmpty_iff, hids, List.map_eq_nil_iff] at hnone
          subst hnone
          exact ⟨[], hjoin _ _ (.refl _), rfl, hcounters⟩
        · obtain ⟨more, hmore, hids', hcounters'⟩ := ih header.rest header.counters header.writer
          refine ⟨written ++ more, hjoin _ _ hmore, ?_, ?_⟩
          · rw [hids, hids', List.map_append]
          · rw [hcounters', hcounters, onWriteAll_append]

/-- **What `Write` does**: it marks selected events as written, reports them in their order, and
    counts them. -/
theorem wrote_write (lists : EventLists) (w : HeaderWriter) :
    ∃ written, Wrote lists.events (lists.write w).1.events written ∧
      (lists.write w).2.2 = written.map EventRecord.id ∧
      (lists.write w).1.counters = onWriteAll lists.counters written :=
  wrote_writeFrom ..

/-- The records that were written are among those of the list. -/
theorem Wrote.mem {rs rs' written : List EventRecord} (h : Wrote rs rs' written)
    (hr : r ∈ written) : r ∈ rs ∧ r.state = .selected ∧ r.setState .written ∈ rs' := by
  induction h with
  | nil => cases hr
  | keep r' _ ih =>
    obtain ⟨hmem, hstate, hmem'⟩ := ih hr
    exact ⟨List.mem_cons_of_mem _ hmem, hstate, List.mem_cons_of_mem _ hmem'⟩
  | write r' hselected _ ih =>
    rcases List.mem_cons.mp hr with rfl | hr
    · exact ⟨List.mem_cons_self, hselected, List.mem_cons_self⟩
    · obtain ⟨hmem, hstate, hmem'⟩ := ih hr
      exact ⟨List.mem_cons_of_mem _ hmem, hstate, List.mem_cons_of_mem _ hmem'⟩

/-- How a record changes when the events with numbers in `ids` are written. -/
def Writes (ids : List Nat) (r r' : EventRecord) : Prop :=
  r' = r ∨ (r.state = .selected ∧ r.id ∈ ids ∧ r' = r.setState .written)

theorem Wrote.forall₂ {rs rs' written : List EventRecord} (h : Wrote rs rs' written)
    {ids : List Nat} (hids : ∀ r ∈ written, r.id ∈ ids) : List.Forall₂ (Writes ids) rs rs' := by
  induction h with
  | nil => exact .nil
  | keep r _ ih => exact .cons (.inl rfl) (ih hids)
  | write r hselected _ ih =>
    refine .cons (.inr ⟨hselected, hids r List.mem_cons_self, rfl⟩) (ih ?_)
    exact fun r' hr' => hids r' (List.mem_cons_of_mem _ hr')

/-- **Writing marks selected events as written, reports them, and does nothing else.** -/
theorem write_spec (lists : EventLists) (w : HeaderWriter) :
    List.Forall₂ (Writes (lists.write w).2.2) lists.events (lists.write w).1.events := by
  obtain ⟨written, hwrote, hids, -⟩ := lists.wrote_write w
  apply hwrote.forall₂
  intro r hr
  rw [hids]
  exact List.mem_map_of_mem hr

theorem ids_of_forall₂ {R : EventRecord → EventRecord → Prop}
    (hR : ∀ r r', R r r' → r'.id = r.id) {before after : List EventRecord}
    (h : List.Forall₂ R before after) :
    after.map EventRecord.id = before.map EventRecord.id := by
  induction h with
  | nil => rfl
  | cons h _ ih => rw [List.map_cons, List.map_cons, hR _ _ h, ih]

/-- Selecting loses no event and writes none. -/
theorem selectWhere_spec
    (hmark : ∀ r, wanted r = true → (mark r).state = .selected ∧ (mark r).id = r.id) (max : Nat) :
    (lists.selectWhere wanted mark max).ids = lists.ids ∧
      ∀ id ∈ (lists.selectWhere wanted mark max).idsIn .written, id ∈ lists.idsIn .written := by
  have hall := selectFrom_spec hmark max lists.events
  refine ⟨ids_of_forall₂ ?_ hall, ?_⟩
  · rintro r r' (rfl | ⟨-, -, hid⟩)
    · rfl
    · exact hid
  · intro id hid
    rw [mem_idsIn] at hid ⊢
    obtain ⟨r', hr', hwritten, hid⟩ := hid
    obtain ⟨r, hr, rfl | ⟨-, hselected, -⟩⟩ := exists_of_forall₂ hall hr'
    · exact ⟨r', hr, hwritten, hid⟩
    · rw [hselected] at hwritten
      cases hwritten

theorem ids_write (lists : EventLists) (w : HeaderWriter) :
    (lists.write w).1.ids = lists.ids := by
  refine ids_of_forall₂ ?_ (lists.write_spec w)
  rintro r r' (rfl | ⟨-, -, rfl⟩) <;> rfl

/-- After a write, the written events are those from before and those it reports. -/
theorem written_write {w : HeaderWriter} (h : id ∈ (lists.write w).1.idsIn .written) :
    id ∈ lists.idsIn .written ∨ id ∈ (lists.write w).2.2 := by
  rw [mem_idsIn] at h ⊢
  obtain ⟨r', hr', hwritten, hid⟩ := h
  obtain ⟨r, hr, rfl | ⟨-, hmem, rfl⟩⟩ := exists_of_forall₂ (lists.write_spec w) hr'
  · exact .inl ⟨r', hr, hwritten, hid⟩
  · exact .inr (hid ▸ hmem)

theorem ids_unselect (lists : EventLists) : lists.unselect.ids = lists.ids := by
  unfold ids unselect
  rw [List.map_map]
  rfl

theorem written_unselect (lists : EventLists) : lists.unselect.idsIn .written = [] := by
  unfold idsIn unselect
  rw [List.map_eq_nil_iff, List.filter_eq_nil_iff]
  intro r hr
  obtain ⟨r, -, rfl⟩ := List.mem_map.mp hr
  simp

theorem written_clearWritten (lists : EventLists) : lists.clearWritten.idsIn .written = [] := by
  unfold idsIn clearWritten
  rw [List.map_eq_nil_iff, List.filter_eq_nil_iff]
  intro r hr
  simpa using (List.mem_filter.mp hr).2

/-- Clearing removes written events only. -/
theorem mem_clearWritten (h : id ∈ lists.ids) :
    id ∈ lists.clearWritten.ids ∨ id ∈ lists.idsIn .written := by
  rw [mem_ids] at h
  obtain ⟨r, hr, hid⟩ := h
  by_cases hwritten : r.state = .written
  · exact .inr (mem_idsIn.mpr ⟨r, hr, hwritten, hid⟩)
  · refine .inl (mem_ids.mpr ⟨r, ?_, hid⟩)
    exact List.mem_filter.mpr ⟨hr, decide_eq_true hwritten⟩

theorem written_update
    (h : id ∈ (lists.update event).1.idsIn .written) : id ∈ lists.idsIn .written := by
  rw [mem_idsIn] at h ⊢
  obtain ⟨r, hr, hwritten, hid⟩ := h
  rcases mem_of_mem_update hr with hold | ⟨-, hnew⟩
  · exact ⟨r, hold, hwritten, hid⟩
  · rw [hnew] at hwritten
    cases hwritten

/-- An update loses at most the event that it pushes out. -/
theorem ids_update (event : AnyEvent) (h : id ∈ lists.ids) :
    id ∈ (lists.update event).1.ids ∨
      ∃ oldest, lists.evicted event.type = some oldest ∧ oldest.id = id := by
  rcases lists.update_eq event with hsame | ⟨base, hadd, -, -, hkept, -⟩
  · exact .inl (hsame.symm ▸ h)
  · obtain ⟨r, hr, rfl⟩ := mem_ids.mp h
    refine (hkept r hr).imp_left fun hmem => mem_ids.mpr ⟨r, ?_, rfl⟩
    rw [hadd]
    exact List.mem_append_left _ hmem

/-- A new event is not selected, and the one that it pushes out may have been. -/
theorem selected_update_le (lists : EventLists) (event : AnyEvent) :
    (lists.update event).1.counters.selected ≤ lists.counters.selected := by
  rcases lists.update_eq event with hsame | ⟨base, hadd, -, -, -, hle⟩
  · rw [hsame]
  · rw [hadd]
    exact hle

/-- Written events are not counted among the selected ones. -/
theorem selected_clearWritten (lists : EventLists) :
    lists.clearWritten.counters.selected = lists.counters.selected := by
  have hloop : ∀ (rs : List EventRecord) (c : EventClassCounters),
      (∀ r ∈ rs, r.state = .written) →
      (rs.foldl (fun c r => c.onRemove r.clazz r.state) c).selected = c.selected := by
    intro rs
    induction rs with
    | nil => exact fun c _ => rfl
    | cons r rs ih =>
      intro c h
      rw [List.foldl_cons, ih _ fun r' hr' => h r' (List.mem_cons_of_mem r hr')]
      unfold EventClassCounters.onRemove
      rw [h r List.mem_cons_self]
  refine hloop _ _ fun r hr => ?_
  exact of_decide_eq_true (List.mem_filter.mp hr).2

/-- The event of an update is in the buffer. -/
theorem mem_update_new (hnew : ¬ id < lists.nextId) (hid : id < (lists.update event).1.nextId) :
    id ∈ (lists.update event).1.ids := by
  rcases lists.update_eq event with hsame | ⟨base, hadd, hnext, -⟩
  · exact absurd (hsame ▸ hid) hnew
  · obtain ⟨r, hevents, hr, -⟩ := base.events_add event
    rw [hadd] at hid ⊢
    have hlt : id < base.nextId + 1 := hid
    exact mem_ids.mpr ⟨r, by simp [hevents], by omega⟩

end EventLists

/-! ## The interface to the outstation -/

/-- What a request selects: the events of a type, in a variation, or those of a class. -/
inductive EventTarget where
  | ofType (type : EventType) (variation : Option type.spec.EventVariation)
  | ofClass (clazz : EventClass)

/-- The switch of `SelectMaxCount`. -/
def EventTarget.of : GroupVariation → Option EventTarget
  | ⟨2, 0⟩ => some (.ofType .Binary none)
  | ⟨2, 1⟩ => some (.ofType .Binary (some EventBinaryVariation.Group2Var1))
  | ⟨2, 2⟩ => some (.ofType .Binary (some EventBinaryVariation.Group2Var2))
  | ⟨2, 3⟩ => some (.ofType .Binary (some EventBinaryVariation.Group2Var3))
  | ⟨4, 0⟩ => some (.ofType .DoubleBitBinary none)
  | ⟨4, 1⟩ => some (.ofType .DoubleBitBinary (some EventDoubleBinaryVariation.Group4Var1))
  | ⟨4, 2⟩ => some (.ofType .DoubleBitBinary (some EventDoubleBinaryVariation.Group4Var2))
  | ⟨4, 3⟩ => some (.ofType .DoubleBitBinary (some EventDoubleBinaryVariation.Group4Var3))
  | ⟨11, 0⟩ => some (.ofType .BinaryOutputStatus none)
  | ⟨11, 1⟩ =>
    some (.ofType .BinaryOutputStatus (some EventBinaryOutputStatusVariation.Group11Var1))
  | ⟨11, 2⟩ =>
    some (.ofType .BinaryOutputStatus (some EventBinaryOutputStatusVariation.Group11Var2))
  | ⟨22, 0⟩ => some (.ofType .Counter none)
  | ⟨22, 1⟩ => some (.ofType .Counter (some EventCounterVariation.Group22Var1))
  | ⟨22, 2⟩ => some (.ofType .Counter (some EventCounterVariation.Group22Var2))
  | ⟨22, 5⟩ => some (.ofType .Counter (some EventCounterVariation.Group22Var5))
  | ⟨22, 6⟩ => some (.ofType .Counter (some EventCounterVariation.Group22Var6))
  | ⟨23, 0⟩ => some (.ofType .FrozenCounter none)
  | ⟨23, 1⟩ => some (.ofType .FrozenCounter (some EventFrozenCounterVariation.Group23Var1))
  | ⟨23, 2⟩ => some (.ofType .FrozenCounter (some EventFrozenCounterVariation.Group23Var2))
  | ⟨23, 5⟩ => some (.ofType .FrozenCounter (some EventFrozenCounterVariation.Group23Var5))
  | ⟨23, 6⟩ => some (.ofType .FrozenCounter (some EventFrozenCounterVariation.Group23Var6))
  | ⟨32, 0⟩ => some (.ofType .Analog none)
  | ⟨32, 1⟩ => some (.ofType .Analog (some EventAnalogVariation.Group32Var1))
  | ⟨32, 2⟩ => some (.ofType .Analog (some EventAnalogVariation.Group32Var2))
  | ⟨32, 3⟩ => some (.ofType .Analog (some EventAnalogVariation.Group32Var3))
  | ⟨32, 4⟩ => some (.ofType .Analog (some EventAnalogVariation.Group32Var4))
  | ⟨32, 5⟩ => some (.ofType .Analog (some EventAnalogVariation.Group32Var5))
  | ⟨32, 6⟩ => some (.ofType .Analog (some EventAnalogVariation.Group32Var6))
  | ⟨32, 7⟩ => some (.ofType .Analog (some EventAnalogVariation.Group32Var7))
  | ⟨32, 8⟩ => some (.ofType .Analog (some EventAnalogVariation.Group32Var8))
  | ⟨42, 0⟩ => some (.ofType .AnalogOutputStatus none)
  | ⟨42, 1⟩ =>
    some (.ofType .AnalogOutputStatus (some EventAnalogOutputStatusVariation.Group42Var1))
  | ⟨42, 2⟩ =>
    some (.ofType .AnalogOutputStatus (some EventAnalogOutputStatusVariation.Group42Var2))
  | ⟨42, 3⟩ =>
    some (.ofType .AnalogOutputStatus (some EventAnalogOutputStatusVariation.Group42Var3))
  | ⟨42, 4⟩ =>
    some (.ofType .AnalogOutputStatus (some EventAnalogOutputStatusVariation.Group42Var4))
  | ⟨42, 5⟩ =>
    some (.ofType .AnalogOutputStatus (some EventAnalogOutputStatusVariation.Group42Var5))
  | ⟨42, 6⟩ =>
    some (.ofType .AnalogOutputStatus (some EventAnalogOutputStatusVariation.Group42Var6))
  | ⟨42, 7⟩ =>
    some (.ofType .AnalogOutputStatus (some EventAnalogOutputStatusVariation.Group42Var7))
  | ⟨42, 8⟩ =>
    some (.ofType .AnalogOutputStatus (some EventAnalogOutputStatusVariation.Group42Var8))
  | ⟨60, 2⟩ => some (.ofClass .EC1)
  | ⟨60, 3⟩ => some (.ofClass .EC2)
  | ⟨60, 4⟩ => some (.ofClass .EC3)
  | ⟨111, 0⟩ => some (.ofType .OctetString (some EventOctetStringVariation.Group111Var0))
  | _ => none

/-- The events and whether one was lost since the flag was cleared. -/
structure EventBuffer where
  lists : EventLists
  overflow : Bool

namespace EventBuffer

def ofConfig (config : EventBufferConfig) : EventBuffer := ⟨.ofConfig config, false⟩

/-- `UpdateAny`. -/
def update (b : EventBuffer) (event : AnyEvent) : EventBuffer :=
  let (lists, overflow) := b.lists.update event
  ⟨lists, b.overflow || overflow⟩

def unselect (b : EventBuffer) : EventBuffer := { b with lists := b.lists.unselect }

/-- `SelectMaxCount`. -/
def selectMaxCount (b : EventBuffer) (gv : GroupVariation) (maximum : Nat) :
    EventBuffer × IINField :=
  match EventTarget.of gv with
  | some (.ofType type variation) =>
    ({ b with lists := b.lists.selectByType type variation maximum }, .empty)
  | some (.ofClass clazz) =>
    ({ b with lists := b.lists.selectByClass (.ofEventClass clazz) maximum }, .empty)
  | none => (b, IINBit.FUNC_NOT_SUPPORTED.mask)

/-- The maximum that stands for all. -/
def MAX : Nat := 2 ^ 32 - 1

def selectAll (b : EventBuffer) (gv : GroupVariation) : EventBuffer × IINField :=
  b.selectMaxCount gv MAX

def selectCount (b : EventBuffer) (gv : GroupVariation) (count : Nat) : EventBuffer × IINField :=
  b.selectMaxCount gv count

def selectAllByClass (b : EventBuffer) (clazz : ClassField) : EventBuffer :=
  { b with lists := b.lists.selectByClass clazz MAX }

/-- Are there any selected, but unwritten, events? -/
def hasAnySelection (b : EventBuffer) : Bool := b.lists.counters.selected > 0

/-- `Load`: the buffer, the written bytes, the numbers of the events written, and whether all
    selected events were written. -/
def load (b : EventBuffer) (w : HeaderWriter) : EventBuffer × HeaderWriter × List Nat × Bool :=
  let (lists, w, ids) := b.lists.write w
  ({ b with lists }, w, ids, lists.counters.selected == 0)

/-- Called when a transmission succeeds. -/
def clearWritten (b : EventBuffer) : EventBuffer := { b with lists := b.lists.clearWritten }

def unwrittenClassField (b : EventBuffer) : ClassField :=
  ⟨false, b.lists.numUnwritten .EC1 > 0, b.lists.numUnwritten .EC2 > 0,
    b.lists.numUnwritten .EC3 > 0⟩

/-- The overflow flag goes out when no type is full any more. -/
def isOverflown (b : EventBuffer) : EventBuffer × Bool :=
  if b.overflow && !b.lists.isAnyTypeFull then ({ b with overflow := false }, false)
  else (b, b.overflow)

variable (b : EventBuffer)

@[simp] theorem lists_isOverflown : b.isOverflown.1.lists = b.lists := by
  unfold isOverflown
  split <;> rfl

/-- Selecting by type or class loses no event and writes none. -/
theorem selectMaxCount_spec (gv : GroupVariation) (maximum : Nat) :
    (b.selectMaxCount gv maximum).1.lists.ids = b.lists.ids ∧
      ∀ id ∈ (b.selectMaxCount gv maximum).1.lists.idsIn .written,
        id ∈ b.lists.idsIn .written := by
  unfold selectMaxCount
  split
  · apply EventLists.selectWhere_spec
    intro r hr
    exact ⟨EventRecord.state_selectAs _ (of_decide_eq_true hr), EventRecord.id_selectAs ..⟩
  · apply EventLists.selectWhere_spec
    intro r _
    exact ⟨rfl, rfl⟩
  · exact ⟨rfl, fun _ h => h⟩

theorem nextId_selectMaxCount (gv : GroupVariation) (maximum : Nat) :
    (b.selectMaxCount gv maximum).1.lists.nextId = b.lists.nextId := by
  unfold selectMaxCount
  split <;> rfl

theorem selectAllByClass_spec (clazz : ClassField) :
    (b.selectAllByClass clazz).lists.ids = b.lists.ids ∧
      ∀ id ∈ (b.selectAllByClass clazz).lists.idsIn .written, id ∈ b.lists.idsIn .written := by
  apply EventLists.selectWhere_spec
  intro r _
  exact ⟨rfl, rfl⟩

/-- **Only events of these classes are selected.** -/
theorem class_of_selectAllByClass (clazz : ClassField) {r : EventRecord}
    (h : r ∈ (b.unselect.selectAllByClass clazz).lists.events) (hselected : r.state = .selected) :
    clazz.hasEventType r.clazz = true := by
  -- nothing was selected before, so the record was wanted
  rcases EventLists.mem_selectFrom h with hmem | ⟨r₀, -, hwanted, rfl⟩
  · obtain ⟨r₀, -, rfl⟩ := List.mem_map.mp hmem
    cases hselected
  · exact hwanted

end EventBuffer

end OpenDnp3.Outstation
