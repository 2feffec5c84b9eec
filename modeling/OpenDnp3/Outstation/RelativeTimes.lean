import Mathlib.Data.List.TakeWhile
import OpenDnp3.App.CommandHeader
import OpenDnp3.Master.MeasurementHandler
import OpenDnp3.Outstation.EventEncoding

/-!
# Events with relative times

Binary and double-bit events can be sent with a 16-bit offset from a common time of occurrence
(Group2Var3 and Group4Var3).  The outstation opens a new common time whenever the next event does
not fit under the last one, and the master adds the last common time to the offsets it reads.

The objects have no field for the value: it is read off the flags.  A measurement whose flags say
something else than its value, which `Modify` makes by changing the flags alone, arrives with
another value.
-/

namespace OpenDnp3

open App Lib

/-! ## Values in the flags -/

namespace App

/-- `flags::GetBinaryValue`. -/
def getBinaryValue (flags : UInt8) : Bool := flags &&& 0x80 != 0

/-- `DoubleBitBinary::GetValue`: the top two bits. -/
def getDoubleBitValue (flags : UInt8) : DoubleBit :=
  match (flags >>> 6).toNat with
  | 0 => .INTERMEDIATE
  | 1 => .DETERMINED_OFF
  | 2 => .DETERMINED_ON
  | _ => .INDETERMINATE

/-- A `Binary` or a `DoubleBitBinary`. -/
abbrev BinaryOrDouble := TypedMeasurement (Bool ⊕ DoubleBit)

/-- The value of the same type that these flags stand for. -/
def valueOfFlags (value : Bool ⊕ DoubleBit) (flags : UInt8) : Bool ⊕ DoubleBit :=
  value.map (fun _ => getBinaryValue flags) (fun _ => getDoubleBitValue flags)

/-- The flags say what the value is. -/
def BinaryOrDouble.Agrees (meas : BinaryOrDouble) : Prop :=
  valueOfFlags meas.value meas.flags = meas.value

instance (meas : BinaryOrDouble) : Decidable meas.Agrees :=
  inferInstanceAs (Decidable (_ = _))

/-- The object with a relative time for the type. -/
def relativeVariation : Bool ⊕ DoubleBit → GroupVariation
  | .inl _ => ⟨2, 3⟩
  | .inr _ => ⟨4, 3⟩

end App

namespace Master

/-- `Group2Var3::ReadTarget` and `Group4Var3::ReadTarget`. -/
def readRelative (gv : GroupVariation) (object : List UInt8) : Option BinaryOrDouble :=
  match gv, object with
  | ⟨2, 3⟩, flags :: time =>
    some ⟨.inl (getBinaryValue flags), flags, .ofValue (decodeLE time)⟩
  | ⟨4, 3⟩, flags :: time =>
    some ⟨.inr (getDoubleBitValue flags), flags, .ofValue (decodeLE time)⟩
  | _, _ => none

/-- What `ProcessWithCTO` makes of a relative time. -/
def addCommonTime (cto : Option DNPTime) (time : DNPTime) : DNPTime :=
  match cto with
  | none => time
  | some cto => ⟨time.value + cto.value, cto.quality⟩

/-- The object at its index, with its time. -/
def readIndexed (gv : GroupVariation) (cto : Option DNPTime) (item : Nat × List UInt8) :
    Option (Nat × BinaryOrDouble) :=
  (readRelative gv item.2).map fun meas =>
    (item.1, { meas with time := addCommonTime cto meas.time })

/-- The measurements with relative times that a call hands to the user. -/
def SOECall.relatives : SOECall → List (Nat × BinaryOrDouble)
  | .process _ (.indexed record items) cto =>
    items.filterMap (readIndexed record.enumeration cto)
  | _ => []

def relatives (calls : List SOECall) : List (Nat × BinaryOrDouble) :=
  calls.flatMap SOECall.relatives

theorem relatives_append (calls more : List SOECall) :
    relatives (calls ++ more) = relatives calls ++ relatives more := List.flatMap_append

namespace MeasurementHandler

theorem relatives_checkForTxStart (h : MeasurementHandler) :
    relatives h.checkForTxStart.calls = relatives h.calls := by
  unfold checkForTxStart
  split
  · rfl
  · rw [relatives_append]
    exact List.append_nil _

theorem relatives_finish (h : MeasurementHandler) : relatives h.finish = relatives h.calls := by
  unfold finish
  split
  · rw [relatives_append]
    exact List.append_nil _
  · rfl

/-- The common time from a header of its own. -/
def commonTime (time : DNPTime) : DNPTime :=
  ⟨time.value, if time.quality = .SYNCHRONIZED then .SYNCHRONIZED else .UNSYNCHRONIZED⟩

/-- **Two headers at work**: a common time, then the objects it is for. -/
theorem relatives_onHeader (h : MeasurementHandler) {cto items : HeaderRecord} {object : List UInt8}
    {objects : List (Nat × List UInt8)} {time : DNPTime} (hvalue : decodeLE object = time.value)
    (hcto : cto.enumeration = if time.quality = .SYNCHRONIZED then ⟨51, 1⟩ else ⟨51, 2⟩)
    (hitems : items.enumeration = ⟨2, 3⟩ ∨ items.enumeration = ⟨4, 3⟩) :
    relatives ((h.onHeader (.countOf cto [object])).onHeader (.indexed items objects)).calls =
      relatives h.calls ++
        objects.filterMap (readIndexed items.enumeration (some (commonTime time))) := by
  -- the first header sets the common time and hands nothing on
  have htime : (h.onHeader (.countOf cto [object])).commonTimeOccurence = commonTime time ∧
      (h.onHeader (.countOf cto [object])).calls = h.calls := by
    unfold commonTime onHeader processHeader processCTO
    rw [← hvalue]
    by_cases hquality : time.quality = .SYNCHRONIZED
    · rw [if_pos hquality] at hcto
      simp [hcto, hquality]
    · rw [if_neg hquality] at hcto
      simp [hcto, hquality]
  generalize h.onHeader (.countOf cto [object]) = timed at htime ⊢
  have hvalid : timed.commonTimeOccurence.quality ≠ .INVALID := by
    rw [htime.1]
    unfold commonTime
    split <;> nofun
  have hcalls : (timed.onHeader (.indexed items objects)).calls = timed.checkForTxStart.calls ++
      [.process ⟨items.enumeration, items.qualifier, timed.commonTimeOccurence.quality,
        items.headerIndex⟩ (.indexed items objects) (some timed.commonTimeOccurence)] := by
    change (timed.processPrefix items (.indexed items objects)).1.calls = _
    unfold processPrefix processWithCTO
    rw [if_pos hitems, if_neg hvalid]
    rfl
  rw [hcalls, relatives_append, relatives_checkForTxStart, htime.1, htime.2]
  exact congrArg _ (List.append_nil _)

end MeasurementHandler

end Master

namespace Outstation

open Master

/-! ## Events with relative times -/

/-- The measurement of an event that is selected in a variation with a relative time. -/
def EventRecord.relative? (r : EventRecord) : Option BinaryOrDouble :=
  match r with
  | ⟨_, _, _, _, .Binary, ⟨meas, _, .Group2Var3⟩⟩ =>
    some ⟨.inl meas.value, meas.flags, meas.time⟩
  | ⟨_, _, _, _, .DoubleBitBinary, ⟨meas, _, .Group4Var3⟩⟩ =>
    some ⟨.inr meas.value, meas.flags, meas.time⟩
  | _ => none

/-- What arrives of such an event. -/
def EventRecord.received? (r : EventRecord) : Option (Nat × BinaryOrDouble) :=
  r.relative?.map fun meas =>
    (r.index, ⟨valueOfFlags meas.value meas.flags, meas.flags,
      MeasurementHandler.commonTime meas.time⟩)

/-- Such an event, in the widths of the source: a 16-bit index and a 48-bit time. -/
def EventRecord.IsRelative (r : EventRecord) : Prop :=
  ∃ meas, r.relative? = some meas ∧ r.index < 2 ^ 16 ∧ meas.time.value < 2 ^ 48

namespace EventLists

/-- The parts of a header with relative times. -/
structure RelativeHeader (first : EventRecord) (meas : BinaryOrDouble) : Prop where
  lead : leadOf first = EventWriter.ctoBytes meas.time
  id : (serializerOf first).id =
    ⟨UInt8.ofNat (relativeVariation meas.value).group,
      UInt8.ofNat (relativeVariation meas.value).variation⟩
  size : (serializerOf first).size = 3
  /-- An object has the flags and the offset, and belongs under the common time. -/
  taken : ∀ {r : EventRecord} {object : Nat × List UInt8}, Taken first r object →
    ∃ other, r.relative? = some other ∧
      relativeVariation other.value = relativeVariation meas.value ∧
      object = (r.index, other.flags :: encodeLE 2 (other.time.value - meas.time.value)) ∧
      meas.time.value ≤ other.time.value ∧ other.time.value - meas.time.value ≤ 65535 ∧
      (meas.time.quality = .SYNCHRONIZED ↔ other.time.quality = .SYNCHRONIZED)

/-- What the writer with a common time lets through. -/
theorem EventWriter.prepare_withCTO {T : Type} {cto : DNPTime}
    {serializer : DNP3Serializer (TypedMeasurement T)} {value meas : TypedMeasurement T}
    (h : (EventWriter.withCTO cto serializer).prepare value = some meas) :
    meas = { value with time := .ofValue (value.time.value - cto.value) } ∧
      cto.value ≤ value.time.value ∧ value.time.value - cto.value ≤ 65535 ∧
      (cto.quality = .SYNCHRONIZED ↔ value.time.quality = .SYNCHRONIZED) := by
  change (if _ then _ else _) = _ at h
  split at h
  · cases h
  · rename_i hquality
    split at h
    · cases h
    · rename_i hback
      split at h
      · cases h
      · rename_i hfar
        cases h
        refine ⟨rfl, Nat.le_of_not_lt hback, Nat.le_of_not_lt hfar, ?_⟩
        simpa using hquality

variable {meas : BinaryOrDouble} {first : EventRecord} {objects : List (Nat × List UInt8)}
  {written : List EventRecord}

theorem relativeHeader_of (h : first.relative? = some meas) : RelativeHeader first meas := by
  unfold EventRecord.relative? at h
  split at h
  case h_3 => cases h
  -- binaries and double-bit binaries go the same way
  all_goals
    cases h
    refine ⟨rfl, rfl, rfl, ?_⟩
    rintro ⟨id, index, clazz, state, type, data⟩ object ⟨hindex, htype, hvariation, value, hprepare,
      hbytes⟩
    cases htype
    obtain ⟨other, variation, selected⟩ := data
    cases hvariation
    obtain ⟨rfl, hback, hfar, hquality⟩ := EventWriter.prepare_withCTO hprepare
    exact ⟨_, rfl, rfl, Prod.ext hindex hbytes, hback, hfar, hquality⟩

/-! ## Reading the headers -/

/-- The bytes of a header that the master reads to the end. -/
theorem headerAt_of {id : GroupVariationID} {qc : QualifierCode} {payload : List UInt8}
    {enumeration : GroupVariation} {headerIndex : Nat} {calls : List ParsedHeader}
    (hwire : GroupVariation.ofWire id.group id.variation = some enumeration)
    (hqualifier : QualifierCode.ofByte qc.toByte = qc)
    (hparse : parseQualifier .Default ⟨enumeration, id.group, id.variation, qc, headerIndex⟩
      payload = .ok (calls, [])) :
    HeaderAt .Default MeasurementHandler.isAllowed headerIndex (headerBytes id qc ++ payload)
      calls := by
  rw [← hqualifier] at hparse
  exact ⟨id.group, id.variation, qc.toByte, payload, enumeration, rfl, hwire, rfl,
    (local_parseQualifier _ _).reads_alone hparse, delivers_parseQualifier hparse⟩

theorem headerAt_ctoBytes (time : DNPTime) (headerIndex : Nat) :
    ∃ record : HeaderRecord,
      record.enumeration = (if time.quality = .SYNCHRONIZED then ⟨51, 1⟩ else ⟨51, 2⟩) ∧
      HeaderAt .Default MeasurementHandler.isAllowed headerIndex (EventWriter.ctoBytes time)
        [.countOf record [DNP3Serializer.time48 time]] := by
  unfold EventWriter.ctoBytes
  by_cases hquality : time.quality = .SYNCHRONIZED
  · rw [if_pos hquality, if_pos hquality]
    exact ⟨⟨⟨51, 1⟩, 51, 1, .UINT8_CNT, headerIndex⟩, rfl, headerAt_of rfl rfl rfl⟩
  · rw [if_neg hquality, if_neg hquality]
    exact ⟨⟨⟨51, 2⟩, 51, 2, .UINT8_CNT, headerIndex⟩, rfl, headerAt_of rfl rfl rfl⟩

theorem headerAt_relative (value : Bool ⊕ DoubleBit)
    (hfit : ItemsFit .U16 3 objects) (hne : objects ≠ []) (hlength : objects.length ≤ 65535)
    (headerIndex : Nat) :
    ∃ record : HeaderRecord, record.enumeration = relativeVariation value ∧
      HeaderAt .Default MeasurementHandler.isAllowed headerIndex
        (headerBytes ⟨UInt8.ofNat (relativeVariation value).group,
            UInt8.ofNat (relativeVariation value).variation⟩ .UINT16_CNT_UINT16_INDEX ++
          (encodeLE 2 objects.length ++ objectBytes objects))
        [.indexed record objects] := by
  cases value with
  | inl _ =>
    exact ⟨⟨⟨2, 3⟩, 2, 3, .UINT16_CNT_UINT16_INDEX, headerIndex⟩, rfl,
      headerAt_of rfl rfl (reads_indexed (t := .U16) rfl hfit hne hlength)⟩
  | inr _ =>
    exact ⟨⟨⟨4, 3⟩, 4, 3, .UINT16_CNT_UINT16_INDEX, headerIndex⟩, rfl,
      headerAt_of rfl rfl (reads_indexed (t := .U16) rfl hfit hne hlength)⟩

/-- **An object is read as its event**: the offset is added to the common time. -/
theorem RelativeHeader.readIndexed {first r : EventRecord}
    {object : Nat × List UInt8} (h : RelativeHeader first meas) (htaken : Taken first r object) :
    readIndexed (relativeVariation meas.value) (some (MeasurementHandler.commonTime meas.time))
      object = r.received? := by
  obtain ⟨other, hother, hvariation, rfl, hback, hfar, hquality⟩ := h.taken htaken
  have hoffset : decodeLE (encodeLE 2 (other.time.value - meas.time.value)) =
      other.time.value - meas.time.value := by
    rw [decodeLE_encodeLE]
    exact Nat.mod_eq_of_lt (Nat.lt_succ_of_le hfar)
  -- the receiver adds the offset that the writer has subtracted
  have htime : addCommonTime (some (MeasurementHandler.commonTime meas.time))
      (.ofValue (decodeLE (encodeLE 2 (other.time.value - meas.time.value)))) =
      MeasurementHandler.commonTime other.time := by
    unfold addCommonTime MeasurementHandler.commonTime DNPTime.ofValue
    dsimp only
    rw [hoffset, Nat.sub_add_cancel hback]
    by_cases hsync : meas.time.quality = .SYNCHRONIZED
    · rw [if_pos hsync, if_pos (hquality.mp hsync)]
    · rw [if_neg hsync, if_neg (hsync ∘ hquality.mpr)]
  rw [← hvariation]
  unfold EventRecord.received? Master.readIndexed
  rw [hother]
  obtain ⟨value, flags, time⟩ := other
  cases value with
  | inl _ =>
    change some (r.index, (⟨.inl (getBinaryValue flags), flags, _⟩ : BinaryOrDouble)) =
      some (r.index, ⟨.inl (getBinaryValue flags), flags, _⟩)
    rw [htime]
  | inr _ =>
    change some (r.index, (⟨.inr (getDoubleBitValue flags), flags, _⟩ : BinaryOrDouble)) =
      some (r.index, ⟨.inr (getDoubleBitValue flags), flags, _⟩)
    rw [htime]

/-- The objects of a header fit into it, and are of one type. -/
theorem RelativeHeader.itemsFit (h : RelativeHeader first meas)
    (htaken : List.Forall₂ (Taken first) written objects)
    (hindex : ∀ r ∈ written, r.index < 2 ^ 16) : ItemsFit .U16 3 objects := by
  induction htaken with
  | nil => exact fun item hitem => absurd hitem List.not_mem_nil
  | @cons r object written objects htaken _ ih =>
    intro item hitem
    rcases List.mem_cons.mp hitem with rfl | hitem
    · obtain ⟨other, -, -, rfl, -⟩ := h.taken htaken
      exact ⟨Nat.le_of_lt_succ (hindex r List.mem_cons_self), rfl⟩
    · exact ih (fun r hr => hindex r (List.mem_cons_of_mem _ hr)) item hitem

theorem RelativeHeader.filterMap_objects (h : RelativeHeader first meas)
    (htaken : List.Forall₂ (Taken first) written objects) :
    objects.filterMap (Master.readIndexed (relativeVariation meas.value)
      (some (MeasurementHandler.commonTime meas.time))) =
      written.filterMap EventRecord.received? := by
  induction htaken with
  | nil => rfl
  | cons htaken _ ih => rw [List.filterMap_cons, List.filterMap_cons, h.readIndexed htaken, ih]

/-- A header has one type of event. -/
theorem filter_type_of_taken (h : List.Forall₂ (Taken first) written objects) :
    written.filter (fun r => r.type = first.type) = written := by
  induction h with
  | nil => rfl
  | @cons r object written objects htaken _ ih =>
    have htype : decide (r.type = first.type) = true := decide_eq_true htaken.2.1
    rw [List.filter_cons, if_pos htype, ih]

/-- No type has more events than a header can count. -/
def Countable (rs : List EventRecord) : Prop :=
  ∀ type, (rs.filter fun r => r.type = type).length ≤ 65535

/-- **What the master makes of the headers.** -/
theorem recovered_encoded {bytes : List UInt8}
    (h : Encoded written bytes) (hrelative : ∀ r ∈ written, r.IsRelative)
    (hcount : Countable written) (headerIndex : Nat) :
    ∃ calls, Headers .Default MeasurementHandler.isAllowed headerIndex bytes calls ∧
      ∀ handler : MeasurementHandler,
        relatives (calls.foldl MeasurementHandler.onHeader handler).calls =
          relatives handler.calls ++ written.filterMap EventRecord.received? := by
  induction h generalizing headerIndex with
  | nil => exact ⟨[], .nil headerIndex, fun handler => (List.append_nil _).symm⟩
  | @header first written later objects bytes hfirst htaken _ ih =>
    have hmem : first ∈ written := List.mem_of_mem_head? hfirst
    obtain ⟨meas, hmeas, -, htime⟩ := hrelative first (List.mem_append_left _ hmem)
    have hheader := relativeHeader_of hmeas
    -- one common time, one header of objects, then the headers behind them
    have hfit : ItemsFit .U16 3 objects := hheader.itemsFit htaken fun r hr => by
      obtain ⟨-, -, hindex, -⟩ := hrelative r (List.mem_append_left _ hr)
      exact hindex
    have hne : objects ≠ [] := by
      rintro rfl
      cases htaken
      cases hmem
    have hlength : objects.length ≤ 65535 := by
      have hle := hcount first.type
      rw [List.filter_append, List.length_append, filter_type_of_taken htaken] at hle
      rw [← htaken.length_eq]
      omega
    obtain ⟨cto, hcto, hctoAt⟩ := headerAt_ctoBytes meas.time headerIndex
    obtain ⟨items, hitems, hitemsAt⟩ :=
      headerAt_relative meas.value hfit hne hlength (headerIndex + 1)
    obtain ⟨calls, hheaders, hcalls⟩ := ih
      (fun r hr => hrelative r (List.mem_append_right _ hr))
      (fun type => by
        have hle := hcount type
        rw [List.filter_append, List.length_append] at hle
        omega) (headerIndex + 2)
    have hbytes : eventHeader first objects ++ bytes = EventWriter.ctoBytes meas.time ++
        ((headerBytes ⟨UInt8.ofNat (relativeVariation meas.value).group,
            UInt8.ofNat (relativeVariation meas.value).variation⟩ .UINT16_CNT_UINT16_INDEX ++
          (encodeLE 2 objects.length ++ objectBytes objects)) ++ bytes) := by
      unfold eventHeader
      rw [hheader.lead, hheader.id]
      simp only [List.append_assoc]
    refine ⟨.countOf cto [DNP3Serializer.time48 meas.time] :: .indexed items objects :: calls,
      ?_, fun handler => ?_⟩
    · rw [hbytes]
      exact .cons hctoAt (.cons hitemsAt hheaders)
    · have hvalue : decodeLE (DNP3Serializer.time48 meas.time) = meas.time.value := by
        unfold DNP3Serializer.time48
        rw [decodeLE_encodeLE]
        exact Nat.mod_eq_of_lt htime
      have hvariation : items.enumeration = ⟨2, 3⟩ ∨ items.enumeration = ⟨4, 3⟩ := by
        rw [hitems]
        cases meas.value with
        | inl _ => exact .inl rfl
        | inr _ => exact .inr rfl
      rw [List.foldl_cons, List.foldl_cons, hcalls,
        MeasurementHandler.relatives_onHeader handler hvalue hcto hvariation, hitems,
        hheader.filterMap_objects htaken, List.filterMap_append, List.append_assoc]

/-! ## Room for all events -/

/-- A header leaves no selected record among those it has passed. -/
theorem done_writeSome {type : EventType} {variation : type.spec.EventVariation}
    {handler : EventWriter type.spec.Meas} (rs : List EventRecord)
    (p : WriteProgress type.spec.Meas) :
    ∀ r ∈ (writeSome type variation handler rs p).1, r.state ≠ .selected := by
  induction rs generalizing p with
  | nil => exact fun r hr => absurd hr List.not_mem_nil
  | cons r rs ih =>
    intro other hother
    unfold writeSome at hother
    split at hother
    · exact absurd hother List.not_mem_nil
    · split at hother
      · split at hother
        · exact absurd hother List.not_mem_nil
        · rename_i p' _
          rcases List.mem_cons.mp hother with rfl | hother
          · exact EventState.noConfusion
          · exact ih p' other hother
      · rename_i hstate
        rcases List.mem_cons.mp hother with rfl | hother
        · exact hstate
        · exact ih p other hother

theorem Wrote.eq_filter {rs rs' written : List EventRecord} (h : Wrote rs rs' written)
    (hdone : ∀ r ∈ rs', r.state ≠ .selected) :
    written = rs.filter fun r => r.state = .selected := by
  induction h with
  | nil => rfl
  | keep r _ ih =>
    obtain ⟨hr, hdone⟩ := List.forall_mem_cons.mp hdone
    rw [List.filter_cons_of_neg (by simpa using hr)]
    exact ih hdone
  | write r hselected _ ih =>
    rw [List.filter_cons_of_pos (by simpa using hselected),
      ← ih (List.forall_mem_cons.mp hdone).2]

theorem Wrote.sublist {rs rs' written : List EventRecord} (h : Wrote rs rs' written) :
    written.Sublist rs := by
  induction h with
  | nil => exact .slnil
  | keep r _ ih => exact ih.cons r
  | write r _ _ ih => exact ih.cons_cons r

theorem selected_onWriteAll (counters : EventClassCounters) (written : List EventRecord) :
    (onWriteAll counters written).selected = counters.selected - written.length := by
  induction written generalizing counters with
  | nil => rfl
  | cons r written ih =>
    change (onWriteAll (counters.onWrite r.clazz) written).selected = _
    rw [ih, List.length_cons, Nat.add_comm, ← Nat.sub_sub]
    rfl

/-- The common time before a header. -/
theorem RelativeHeader.length_leadOf (h : RelativeHeader first meas) :
    (leadOf first).length = 10 := by
  rw [h.lead]
  unfold EventWriter.ctoBytes headerBytes DNP3Serializer.time48
  simp

/-- The bytes of a header with relative times. -/
theorem RelativeHeader.length_eventHeader (h : RelativeHeader first meas)
    (hfit : ItemsFit .U16 3 objects) :
    (eventHeader first objects).length = 15 + objects.length * 5 := by
  have hobjects : (objectBytes objects).length = objects.length * 5 := length_flatMap_entry hfit
  unfold eventHeader headerBytes
  simp only [List.length_append, h.length_leadOf, hobjects, length_encodeLE, List.length_cons,
    List.length_nil]
  omega

theorem RelativeHeader.need_eq (h : RelativeHeader first meas) : need first = 20 := by
  unfold need
  rw [h.length_leadOf, h.size]

/-- **With 20 bytes for each, all selected events are written.** -/
theorem writeFrom_all (fuel : Nat) (rs : List EventRecord) (counters : EventClassCounters)
    {w : HeaderWriter} (hfuel : rs.length ≤ fuel) (hselected : counters.selected = numSelected rs)
    (hrelative : ∀ r ∈ rs, r.state = .selected → r.IsRelative)
    (hfits : w.position ≤ w.buffer.length) (hroom : 20 * numSelected rs ≤ w.remaining) :
    ∀ r ∈ (writeFrom fuel rs counters w).events, r.state ≠ .selected := by
  induction fuel generalizing rs counters w with
  | zero =>
    obtain rfl := List.length_eq_zero_iff.mp (Nat.le_zero.mp hfuel)
    exact fun r hr => absurd hr List.not_mem_nil
  | succ fuel ih =>
    unfold writeFrom
    split
    · -- nothing is selected
      intro r hr hstate
      have hpos : 0 < numSelected rs := List.countP_pos_iff.mpr ⟨r, hr, by simpa using hstate⟩
      omega
    · rename_i hzero
      split
      · rename_i hdrop
        intro r hr
        simpa using List.dropWhile_eq_nil_iff.mp hdrop r hr
      · rename_i first behind hdrop
        obtain ⟨hrs, hfirst⟩ := split_at_selected hdrop
        have hpassed : ∀ r ∈ rs.takeWhile (·.state ≠ .selected), r.state ≠ .selected := by
          intro r hr
          simpa using List.mem_takeWhile_imp hr
        have hmem : ∀ {r}, r ∈ first :: behind → r ∈ rs := fun hr => by
          rw [hrs]
          exact List.mem_append_right _ hr
        obtain ⟨meas, hmeas, -⟩ := hrelative first (hmem List.mem_cons_self) hfirst
        have hheader := relativeHeader_of hmeas
        have hdone : ∀ r ∈ (writeHeaderFrom first behind counters w).done, r.state ≠ .selected :=
          done_writeSome (first :: behind) _
        have hless := rest_writeHeaderFrom first behind counters w
        obtain ⟨-, counted, -, -, hcounted, hcounters⟩ :=
          wrote_writeHeaderFrom first behind counters w
        have hencoded := encoded_writeHeaderFrom behind hfits hzero hfirst
        generalize writeHeaderFrom first behind counters w = header at *
        have hnumber : numSelected rs = numSelected (first :: behind) := by
          have hnone : numSelected (rs.takeWhile (·.state ≠ .selected)) = 0 :=
            List.countP_eq_zero.mpr fun r hr => by simpa using hpassed r hr
          have happend := congrArg numSelected hrs
          unfold numSelected at happend hnone ⊢
          rw [List.countP_append, hnone, Nat.zero_add] at happend
          exact happend
        rcases hencoded with ⟨-, hshort, -⟩ |
          ⟨front, written, objects, hfront, hwrote, hids, hhead, htaken, happends⟩
        · -- there is room for the first of them
          have hpos : 0 < numSelected (first :: behind) :=
            List.countP_pos_iff.mpr ⟨first, List.mem_cons_self, by simpa using hfirst⟩
          rw [hheader.need_eq] at hshort
          omega
        · have hne : written ≠ [] := by
            rintro rfl
            cases hhead
          have hsome : header.ids ≠ [] := by simpa [hids] using hne
          have hlength : counted.length = written.length := by
            have heq := congrArg List.length (hcounted.symm.trans hids)
            rwa [List.length_map, List.length_map] at heq
          -- the header takes all that is selected among the records it passes
          have hwritten : written.length = numSelected front := by
            rw [hwrote.eq_filter hdone]
            exact (List.countP_eq_length_filter ..).symm
          have hsplit : numSelected (first :: behind) =
              numSelected front + numSelected header.rest := by
            rw [hfront]
            exact List.countP_append
          have hpos : 0 < written.length := List.length_pos_iff.mpr hne
          have hfit : ItemsFit .U16 3 objects := hheader.itemsFit htaken fun r hr => by
            obtain ⟨hmem', hstate, -⟩ := hwrote.mem hr
            have hmem'' : r ∈ first :: behind := by
              rw [hfront]
              exact List.mem_append_left _ hmem'
            obtain ⟨-, -, hindex, -⟩ := hrelative r (hmem hmem'') hstate
            exact hindex
          have hbytes := hheader.length_eventHeader hfit
          have hobjects := htaken.length_eq
          have hremaining := happends.remaining
          have hrest := hless hsome
          have hle : behind.length < rs.length := by
            have heq := congrArg List.length hrs
            rw [List.length_append, List.length_cons] at heq
            omega
          rw [if_neg (by simpa using hsome)]
          intro r hr
          rcases List.mem_append.mp hr with hr | hr
          · exact hpassed r hr
          · rcases List.mem_append.mp hr with hr | hr
            · exact hdone r hr
            · refine ih header.rest header.counters (by omega) ?_ ?_ happends.fits (by omega) r hr
              · rw [hcounters, selected_onWriteAll]
                omega
              · intro r hr
                refine hrelative r (hmem ?_)
                rw [hfront]
                exact List.mem_append_right _ hr

end EventLists

/-! ## Delivery -/

namespace EventBuffer

open EventLists

/-- The user of the master gets this event: index, value and flags, time, and whether the time is
    synchronized. -/
def Same (r : EventRecord) (received : Nat × BinaryOrDouble) : Prop :=
  ∃ meas, r.relative? = some meas ∧ received.1 = r.index ∧ received.2.value = meas.value ∧
    received.2.flags = meas.flags ∧ received.2.time.value = meas.time.value ∧
    (received.2.time.quality = .SYNCHRONIZED ↔ meas.time.quality = .SYNCHRONIZED)

/-- **The events are recovered** from what `Load` writes into any buffer: those that it marks as
    written, which are all that are selected if there is room for them. -/
def Recovers (b : EventBuffer) : Prop :=
  ∀ (w : HeaderWriter) (info : ResponseInfo), w.position ≤ w.buffer.length →
    ∃ written bytes, Wrote b.lists.events (b.load w).1.lists.events written ∧
      (20 * numSelected b.lists.events ≤ w.remaining →
        written = b.lists.events.filter fun r => r.state = .selected) ∧
      Appends w bytes (b.load w).2.1 ∧
      (MeasurementHandler.processMeasurements info bytes).2 = .ok () ∧
      List.Forall₂ Same written
        (relatives (MeasurementHandler.processMeasurements info bytes).1)

/-- A buffer in which events with relative times are selected and no others.  The capacities have
    16 bits. -/
structure SelectsRelative (b : EventBuffer) : Prop where
  wf : b.lists.WF
  capacity : ∀ type, b.lists.config.capacity type < 2 ^ 16
  relative : ∀ r ∈ b.lists.events, r.state = .selected → r.IsRelative

variable {b : EventBuffer}

/-- What `Load` writes, and what the master gets of it. -/
theorem SelectsRelative.delivered (h : b.SelectsRelative) {w : HeaderWriter}
    (hfits : w.position ≤ w.buffer.length) :
    ∃ written bytes, Wrote b.lists.events (b.load w).1.lists.events written ∧
      (20 * numSelected b.lists.events ≤ w.remaining →
        written = b.lists.events.filter fun r => r.state = .selected) ∧
      Appends w bytes (b.load w).2.1 ∧ (∀ r ∈ written, r ∈ b.lists.events ∧ r.state = .selected) ∧
      ∀ info, (MeasurementHandler.processMeasurements info bytes).2 = .ok () ∧
        relatives (MeasurementHandler.processMeasurements info bytes).1 =
          written.filterMap EventRecord.received? := by
  obtain ⟨written, bytes, hwrote, -, happends, hencoded⟩ := b.lists.encoded_write hfits
  have hmem : ∀ r ∈ written, r ∈ b.lists.events ∧ r.state = .selected := fun r hr =>
    ⟨(hwrote.mem hr).1, (hwrote.mem hr).2.1⟩
  -- the capacities keep every count within 16 bits
  have hcount : Countable written := by
    intro type
    calc (written.filter fun r => r.type = type).length
        ≤ (b.lists.getList type).length := (hwrote.sublist.filter _).length_le
      _ ≤ b.lists.config.capacity type := h.wf.fits type
      _ ≤ 65535 := Nat.le_of_lt_succ (h.capacity type)
  obtain ⟨calls, hheaders, hcalls⟩ := recovered_encoded hencoded
    (fun r hr => h.relative r (hmem r hr).1 (hmem r hr).2) hcount 0
  refine ⟨written, bytes, hwrote, fun hroom => hwrote.eq_filter ?_, happends, hmem,
    fun info => ?_⟩
  · exact writeFrom_all _ _ _ (Nat.le_refl _) h.wf.tallies.selected h.relative hfits hroom
  · unfold MeasurementHandler.processMeasurements
    rw [parse_eq_ok_iff.mpr hheaders]
    refine ⟨rfl, ?_⟩
    rw [MeasurementHandler.relatives_finish, hcalls]
    rfl

/-- An event arrives unchanged exactly if its flags agree with its value. -/
theorem same_received_iff {r : EventRecord} {meas : BinaryOrDouble} (h : r.relative? = some meas)
    {received : Nat × BinaryOrDouble} (hreceived : r.received? = some received) :
    Same r received ↔ meas.Agrees := by
  rw [EventRecord.received?, h] at hreceived
  cases hreceived
  constructor
  · rintro ⟨same, hsame, -, hvalue, -⟩
    cases h.symm.trans hsame
    exact hvalue
  · intro hagrees
    refine ⟨meas, h, rfl, hagrees, rfl, rfl, ?_⟩
    unfold MeasurementHandler.commonTime
    by_cases hquality : meas.time.quality = .SYNCHRONIZED <;> simp [hquality]

theorem forall₂_same_iff {written : List EventRecord} (h : ∀ r ∈ written, r.IsRelative) :
    List.Forall₂ Same written (written.filterMap EventRecord.received?) ↔
      ∀ r ∈ written, ∀ meas, r.relative? = some meas → meas.Agrees := by
  induction written with
  | nil => simp
  | cons r written ih =>
    obtain ⟨⟨meas, hmeas, -⟩, hlater⟩ := List.forall_mem_cons.mp h
    obtain ⟨received, hreceived⟩ : ∃ received, r.received? = some received :=
      ⟨_, by rw [EventRecord.received?, hmeas]; rfl⟩
    rw [List.filterMap_cons_some hreceived, List.forall₂_cons, ih hlater, List.forall_mem_cons,
      same_received_iff hmeas hreceived, hmeas]
    simp

/-- A buffer with this much room. -/
def blank (size : Nat) : HeaderWriter := ⟨List.replicate size 0, 0⟩

/-- If all events arrive, their flags agree with their values. -/
theorem Recovers.agrees (h : b.Recovers) (hselects : b.SelectsRelative) {r : EventRecord}
    (hr : r ∈ b.lists.events) (hstate : r.state = .selected) {meas : BinaryOrDouble}
    (hmeas : r.relative? = some meas) : meas.Agrees := by
  have hroom : 20 * numSelected b.lists.events ≤
      (blank (20 * numSelected b.lists.events)).remaining := by
    simp [blank, HeaderWriter.remaining]
  obtain ⟨written, bytes, -, hall, happends, -, hsame⟩ :=
    h (blank (20 * numSelected b.lists.events)) ⟨false, true, true⟩ (Nat.zero_le _)
  obtain ⟨written', bytes', -, hall', happends', hmem, hdelivered⟩ :=
    hselects.delivered (w := blank (20 * numSelected b.lists.events)) (Nat.zero_le _)
  -- both speak of the same events and the same bytes
  have hbytes : bytes = bytes' := List.append_cancel_left (happends.take.symm.trans happends'.take)
  have hwritten : written = written' := (hall hroom).trans (hall' hroom).symm
  subst hbytes hwritten
  rw [(hdelivered _).2] at hsame
  rw [forall₂_same_iff fun r hr => hselects.relative r (hmem r hr).1 (hmem r hr).2] at hsame
  refine hsame r ?_ meas hmeas
  rw [hall hroom]
  exact List.mem_filter.mpr ⟨hr, by simpa using hstate⟩

/-- **Events with relative times arrive unchanged exactly when the flags of each say what its
    value is.** -/
theorem recovers_iff (h : b.SelectsRelative) :
    b.Recovers ↔ ∀ r ∈ b.lists.events, r.state = .selected →
      ∀ meas, r.relative? = some meas → meas.Agrees := by
  constructor
  · intro hrecovers r hr hstate meas hmeas
    exact hrecovers.agrees h hr hstate hmeas
  · intro hagrees w info hfits
    obtain ⟨written, bytes, hwrote, hall, happends, hmem, hdelivered⟩ := h.delivered hfits
    refine ⟨written, bytes, hwrote, hall, happends, (hdelivered info).1, ?_⟩
    rw [(hdelivered info).2, forall₂_same_iff fun r hr => h.relative r (hmem r hr).1 (hmem r hr).2]
    exact fun r hr => hagrees r (hmem r hr).1 (hmem r hr).2

/-- Three events, the second before the first and the third with another quality.  These are the
    flags of the first, whose value is true. -/
def sampleBuffer (flags : UInt8) : EventBuffer where
  lists := run EventLists.step (.ofConfig ⟨10, 10, 0, 0, 0, 0, 0, 0⟩)
    [.update (.binary ⟨⟨true, flags, ⟨90000, .SYNCHRONIZED⟩⟩, 7, .EC1, .Group2Var1⟩),
      .update (.doubleBitBinary ⟨⟨.DETERMINED_ON, 0x81, ⟨1000, .SYNCHRONIZED⟩⟩, 2, .EC1,
        .Group4Var1⟩),
      .update (.binary ⟨⟨false, 0x01, ⟨2 ^ 48 - 1, .INVALID⟩⟩, 7, .EC2, .Group2Var1⟩),
      .selectByType .Binary (some .Group2Var3) 10,
      .selectByType .DoubleBitBinary (some .Group4Var3) 10]
  overflow := false

theorem events_sampleBuffer (flags : UInt8) : (sampleBuffer flags).lists.events =
    [⟨0, 7, .EC1, .selected, .Binary,
        ⟨⟨true, flags, ⟨90000, .SYNCHRONIZED⟩⟩, .Group2Var1, .Group2Var3⟩⟩,
      ⟨1, 2, .EC1, .selected, .DoubleBitBinary,
        ⟨⟨.DETERMINED_ON, 0x81, ⟨1000, .SYNCHRONIZED⟩⟩, .Group4Var1, .Group4Var3⟩⟩,
      ⟨2, 7, .EC2, .selected, .Binary,
        ⟨⟨false, 0x01, ⟨2 ^ 48 - 1, .INVALID⟩⟩, .Group2Var1, .Group2Var3⟩⟩] := rfl

theorem config_sampleBuffer (flags : UInt8) :
    (sampleBuffer flags).lists.config = ⟨10, 10, 0, 0, 0, 0, 0, 0⟩ := rfl

theorem selectsRelative_sampleBuffer (flags : UInt8) : (sampleBuffer flags).SelectsRelative where
  wf := wf_run _ _
  capacity := by
    intro type
    rw [config_sampleBuffer]
    cases type <;> decide
  relative := by
    intro r hr hstate
    simp only [events_sampleBuffer, List.mem_cons, List.not_mem_nil, or_false] at hr
    obtain rfl | rfl | rfl := hr
    · exact ⟨_, rfl, show 7 < 2 ^ 16 by decide, show 90000 < 2 ^ 48 by decide⟩
    · exact ⟨_, rfl, show 2 < 2 ^ 16 by decide, show 1000 < 2 ^ 48 by decide⟩
    · exact ⟨_, rfl, show 7 < 2 ^ 16 by decide, show 2 ^ 48 - 1 < 2 ^ 48 by decide⟩

/-- They arrive if the flags have the state. -/
theorem recovers_iff_sampleBuffer : (sampleBuffer 0x81).Recovers := by
  apply (recovers_iff (selectsRelative_sampleBuffer 0x81)).mpr
  intro r hr hstate meas hmeas
  simp only [events_sampleBuffer, List.mem_cons, List.not_mem_nil, or_false] at hr
  obtain rfl | rfl | rfl := hr <;> cases hmeas <;> decide

/-- **With the flags of an online point that is off**, the event that says on arrives as off. -/
theorem sampleBuffer_flags_changed : ¬ (sampleBuffer 0x01).Recovers := by
  intro h
  have hagrees := h.agrees (selectsRelative_sampleBuffer 0x01)
    (by rw [events_sampleBuffer]; exact List.mem_cons_self) rfl rfl
  exact absurd hagrees (by decide)

end EventBuffer

end Outstation

end OpenDnp3
