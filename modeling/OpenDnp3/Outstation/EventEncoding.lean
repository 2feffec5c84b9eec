import OpenDnp3.App.HeaderBytes
import OpenDnp3.Outstation.EventCounts

/-!
# The bytes of the written events

`Write` opens a header for the first selected event and fills it with the events behind it, as
long as type, variation, length or time base stay the same and there is room.  Here its bytes
are computed: they are a sequence of whole headers, and the events of the headers are the
events that have been marked as written, in their order.
-/

namespace OpenDnp3.Outstation

open App Lib

namespace EventLists

/-! ## What a header is made of -/

namespace EventWriter

/-- How the objects of a header are written. -/
def serializer : (type : EventType) → type.spec.EventVariation → type.spec.Meas →
    DNP3Serializer type.spec.Meas
  | .Binary, variation, _ => .eventBinary variation
  | .DoubleBitBinary, variation, _ => .eventDoubleBinary variation
  | .Analog, variation, _ => .eventAnalog variation
  | .Counter, variation, _ => .eventCounter variation
  | .FrozenCounter, variation, _ => .eventFrozenCounter variation
  | .BinaryOutputStatus, variation, _ => .eventBinaryOutputStatus variation
  | .AnalogOutputStatus, variation, _ => .eventAnalogOutputStatus variation
  | .OctetString, _, first => .octetString true first.data.length

/-- A common time of occurrence, as a header of its own. -/
def ctoBytes (time : DNPTime) : List UInt8 :=
  headerBytes (if time.quality = .SYNCHRONIZED then ⟨51, 1⟩ else ⟨51, 2⟩) .UINT8_CNT ++
    (1 :: DNP3Serializer.time48 time)

/-- What stands in front of a header with relative times. -/
def lead : (type : EventType) → type.spec.EventVariation → type.spec.Meas → List UInt8
  | .Binary, .Group2Var3, first => ctoBytes first.time
  | .DoubleBitBinary, .Group4Var3, first => ctoBytes first.time
  | _, _, _ => []

/-- What the loop needs to know of a writer. -/
structure Sound {M : Type} (handler : EventWriter M) (lead : List UInt8)
    (serializer : DNP3Serializer M) : Prop where
  begins : ∀ {w w' : HeaderWriter} {it : PrefixedWriteIterator M},
    w.position ≤ w.buffer.length → handler.start w = (some it, w') →
    it.indexType = .U16 ∧ it.serializer = serializer ∧ it.count = 0 ∧
      it.Open w (lead ++ headerBytes serializer.id .UINT16_CNT_UINT16_INDEX) [] w' ∧
      serializer.size + 2 ≤ w'.remaining
  refuses : ∀ {w w' : HeaderWriter}, w.position ≤ w.buffer.length →
    handler.start w = (none, w') → Appends w [] w'
  room : ∀ {w : HeaderWriter}, w.position ≤ w.buffer.length →
    lead.length + (7 + serializer.size) ≤ w.remaining → (handler.start w).1.isSome = true
  size : ∀ {value meas : M}, handler.prepare value = some meas →
    (serializer.write meas).length = serializer.size

variable {M T : Type}

theorem sound_basic {serializer : DNP3Serializer M}
    (hsize : ∀ meas, (serializer.write meas).length = serializer.size) :
    (basic serializer).Sound [] serializer where
  begins := by
    intro w w' it hfits hstart
    exact PrefixedWriteIterator.open_start hfits hstart
  refuses := by
    intro w w' hfits hstart
    rw [PrefixedWriteIterator.start_none hstart]
    exact .refl hfits
  room := by
    intro w _ hroom
    apply PrefixedWriteIterator.start_isSome
    change 3 + (2 * 2 + serializer.size) ≤ w.remaining
    rw [List.length_nil] at hroom
    omega
  size := by
    intro value meas _
    exact hsize meas

theorem sound_withCTO {serializer : DNP3Serializer (TypedMeasurement T)} (cto : DNPTime)
    (hsize : ∀ meas, (serializer.write meas).length = serializer.size) :
    (withCTO cto serializer).Sound (ctoBytes cto) serializer where
  begins := by
    intro w w' it hfits hstart
    exact PrefixedWriteIterator.open_startWithCTO hfits hstart
  refuses := by
    intro w w' hfits hstart
    exact PrefixedWriteIterator.startWithCTO_none hfits hstart
  room := by
    intro w hfits hroom
    apply PrefixedWriteIterator.startWithCTO_isSome hfits
    have hlength : (ctoBytes cto).length = 10 := by
      unfold ctoBytes headerBytes DNP3Serializer.time48
      simp
    have htime : (DNP3Serializer.time48 cto).length = 6 := length_encodeLE ..
    rw [hlength] at hroom
    rw [htime]
    change 4 + 6 + (3 + (2 * 2 + serializer.size)) ≤ w.remaining
    omega
  size := by
    intro value meas _
    exact hsize meas

theorem sound_octetString (size : Nat) :
    (octetString size).Sound [] (.octetString true size) where
  begins := by
    intro w w' it hfits hstart
    exact PrefixedWriteIterator.open_start hfits hstart
  refuses := by
    intro w w' hfits hstart
    rw [PrefixedWriteIterator.start_none hstart]
    exact .refl hfits
  room := by
    intro w _ hroom
    apply PrefixedWriteIterator.start_isSome
    change 3 + (2 * 2 + size) ≤ w.remaining
    change 0 + (7 + size) ≤ w.remaining at hroom
    omega
  size := by
    intro value meas hprepare
    change (if value.data.length = size then some value else none) = _ at hprepare
    split at hprepare
    · rename_i hlength
      cases hprepare
      exact hlength
    · cases hprepare

theorem length_eventAnalog (variation : EventAnalogVariation) (meas : TypedMeasurement Float) :
    ((DNP3Serializer.eventAnalog variation).write meas).length =
      (DNP3Serializer.eventAnalog variation).size := by
  cases variation <;> apply DNP3Serializer.length_analog

theorem length_eventAnalogOutputStatus (variation : EventAnalogOutputStatusVariation)
    (meas : TypedMeasurement Float) :
    ((DNP3Serializer.eventAnalogOutputStatus variation).write meas).length =
      (DNP3Serializer.eventAnalogOutputStatus variation).size := by
  cases variation <;> apply DNP3Serializer.length_analog

/-- **The writers of all variations are sound.** -/
theorem sound_ofVariation (type : EventType) (variation : type.spec.EventVariation)
    (first : type.spec.Meas) :
    (ofVariation type variation first).Sound (lead type variation first)
      (serializer type variation first) := by
  cases type with
  | Binary =>
    cases variation with
    | Group2Var1 | Group2Var2 => exact sound_basic fun _ => rfl
    | Group2Var3 => exact sound_withCTO _ fun _ => rfl
  | DoubleBitBinary =>
    cases variation with
    | Group4Var1 | Group4Var2 => exact sound_basic fun _ => rfl
    | Group4Var3 => exact sound_withCTO _ fun _ => rfl
  | Analog => exact sound_basic (length_eventAnalog variation)
  | Counter | FrozenCounter =>
    cases variation <;> exact sound_basic fun _ => DNP3Serializer.length_counter ..
  | BinaryOutputStatus => cases variation <;> exact sound_basic fun _ => rfl
  | AnalogOutputStatus => exact sound_basic (length_eventAnalogOutputStatus variation)
  | OctetString => exact sound_octetString _

/-- The first event of a header belongs under it. -/
theorem prepare_first (type : EventType) (variation : type.spec.EventVariation)
    (first : type.spec.Meas) :
    ∃ meas, (ofVariation type variation first).prepare first = some meas := by
  have hcto : ∀ {T : Type} (meas : TypedMeasurement T)
      (serializer : DNP3Serializer (TypedMeasurement T)),
      ∃ meas', (withCTO meas.time serializer).prepare meas = some meas' := by
    intro T meas serializer
    refine ⟨{ meas with time := .ofValue (meas.time.value - meas.time.value) }, ?_⟩
    unfold withCTO
    simp
  cases type with
  | Binary =>
    cases variation with
    | Group2Var3 => exact hcto first _
    | _ => exact ⟨first, rfl⟩
  | DoubleBitBinary =>
    cases variation with
    | Group4Var3 => exact hcto first _
    | _ => exact ⟨first, rfl⟩
  | OctetString => exact ⟨first, if_pos rfl⟩
  | Analog | Counter | FrozenCounter | BinaryOutputStatus | AnalogOutputStatus => exact ⟨first, rfl⟩

end EventWriter

/-! ## Headers and their events -/

/-- The writer of the header that begins with this event. -/
def handlerOf (first : EventRecord) : EventWriter first.type.spec.Meas :=
  .ofVariation first.type first.data.selectedVariation first.data.value

def serializerOf (first : EventRecord) : DNP3Serializer first.type.spec.Meas :=
  EventWriter.serializer first.type first.data.selectedVariation first.data.value

def leadOf (first : EventRecord) : List UInt8 :=
  EventWriter.lead first.type first.data.selectedVariation first.data.value

/-- The event `r` is an object of the header that begins with `first`: it has the same type and
    variation, and its value has been prepared and written there. -/
def Taken (first r : EventRecord) (object : Nat × List UInt8) : Prop :=
  object.1 = r.index ∧ ∃ h : r.type = first.type,
    (h ▸ r.data : TypedEventRecord first.type.spec).selectedVariation =
        first.data.selectedVariation ∧
      ∃ meas, (handlerOf first).prepare
          (h ▸ r.data : TypedEventRecord first.type.spec).value = some meas ∧
        object.2 = (serializerOf first).write meas

/-- The objects of a header, each behind its index. -/
def objectBytes (objects : List (Nat × List UInt8)) : List UInt8 :=
  objects.flatMap fun object => encodeLE 2 object.1 ++ object.2

/-- The bytes of a whole header. -/
def eventHeader (first : EventRecord) (objects : List (Nat × List UInt8)) : List UInt8 :=
  (leadOf first ++ headerBytes (serializerOf first).id .UINT16_CNT_UINT16_INDEX) ++
    (encodeLE 2 objects.length ++ objectBytes objects)

/-- **These bytes are headers with these events.** -/
inductive Encoded : List EventRecord → List UInt8 → Prop where
  | nil : Encoded [] []
  | header {first : EventRecord} {written later : List EventRecord}
    {objects : List (Nat × List UInt8)} {bytes : List UInt8}
    (hfirst : written.head? = some first) (htaken : List.Forall₂ (Taken first) written objects)
    (h : Encoded later bytes) : Encoded (written ++ later) (eventHeader first objects ++ bytes)

theorem objectBytes_append (objects more : List (Nat × List UInt8)) :
    objectBytes (objects ++ more) = objectBytes objects ++ objectBytes more :=
  List.flatMap_append

/-! ## One header -/

/-- A header at work in the loop of `WriteSome`: from `w` on, it holds these objects. -/
structure AtWork (first : EventRecord) (w : HeaderWriter) (objects : List (Nat × List UInt8))
    (p : WriteProgress first.type.spec.Meas) : Prop where
  open_ : ∃ it, p.iter = some it ∧ it.indexType = .U16 ∧ it.serializer = serializerOf first ∧
    it.count = objects.length ∧
    it.Open w (leadOf first ++ headerBytes (serializerOf first).id .UINT16_CNT_UINT16_INDEX)
      (objectBytes objects) p.writer

variable {w : HeaderWriter} {first : EventRecord}

/-- Writing a record adds its object to the header. -/
theorem atWork_writeRecord {first r : EventRecord}
    {objects : List (Nat × List UInt8)} {p p' : WriteProgress first.type.spec.Meas}
    (h : AtWork first w objects p)
    (hwrite : writeRecord first.type first.data.selectedVariation (handlerOf first) p r =
      some p') :
    ∃ object, Taken first r object ∧ AtWork first w (objects ++ [object]) p' := by
  obtain ⟨it, hiter, hindex, hserializer, hcount, hopen⟩ := h.open_
  unfold writeRecord at hwrite
  split at hwrite
  · rename_i htype
    dsimp only at hwrite
    split at hwrite
    · rename_i hvariation
      rw [Option.bind_eq_bind, Option.bind_eq_some_iff] at hwrite
      obtain ⟨meas, hprepare, hwrite⟩ := hwrite
      rw [hiter, Option.bind_eq_bind, Option.bind_some, Option.bind_eq_bind,
        Option.bind_eq_some_iff] at hwrite
      obtain ⟨⟨it', w'⟩, hput, hwrite⟩ := hwrite
      cases hwrite
      have hsize := (EventWriter.sound_ofVariation ..).size hprepare
      obtain ⟨hindex', hserializer', hcount', hopen'⟩ :=
        hopen.write (by rw [hserializer]; exact hsize) hput
      refine ⟨(r.index, (serializerOf first).write meas),
        ⟨rfl, htype, hvariation, meas, hprepare, rfl⟩, it', rfl, ?_, ?_, ?_, ?_⟩
      · rw [hindex', hindex]
      · rw [hserializer', hserializer]
      · rw [hcount', hcount, List.length_append, List.length_singleton]
      · rw [objectBytes_append]
        unfold PrefixedWriteIterator.entryBytes at hopen'
        rw [hindex, hserializer] at hopen'
        simpa [objectBytes, IndexType.encode, IndexType.size] using hopen'
    · cases hwrite
  · cases hwrite

/-- **The loop of `WriteSome`** fills the header with the events that it marks. -/
theorem atWork_writeSome (rs : List EventRecord) :
    ∀ {objects : List (Nat × List UInt8)} {p : WriteProgress first.type.spec.Meas},
      AtWork first w objects p →
      let result := writeSome first.type first.data.selectedVariation (handlerOf first) rs p
      ∃ front written more, rs = front ++ result.2.1 ∧ Wrote front result.1 written ∧
        result.2.2.ids = p.ids ++ written.map EventRecord.id ∧
        List.Forall₂ (Taken first) written more ∧ AtWork first w (objects ++ more) result.2.2 := by
  induction rs with
  | nil =>
    intro objects p h
    refine ⟨[], [], [], rfl, .nil, (List.append_nil _).symm, .nil, ?_⟩
    rw [List.append_nil]
    exact h
  | cons r rs ih =>
    intro objects p h
    -- every way to stop leaves the list and the position as they are
    have hstop : ∃ front written more, r :: rs = front ++ r :: rs ∧ Wrote front [] written ∧
        p.ids = p.ids ++ written.map EventRecord.id ∧
        List.Forall₂ (Taken first) written more ∧ AtWork first w (objects ++ more) p := by
      refine ⟨[], [], [], rfl, .nil, (List.append_nil _).symm, .nil, ?_⟩
      rw [List.append_nil]
      exact h
    unfold writeSome
    split
    · exact hstop
    · split
      · rename_i hselected
        split
        · exact hstop
        · rename_i p' hwrite
          obtain ⟨object, htaken, hwork⟩ := atWork_writeRecord h hwrite
          obtain ⟨hids, -⟩ := progress_writeRecord hwrite
          obtain ⟨front, written, more, hfront, hwrote, hids', hmore, hwork'⟩ := ih hwork
          refine ⟨r :: front, r :: written, object :: more, congrArg (r :: ·) hfront,
            .write r hselected hwrote, ?_, .cons htaken hmore, ?_⟩
          · rw [hids', hids, List.append_assoc]
            rfl
          · rw [List.append_assoc] at hwork'
            exact hwork'
      · obtain ⟨front, written, more, hfront, hwrote, hids, hmore, hwork⟩ := ih h
        exact ⟨r :: front, written, more, congrArg (r :: ·) hfront, .keep r hwrote, hids, hmore,
          hwork⟩

/-- The room that a header with this event alone takes. -/
def need (first : EventRecord) : Nat :=
  (leadOf first).length + (7 + (serializerOf first).size)

theorem writeHeaderFrom_eq {behind : List EventRecord} {counters : EventClassCounters}
    {result : List EventRecord × List EventRecord × WriteProgress first.type.spec.Meas}
    (h : writeSome first.type first.data.selectedVariation (handlerOf first) (first :: behind)
      ⟨((handlerOf first).start w).1, ((handlerOf first).start w).2, counters, []⟩ = result) :
    writeHeaderFrom first behind counters w = ⟨result.1, result.2.1, result.2.2.counters,
      result.2.2.iter.elim result.2.2.writer fun it => it.finish result.2.2.writer,
      result.2.2.ids⟩ := by
  subst h
  rfl

/-- What becomes of a header: there was no room for it, or it holds its first event and those
    behind it that belong there. -/
theorem encoded_writeHeaderFrom (behind : List EventRecord)
    {counters : EventClassCounters} (hfits : w.position ≤ w.buffer.length)
    (hselected : counters.selected ≠ 0) (hfirst : first.state = .selected) :
    let header := writeHeaderFrom first behind counters w
    (header.ids = [] ∧ w.remaining < need first ∧ header.done ++ header.rest = first :: behind ∧
        Appends w [] header.writer) ∨
      ∃ front written objects, first :: behind = front ++ header.rest ∧
        Wrote front header.done written ∧ header.ids = written.map EventRecord.id ∧
        written.head? = some first ∧ List.Forall₂ (Taken first) written objects ∧
        Appends w (eventHeader first objects) header.writer := by
  have hsound := EventWriter.sound_ofVariation first.type first.data.selectedVariation
    first.data.value
  cases hstart : (handlerOf first).start w with
  | mk begun w' =>
    cases begun with
    | none =>
      left
      have hrecord : writeRecord first.type first.data.selectedVariation (handlerOf first)
          ⟨none, w', counters, []⟩ first = none := by
        unfold writeRecord
        rw [dif_pos rfl]
        rw [if_pos rfl]
        cases (handlerOf first).prepare first.data.value <;> rfl
      have hsome : writeSome first.type first.data.selectedVariation (handlerOf first)
          (first :: behind)
          ⟨((handlerOf first).start w).1, ((handlerOf first).start w).2, counters, []⟩ =
          ([], first :: behind, ⟨none, w', counters, []⟩) := by
        rw [hstart, writeSome, if_neg hselected, if_pos hfirst, hrecord]
      rw [writeHeaderFrom_eq hsome]
      refine ⟨rfl, ?_, rfl, hsound.refuses hfits hstart⟩
      by_contra hroom
      have hbegun := hsound.room hfits (Nat.le_of_not_lt hroom)
      change ((handlerOf first).start w).1.isSome = true at hbegun
      rw [hstart] at hbegun
      cases hbegun
    | some it =>
      right
      obtain ⟨hindex, hserializer, hcount, hopen, hroom⟩ := hsound.begins hfits hstart
      -- the first event is written, because there is room for one
      obtain ⟨meas, hprepare⟩ := EventWriter.prepare_first first.type
        first.data.selectedVariation first.data.value
      have hroom' : it.serializer.size + it.indexType.size ≤ w'.remaining := by
        rw [hserializer, hindex]
        exact hroom
      obtain ⟨⟨it', w₁⟩, hput⟩ := Option.isSome_iff_exists.mp
        (PrefixedWriteIterator.write_isSome meas first.index hroom')
      have hrecord : writeRecord first.type first.data.selectedVariation (handlerOf first)
          ⟨some it, w', counters, []⟩ first =
          some ⟨some it', w₁, counters.onWrite first.clazz, [first.id]⟩ := by
        unfold writeRecord
        rw [dif_pos rfl]
        rw [if_pos rfl]
        change (handlerOf first).prepare first.data.value = _ at hprepare
        rw [hprepare]
        simp only [Option.bind_eq_bind, Option.bind_some]
        rw [hput]
        rfl
      have hbegin : AtWork first w [] ⟨some it, w', counters, []⟩ :=
        ⟨it, rfl, hindex, hserializer, hcount, hopen⟩
      obtain ⟨object, htaken, hwork⟩ := atWork_writeRecord hbegin hrecord
      obtain ⟨front, written, more, hfront, hwrote, hids, hmore, hwork'⟩ :=
        atWork_writeSome behind hwork
      generalize hlater : writeSome first.type first.data.selectedVariation (handlerOf first)
        behind ⟨some it', w₁, counters.onWrite first.clazz, [first.id]⟩ = later
        at hfront hwrote hids hwork'
      have hsome : writeSome first.type first.data.selectedVariation (handlerOf first)
          (first :: behind)
          ⟨((handlerOf first).start w).1, ((handlerOf first).start w).2, counters, []⟩ =
          (first.setState .written :: later.1, later.2.1, later.2.2) := by
        rw [hstart, writeSome, if_neg hselected, if_pos hfirst, hrecord]
        dsimp only
        rw [hlater]
      rw [writeHeaderFrom_eq hsome]
      refine ⟨first :: front, first :: written, object :: more, congrArg (first :: ·) hfront,
        .write first hfirst hwrote, hids, rfl, .cons htaken hmore, ?_⟩
      obtain ⟨it₂, hiter, hindex₂, -, hcount₂, hopen₂⟩ := hwork'.open_
      have hfinish := hopen₂.finish
      rw [hiter]
      rw [hindex₂, hcount₂] at hfinish
      exact hfinish

/-! ## The loop over the headers -/

theorem encoded_writeFrom (fuel : Nat) (rs : List EventRecord) (counters : EventClassCounters)
    (hfits : w.position ≤ w.buffer.length) :
    let result := writeFrom fuel rs counters w
    ∃ written bytes, Wrote rs result.events written ∧
      result.ids = written.map EventRecord.id ∧ Appends w bytes result.writer ∧
      Encoded written bytes := by
  induction fuel generalizing rs counters w with
  | zero => exact ⟨[], [], .refl rs, rfl, .refl hfits, .nil⟩
  | succ fuel ih =>
    unfold writeFrom
    split
    · exact ⟨[], [], .refl rs, rfl, .refl hfits, .nil⟩
    · rename_i hselected
      split
      · exact ⟨[], [], .refl rs, rfl, .refl hfits, .nil⟩
      · rename_i first behind hdrop
        obtain ⟨hrs, hfirst⟩ := split_at_selected hdrop
        have hheader := encoded_writeHeaderFrom behind hfits hselected hfirst
        dsimp only at hheader ⊢
        generalize writeHeaderFrom first behind counters w = header at hheader
        rcases hheader with ⟨hids, -, hsame, happends⟩ |
          ⟨front, written, objects, hfront, hwrote, hids, hhead, htaken, happends⟩
        · -- there was no room for the header
          rw [hids, List.isEmpty_nil, if_pos rfl]
          refine ⟨[], [], ?_, rfl, happends, .nil⟩
          rw [hsame, ← hrs]
          exact .refl rs
        · have hsome : header.ids.isEmpty = false := by
            cases written with
            | nil => cases hhead
            | cons r written => rw [hids]; rfl
          rw [hsome, if_neg (by decide)]
          obtain ⟨more, bytes, hmore, hids', happends', hencoded⟩ :=
            ih header.rest header.counters happends.fits
          refine ⟨written ++ more, eventHeader first objects ++ bytes, ?_, ?_,
            happends.trans happends', .header hhead htaken hencoded⟩
          · have h := (Wrote.refl (rs.takeWhile (·.state ≠ .selected))).append
              (hwrote.append hmore)
            rwa [← hfront, ← hrs] at h
          · rw [hids, hids', List.map_append]

/-- **`Write` appends the headers of the events that it marks as written.** -/
theorem encoded_write (lists : EventLists) (hfits : w.position ≤ w.buffer.length) :
    ∃ written bytes, Wrote lists.events (lists.write w).1.events written ∧
      (lists.write w).2.2 = written.map EventRecord.id ∧ Appends w bytes (lists.write w).2.1 ∧
      Encoded written bytes :=
  encoded_writeFrom _ _ _ hfits

/-- **The first selected event is written, if there is room for it.** -/
theorem write_progress {lists : EventLists}
    {behind : List EventRecord} (hfits : w.position ≤ w.buffer.length)
    (hselected : lists.counters.selected ≠ 0)
    (hfirst : lists.events.dropWhile (·.state ≠ .selected) = first :: behind)
    (hroom : need first ≤ w.remaining) : first.id ∈ (lists.write w).2.2 := by
  obtain ⟨hevents, hstate⟩ := split_at_selected hfirst
  have hmem : first ∈ lists.events := by
    rw [hevents]
    exact List.mem_append_right _ List.mem_cons_self
  unfold write
  cases hrounds : lists.events.length with
  | zero => exact absurd hrounds (Nat.ne_of_gt (List.length_pos_of_mem hmem))
  | succ rounds =>
    unfold writeFrom
    rw [if_neg hselected, hfirst]
    dsimp only
    rcases encoded_writeHeaderFrom behind hfits hselected hstate with
      ⟨-, hless, -⟩ | ⟨front, written, objects, -, -, hids, hhead, -⟩
    -- the first header can only fail for lack of room
    · exact absurd hroom (Nat.not_le_of_lt hless)
    · have hfound : first.id ∈ (writeHeaderFrom first behind lists.counters w).ids := by
        rw [hids]
        exact List.mem_map_of_mem (List.mem_of_mem_head? hhead)
      have hsome : (writeHeaderFrom first behind lists.counters w).ids.isEmpty = false :=
        List.isEmpty_eq_false_iff.mpr (List.ne_nil_of_mem hfound)
      rw [hsome, if_neg (by decide)]
      exact List.mem_append_left _ hfound

/-- Twenty bytes are enough for a binary event. -/
theorem write_progress_binary :
    let lists := ((ofConfig ⟨1, 0, 0, 0, 0, 0, 0, 0⟩).update
      (.binary ⟨⟨true, 0x81, .ofValue 5⟩, 0, .EC1, .Group2Var1⟩)).1.selectByClass
        ⟨false, true, false, false⟩ 1
    0 ∈ (lists.write ⟨List.replicate 20 0, 0⟩).2.2 := by
  intro lists
  have hfirst : lists.events.dropWhile (·.state ≠ .selected) = lists.events := rfl
  exact write_progress (by decide) (by decide) hfirst (by decide)

end EventLists

namespace EventBuffer

/-- **Events loaded by class** are of these classes. -/
theorem encoded_load_selectAllByClass (b : EventBuffer) (clazz : ClassField) {w : HeaderWriter}
    (hfits : w.position ≤ w.buffer.length) :
    let result := (b.unselect.selectAllByClass clazz).load w
    ∃ written bytes, result.2.2.1 = written.map EventRecord.id ∧ Appends w bytes result.2.1 ∧
      EventLists.Encoded written bytes ∧
      ∀ r ∈ written, clazz.hasEventType r.clazz = true ∧
        r.setState .written ∈ result.1.lists.events := by
  obtain ⟨written, bytes, hwrote, hids, happends, hencoded⟩ :=
    (b.unselect.selectAllByClass clazz).lists.encoded_write hfits
  refine ⟨written, bytes, hids, happends, hencoded, fun r hr => ?_⟩
  obtain ⟨hmem, hselected, hmem'⟩ := hwrote.mem hr
  exact ⟨b.class_of_selectAllByClass clazz hmem hselected, hmem'⟩

end EventBuffer

end OpenDnp3.Outstation
