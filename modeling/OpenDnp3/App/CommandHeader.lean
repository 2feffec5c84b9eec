import OpenDnp3.App.HeaderBytes
import OpenDnp3.App.ParserPasses

/-!
# Headers of commands

The objects of SELECT, OPERATE and DIRECT_OPERATE and of the answers to them: control relay output
blocks and analog outputs, each behind its index.  `CommandHeader` is such a header with what the
parser guarantees for it.
-/

namespace OpenDnp3.App

open Lib

/-! ## Objects behind their indices -/

/-- An object behind its index. -/
def IndexType.entry (t : IndexType) (item : Nat × List UInt8) : List UInt8 :=
  t.encode item.1 ++ item.2

theorem IndexType.maxValue_add_one (t : IndexType) : t.maxValue + 1 = 256 ^ t.size := by
  cases t <;> rfl

variable {t : IndexType} {gv : GroupVariation}

/-- A number that is not too wide is read back. -/
theorem IndexType.decodeLE_encode {n : Nat} (h : n ≤ t.maxValue) : decodeLE (t.encode n) = n := by
  have hlt : n < 256 ^ t.size := by
    rw [← t.maxValue_add_one]
    exact Nat.lt_succ_of_le h
  unfold IndexType.encode
  rw [decodeLE_encodeLE, Nat.mod_eq_of_lt hlt]

theorem IndexType.encode_decodeLE {bytes : List UInt8} (h : bytes.length = t.size) :
    t.encode (decodeLE bytes) = bytes := by
  unfold IndexType.encode
  rw [← h, encodeLE_decodeLE]

theorem IndexType.decodeLE_le {bytes : List UInt8} (h : bytes.length = t.size) :
    decodeLE bytes ≤ t.maxValue := by
  apply Nat.le_of_lt_succ
  change _ < t.maxValue + 1
  rw [t.maxValue_add_one, ← h]
  exact decodeLE_lt bytes

/-- The items are what can stand in a header with indices of this width and objects of this
    size. -/
def ItemsFit (t : IndexType) (size : Nat) (items : List (Nat × List UInt8)) : Prop :=
  ∀ item ∈ items, item.1 ≤ t.maxValue ∧ item.2.length = size

section

variable {t : IndexType} {size : Nat} {items : List (Nat × List UInt8)}

theorem length_flatMap_entry (h : ItemsFit t size items) :
    (items.flatMap t.entry).length = items.length * (t.size + size) := by
  induction items with
  | nil => simp
  | cons item items ih =>
    have hitem := h item List.mem_cons_self
    rw [List.flatMap_cons, List.length_append,
      ih fun other hother => h other (List.mem_cons_of_mem _ hother), IndexType.entry,
      List.length_append, IndexType.length_encode, hitem.2, List.length_cons, Nat.succ_mul,
      Nat.add_comm]

/-- What is written is read back. -/
theorem indexedObjects_flatMap_entry (h : ItemsFit t size items) :
    indexedObjects t.size size items.length (items.flatMap t.entry) = items := by
  induction items with
  | nil => rfl
  | cons item items ih =>
    have hitem := h item List.mem_cons_self
    have hlater := ih fun other hother => h other (List.mem_cons_of_mem _ hother)
    have hsize : (t.encode item.1).length = t.size := IndexType.length_encode ..
    have hboth : (t.encode item.1 ++ item.2).length = t.size + size := by
      rw [List.length_append, hsize, hitem.2]
    rw [List.flatMap_cons, List.length_cons, indexedObjects, IndexType.entry,
      List.drop_left' hboth, hlater, List.append_assoc, List.take_left' hsize,
      List.drop_left' hsize, List.take_left' hitem.2, IndexType.decodeLE_encode hitem.1]

/-- What is read has been written so. -/
theorem flatMap_entry_indexedObjects (count : Nat) (bytes : List UInt8)
    (h : bytes.length = count * (t.size + size)) :
    ItemsFit t size (indexedObjects t.size size count bytes) ∧
      (indexedObjects t.size size count bytes).flatMap t.entry = bytes := by
  induction count generalizing bytes with
  | zero =>
    rw [Nat.zero_mul] at h
    obtain rfl := List.length_eq_zero_iff.mp h
    exact ⟨fun item hitem => absurd hitem List.not_mem_nil, rfl⟩
  | succ count ih =>
    rw [Nat.succ_mul] at h
    have hindex : (bytes.take t.size).length = t.size := by
      rw [List.length_take]
      omega
    have hobject : ((bytes.drop t.size).take size).length = size := by
      rw [List.length_take, List.length_drop]
      omega
    obtain ⟨hfit, hbytes⟩ := ih (bytes.drop (t.size + size)) (by
      rw [List.length_drop]
      omega)
    rw [indexedObjects]
    refine ⟨?_, ?_⟩
    · intro item hitem
      obtain rfl | hitem := List.mem_cons.mp hitem
      · exact ⟨IndexType.decodeLE_le hindex, hobject⟩
      · exact hfit item hitem
    · rw [List.flatMap_cons, hbytes, IndexType.entry, IndexType.encode_decodeLE hindex,
        ← List.drop_drop, List.append_assoc, List.take_append_drop, List.take_append_drop]

end

/-! ## Headers -/

/-- The kinds of commands. -/
def commandVariations : List GroupVariation := [⟨12, 1⟩, ⟨41, 1⟩, ⟨41, 2⟩, ⟨41, 3⟩, ⟨41, 4⟩]

/-- The size of a command without its index. -/
def commandSize (gv : GroupVariation) : Nat := (sizeIn indexedSizes gv).getD 0

theorem commandSize_pos (h : gv ∈ commandVariations) : 0 < commandSize gv := by
  revert gv
  decide

/-- The qualifier for a count and indices of this width. -/
def IndexType.prefixQualifier : IndexType → QualifierCode
  | U8 => .UINT8_CNT_UINT8_INDEX
  | U16 => .UINT16_CNT_UINT16_INDEX

/-- A header of commands. -/
structure CommandHeader where
  gv : GroupVariation
  indexType : IndexType
  items : List (Nat × List UInt8)
  known : gv ∈ commandVariations
  fit : ItemsFit indexType (commandSize gv) items
  ne_nil : items ≠ []
  length_le : items.length ≤ indexType.maxValue

namespace CommandHeader

def bytes (h : CommandHeader) : List UInt8 :=
  headerBytes ⟨UInt8.ofNat h.gv.group, UInt8.ofNat h.gv.variation⟩ h.indexType.prefixQualifier ++
    (h.indexType.encode h.items.length ++ h.items.flatMap h.indexType.entry)

def record (h : CommandHeader) (headerIndex : Nat) : HeaderRecord :=
  ⟨h.gv, UInt8.ofNat h.gv.group, UInt8.ofNat h.gv.variation, h.indexType.prefixQualifier,
    headerIndex⟩

/-- What the handler gets for the header. -/
def parsed (h : CommandHeader) (headerIndex : Nat) : ParsedHeader :=
  .indexed (h.record headerIndex) h.items

theorem length_bytes (h : CommandHeader) :
    h.bytes.length =
      3 + h.indexType.size + h.items.length * (h.indexType.size + commandSize h.gv) := by
  unfold bytes
  rw [List.length_append, List.length_append, IndexType.length_encode,
    length_flatMap_entry h.fit, Nat.add_assoc]
  rfl

end CommandHeader

/-- The headers from the given number on. -/
def parsedFrom (headerIndex : Nat) : List CommandHeader → List ParsedHeader
  | [] => []
  | h :: later => h.parsed headerIndex :: parsedFrom (headerIndex + 1) later

theorem IndexType.prefixQualifier_inj {t' : IndexType}
    (h : t.prefixQualifier = t'.prefixQualifier) : t = t' := by
  cases t <;> cases t' <;> first | rfl | cases h

theorem CommandHeader.parsed_inj {h h' : CommandHeader} {headerIndex : Nat}
    (heq : h.parsed headerIndex = h'.parsed headerIndex) : h = h' := by
  obtain ⟨gv, t, items, hknown, hfit, hne, hlength⟩ := h
  obtain ⟨gv', t', items', hknown', hfit', hne', hlength'⟩ := h'
  have hrecord := congrArg ParsedHeader.record? heq
  have hqualifier := congrArg HeaderRecord.qualifier (Option.some.inj hrecord)
  obtain rfl : t = t' := IndexType.prefixQualifier_inj hqualifier
  cases heq
  rfl

theorem parsedFrom_inj {hs hs' : List CommandHeader} {headerIndex : Nat}
    (heq : parsedFrom headerIndex hs = parsedFrom headerIndex hs') : hs = hs' := by
  induction hs generalizing hs' headerIndex with
  | nil =>
    cases hs' with
    | nil => rfl
    | cons h' hs' => cases heq
  | cons h hs ih =>
    cases hs' with
    | nil => cases heq
    | cons h' hs' =>
      obtain ⟨hhead, htail⟩ := List.cons.inj heq
      rw [CommandHeader.parsed_inj hhead, ih htail]

/-! ## Reading them -/

theorem ofWire_command {group variation : UInt8}
    (h : GroupVariation.ofWire group variation = some gv) (hgv : gv ∈ commandVariations) :
    group = UInt8.ofNat gv.group ∧ variation = UInt8.ofNat gv.variation := by
  unfold GroupVariation.ofWire at h
  split at h
  · cases h
    exact ⟨UInt8.ofNat_toNat.symm, UInt8.ofNat_toNat.symm⟩
  · -- the shared entries are no commands
    split at h
    case h_1 =>
      split at h
      · cases h
      · cases h
        exact absurd hgv (by decide)
    case h_7 => cases h
    all_goals
      cases h
      exact absurd hgv (by decide)

theorem ofWire_of_command (hgv : gv ∈ commandVariations) :
    GroupVariation.ofWire (UInt8.ofNat gv.group) (UInt8.ofNat gv.variation) = some gv := by
  revert gv
  decide

theorem indexedSize_command {record : HeaderRecord}
    (h : record.enumeration ∈ commandVariations) :
    indexedSize record = .ok (commandSize record.enumeration) := by
  obtain ⟨gv, group, variation, qualifier, headerIndex⟩ := record
  simp only [commandVariations, List.mem_cons, List.not_mem_nil, or_false] at h
  obtain rfl | rfl | rfl | rfl | rfl := h <;> rfl

theorem byte_of_prefixQualifier {qualifier : UInt8}
    (h : QualifierCode.ofByte qualifier = t.prefixQualifier) :
    qualifier = t.prefixQualifier.toByte := by
  unfold QualifierCode.ofByte at h
  apply UInt8.toNat_inj.mp
  cases t with
  | U8 | U16 =>
    split at h <;> first | assumption | cases h

/-- The parser for numbers of this width. -/
def IndexType.numParser (t : IndexType) : NumParser := ⟨t.size⟩

@[simp] theorem IndexType.size_numParser (t : IndexType) : t.numParser.size = t.size := rfl

theorem parseQualifier_prefixed {record : HeaderRecord} (h : record.qualifier = t.prefixQualifier)
    (settings : ParserSettings) :
    parseQualifier settings record = parseCountIndexHeader t.numParser settings record := by
  funext buffer
  unfold parseQualifier
  rw [h]
  cases t <;> rfl

/-- What stands behind the fixed part of a header of commands. -/
theorem parseCountIndexHeader_command {record : HeaderRecord} {payload : List UInt8}
    {calls : List ParsedHeader} (hgv : record.enumeration ∈ commandVariations)
    (h : parseCountIndexHeader t.numParser .Default record payload = .ok (calls, [])) :
    ∃ items, ItemsFit t (commandSize record.enumeration) items ∧ items ≠ [] ∧
      items.length ≤ t.maxValue ∧ payload = t.encode items.length ++ items.flatMap t.entry ∧
      calls = [.indexed record items] := by
  obtain ⟨⟨count, rest⟩, hcount, h⟩ := bind_eq_ok h
  obtain ⟨⟨num, rest'⟩, htake, hcount⟩ := bind_eq_ok hcount
  obtain ⟨hlength, rfl, rfl⟩ := eq_of_takeBytes htake
  change t.size ≤ payload.length at hlength
  change (if decodeLE (payload.take t.size) = 0 then _ else _) = _ at hcount
  split at hcount
  · cases hcount
  rename_i hpos
  cases hcount
  change (if true = true then _ else _) = _ at h
  rw [if_pos rfl] at h
  obtain ⟨size, hsize, h⟩ := bind_eq_ok h
  rw [indexedSize_command hgv] at hsize
  cases hsize
  obtain ⟨⟨objects, rest''⟩, hobjects, h⟩ := bind_eq_ok h
  obtain ⟨hroom, rfl, hrest⟩ := eq_of_takeBytes hobjects
  cases h
  simp only [IndexType.size_numParser] at hroom hrest ⊢
  -- nothing is left behind the objects
  have hall : (payload.drop t.size).length =
      decodeLE (payload.take t.size) * (t.size + commandSize record.enumeration) := by
    have hdrop := congrArg List.length hrest
    rw [List.length_drop, List.length_nil] at hdrop
    omega
  have hnum : (payload.take t.size).length = t.size := by
    rw [List.length_take]
    omega
  obtain ⟨hfit, hbytes⟩ := flatMap_entry_indexedObjects _ _ hall
  refine ⟨_, hfit, ?_, ?_, ?_, ?_⟩
  · intro hnil
    have hzero := congrArg List.length hnil
    rw [length_indexedObjects] at hzero
    exact hpos hzero
  · rw [length_indexedObjects]
    exact IndexType.decodeLE_le hnum
  · rw [hbytes, length_indexedObjects, IndexType.encode_decodeLE hnum, List.take_append_drop]
  · rw [← hall, List.take_length]

/-- Written in this way they are read. -/
theorem reads_indexed {record : HeaderRecord} {size : Nat} {items : List (Nat × List UInt8)}
    (hobject : indexedSize record = .ok size) (hfit : ItemsFit t size items) (hne : items ≠ [])
    (hlength : items.length ≤ t.maxValue) :
    parseCountIndexHeader t.numParser .Default record
      (t.encode items.length ++ items.flatMap t.entry) = .ok ([.indexed record items], []) := by
  have hsize : (t.encode items.length).length = t.size := IndexType.length_encode ..
  -- the count fits its field and is not zero
  have hcount : NumParser.parseCount t.numParser
      (t.encode items.length ++ items.flatMap t.entry) =
        .ok (items.length, items.flatMap t.entry) := by
    have htake : takeBytes .NOT_ENOUGH_DATA_FOR_RANGE t.numParser.size
        (t.encode items.length ++ items.flatMap t.entry) =
          .ok (t.encode items.length, items.flatMap t.entry) := by
      rw [takeBytes_eq_ok (by rw [List.length_append, hsize]; exact Nat.le_add_right ..)]
      change Except.ok (List.take t.size _, List.drop t.size _) = _
      rw [List.take_left' hsize, List.drop_left' hsize]
    unfold NumParser.parseCount
    rw [htake]
    change (if decodeLE (t.encode items.length) = 0 then _ else _) = _
    rw [IndexType.decodeLE_encode hlength, if_neg (by
      rw [List.length_eq_zero_iff]
      exact hne)]
  have hobjects : takeBytes .NOT_ENOUGH_DATA_FOR_OBJECTS (items.length * (t.size + size))
      (items.flatMap t.entry) = .ok (items.flatMap t.entry, []) := by
    rw [← length_flatMap_entry hfit, takeBytes_eq_ok (Nat.le_refl _), List.take_length,
      List.drop_length]
  have hcontents : ParserSettings.Default.expectsContents = true := rfl
  unfold parseCountIndexHeader
  simp only [hcount, ok_bind, if_pos hcontents, hobject, IndexType.size_numParser, hobjects,
    indexedObjects_flatMap_entry hfit]

/-! ## The objects of a request -/

section

variable {isAllowed : Whitelist}
  (hallowed : ∀ n gv qc, isAllowed n gv qc = true ↔
    gv ∈ commandVariations ∧ ∃ t : IndexType, qc = t.prefixQualifier)

include hallowed

variable {calls : List ParsedHeader} {buffer : List UInt8}

/-- **One header of commands.** -/
theorem headerAt_iff {headerIndex : Nat} {bytes : List UInt8} :
    HeaderAt .Default isAllowed headerIndex bytes calls ↔
      ∃ h : CommandHeader, bytes = h.bytes ∧ calls = [h.parsed headerIndex] := by
  constructor
  · rintro ⟨group, variation, qualifier, payload, gv, rfl, hwire, hcommand, hreads, -⟩
    obtain ⟨hgv, t, hqualifier⟩ := (hallowed _ _ _).mp hcommand
    obtain ⟨rfl, rfl⟩ := ofWire_command hwire hgv
    obtain rfl := byte_of_prefixQualifier hqualifier
    -- what was read are the count and that many entries
    have halone := hreads.alone
    rw [parseQualifier_prefixed hqualifier] at halone
    obtain ⟨items, hfit, hne, hlength, rfl, rfl⟩ := parseCountIndexHeader_command hgv halone
    refine ⟨⟨gv, t, items, hgv, hfit, hne, hlength⟩, rfl, ?_⟩
    unfold CommandHeader.parsed CommandHeader.record
    dsimp only at hqualifier
    rw [hqualifier]
  · rintro ⟨h, rfl, rfl⟩
    have hqualifier : QualifierCode.ofByte h.indexType.prefixQualifier.toByte =
        h.indexType.prefixQualifier := by
      cases h.indexType <;> rfl
    have hreads : Reads (parseQualifier .Default (h.record headerIndex))
        (h.indexType.encode h.items.length ++ h.items.flatMap h.indexType.entry)
        [h.parsed headerIndex] := by
      apply (local_parseQualifier _ _).reads_alone
      rw [parseQualifier_prefixed rfl]
      exact reads_indexed (indexedSize_command h.known) h.fit h.ne_nil h.length_le
    refine ⟨UInt8.ofNat h.gv.group, UInt8.ofNat h.gv.variation,
      h.indexType.prefixQualifier.toByte, _, h.gv, rfl, ofWire_of_command h.known, ?_, ?_, ?_⟩
    · exact (hallowed _ _ _).mpr ⟨h.known, h.indexType, hqualifier⟩
    · rw [hqualifier]
      exact hreads
    · rw [hqualifier]
      exact delivers_parseQualifier hreads.alone

theorem headers_iff {headerIndex : Nat} :
    Headers .Default isAllowed headerIndex buffer calls ↔
      ∃ hs : List CommandHeader, buffer = hs.flatMap CommandHeader.bytes ∧
        calls = parsedFrom headerIndex hs := by
  constructor
  · intro h
    induction h with
    | nil headerIndex => exact ⟨[], rfl, rfl⟩
    | cons hheader hrest ih =>
      obtain ⟨h, rfl, rfl⟩ := (headerAt_iff hallowed).mp hheader
      obtain ⟨hs, rfl, rfl⟩ := ih
      exact ⟨h :: hs, (List.flatMap_cons ..).symm, rfl⟩
  · rintro ⟨hs, rfl, rfl⟩
    induction hs generalizing headerIndex with
    | nil => exact .nil headerIndex
    | cons h hs ih =>
      rw [List.flatMap_cons]
      exact .cons ((headerAt_iff hallowed).mpr ⟨h, rfl, rfl⟩) ih

/-- **What parses as commands is the bytes of some headers.** -/
theorem parse_commands_iff :
    parse .Default isAllowed buffer = .ok calls ↔
      ∃ hs : List CommandHeader, buffer = hs.flatMap CommandHeader.bytes ∧
        calls = parsedFrom 0 hs := by
  rw [parse_eq_ok_iff, headers_iff hallowed]

/-- The headers are known by their bytes. -/
theorem parse_eq_parsedFrom_iff {hs : List CommandHeader} :
    parse .Default isAllowed buffer = .ok (parsedFrom 0 hs) ↔
      buffer = hs.flatMap CommandHeader.bytes := by
  rw [parse_commands_iff hallowed]
  constructor
  · rintro ⟨hs', rfl, heq⟩
    rw [parsedFrom_inj heq]
  · exact fun h => ⟨hs, h, rfl⟩

end

end OpenDnp3.App
