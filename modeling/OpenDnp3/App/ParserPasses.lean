import OpenDnp3.App.APDUParser
import OpenDnp3.Lib.StepParser

/-!
# The two passes of the parser

`APDUParser::Parse` goes through the objects twice: first without the handler but with its
whitelist, then with the handler and without the whitelist.  In the second pass the handler is
called as soon as a header, or one of several objects of a header, has been read, so that a fault
further on would leave a request half done.  `Emission` is a pass with the calls made before its
fault.
-/

namespace OpenDnp3.App

open Lib

/-! ## Every parser is local -/

theorem local_takeBytes (short : ParseResult) (n : Nat) : Local (takeBytes short n) := by
  intro buffer taken rest h
  unfold takeBytes at h
  split at h
  · cases h
  · cases h
    refine ⟨buffer.take n, (List.take_append_drop n buffer).symm, fun rest => ?_⟩
    have htaken : (buffer.take n).length = n := by
      rw [List.length_take]
      omega
    unfold takeBytes
    rw [if_neg (by rw [List.length_append]; omega), List.take_left' htaken,
      List.drop_left' htaken]

theorem NumParser.local_parseCount (p : NumParser) : Local p.parseCount := by
  refine .bind (local_takeBytes _ _) fun num => ?_
  exact .ite (.error _) (.pure _)

theorem NumParser.local_parseRange (p : NumParser) : Local p.parseRange := by
  refine .bind (local_takeBytes _ _) fun nums => ?_
  exact .ite (.pure _) (.error _)

theorem local_parseCountHeader (numparser : NumParser) (settings : ParserSettings)
    (record : HeaderRecord) : Local (parseCountHeader numparser settings record) := by
  refine .bind numparser.local_parseCount fun count => ?_
  refine .ite ?_ (.pure _)
  cases sizeIn countSizes record.enumeration with
  | none => exact .error _
  | some size => exact .bind (local_takeBytes _ _) fun _ => .pure _

/-- One attribute whose length is known, and those behind it. -/
def parseDeviceAttribute (variation typeCode : UInt8) (index count payloadLen : Nat) :
    StepParser ParseResult UInt8 (List ParsedHeader) := fun buffer => do
  let (object, rest) ← takeBytes .NOT_ENOUGH_DATA_FOR_OBJECTS (2 + payloadLen) buffer
  let (later, rest) ← parseRangeOfDeviceAttributes variation (index + 1) count rest
  .ok (.deviceAttribute (UInt8.ofNat index) variation typeCode (object.drop 2) :: later, rest)

theorem takeBytes_eq_ok {short : ParseResult} {n : Nat} {buffer : List UInt8}
    (h : n ≤ buffer.length) : takeBytes short n buffer = .ok (buffer.take n, buffer.drop n) :=
  if_neg (Nat.not_lt.mpr h)

theorem takeBytes_eq_error {short : ParseResult} {n : Nat} {buffer : List UInt8}
    (h : buffer.length < n) : takeBytes short n buffer = .error short := if_pos h

theorem parseRangeOfDeviceAttributes_succ (variation : UInt8) (index count : Nat)
    (buffer : List UInt8) (h : 2 ≤ buffer.length) :
    parseRangeOfDeviceAttributes variation index (count + 1) buffer =
      parseDeviceAttribute variation ((buffer.take 2).getD 0 0) index count
        ((buffer.take 2).getD 1 0).toNat buffer := by
  unfold parseRangeOfDeviceAttributes
  rw [takeBytes_eq_ok h]
  rfl

/-- The length of an attribute is read twice: to know it, and as part of the attribute. -/
theorem local_parseRangeOfDeviceAttributes (variation : UInt8) (index count : Nat) :
    Local (parseRangeOfDeviceAttributes variation index count) := by
  induction count generalizing index with
  | zero => exact .pure _
  | succ count ih =>
    intro buffer calls rest h
    by_cases hshort : buffer.length < 2
    · unfold parseRangeOfDeviceAttributes at h
      rw [takeBytes_eq_error hshort] at h
      cases h
    rw [parseRangeOfDeviceAttributes_succ _ _ _ _ (by omega)] at h
    have hlocal : ∀ typeCode payloadLen,
        Local (parseDeviceAttribute variation typeCode index count payloadLen) := by
      intro typeCode payloadLen
      refine .bind (local_takeBytes _ _) fun object => ?_
      refine .bind (ih (index + 1)) fun later => ?_
      exact .pure _
    obtain ⟨block, hbuffer, hreads⟩ := (hlocal _ _).reads h
    -- the block holds the two bytes in front of the attribute
    have hblock : 2 ≤ block.length := by
      by_contra hlt
      have halone := hreads.alone
      unfold parseDeviceAttribute at halone
      rw [takeBytes_eq_error (by omega)] at halone
      cases halone
    refine ⟨block, hbuffer, fun rest' => ?_⟩
    have htake : (block ++ rest').take 2 = buffer.take 2 := by
      rw [hbuffer, List.take_append_of_le_length hblock, List.take_append_of_le_length hblock]
    rw [parseRangeOfDeviceAttributes_succ _ _ _ _ (by rw [List.length_append]; omega), htake]
    exact hreads rest'

theorem local_parseRangeOfSize (size : Nat) (record : HeaderRecord) (range : Range) :
    Local (parseRangeOfSize size record range) := by
  refine .bind (local_takeBytes _ _) fun objects => ?_
  exact .pure _

theorem local_parseRangeOfBits (perByte : Nat) (record : HeaderRecord) (range : Range) :
    Local (parseRangeOfBits perByte record range) := by
  refine .bind (local_takeBytes _ _) fun field => ?_
  exact .pure _

theorem local_parseRangeOfObjects (record : HeaderRecord) (range : Range) :
    Local (parseRangeOfObjects record range) := by
  unfold parseRangeOfObjects
  split
  · exact local_parseRangeOfBits _ _ _
  · exact local_parseRangeOfBits _ _ _
  · exact local_parseRangeOfBits _ _ _
  · exact local_parseRangeOfBits _ _ _
  · exact .bindExcept fun size => local_parseRangeOfSize size record range
  · exact .bindExcept fun size => local_parseRangeOfSize size record range
  · exact local_parseRangeOfDeviceAttributes _ _ _
  · cases sizeIn rangeSizes record.enumeration with
    | none => exact .error _
    | some size => exact local_parseRangeOfSize size record range

theorem local_parseRangeHeader (numparser : NumParser) (settings : ParserSettings)
    (record : HeaderRecord) : Local (parseRangeHeader numparser settings record) := by
  refine .bind numparser.local_parseRange fun range => ?_
  exact .ite (local_parseRangeOfObjects record range) (.pure _)

theorem local_parseCountIndexHeader (numparser : NumParser) (settings : ParserSettings)
    (record : HeaderRecord) : Local (parseCountIndexHeader numparser settings record) := by
  refine .bind numparser.local_parseCount fun count => ?_
  refine .ite ?_ ?_
  · refine .bindExcept fun size => ?_
    refine .bind (local_takeBytes _ _) fun objects => ?_
    exact .pure _
  · refine .bind (local_takeBytes _ _) fun indices => ?_
    exact .pure _

theorem local_parseGroup120 (record : HeaderRecord) : Local (parseGroup120 record) := by
  refine .bind (local_takeBytes _ _) fun head => ?_
  refine .ite (.error _) ?_
  refine .bind (local_takeBytes _ _) fun object => ?_
  cases group120Layout record.enumeration.variation with
  | none => exact .error _
  | some layout => exact .ite (.pure _) (.error _)

theorem local_parseFreeFormatObjects (record : HeaderRecord) (count : Nat) :
    Local (parseFreeFormatObjects record count) := by
  induction count with
  | zero => exact .pure _
  | succ count ih =>
    refine .bind (local_takeBytes _ _) fun len => ?_
    refine .bind (local_takeBytes _ _) fun data => ?_
    refine .bind ih fun later => ?_
    exact .pure _

theorem local_parseFreeFormatHeader (settings : ParserSettings) (record : HeaderRecord) :
    Local (parseFreeFormatHeader settings record) := by
  refine .ite (local_parseGroup120 record) ?_
  refine .bind (local_takeBytes _ _) fun count => ?_
  exact .ite (local_parseFreeFormatObjects record _) (.pure _)

/-- **What follows the fixed part of a header is read off its own bytes.** -/
theorem local_parseQualifier (settings : ParserSettings) (record : HeaderRecord) :
    Local (parseQualifier settings record) := by
  unfold parseQualifier
  split
  · exact .pure _
  · exact local_parseCountHeader _ _ _
  · exact local_parseCountHeader _ _ _
  · exact local_parseRangeHeader _ _ _
  · exact local_parseRangeHeader _ _ _
  · exact local_parseCountIndexHeader _ _ _
  · exact local_parseCountIndexHeader _ _ _
  · exact local_parseFreeFormatHeader _ _
  · exact .error _

/-! ## The items of a header -/

/-- The number of objects that a header declares, by the bytes behind its fixed part. -/
def declaredItems (qualifier : QualifierCode) (payload : List UInt8) : Nat :=
  match qualifier with
  | .UINT8_CNT | .UINT8_CNT_UINT8_INDEX | .UINT8_CNT_UINT16_FREE_FORMAT =>
    decodeLE (payload.take 1)
  | .UINT16_CNT | .UINT16_CNT_UINT16_INDEX => decodeLE (payload.take 2)
  | .UINT8_START_STOP => Range.count ⟨decodeLE (payload.take 1), decodeLE ((payload.drop 1).take 1)⟩
  | .UINT16_START_STOP =>
    Range.count ⟨decodeLE (payload.take 2), decodeLE ((payload.drop 2).take 2)⟩
  | .ALL_OBJECTS | .OTHER => 0

/-- How many objects a callback is about.  Headers without contents only tell their number. -/
def ParsedHeader.items : ParsedHeader → Nat
  | allObjects _ => 0
  | count _ n => n
  | range _ r => r.count
  | indices _ values => values.length
  | countOf _ objects => objects.length
  | rangeOf _ _ objects => objects.length
  | bitsOf _ _ values => values.length
  | indexed _ objects => objects.length
  | freeFormat _ _ => 1
  | deviceAttribute .. => 1

/-- The groups whose free-format objects are handed on. -/
def freeFormatGroups : List Nat := [0, 70, 85, 86, 87, 88, 120]

/-- The callbacks of a header that declares `n` objects. -/
inductive Delivers (record : HeaderRecord) (n : Nat) : List ParsedHeader → Prop
  /-- All objects in one collection. -/
  | together (call : ParsedHeader) (hitems : call.items = n) : Delivers record n [call]
  /-- Device attributes and free-format objects come one by one. -/
  | oneByOne (calls : List ParsedHeader) (hlength : calls.length = n)
      (hitems : ∀ call ∈ calls, call.items = 1) : Delivers record n calls
  /-- Free-format objects of other groups are passed over. -/
  | skipped (hqualifier : record.qualifier = .UINT8_CNT_UINT16_FREE_FORMAT)
      (hgroup : record.group.toNat ∉ freeFormatGroups) : Delivers record n []

@[simp] theorem length_objectsOf (size count : Nat) (bytes : List UInt8) :
    (objectsOf size count bytes).length = count := by
  induction count generalizing bytes with
  | zero => rfl
  | succ count ih => simp [objectsOf, ih]

@[simp] theorem length_objectsFrom (size index count : Nat) (bytes : List UInt8) :
    (objectsFrom size index count bytes).length = count := by
  induction count generalizing index bytes with
  | zero => rfl
  | succ count ih => simp [objectsFrom, ih]

@[simp] theorem length_indexedObjects (indexSize size count : Nat) (bytes : List UInt8) :
    (indexedObjects indexSize size count bytes).length = count := by
  induction count generalizing bytes with
  | zero => rfl
  | succ count ih => simp [indexedObjects, ih]

theorem ok_bind {α β : Type} (a : α) (f : α → Except ParseResult β) :
    (Except.ok a >>= f) = f a := rfl

theorem eq_of_takeBytes {short : ParseResult} {n : Nat} {buffer taken rest : List UInt8}
    (h : takeBytes short n buffer = .ok (taken, rest)) :
    n ≤ buffer.length ∧ taken = buffer.take n ∧ rest = buffer.drop n := by
  unfold takeBytes at h
  split at h
  · cases h
  · rename_i hlength
    cases h
    exact ⟨Nat.not_lt.mp hlength, rfl, rfl⟩

theorem NumParser.eq_of_parseCount {p : NumParser} {buffer rest : List UInt8} {count : Nat}
    (h : p.parseCount buffer = .ok (count, rest)) : count = decodeLE (buffer.take p.size) := by
  obtain ⟨⟨num, rest'⟩, htake, h⟩ := bind_eq_ok h
  obtain ⟨-, rfl, -⟩ := eq_of_takeBytes htake
  change (if _ then _ else _) = _ at h
  split at h
  · cases h
  · cases h
    rfl

theorem NumParser.eq_of_parseRange {p : NumParser} {buffer rest : List UInt8} {range : Range}
    (h : p.parseRange buffer = .ok (range, rest)) :
    range = ⟨decodeLE (buffer.take p.size), decodeLE ((buffer.drop p.size).take p.size)⟩ := by
  obtain ⟨⟨nums, rest'⟩, htake, h⟩ := bind_eq_ok h
  obtain ⟨-, rfl, -⟩ := eq_of_takeBytes htake
  change (if _ then _ else _) = _ at h
  split at h
  · cases h
    rw [List.take_take, List.drop_take, Nat.min_eq_left (by omega)]
    congr
    omega
  · cases h

variable {settings : ParserSettings} {record : HeaderRecord} {buffer rest : List UInt8}
  {calls : List ParsedHeader}

theorem delivers_parseCountHeader {numparser : NumParser}
    (h : parseCountHeader numparser settings record buffer = .ok (calls, rest)) :
    Delivers record (decodeLE (buffer.take numparser.size)) calls := by
  obtain ⟨⟨count, rest'⟩, hcount, h⟩ := bind_eq_ok h
  obtain rfl := NumParser.eq_of_parseCount hcount
  change (if _ then _ else _) = _ at h
  split at h
  · split at h
    · cases h
    · obtain ⟨objects, -, h⟩ := bind_eq_ok h
      cases h
      exact .together _ (length_objectsOf ..)
  · cases h
    exact .together _ rfl

theorem delivers_parseRangeOfDeviceAttributes {variation : UInt8} {index count : Nat}
    (h : parseRangeOfDeviceAttributes variation index count buffer = .ok (calls, rest)) :
    Delivers record count calls := by
  have hboth : calls.length = count ∧ ∀ call ∈ calls, call.items = 1 := by
    induction count generalizing index buffer calls with
    | zero =>
      cases h
      exact ⟨rfl, by simp⟩
    | succ count ih =>
      obtain ⟨head, -, h⟩ := bind_eq_ok h
      obtain ⟨object, -, h⟩ := bind_eq_ok h
      obtain ⟨⟨later, rest'⟩, hlater, h⟩ := bind_eq_ok h
      cases h
      obtain ⟨hlength, hitems⟩ := ih hlater
      refine ⟨congrArg (· + 1) hlength, ?_⟩
      intro call hcall
      obtain rfl | hcall := List.mem_cons.mp hcall
      · rfl
      · exact hitems call hcall
  exact .oneByOne calls hboth.1 hboth.2

theorem delivers_parseRangeOfSize {size : Nat} {range : Range}
    (h : parseRangeOfSize size record range buffer = .ok (calls, rest)) :
    Delivers record range.count calls := by
  obtain ⟨objects, -, h⟩ := bind_eq_ok h
  cases h
  exact .together _ (length_objectsFrom ..)

theorem delivers_parseRangeOfBits {perByte : Nat} {range : Range}
    (h : parseRangeOfBits perByte record range buffer = .ok (calls, rest)) :
    Delivers record range.count calls := by
  obtain ⟨field, -, h⟩ := bind_eq_ok h
  cases h
  refine .together _ ?_
  change List.length (List.map _ (List.range range.count)) = _
  rw [List.length_map, List.length_range]

theorem delivers_parseRangeOfObjects {range : Range}
    (h : parseRangeOfObjects record range buffer = .ok (calls, rest)) :
    Delivers record range.count calls := by
  unfold parseRangeOfObjects at h
  split at h
  · exact delivers_parseRangeOfBits h
  · exact delivers_parseRangeOfBits h
  · exact delivers_parseRangeOfBits h
  · exact delivers_parseRangeOfBits h
  · obtain ⟨size, -, h⟩ := bind_eq_ok h
    exact delivers_parseRangeOfSize h
  · obtain ⟨size, -, h⟩ := bind_eq_ok h
    exact delivers_parseRangeOfSize h
  · exact delivers_parseRangeOfDeviceAttributes h
  · split at h
    · cases h
    · exact delivers_parseRangeOfSize h

theorem delivers_parseRangeHeader {numparser : NumParser}
    (h : parseRangeHeader numparser settings record buffer = .ok (calls, rest)) :
    Delivers record (Range.count ⟨decodeLE (buffer.take numparser.size),
      decodeLE ((buffer.drop numparser.size).take numparser.size)⟩) calls := by
  obtain ⟨⟨range, rest'⟩, hrange, h⟩ := bind_eq_ok h
  obtain rfl := NumParser.eq_of_parseRange hrange
  change (if _ then _ else _) = _ at h
  split at h
  · exact delivers_parseRangeOfObjects h
  · cases h
    exact .together _ rfl

theorem delivers_parseCountIndexHeader {numparser : NumParser}
    (h : parseCountIndexHeader numparser settings record buffer = .ok (calls, rest)) :
    Delivers record (decodeLE (buffer.take numparser.size)) calls := by
  obtain ⟨⟨count, rest'⟩, hcount, h⟩ := bind_eq_ok h
  obtain rfl := NumParser.eq_of_parseCount hcount
  change (if _ then _ else _) = _ at h
  split at h
  · obtain ⟨size, -, h⟩ := bind_eq_ok h
    obtain ⟨objects, -, h⟩ := bind_eq_ok h
    cases h
    exact .together _ (length_indexedObjects ..)
  · obtain ⟨indices, -, h⟩ := bind_eq_ok h
    cases h
    refine .together _ ?_
    change List.length (List.map _ _) = _
    rw [List.length_map, length_objectsOf]

/-- A free-format object of a known group is handed on. -/
theorem deliverFreeFormat_known (data : List UInt8) (hgroup : record.group.toNat ∈ freeFormatGroups)
    (hauth : record.group ≠ 120) :
    ∃ call, deliverFreeFormat record data = [call] ∧ call.items = 1 := by
  unfold deliverFreeFormat
  split
  · refine ⟨_, rfl, ?_⟩
    unfold deliverDeviceAttribute
    split
    · split <;> rfl
    · rfl
  case h_7 =>
    -- the group would have to be 120
    have hvalue : record.group.toNat = 120 := by
      simp_all [freeFormatGroups]
    exact absurd (UInt8.toNat_inj.mp hvalue) hauth
  all_goals exact ⟨_, rfl, rfl⟩

theorem deliverFreeFormat_unknown (data : List UInt8)
    (hgroup : record.group.toNat ∉ freeFormatGroups) : deliverFreeFormat record data = [] := by
  unfold deliverFreeFormat
  split
  case h_7 => rfl
  all_goals simp_all [freeFormatGroups]

theorem delivers_parseFreeFormatObjects {count : Nat}
    (hqualifier : record.qualifier = .UINT8_CNT_UINT16_FREE_FORMAT) (hauth : record.group ≠ 120)
    (h : parseFreeFormatObjects record count buffer = .ok (calls, rest)) :
    Delivers record count calls := by
  by_cases hgroup : record.group.toNat ∈ freeFormatGroups
  -- each object of a known group is one call
  · have hboth : calls.length = count ∧ ∀ call ∈ calls, call.items = 1 := by
      induction count generalizing buffer calls with
      | zero =>
        cases h
        exact ⟨rfl, by simp⟩
      | succ count ih =>
        obtain ⟨len, -, h⟩ := bind_eq_ok h
        obtain ⟨data, -, h⟩ := bind_eq_ok h
        obtain ⟨⟨later, rest'⟩, hlater, h⟩ := bind_eq_ok h
        cases h
        obtain ⟨call, hcall, hitem⟩ := deliverFreeFormat_known data.1 hgroup hauth
        obtain ⟨hlength, hitems⟩ := ih hlater
        rw [hcall, List.singleton_append]
        refine ⟨congrArg (· + 1) hlength, ?_⟩
        intro call' hmem
        obtain rfl | hmem := List.mem_cons.mp hmem
        · exact hitem
        · exact hitems call' hmem
    exact .oneByOne calls hboth.1 hboth.2
  -- objects of other groups are read and dropped
  · have hnone : calls = [] := by
      induction count generalizing buffer calls with
      | zero =>
        cases h
        rfl
      | succ count ih =>
        obtain ⟨len, -, h⟩ := bind_eq_ok h
        obtain ⟨data, -, h⟩ := bind_eq_ok h
        obtain ⟨⟨later, rest'⟩, hlater, h⟩ := bind_eq_ok h
        cases h
        rw [deliverFreeFormat_unknown data.1 hgroup, ih hlater]
        rfl
    rw [hnone]
    exact .skipped hqualifier hgroup

theorem delivers_parseGroup120 (h : parseGroup120 record buffer = .ok (calls, rest)) :
    Delivers record (decodeLE (buffer.take 1)) calls := by
  obtain ⟨⟨head, rest₁⟩, hhead, h⟩ := bind_eq_ok h
  obtain ⟨hlength, rfl, -⟩ := eq_of_takeBytes hhead
  change (if _ then _ else _) = _ at h
  split at h
  · cases h
  rename_i hone
  obtain ⟨object, -, h⟩ := bind_eq_ok h
  -- the count has been checked to be one
  have hcount : decodeLE (buffer.take 1) = 1 := by
    match buffer, hlength with
    | count :: _, _ =>
      have hvalue : count = 1 := by simpa using hone
      rw [hvalue]
      rfl
  dsimp only at h
  split at h
  · cases h
  · split at h
    · cases h
      rw [hcount]
      exact .together _ rfl
    · cases h

theorem delivers_parseFreeFormatHeader
    (hqualifier : record.qualifier = .UINT8_CNT_UINT16_FREE_FORMAT)
    (h : parseFreeFormatHeader settings record buffer = .ok (calls, rest)) :
    Delivers record (decodeLE (buffer.take 1)) calls := by
  unfold parseFreeFormatHeader at h
  split at h
  · exact delivers_parseGroup120 h
  · rename_i hauth
    obtain ⟨⟨count, rest'⟩, hcount, h⟩ := bind_eq_ok h
    obtain ⟨-, rfl, -⟩ := eq_of_takeBytes hcount
    change (if _ then _ else _) = _ at h
    split at h
    · exact delivers_parseFreeFormatObjects hqualifier hauth h
    · cases h
      exact .together _ rfl

/-- **A header hands on as many objects as it declares.** -/
theorem delivers_parseQualifier
    (h : parseQualifier settings record buffer = .ok (calls, rest)) :
    Delivers record (declaredItems record.qualifier buffer) calls := by
  unfold parseQualifier at h
  split at h
  case h_9 => cases h
  all_goals
    rename_i hqualifier
    rw [hqualifier]
  · cases h
    exact .together _ rfl
  · exact delivers_parseCountHeader h
  · exact delivers_parseCountHeader h
  · exact delivers_parseRangeHeader h
  · exact delivers_parseRangeHeader h
  · exact delivers_parseCountIndexHeader h
  · exact delivers_parseCountIndexHeader h
  · exact delivers_parseFreeFormatHeader hqualifier h

/-! ## The sequence of headers -/

/-- The bytes are one header that the whitelist lets through, with all of its objects, and the
    calls are those that it makes. -/
def HeaderAt (settings : ParserSettings) (isAllowed : Whitelist) (headerIndex : Nat)
    (bytes : List UInt8) (calls : List ParsedHeader) : Prop :=
  ∃ (group variation qualifier : UInt8) (payload : List UInt8) (enumeration : GroupVariation),
    let record : HeaderRecord :=
      ⟨enumeration, group, variation, .ofByte qualifier, headerIndex⟩
    bytes = group :: variation :: qualifier :: payload ∧
      GroupVariation.ofWire group variation = some enumeration ∧
      isAllowed headerIndex enumeration record.qualifier = true ∧
      Reads (parseQualifier settings record) payload calls ∧
      Delivers record (declaredItems record.qualifier payload) calls

/-- The buffer is a sequence of headers, from the given number on, and nothing else. -/
inductive Headers (settings : ParserSettings) (isAllowed : Whitelist) :
    Nat → List UInt8 → List ParsedHeader → Prop
  | nil (headerIndex : Nat) : Headers settings isAllowed headerIndex [] []
  | cons {headerIndex : Nat} {bytes rest : List UInt8} {calls later : List ParsedHeader}
      (hheader : HeaderAt settings isAllowed headerIndex bytes calls)
      (hrest : Headers settings isAllowed (headerIndex + 1) rest later) :
      Headers settings isAllowed headerIndex (bytes ++ rest) (calls ++ later)

variable {isAllowed : Whitelist} {headerIndex : Nat}

theorem HeaderAt.length_bytes {bytes : List UInt8}
    (h : HeaderAt settings isAllowed headerIndex bytes calls) : 3 ≤ bytes.length := by
  obtain ⟨group, variation, qualifier, payload, enumeration, rfl, -⟩ := h
  simp

/-- A header is read whatever stands behind it. -/
theorem HeaderAt.reads {bytes : List UInt8}
    (h : HeaderAt settings isAllowed headerIndex bytes calls) :
    Reads (parseObjectHeader settings (some isAllowed) headerIndex) bytes calls := by
  obtain ⟨group, variation, qualifier, payload, enumeration, rfl, hwire, hallowed, hreads, -⟩ := h
  intro rest
  unfold parseObjectHeader
  have hrecord : parseRecord headerIndex (group :: variation :: qualifier :: payload ++ rest) =
      .ok (⟨enumeration, group, variation, .ofByte qualifier, headerIndex⟩, payload ++ rest) := by
    simp only [parseRecord, List.cons_append, hwire]
  rw [hrecord]
  exact (if_pos hallowed).trans (hreads rest)

/-- **What `ParseHeader` takes off the buffer is one header.** -/
theorem headerAt_parseObjectHeader
    (h : parseObjectHeader settings (some isAllowed) headerIndex buffer = .ok (calls, rest)) :
    ∃ bytes, buffer = bytes ++ rest ∧ HeaderAt settings isAllowed headerIndex bytes calls := by
  obtain ⟨record, rest', hrecord, hallowed, h⟩ := parseObjectHeader_eq_ok h
  obtain ⟨payload, hpayload, hreads⟩ := (local_parseQualifier settings record).reads h
  unfold parseRecord at hrecord
  split at hrecord
  · rename_i group variation qualifier behind
    split at hrecord
    · cases hrecord
    · rename_i enumeration hwire
      cases hrecord
      refine ⟨group :: variation :: qualifier :: payload, ?_, group, variation, qualifier,
        payload, enumeration, rfl, hwire, hallowed, hreads, delivers_parseQualifier hreads.alone⟩
      rw [hpayload]
      rfl
  · cases hrecord

/-- The loop has enough rounds for its buffer. -/
theorem parseLoop_eq_ok_iff (fuel : Nat) (hfuel : buffer.length ≤ fuel) :
    parseLoop settings (some isAllowed) fuel headerIndex buffer = .ok calls ↔
      Headers settings isAllowed headerIndex buffer calls := by
  constructor
  · intro h
    induction fuel generalizing headerIndex buffer calls with
    | zero =>
      obtain rfl := List.length_eq_zero_iff.mp (Nat.le_zero.mp hfuel)
      cases h
      exact .nil headerIndex
    | succ fuel ih =>
      obtain ⟨hempty, rfl⟩ | ⟨-, first, rest, later, hfirst, hlater, rfl⟩ := parseLoop_eq_ok h
      · obtain rfl := List.isEmpty_iff.mp hempty
        exact .nil headerIndex
      · obtain ⟨bytes, rfl, hheader⟩ := headerAt_parseObjectHeader hfirst
        -- a header is not empty, so the fuel lasts
        have hlength := hheader.length_bytes
        rw [List.length_append] at hfuel
        exact .cons hheader (ih (by omega) hlater)
  · intro h
    induction h generalizing fuel with
    | nil headerIndex => cases fuel <;> rfl
    | @cons headerIndex bytes rest first later hheader hrest ih =>
      have hlength := hheader.length_bytes
      rw [List.length_append] at hfuel
      cases fuel with
      | zero => omega
      | succ fuel =>
        have hne : (bytes ++ rest).isEmpty = false := by
          cases bytes with
          | nil => cases hlength
          | cons b bytes => rfl
        unfold parseLoop
        rw [hne, hheader.reads rest]
        change (parseLoop settings (some isAllowed) fuel (headerIndex + 1) rest >>= _) = _
        rw [ih fuel (by omega)]
        rfl

/-- **A buffer parses exactly when it is a sequence of headers.** -/
theorem parse_eq_ok_iff :
    parse settings isAllowed buffer = .ok calls ↔ Headers settings isAllowed 0 buffer calls := by
  rw [parse_eq_parseSinglePass]
  exact parseLoop_eq_ok_iff buffer.length (Nat.le_refl _)

/-! ## A pass with the handler -/

/-- A pass with the calls made before its fault. -/
abbrev Emission (α : Type) := List ParsedHeader × Except ParseResult α

/-- A header of which the handler hears only when all of it has been read. -/
def emitChecked (parsed : Except ParseResult (List ParsedHeader × List UInt8)) :
    Emission (List UInt8) :=
  match parsed with
  | .ok (calls, rest) => (calls, .ok rest)
  | .error fault => ([], .error fault)

/-- `ParseRangeOfDeviceAttributes`: each attribute is handed on before the next one is read. -/
def emitRangeOfDeviceAttributes (variation : UInt8) :
    Nat → Nat → List UInt8 → Emission (List UInt8)
  | _, 0, buffer => ([], .ok buffer)
  | index, count + 1, buffer =>
    match takeBytes .NOT_ENOUGH_DATA_FOR_OBJECTS 2 buffer with
    | .error fault => ([], .error fault)
    | .ok (head, _) =>
      match takeBytes .NOT_ENOUGH_DATA_FOR_OBJECTS (2 + (head.getD 1 0).toNat) buffer with
      | .error fault => ([], .error fault)
      | .ok (object, rest) =>
        let later := emitRangeOfDeviceAttributes variation (index + 1) count rest
        (.deviceAttribute (UInt8.ofNat index) variation (head.getD 0 0) (object.drop 2) :: later.1,
          later.2)

/-- `ParseFreeFormatObjects`: each object is handed on before the next one is read. -/
def emitFreeFormatObjects (record : HeaderRecord) : Nat → List UInt8 → Emission (List UInt8)
  | 0, buffer => ([], .ok buffer)
  | count + 1, buffer =>
    match takeBytes .NOT_ENOUGH_DATA_FOR_OBJECTS 2 buffer with
    | .error fault => ([], .error fault)
    | .ok (len, rest) =>
      match takeBytes .NOT_ENOUGH_DATA_FOR_OBJECTS (decodeLE len) rest with
      | .error fault => ([], .error fault)
      | .ok (data, rest) =>
        let later := emitFreeFormatObjects record count rest
        (deliverFreeFormat record data ++ later.1, later.2)

def emitRangeHeader (numparser : NumParser) (settings : ParserSettings) (record : HeaderRecord)
    (buffer : List UInt8) : Emission (List UInt8) :=
  match numparser.parseRange buffer with
  | .error fault => ([], .error fault)
  | .ok (range, rest) =>
    if settings.expectsContents ∧ record.enumeration = ⟨0, 0⟩ then
      emitRangeOfDeviceAttributes record.variation range.start range.count rest
    else
      emitChecked (parseRangeHeader numparser settings record buffer)

def emitFreeFormatHeader (settings : ParserSettings) (record : HeaderRecord)
    (buffer : List UInt8) : Emission (List UInt8) :=
  if record.group = 120 then
    emitChecked (parseGroup120 record buffer)
  else
    match takeBytes .NOT_ENOUGH_DATA_FOR_HEADER 1 buffer with
    | .error fault => ([], .error fault)
    | .ok (count, rest) =>
      if settings.expectsContents then
        emitFreeFormatObjects record (decodeLE count) rest
      else
        ([.count record (decodeLE count)], .ok rest)

def emitQualifier (settings : ParserSettings) (record : HeaderRecord) (buffer : List UInt8) :
    Emission (List UInt8) :=
  match record.qualifier with
  | .UINT8_START_STOP => emitRangeHeader .oneByte settings record buffer
  | .UINT16_START_STOP => emitRangeHeader .twoByte settings record buffer
  | .UINT8_CNT_UINT16_FREE_FORMAT => emitFreeFormatHeader settings record buffer
  | _ => emitChecked (parseQualifier settings record buffer)

/-- `ParseHeader` in a pass without whitelist. -/
def emitObjectHeader (settings : ParserSettings) (headerIndex : Nat) (buffer : List UInt8) :
    Emission (List UInt8) :=
  match parseRecord headerIndex buffer with
  | .error fault => ([], .error fault)
  | .ok (record, rest) => emitQualifier settings record rest

/-- The loop of `ParseSinglePass` with a handler. -/
def emitLoop (settings : ParserSettings) : Nat → Nat → List UInt8 → Emission Unit
  | 0, _, _ => ([], .ok ())
  | fuel + 1, count, buffer =>
    if buffer.isEmpty then
      ([], .ok ())
    else
      match emitObjectHeader settings count buffer with
      | (calls, .error fault) => (calls, .error fault)
      | (calls, .ok rest) =>
        let later := emitLoop settings fuel (count + 1) rest
        (calls ++ later.1, later.2)

/-- **`APDUParser::Parse` with the calls of its handler**, those before a fault included. -/
def parsePasses (settings : ParserSettings) (isAllowed : Whitelist) (buffer : List UInt8) :
    Emission Unit :=
  match parseSinglePass settings (some isAllowed) buffer with
  | .error fault => ([], .error fault)
  | .ok _ => emitLoop settings buffer.length 0 buffer

/-! ## A pass that succeeds -/

theorem emitChecked_of_ok {parsed : Except ParseResult (List ParsedHeader × List UInt8)}
    (h : parsed = .ok (calls, rest)) : emitChecked parsed = (calls, .ok rest) := by
  rw [h]
  rfl

theorem emitRangeOfDeviceAttributes_of_ok {variation : UInt8} {index count : Nat}
    (h : parseRangeOfDeviceAttributes variation index count buffer = .ok (calls, rest)) :
    emitRangeOfDeviceAttributes variation index count buffer = (calls, .ok rest) := by
  induction count generalizing index buffer calls with
  | zero =>
    cases h
    rfl
  | succ count ih =>
    obtain ⟨head, hhead, h⟩ := bind_eq_ok h
    obtain ⟨object, hobject, h⟩ := bind_eq_ok h
    obtain ⟨later, hlater, h⟩ := bind_eq_ok h
    cases h
    unfold emitRangeOfDeviceAttributes
    simp only [hhead, hobject, ih hlater]

theorem emitFreeFormatObjects_of_ok {count : Nat}
    (h : parseFreeFormatObjects record count buffer = .ok (calls, rest)) :
    emitFreeFormatObjects record count buffer = (calls, .ok rest) := by
  induction count generalizing buffer calls with
  | zero =>
    cases h
    rfl
  | succ count ih =>
    obtain ⟨len, hlen, h⟩ := bind_eq_ok h
    obtain ⟨data, hdata, h⟩ := bind_eq_ok h
    obtain ⟨later, hlater, h⟩ := bind_eq_ok h
    cases h
    unfold emitFreeFormatObjects
    simp only [hlen, hdata, ih hlater]

theorem emitRangeHeader_of_ok {numparser : NumParser}
    (h : parseRangeHeader numparser settings record buffer = .ok (calls, rest)) :
    emitRangeHeader numparser settings record buffer = (calls, .ok rest) := by
  obtain ⟨⟨range, rest'⟩, hrange, h'⟩ := bind_eq_ok h
  unfold emitRangeHeader
  rw [hrange]
  dsimp only at h' ⊢
  split
  · rename_i hattributes
    rw [if_pos hattributes.1] at h'
    unfold parseRangeOfObjects at h'
    rw [hattributes.2] at h'
    exact emitRangeOfDeviceAttributes_of_ok h'
  · exact emitChecked_of_ok h

theorem emitFreeFormatHeader_of_ok
    (h : parseFreeFormatHeader settings record buffer = .ok (calls, rest)) :
    emitFreeFormatHeader settings record buffer = (calls, .ok rest) := by
  unfold parseFreeFormatHeader at h
  unfold emitFreeFormatHeader
  split at h
  · rename_i hauth
    rw [if_pos hauth]
    exact emitChecked_of_ok h
  · rename_i hauth
    obtain ⟨⟨count, rest'⟩, hcount, h⟩ := bind_eq_ok h
    rw [if_neg hauth, hcount]
    dsimp only at h ⊢
    split at h
    · rename_i hcontents
      rw [if_pos hcontents]
      exact emitFreeFormatObjects_of_ok h
    · rename_i hcontents
      rw [if_neg hcontents]
      cases h
      rfl

theorem emitQualifier_of_ok (h : parseQualifier settings record buffer = .ok (calls, rest)) :
    emitQualifier settings record buffer = (calls, .ok rest) := by
  unfold emitQualifier
  split
  · rename_i hqualifier
    unfold parseQualifier at h
    rw [hqualifier] at h
    exact emitRangeHeader_of_ok h
  · rename_i hqualifier
    unfold parseQualifier at h
    rw [hqualifier] at h
    exact emitRangeHeader_of_ok h
  · rename_i hqualifier
    unfold parseQualifier at h
    rw [hqualifier] at h
    exact emitFreeFormatHeader_of_ok h
  · exact emitChecked_of_ok h

theorem emitObjectHeader_of_ok
    (h : parseObjectHeader settings none headerIndex buffer = .ok (calls, rest)) :
    emitObjectHeader settings headerIndex buffer = (calls, .ok rest) := by
  obtain ⟨record, rest', hrecord, -, h⟩ := parseObjectHeader_eq_ok h
  unfold emitObjectHeader
  rw [hrecord]
  exact emitQualifier_of_ok h

/-- **A pass without fault makes the calls of all its headers.** -/
theorem emitLoop_of_ok {fuel : Nat} {headerIndex : Nat}
    (h : parseLoop settings none fuel headerIndex buffer = .ok calls) :
    emitLoop settings fuel headerIndex buffer = (calls, .ok ()) := by
  induction fuel generalizing headerIndex buffer calls with
  | zero =>
    cases h
    rfl
  | succ fuel ih =>
    unfold emitLoop
    obtain ⟨hempty, rfl⟩ | ⟨hempty, first, rest, later, hfirst, hlater, rfl⟩ := parseLoop_eq_ok h
    · rw [if_pos hempty]
    · rw [if_neg hempty, emitObjectHeader_of_ok hfirst]
      dsimp only
      rw [ih hlater]

/-! ## Both passes -/

/-- The second pass finds no fault that the first has not found. -/
theorem parsePasses_eq (settings : ParserSettings) (isAllowed : Whitelist) (buffer : List UInt8) :
    parsePasses settings isAllowed buffer =
      match parseSinglePass settings (some isAllowed) buffer with
      | .error fault => ([], .error fault)
      | .ok calls => (calls, .ok ()) := by
  unfold parsePasses
  split
  · rfl
  · rename_i calls hfirst
    exact emitLoop_of_ok (parseSinglePass_unrestricted hfirst)

/-- **The parser reports success exactly for a sequence of headers that the whitelist lets
    through, each with as many objects as it declares, and has then called the handler for each of
    them in order; with any other result it has not called the handler.** -/
theorem parse_all_or_nothing (settings : ParserSettings) (isAllowed : Whitelist)
    (buffer : List UInt8) :
    (∀ calls, parsePasses settings isAllowed buffer = (calls, .ok ()) ↔
        Headers settings isAllowed 0 buffer calls) ∧
      ∀ calls fault, parsePasses settings isAllowed buffer = (calls, .error fault) →
        calls = [] := by
  rw [parsePasses_eq]
  refine ⟨fun calls => ?_, fun calls fault h => ?_⟩
  · rw [← parse_eq_ok_iff, parse_eq_parseSinglePass]
    cases parseSinglePass settings (some isAllowed) buffer with
    | error fault | ok calls' => simp
  · cases hfirst : parseSinglePass settings (some isAllowed) buffer with
    | error fault' =>
      rw [hfirst] at h
      cases h
      rfl
    | ok calls' =>
      rw [hfirst] at h
      cases h

end OpenDnp3.App
