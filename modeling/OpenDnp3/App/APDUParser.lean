import OpenDnp3.App.Header
import OpenDnp3.App.ObjectHeader
import OpenDnp3.Lib.LittleEndian

/-!
# Parser for the objects of an application fragment

`APDUParser::Parse` reads the object headers behind the application header one after another.
It goes over the bytes twice: the first pass has no handler and checks the format and the
handler's whitelist, the second pass makes the handler's callbacks.  A callback is a value of
`ParsedHeader` here, so a pass computes the list of callbacks it would make.
-/

namespace OpenDnp3.App

open Lib

/-! ## Results and settings -/

/-- The results of the parser other than `OK`. -/
inductive ParseResult where
  | NOT_ON_WHITELIST
  | NOT_ENOUGH_DATA_FOR_HEADER
  | NOT_ENOUGH_DATA_FOR_RANGE
  | NOT_ENOUGH_DATA_FOR_OBJECTS
  | UNREASONABLE_OBJECT_COUNT
  | UNKNOWN_OBJECT
  | UNKNOWN_QUALIFIER
  | INVALID_OBJECT_QUALIFIER
  | INVALID_OBJECT
  | BAD_START_STOP
  | COUNT_OF_ZERO
  deriving DecidableEq, Repr

/-- The internal indication that answers a request which does not parse. -/
def iinFromParseResult : ParseResult → IINField
  | .UNKNOWN_OBJECT => IINBit.OBJECT_UNKNOWN.mask
  | _ => IINBit.PARAM_ERROR.mask

/-- Do objects stand behind the headers (`Default`), or only the headers (`NoContents`)? -/
inductive ParserSettings where
  | Default
  | NoContents
  deriving DecidableEq, Repr

def ParserSettings.expectsContents : ParserSettings → Bool
  | Default => true
  | NoContents => false

/-- The fixed part of an object header. -/
structure HeaderRecord where
  enumeration : GroupVariation
  group : UInt8
  variation : UInt8
  qualifier : QualifierCode
  headerIndex : Nat
  deriving DecidableEq, Repr

/-- `IAPDUHandler::IsAllowed`: header count, object and qualifier. -/
abbrev Whitelist := Nat → GroupVariation → QualifierCode → Bool

/-- The callbacks of `IAPDUHandler`.  Objects are the bytes they were decoded from. -/
inductive ParsedHeader where
  | allObjects (record : HeaderRecord)
  | count (record : HeaderRecord) (count : Nat)
  | range (record : HeaderRecord) (range : Range)
  | indices (record : HeaderRecord) (indices : List Nat)
  | countOf (record : HeaderRecord) (objects : List (List UInt8))
  | rangeOf (record : HeaderRecord) (range : Range) (objects : List (Nat × List UInt8))
  /-- Packed values, one or two bits each. -/
  | bitsOf (record : HeaderRecord) (range : Range) (values : List (Nat × Nat))
  | indexed (record : HeaderRecord) (objects : List (Nat × List UInt8))
  | freeFormat (record : HeaderRecord) (object : List UInt8)
  | deviceAttribute (set variation typeCode : UInt8) (payload : List UInt8)
  deriving DecidableEq, Repr

/-- The object header that a callback belongs to.  Device attributes are handed on without it. -/
def ParsedHeader.record? : ParsedHeader → Option HeaderRecord
  | allObjects record | count record _ | range record _ | indices record _ | countOf record _
  | rangeOf record _ _ | bitsOf record _ _ | indexed record _ | freeFormat record _ => some record
  | deviceAttribute .. => none

/-! ## Numbers -/

/-- The first `n` bytes and the rest. -/
def takeBytes (short : ParseResult) (n : Nat) (buffer : List UInt8) :
    Except ParseResult (List UInt8 × List UInt8) :=
  if buffer.length < n then .error short else .ok (buffer.take n, buffer.drop n)

/-- `NumParser`, by the number of bytes of its numbers. -/
structure NumParser where
  size : Nat
  deriving DecidableEq, Repr

namespace NumParser

def oneByte : NumParser := ⟨1⟩

def twoByte : NumParser := ⟨2⟩

def parseCount (p : NumParser) (buffer : List UInt8) : Except ParseResult (Nat × List UInt8) := do
  let (num, rest) ← takeBytes .NOT_ENOUGH_DATA_FOR_RANGE p.size buffer
  if decodeLE num = 0 then .error .COUNT_OF_ZERO else .ok (decodeLE num, rest)

def parseRange (p : NumParser) (buffer : List UInt8) : Except ParseResult (Range × List UInt8) := do
  let (nums, rest) ← takeBytes .NOT_ENOUGH_DATA_FOR_RANGE (2 * p.size) buffer
  let range : Range := ⟨decodeLE (nums.take p.size), decodeLE (nums.drop p.size)⟩
  if range.isValid then .ok (range, rest) else .error .BAD_START_STOP

end NumParser

/-! ## Sizes of objects -/

/-- The size of an object in a table with one row per group and one column per variation from
    1 on; 0 stands for a variation that the table does not have. -/
def sizeIn (table : Nat → List Nat) (gv : GroupVariation) : Option Nat :=
  match gv.variation with
  | 0 => none
  | v + 1 => ((table gv.group)[v]?).filter (0 < ·)

/-- Objects that can follow a count. -/
def countSizes : Nat → List Nat
  | 50 => [6, 0, 6]
  | 51 => [6, 6]
  | 52 => [2, 2]
  | _ => []

/-- Fixed size objects that can follow a range. -/
def rangeSizes : Nat → List Nat
  | 1 => [0, 1]
  | 3 => [0, 1]
  | 10 => [0, 1]
  | 20 => [5, 3, 5, 3, 4, 2, 4, 2]
  | 21 => [5, 3, 5, 3, 11, 9, 11, 9, 4, 2, 4, 2]
  | 30 => [5, 3, 4, 2, 5, 9]
  | 31 => [5, 3, 11, 9, 4, 2, 5, 9]
  | 34 => [2, 4, 4]
  | 40 => [5, 3, 5, 9]
  | 50 => [0, 0, 0, 11]
  | 102 => [1]
  | 121 => [7]
  | _ => []

/-- Objects that can follow their index. -/
def indexedSizes : Nat → List Nat
  | 2 => [1, 7, 3]
  | 4 => [1, 7, 3]
  | 11 => [1, 7]
  | 12 => [11]
  | 13 => [1, 7]
  | 22 => [5, 3, 5, 3, 11, 9, 11, 9]
  | 23 => [5, 3, 5, 3, 11, 9, 11, 9]
  | 32 => [5, 3, 11, 9, 5, 9, 11, 15]
  | 33 => [5, 3, 11, 9, 5, 9, 11, 15]
  | 34 => [2, 4, 4]
  | 41 => [5, 3, 5, 9]
  | 42 => [5, 3, 11, 9, 5, 9, 11, 15]
  | 43 => [5, 3, 11, 9, 5, 9, 11, 15]
  | 50 => [0, 0, 0, 11]
  | 122 => [7, 13]
  | _ => []

/-! ## Collections -/

/-- `count` objects of the same size, in order. -/
def objectsOf (size : Nat) : Nat → List UInt8 → List (List UInt8)
  | 0, _ => []
  | count + 1, bytes => bytes.take size :: objectsOf size count (bytes.drop size)

/-- `count` objects of the same size that belong to the indices from `index` on. -/
def objectsFrom (size : Nat) : Nat → Nat → List UInt8 → List (Nat × List UInt8)
  | _, 0, _ => []
  | index, count + 1, bytes =>
    (index, bytes.take size) :: objectsFrom size (index + 1) count (bytes.drop size)

/-- `count` objects of the same size, each behind its own index. -/
def indexedObjects (indexSize size : Nat) : Nat → List UInt8 → List (Nat × List UInt8)
  | 0, _ => []
  | count + 1, bytes =>
    (decodeLE (bytes.take indexSize), (bytes.drop indexSize).take size)
      :: indexedObjects indexSize size count (bytes.drop (indexSize + size))

/-- `GetBit` and `GetDoubleBit`: the value at a position of a field with `perByte` values in
    each byte. -/
def packedValue (perByte : Nat) (bytes : List UInt8) (position : Nat) : Nat :=
  let width := 8 / perByte
  (bytes.getD (position / perByte) 0).toNat / 2 ^ (width * (position % perByte)) % 2 ^ width

/-! ## Headers with a count -/

/-- `CountParser`: a count and that many objects. -/
def parseCountHeader (numparser : NumParser) (settings : ParserSettings) (record : HeaderRecord)
    (buffer : List UInt8) : Except ParseResult (List ParsedHeader × List UInt8) := do
  let (count, rest) ← numparser.parseCount buffer
  if settings.expectsContents then
    match sizeIn countSizes record.enumeration with
    | none => .error .INVALID_OBJECT_QUALIFIER
    | some size =>
      let (objects, rest) ← takeBytes .NOT_ENOUGH_DATA_FOR_OBJECTS (count * size) rest
      .ok ([.countOf record (objectsOf size count objects)], rest)
  else
    .ok ([.count record count], rest)

/-! ## Headers with a range -/

/-- `ParseRangeOfDeviceAttributes`: each attribute has its own length. -/
def parseRangeOfDeviceAttributes (variation : UInt8) :
    Nat → Nat → List UInt8 → Except ParseResult (List ParsedHeader × List UInt8)
  | _, 0, buffer => .ok ([], buffer)
  | index, count + 1, buffer => do
    let (head, _) ← takeBytes .NOT_ENOUGH_DATA_FOR_OBJECTS 2 buffer
    let payloadLen := (head.getD 1 0).toNat
    let (object, rest) ← takeBytes .NOT_ENOUGH_DATA_FOR_OBJECTS (2 + payloadLen) buffer
    let (later, rest) ← parseRangeOfDeviceAttributes variation (index + 1) count rest
    .ok (.deviceAttribute (UInt8.ofNat index) variation (head.getD 0 0) (object.drop 2) :: later,
      rest)

/-- The packed values of a range. -/
def parseRangeOfBits (perByte : Nat) (record : HeaderRecord) (range : Range)
    (buffer : List UInt8) : Except ParseResult (List ParsedHeader × List UInt8) := do
  let size := (range.count + (perByte - 1)) / perByte
  let (field, rest) ← takeBytes .NOT_ENOUGH_DATA_FOR_OBJECTS size buffer
  let values := (List.range range.count).map fun position =>
    (range.start + position, packedValue perByte field position)
  .ok ([.bitsOf record range values], rest)

/-- The objects of a range, all of one size. -/
def parseRangeOfSize (size : Nat) (record : HeaderRecord) (range : Range)
    (buffer : List UInt8) : Except ParseResult (List ParsedHeader × List UInt8) := do
  let (objects, rest) ← takeBytes .NOT_ENOUGH_DATA_FOR_OBJECTS (size * range.count) buffer
  .ok ([.rangeOf record range (objectsFrom size range.start range.count objects)], rest)

/-- Octet strings have their variation as their size. -/
def octetSize (record : HeaderRecord) : Except ParseResult Nat :=
  if 0 < record.variation.toNat then .ok record.variation.toNat else .error .INVALID_OBJECT

def parseRangeOfObjects (record : HeaderRecord) (range : Range) (buffer : List UInt8) :
    Except ParseResult (List ParsedHeader × List UInt8) :=
  match record.enumeration with
  | ⟨1, 1⟩ | ⟨10, 1⟩ | ⟨80, 1⟩ => parseRangeOfBits 8 record range buffer
  | ⟨3, 1⟩ => parseRangeOfBits 4 record range buffer
  | ⟨110, 0⟩ | ⟨112, 0⟩ => do
    let size ← octetSize record
    parseRangeOfSize size record range buffer
  | ⟨0, 0⟩ => parseRangeOfDeviceAttributes record.variation range.start range.count buffer
  | gv =>
    match sizeIn rangeSizes gv with
    | none => .error .INVALID_OBJECT_QUALIFIER
    | some size => parseRangeOfSize size record range buffer

/-- `RangeParser`: a first and a last index and the objects between them. -/
def parseRangeHeader (numparser : NumParser) (settings : ParserSettings) (record : HeaderRecord)
    (buffer : List UInt8) : Except ParseResult (List ParsedHeader × List UInt8) := do
  let (range, rest) ← numparser.parseRange buffer
  if settings.expectsContents then
    parseRangeOfObjects record range rest
  else
    .ok ([.range record range], rest)

/-! ## Headers with a count and an index before each object -/

/-- The size of the objects behind each index. -/
def indexedSize (record : HeaderRecord) : Except ParseResult Nat :=
  match record.enumeration with
  | ⟨111, 0⟩ | ⟨113, 0⟩ => octetSize record
  | gv =>
    match sizeIn indexedSizes gv with
    | none => .error .INVALID_OBJECT_QUALIFIER
    | some size => .ok size

/-- `CountIndexParser`: a count and that many objects, each behind its index. -/
def parseCountIndexHeader (numparser : NumParser) (settings : ParserSettings)
    (record : HeaderRecord) (buffer : List UInt8) :
    Except ParseResult (List ParsedHeader × List UInt8) := do
  let (count, rest) ← numparser.parseCount buffer
  if settings.expectsContents then
    let size ← indexedSize record
    let (objects, rest) ←
      takeBytes .NOT_ENOUGH_DATA_FOR_OBJECTS (count * (numparser.size + size)) rest
    .ok ([.indexed record (indexedObjects numparser.size size count objects)], rest)
  else
    let (indices, rest) ← takeBytes .NOT_ENOUGH_DATA_FOR_OBJECTS (count * numparser.size) rest
    .ok ([.indices record ((objectsOf numparser.size count indices).map decodeLE)], rest)

/-! ## Free format headers -/

/-- The objects of group 120: the size of their fixed fields, how many fields have a length in
    front of them, and whether the last field takes the rest of the object. -/
def group120Layout : Nat → Option (Nat × Nat × Bool)
  | 1 => some (8, 0, true)
  | 2 => some (6, 0, true)
  | 5 => some (9, 1, true)
  | 6 => some (6, 0, true)
  | 7 => some (15, 0, true)
  | 8 => some (2, 0, true)
  | 9 => some (0, 0, true)
  | 10 => some (10, 3, false)
  | 11 => some (1, 2, false)
  | 12 => some (6, 1, false)
  | 13 => some (6, 1, false)
  | 14 => some (0, 0, true)
  | 15 => some (6, 0, true)
  | _ => none

/-- The `Read` functions of group 120: does the object hold its fields? -/
def readsGroup120 (fixed prefixedFields : Nat) (restField : Bool) (object : List UInt8) : Bool :=
  if object.length < fixed + 2 * prefixedFields then
    false
  else
    let behind := object.drop (fixed + 2 * prefixedFields)
    let lengths := (objectsOf 2 prefixedFields (object.drop fixed)).map decodeLE
    if behind.length < lengths.sum then false else restField || behind.length == lengths.sum

/-- `ParseGroup120`: one object, with contents whatever the settings say. -/
def parseGroup120 (record : HeaderRecord) (buffer : List UInt8) :
    Except ParseResult (List ParsedHeader × List UInt8) := do
  let (head, rest) ← takeBytes .NOT_ENOUGH_DATA_FOR_HEADER 3 buffer
  if head.getD 0 0 ≠ 1 then
    Except.error .UNREASONABLE_OBJECT_COUNT
  else
    let (object, rest) ←
      takeBytes .NOT_ENOUGH_DATA_FOR_OBJECTS (decodeLE (head.drop 1)) rest
    match group120Layout record.enumeration.variation with
    | none => .error .INVALID_OBJECT_QUALIFIER
    | some (fixed, prefixedFields, restField) =>
      if readsGroup120 fixed prefixedFields restField object then
        .ok ([.freeFormat record object], rest)
      else
        .error .NOT_ENOUGH_DATA_FOR_OBJECTS

/-- `DeliverDeviceAttribute`: what does not hold its own length is handed on as octets. -/
def deliverDeviceAttribute (variation : UInt8) (data : List UInt8) : ParsedHeader :=
  match data with
  | typeCode :: payloadLen :: payload =>
    if payload.length < payloadLen.toNat then
      .deviceAttribute 0 variation 5 payload
    else
      .deviceAttribute 0 variation typeCode (payload.take payloadLen.toNat)
  | short => .deviceAttribute 0 variation 5 short

/-- `DeliverOctetString`: the data as the only octet string of the range 0 to 0. -/
def deliverOctetString (record : HeaderRecord) (data : List UInt8) : ParsedHeader :=
  .rangeOf record ⟨0, 0⟩ [(0, data.take 255)]

/-- What the handler gets for one free format object; nothing in groups without a reader. -/
def deliverFreeFormat (record : HeaderRecord) (data : List UInt8) : List ParsedHeader :=
  match record.group.toNat with
  | 0 => [deliverDeviceAttribute record.variation data]
  | 70 | 85 | 86 | 87 | 88 => [deliverOctetString record data]
  | _ => []

/-- `ParseFreeFormatObjects`: each object has two bytes of length in front of it. -/
def parseFreeFormatObjects (record : HeaderRecord) :
    Nat → List UInt8 → Except ParseResult (List ParsedHeader × List UInt8)
  | 0, buffer => .ok ([], buffer)
  | count + 1, buffer => do
    let (len, rest) ← takeBytes .NOT_ENOUGH_DATA_FOR_OBJECTS 2 buffer
    let (data, rest) ← takeBytes .NOT_ENOUGH_DATA_FOR_OBJECTS (decodeLE len) rest
    let (later, rest) ← parseFreeFormatObjects record count rest
    .ok (deliverFreeFormat record data ++ later, rest)

/-- `FreeFormatParser`: a count and that many objects, each behind its length. -/
def parseFreeFormatHeader (settings : ParserSettings) (record : HeaderRecord)
    (buffer : List UInt8) : Except ParseResult (List ParsedHeader × List UInt8) :=
  if record.group = 120 then
    parseGroup120 record buffer
  else do
    let (count, rest) ← takeBytes .NOT_ENOUGH_DATA_FOR_HEADER 1 buffer
    if settings.expectsContents then
      parseFreeFormatObjects record (decodeLE count) rest
    else
      .ok ([.count record (decodeLE count)], rest)

/-! ## All headers -/

/-- `ParseQualifier`: what follows the fixed part of the header. -/
def parseQualifier (settings : ParserSettings) (record : HeaderRecord) (buffer : List UInt8) :
    Except ParseResult (List ParsedHeader × List UInt8) :=
  match record.qualifier with
  | .ALL_OBJECTS => .ok ([.allObjects record], buffer)
  | .UINT8_CNT => parseCountHeader .oneByte settings record buffer
  | .UINT16_CNT => parseCountHeader .twoByte settings record buffer
  | .UINT8_START_STOP => parseRangeHeader .oneByte settings record buffer
  | .UINT16_START_STOP => parseRangeHeader .twoByte settings record buffer
  | .UINT8_CNT_UINT8_INDEX => parseCountIndexHeader .oneByte settings record buffer
  | .UINT16_CNT_UINT16_INDEX => parseCountIndexHeader .twoByte settings record buffer
  | .UINT8_CNT_UINT16_FREE_FORMAT => parseFreeFormatHeader settings record buffer
  | .OTHER => .error .UNKNOWN_QUALIFIER

/-- The fixed part of a header: group, variation and qualifier. -/
def parseRecord (headerIndex : Nat) (buffer : List UInt8) :
    Except ParseResult (HeaderRecord × List UInt8) :=
  match buffer with
  | group :: variation :: qualifier :: rest =>
    match GroupVariation.ofWire group variation with
    | none => .error .UNKNOWN_OBJECT
    | some enumeration =>
      .ok (⟨enumeration, group, variation, .ofByte qualifier, headerIndex⟩, rest)
  | _ => .error .NOT_ENOUGH_DATA_FOR_HEADER

/-- Is the header on the whitelist?  The second pass has none. -/
def allowedBy (whitelist : Option Whitelist) (record : HeaderRecord) : Bool :=
  match whitelist with
  | none => true
  | some isAllowed => isAllowed record.headerIndex record.enumeration record.qualifier

/-- `ParseHeader`: one header with its objects. -/
def parseObjectHeader (settings : ParserSettings) (whitelist : Option Whitelist)
    (headerIndex : Nat) (buffer : List UInt8) :
    Except ParseResult (List ParsedHeader × List UInt8) := do
  let (record, rest) ← parseRecord headerIndex buffer
  if allowedBy whitelist record then
    parseQualifier settings record rest
  else
    .error .NOT_ON_WHITELIST

/-- The loop of `ParseSinglePass`.  Every header has at least one byte, so the number of bytes
    bounds the number of rounds. -/
def parseLoop (settings : ParserSettings) (whitelist : Option Whitelist) :
    Nat → Nat → List UInt8 → Except ParseResult (List ParsedHeader)
  | 0, _, _ => .ok []
  | fuel + 1, count, buffer =>
    if buffer.isEmpty then
      .ok []
    else do
      let (headers, rest) ← parseObjectHeader settings whitelist count buffer
      let later ← parseLoop settings whitelist fuel (count + 1) rest
      .ok (headers ++ later)

/-- Every header takes at least one byte, so that the length of the buffer is enough fuel. -/
def parseSinglePass (settings : ParserSettings) (whitelist : Option Whitelist)
    (buffer : List UInt8) : Except ParseResult (List ParsedHeader) :=
  parseLoop settings whitelist buffer.length 0 buffer

/-- `APDUParser::Parse`: the callbacks of the second pass, which comes only after a first pass
    without fault. -/
def parse (settings : ParserSettings) (isAllowed : Whitelist) (buffer : List UInt8) :
    Except ParseResult (List ParsedHeader) := do
  let _ ← parseSinglePass settings (some isAllowed) buffer
  parseSinglePass settings none buffer

variable {settings : ParserSettings} {isAllowed : Whitelist} {buffer : List UInt8}
  {headers : List ParsedHeader}

/-- A sequence of two parsers that succeeds. -/
theorem bind_eq_ok {α β : Type} {x : Except ParseResult α} {f : α → Except ParseResult β} {b : β}
    (h : x >>= f = .ok b) : ∃ a, x = .ok a ∧ f a = .ok b := by
  cases x with
  | error e => cases h
  | ok a => exact ⟨a, rfl, h⟩

/-- A header that is read: its fixed part, which the whitelist lets through, and its objects. -/
theorem parseObjectHeader_eq_ok {whitelist : Option Whitelist} {headerIndex : Nat}
    {parsed : List ParsedHeader × List UInt8}
    (h : parseObjectHeader settings whitelist headerIndex buffer = .ok parsed) :
    ∃ record rest, parseRecord headerIndex buffer = .ok (record, rest) ∧
      allowedBy whitelist record = true ∧ parseQualifier settings record rest = .ok parsed := by
  obtain ⟨⟨record, rest⟩, hrecord, h⟩ := bind_eq_ok h
  change (if allowedBy whitelist record then _ else _) = _ at h
  split at h
  · rename_i hallowed
    exact ⟨record, rest, hrecord, hallowed, h⟩
  · cases h

/-- A loop that succeeds: there is nothing left, or a header and what follows it. -/
theorem parseLoop_eq_ok {whitelist : Option Whitelist} {fuel count : Nat}
    (h : parseLoop settings whitelist (fuel + 1) count buffer = .ok headers) :
    buffer.isEmpty = true ∧ headers = [] ∨
      ¬buffer.isEmpty = true ∧ ∃ first rest later,
        parseObjectHeader settings whitelist count buffer = .ok (first, rest) ∧
        parseLoop settings whitelist fuel (count + 1) rest = .ok later ∧
        headers = first ++ later := by
  unfold parseLoop at h
  split at h
  · rename_i hempty
    cases h
    exact .inl ⟨hempty, rfl⟩
  · rename_i hempty
    obtain ⟨⟨first, rest⟩, hfirst, h⟩ := bind_eq_ok h
    obtain ⟨later, hlater, h⟩ := bind_eq_ok h
    cases h
    exact .inr ⟨hempty, first, rest, later, hfirst, hlater, rfl⟩

/-- A header that the whitelist lets through is read in the same way without the whitelist. -/
theorem parseObjectHeader_unrestricted {headerIndex : Nat} {result : List ParsedHeader × List UInt8}
    (h : parseObjectHeader settings (some isAllowed) headerIndex buffer = .ok result) :
    parseObjectHeader settings none headerIndex buffer = .ok result := by
  obtain ⟨record, rest, hrecord, -, h⟩ := parseObjectHeader_eq_ok h
  unfold parseObjectHeader
  rw [hrecord]
  exact h

variable (numparser : NumParser) (record : HeaderRecord)

private theorem parseLoop_unrestricted (fuel : Nat) :
    ∀ (count : Nat) (buffer : List UInt8) (headers : List ParsedHeader),
    parseLoop settings (some isAllowed) fuel count buffer = .ok headers →
      parseLoop settings none fuel count buffer = .ok headers := by
  induction fuel with
  | zero => intro count buffer headers h; exact h
  | succ fuel ih =>
    intro count buffer headers h
    unfold parseLoop
    obtain ⟨hempty, rfl⟩ | ⟨hempty, first, rest, later, hfirst, hlater, rfl⟩ := parseLoop_eq_ok h
    · rw [if_pos hempty]
    · rw [if_neg hempty, parseObjectHeader_unrestricted hfirst]
      change (parseLoop settings none fuel (count + 1) rest >>= _) = _
      rw [ih _ _ _ hlater]
      rfl

/-- **The second pass sees what the first pass saw**: a buffer that passes the whitelist is
    parsed without it to the same callbacks. -/
theorem parseSinglePass_unrestricted
    (h : parseSinglePass settings (some isAllowed) buffer = .ok headers) :
    parseSinglePass settings none buffer = .ok headers :=
  parseLoop_unrestricted buffer.length 0 buffer headers h

/-- So the two passes together are the first pass. -/
theorem parse_eq_parseSinglePass (settings : ParserSettings) (isAllowed : Whitelist)
    (buffer : List UInt8) :
    parse settings isAllowed buffer = parseSinglePass settings (some isAllowed) buffer := by
  unfold parse
  cases h : parseSinglePass settings (some isAllowed) buffer with
  | error e => rfl
  | ok headers => exact parseSinglePass_unrestricted h

/-! ## Callbacks belong to allowed headers -/

/-- The callbacks that a parser yields all belong to this header. -/
def Concerns (record : HeaderRecord)
    (result : Except ParseResult (List ParsedHeader × List UInt8)) : Prop :=
  ∀ parsed, result = .ok parsed → ∀ header ∈ parsed.1, ∀ r ∈ header.record?, r = record

namespace Concerns

variable {record : HeaderRecord}

theorem error (result : ParseResult) : Concerns record (.error result) := by
  intro parsed h
  cases h

theorem one {header : ParsedHeader} {rest : List UInt8} (h : header.record? = some record) :
    Concerns record (.ok ([header], rest)) := by
  intro parsed hparsed header' hmem r hr
  cases hparsed
  rw [List.mem_singleton.mp hmem, h] at hr
  exact (Option.some.inj hr).symm

theorem bind {α : Type} {x : Except ParseResult α}
    {f : α → Except ParseResult (List ParsedHeader × List UInt8)}
    (h : ∀ a, Concerns record (f a)) : Concerns record (x >>= f) := by
  cases x with
  | error e => exact .error e
  | ok a => exact h a

/-- Callbacks for one object and for those behind it. -/
theorem append (first : List ParsedHeader)
    {x : Except ParseResult (List ParsedHeader × List UInt8)}
    (hfirst : ∀ header ∈ first, ∀ r ∈ header.record?, r = record) (hx : Concerns record x) :
    Concerns record (x >>= fun later => .ok (first ++ later.1, later.2)) := by
  cases x with
  | error e => exact .error e
  | ok later =>
    intro parsed hparsed header hmem
    cases hparsed
    rcases List.mem_append.mp hmem with hmem | hmem
    · exact hfirst header hmem
    · exact hx later rfl header hmem

end Concerns

theorem concerns_parseCountHeader (settings : ParserSettings) (record : HeaderRecord)
    (buffer : List UInt8) :
    Concerns record (parseCountHeader numparser settings record buffer) := by
  refine .bind fun counted => ?_
  dsimp only
  split
  · split
    · exact .error _
    · exact .bind fun taken => .one rfl
  · exact .one rfl

theorem concerns_parseRangeOfDeviceAttributes (variation : UInt8) (index count : Nat)
    (buffer : List UInt8) :
    Concerns record (parseRangeOfDeviceAttributes variation index count buffer) := by
  induction count generalizing index buffer with
  | zero =>
    intro parsed h header hmem
    cases h
    cases hmem
  | succ count ih =>
    refine .bind fun head => .bind fun object => ?_
    refine .append [_] ?_ (ih (index + 1) object.2)
    intro header hmem r hr
    rw [List.mem_singleton.mp hmem] at hr
    cases hr

theorem concerns_parseRangeOfSize (size : Nat) (record : HeaderRecord) (range : Range)
    (buffer : List UInt8) : Concerns record (parseRangeOfSize size record range buffer) :=
  .bind fun _ => .one rfl

theorem concerns_parseRangeOfObjects (range : Range) (buffer : List UInt8) :
    Concerns record (parseRangeOfObjects record range buffer) := by
  have hbits : ∀ perByte, Concerns record (parseRangeOfBits perByte record range buffer) :=
    fun perByte => .bind fun taken => .one rfl
  unfold parseRangeOfObjects
  split
  · exact hbits 8
  · exact hbits 8
  · exact hbits 8
  · exact hbits 4
  · exact .bind fun size => concerns_parseRangeOfSize size record range buffer
  · exact .bind fun size => concerns_parseRangeOfSize size record range buffer
  · exact concerns_parseRangeOfDeviceAttributes record _ _ _ buffer
  · split
    · exact .error _
    · exact concerns_parseRangeOfSize _ record range buffer

theorem concerns_parseRangeHeader (settings : ParserSettings) (record : HeaderRecord)
    (buffer : List UInt8) :
    Concerns record (parseRangeHeader numparser settings record buffer) := by
  refine .bind fun ranged => ?_
  dsimp only
  split
  · exact concerns_parseRangeOfObjects record _ _
  · exact .one rfl

theorem concerns_parseCountIndexHeader (settings : ParserSettings) (record : HeaderRecord)
    (buffer : List UInt8) :
    Concerns record (parseCountIndexHeader numparser settings record buffer) := by
  refine .bind fun counted => ?_
  dsimp only
  split
  · exact .bind fun size => .bind fun taken => .one rfl
  · exact .bind fun taken => .one rfl

theorem concerns_parseFreeFormatObjects (count : Nat) (buffer : List UInt8) :
    Concerns record (parseFreeFormatObjects record count buffer) := by
  induction count generalizing buffer with
  | zero =>
    intro parsed h header hmem
    cases h
    cases hmem
  | succ count ih =>
    refine .bind fun len => .bind fun data => .append _ ?_ (ih data.2)
    intro header hmem r hr
    unfold deliverFreeFormat at hmem
    split at hmem
    · -- a device attribute comes without its header
      rw [List.mem_singleton.mp hmem] at hr
      unfold deliverDeviceAttribute at hr
      split at hr
      · split at hr <;> cases hr
      · cases hr
    all_goals first
      | (rw [List.mem_singleton.mp hmem] at hr
         exact (Option.some.inj hr).symm)
      | cases hmem

theorem concerns_parseFreeFormatHeader (settings : ParserSettings) (record : HeaderRecord)
    (buffer : List UInt8) : Concerns record (parseFreeFormatHeader settings record buffer) := by
  unfold parseFreeFormatHeader
  split
  · refine .bind fun head => ?_
    dsimp only
    split
    · exact .error _
    · refine .bind fun object => ?_
      split
      · exact .error _
      · split
        · exact .one rfl
        · exact .error _
  · refine .bind fun counted => ?_
    dsimp only
    split
    · exact concerns_parseFreeFormatObjects record _ _
    · exact .one rfl

theorem concerns_parseQualifier (settings : ParserSettings) (record : HeaderRecord)
    (buffer : List UInt8) : Concerns record (parseQualifier settings record buffer) := by
  unfold parseQualifier
  split
  · exact .one rfl
  · exact concerns_parseCountHeader _ _ _ _
  · exact concerns_parseCountHeader _ _ _ _
  · exact concerns_parseRangeHeader _ _ _ _
  · exact concerns_parseRangeHeader _ _ _ _
  · exact concerns_parseCountIndexHeader _ _ _ _
  · exact concerns_parseCountIndexHeader _ _ _ _
  · exact concerns_parseFreeFormatHeader _ _ _
  · exact .error _

/-- Does a callback belong to a header that the whitelist lets through? -/
def ParsedHeader.IsAllowed (isAllowed : Whitelist) (header : ParsedHeader) : Prop :=
  ∀ r ∈ header.record?, isAllowed r.headerIndex r.enumeration r.qualifier = true

theorem isAllowed_parseObjectHeader {headerIndex : Nat} {parsed : List ParsedHeader × List UInt8}
    (h : parseObjectHeader settings (some isAllowed) headerIndex buffer = .ok parsed) :
    ∀ header ∈ parsed.1, header.IsAllowed isAllowed := by
  obtain ⟨record, rest, -, hallowed, h⟩ := parseObjectHeader_eq_ok h
  intro header hmem r hr
  rw [concerns_parseQualifier settings record rest parsed h header hmem r hr]
  exact hallowed

private theorem isAllowed_parseLoop (fuel : Nat) :
    ∀ (count : Nat) (buffer : List UInt8) (headers : List ParsedHeader),
    parseLoop settings (some isAllowed) fuel count buffer = .ok headers →
      ∀ header ∈ headers, header.IsAllowed isAllowed := by
  induction fuel with
  | zero =>
    intro count buffer headers h header hmem
    cases h
    cases hmem
  | succ fuel ih =>
    intro count buffer headers h header hmem
    obtain ⟨-, rfl⟩ | ⟨-, first, rest, later, hfirst, hlater, rfl⟩ := parseLoop_eq_ok h
    · cases hmem
    · rcases List.mem_append.mp hmem with hmem | hmem
      · exact isAllowed_parseObjectHeader hfirst header hmem
      · exact ih _ _ _ hlater header hmem

/-- **What is handed on is on the whitelist**: every callback of a successful parse belongs to
    a header that the handler allows. -/
theorem isAllowed_parse (h : parse settings isAllowed buffer = .ok headers) :
    ∀ header ∈ headers, header.IsAllowed isAllowed := by
  rw [parse_eq_parseSinglePass] at h
  exact isAllowed_parseLoop buffer.length 0 buffer headers h

/-! ## Handlers -/

/-- An `IAPDUHandler`: its whitelist and what it does with a header, given the number of
    headers it has seen before. -/
structure APDUHandler (σ : Type) where
  isAllowed : Whitelist
  processHeader : σ → Nat → ParsedHeader → σ × IINField

/-- A handler at work: its own state and what `Record` keeps. -/
structure HandlerRun (σ : Type) where
  state : σ
  errors : IINField
  numTotalHeaders : Nat

/-- `ProcessUnsupportedHeader`, the reaction of a handler to what it does not override. -/
def unsupportedHeader {σ : Type} (s : σ) : σ × IINField := (s, IINBit.FUNC_NOT_SUPPORTED.mask)

variable {σ : Type}

/-- `OnHeader`: process and record.  Device attributes have a callback of their own, which no
    handler of the outstation overrides. -/
def onHeader (handler : APDUHandler σ) (run : HandlerRun σ) (header : ParsedHeader) :
    HandlerRun σ :=
  match header with
  | .deviceAttribute .. => run
  | header =>
    let (state, iin) := handler.processHeader run.state run.numTotalHeaders header
    ⟨state, run.errors.or iin, run.numTotalHeaders + 1⟩

def onHeaders (handler : APDUHandler σ) (s : σ) (headers : List ParsedHeader) : HandlerRun σ :=
  headers.foldl (onHeader handler) ⟨s, .empty, 0⟩

/-- Parse the objects of a request and hand them to the handler: its state afterwards and its
    errors, or the fault of the parser. -/
def handleObjects (handler : APDUHandler σ) (settings : ParserSettings) (objects : List UInt8)
    (s : σ) : Except ParseResult (σ × IINField) := do
  let headers ← parse settings handler.isAllowed objects
  let run := onHeaders handler s headers
  .ok (run.state, run.errors)

/-- **The invariant rule of handlers**: what every callback for an allowed header keeps, the
    whole request keeps. -/
theorem onHeaders_invariant {P : σ → Prop} {handler : APDUHandler σ}
    (step : ∀ s n, ∀ header ∈ headers, P s → P (handler.processHeader s n header).1) (s : σ)
    (h : P s) : P (onHeaders handler s headers).state := by
  unfold onHeaders
  generalize hrun : (⟨s, .empty, 0⟩ : HandlerRun σ) = run
  have hrunP : P run.state := by rw [← hrun]; exact h
  clear hrun h
  induction headers generalizing run with
  | nil => exact hrunP
  | cons header headers ih =>
    apply ih
    · intro s n header' hmem
      exact step s n header' (List.mem_cons_of_mem _ hmem)
    · unfold onHeader
      split
      · exact hrunP
      · exact step _ _ _ List.mem_cons_self hrunP

/-- What every callback keeps, the whole request keeps. -/
theorem handleObjects_invariant {P : σ → Prop} {handler : APDUHandler σ}
    (step : ∀ s n header, header.IsAllowed handler.isAllowed → P s →
      P (handler.processHeader s n header).1)
    {objects : List UInt8} {s s' : σ} {iin : IINField} (h : P s)
    (hrun : handleObjects handler settings objects s = .ok (s', iin)) : P s' := by
  unfold handleObjects at hrun
  cases hparse : parse settings handler.isAllowed objects with
  | error e =>
    rw [hparse] at hrun
    cases hrun
  | ok headers =>
    rw [hparse] at hrun
    cases hrun
    refine onHeaders_invariant ?_ s h
    intro t n header hmem
    exact step t n header (isAllowed_parse hparse header hmem)

end OpenDnp3.App
