import OpenDnp3.App.Measurement
import OpenDnp3.App.ObjectHeader
import OpenDnp3.Lib.LittleEndian
import OpenDnp3.Lib.Memory

/-!
# Writing object headers

A response is written in place into a buffer of fixed size.  A `HeaderWriter` is the buffer
with the position of the next byte; what was in the buffer before stays there until it is
overwritten.  Ranges and counts are not known when a header is begun: an iterator remembers
where they belong and writes them when it is done (`finish`, the destructors of the source).

A function that can run out of space returns `none` then, and has changed nothing.
-/

namespace OpenDnp3.App

open Lib

/-! ## Writer -/

structure GroupVariationID where
  group : UInt8
  variation : UInt8
  deriving DecidableEq, Repr

structure HeaderWriter where
  buffer : List UInt8
  position : Nat
  deriving DecidableEq, Repr

/-- Width of the indices and counts of a header. -/
inductive IndexType where
  | U8
  | U16
  deriving DecidableEq, Repr

namespace IndexType

def size : IndexType → Nat
  | U8 => 1
  | U16 => 2

def maxValue : IndexType → Nat
  | U8 => 255
  | U16 => 65535

/-- The bytes of an index or count; what does not fit is cut off. -/
def encode (t : IndexType) (n : Nat) : List UInt8 := encodeLE t.size n

end IndexType

namespace HeaderWriter

def remaining (w : HeaderWriter) : Nat := w.buffer.length - w.position

/-- Write bytes at the position and move behind them. -/
def put (w : HeaderWriter) (bytes : List UInt8) : HeaderWriter :=
  ⟨writeAt w.buffer w.position bytes, w.position + bytes.length⟩

/-- Write bytes somewhere before the position. -/
def patch (w : HeaderWriter) (position : Nat) (bytes : List UInt8) : HeaderWriter :=
  { w with buffer := writeAt w.buffer position bytes }

/-- Leave some bytes out, to be written later. -/
def skip (w : HeaderWriter) (n : Nat) : HeaderWriter :=
  { w with position := w.position + n }

def writeRawBytes (w : HeaderWriter) (data : List UInt8) : Option HeaderWriter :=
  if w.remaining < data.length then none else some (w.put data)

def writeHeader (w : HeaderWriter) (id : GroupVariationID) (qc : QualifierCode) :
    Option HeaderWriter :=
  if w.remaining < 3 then none else some (w.put [id.group, id.variation, qc.toByte])

def writeHeaderWithReserve (w : HeaderWriter) (id : GroupVariationID) (qc : QualifierCode)
    (reserve : Nat) : Option HeaderWriter :=
  if w.remaining < 3 + reserve then none else w.writeHeader id qc

/-- `WriteSingleValue`: a header with a one-byte count of one and a single object. -/
def writeSingleValue (w : HeaderWriter) (id : GroupVariationID) (object : List UInt8) :
    Option HeaderWriter :=
  (w.writeHeaderWithReserve id .UINT8_CNT (IndexType.U8.size + object.length)).map fun w =>
    (w.put (IndexType.U8.encode 1)).put object

end HeaderWriter

/-! ## Objects -/

/-- The object header and size of a kind of object, and how a value is written.  The size is
    what is reserved for each object. -/
structure DNP3Serializer (M : Type) where
  id : GroupVariationID
  size : Nat
  write : M → List UInt8

/-! ## Objects with a range of indices -/

structure RangeWriteIterator (M : Type) where
  indexType : IndexType
  start : Nat
  serializer : DNP3Serializer M
  count : Nat
  /-- Where the range goes: behind the header. -/
  range : Nat

namespace RangeWriteIterator

variable {M : Type}

/-- `IterateOverRange`: begin a header, provided that one object will fit. -/
def start? (w : HeaderWriter) (indexType : IndexType) (qc : QualifierCode)
    (serializer : DNP3Serializer M) (start : Nat) :
    Option (RangeWriteIterator M) × HeaderWriter :=
  match w.writeHeaderWithReserve serializer.id qc (2 * indexType.size + serializer.size) with
  | none => (none, w)
  | some w =>
    (some ⟨indexType, start, serializer, 0, w.position⟩,
      (w.patch w.position (indexType.encode start)).skip (2 * indexType.size))

def write (it : RangeWriteIterator M) (w : HeaderWriter) (value : M) :
    Option (RangeWriteIterator M × HeaderWriter) :=
  if w.remaining ≥ it.serializer.size && it.count ≤ it.indexType.maxValue then
    some ({ it with count := it.count + 1 }, w.put (it.serializer.write value))
  else none

/-- The destructor writes the end of the range. -/
def finish (it : RangeWriteIterator M) (w : HeaderWriter) : HeaderWriter :=
  if it.count > 0 then
    w.patch (it.range + it.indexType.size) (it.indexType.encode (it.start + it.count - 1))
  else w

end RangeWriteIterator

/-! ## Objects with a prefixed index -/

structure PrefixedWriteIterator (M : Type) where
  indexType : IndexType
  serializer : DNP3Serializer M
  count : Nat
  countPosition : Nat

namespace PrefixedWriteIterator

variable {M : Type}

/-- `IterateOverCountWithPrefix`: begin a header, provided that one object will fit. -/
def start? (w : HeaderWriter) (indexType : IndexType) (qc : QualifierCode)
    (serializer : DNP3Serializer M) : Option (PrefixedWriteIterator M) × HeaderWriter :=
  match w.writeHeaderWithReserve serializer.id qc (2 * indexType.size + serializer.size) with
  | none => (none, w)
  | some w => (some ⟨indexType, serializer, 0, w.position⟩, w.skip indexType.size)

/-- `IterateOverCountWithPrefixAndCTO`: a common time of occurrence first.  It is taken back
    when no object fits behind it. -/
def startWithCTO? (w : HeaderWriter) (indexType : IndexType) (qc : QualifierCode)
    (serializer : DNP3Serializer M) (ctoID : GroupVariationID) (cto : List UInt8) :
    Option (PrefixedWriteIterator M) × HeaderWriter :=
  match w.writeSingleValue ctoID cto with
  | none => (none, w)
  | some w₁ =>
    match start? w₁ indexType qc serializer with
    | (some it, w₂) => (some it, w₂)
    | (none, w₂) => (none, { w₂ with position := w.position })

def write (it : PrefixedWriteIterator M) (w : HeaderWriter) (value : M) (index : Nat) :
    Option (PrefixedWriteIterator M × HeaderWriter) :=
  if w.remaining ≥ it.serializer.size + it.indexType.size then
    some ({ it with count := it.count + 1 },
      (w.put (it.indexType.encode index)).put (it.serializer.write value))
  else none

/-- The destructor writes the count. -/
def finish (it : PrefixedWriteIterator M) (w : HeaderWriter) : HeaderWriter :=
  w.patch it.countPosition (it.indexType.encode it.count)

end PrefixedWriteIterator

/-! ## Single bits -/

/-- The count is as wide as the indices and wraps around. -/
structure BitfieldRangeWriteIterator where
  indexType : IndexType
  start : Nat
  count : Nat
  maxCount : Nat
  range : Nat

namespace BitfieldRangeWriteIterator

/-- `IterateOverSingleBitfield`: begin a header, provided that one byte will fit. -/
def start? (w : HeaderWriter) (id : GroupVariationID) (indexType : IndexType)
    (qc : QualifierCode) (start : Nat) : Option BitfieldRangeWriteIterator × HeaderWriter :=
  match w.writeHeaderWithReserve id qc (2 * indexType.size + 1) with
  | none => (none, w)
  | some w =>
    let w' := (w.patch w.position (indexType.encode start)).skip (2 * indexType.size)
    (some ⟨indexType, start, 0, w'.remaining * 8, w.position⟩, w')

def write (it : BitfieldRangeWriteIterator) (w : HeaderWriter) (value : Bool) :
    Option (BitfieldRangeWriteIterator × HeaderWriter) :=
  if it.count < it.maxCount then
    let byte := w.position + it.count / 8
    let bit := it.count % 8
    let old : UInt8 := if bit = 0 then 0 else w.buffer.getD byte 0
    let new : UInt8 := if value then old ||| UInt8.ofNat (2 ^ bit) else old
    some ({ it with count := (it.count + 1) % (it.indexType.maxValue + 1) }, w.patch byte [new])
  else none

/-- The destructor writes the end of the range and moves behind the bits. -/
def finish (it : BitfieldRangeWriteIterator) (w : HeaderWriter) : HeaderWriter :=
  if it.count > 0 then
    (w.patch (it.range + it.indexType.size)
      (it.indexType.encode (it.start + it.count - 1))).skip ((it.count + 7) / 8)
  else w

end BitfieldRangeWriteIterator

/-! ## The serializers of the reported variations -/

namespace DNP3Serializer

def time48 (time : DNPTime) : List UInt8 := encodeLE 6 time.value

/-- Overrange bit of analog flags. -/
def OVERRANGE : UInt8 := 0x20

/-- The ways an analog value goes on the wire. -/
inductive AnalogFormat where
  | int32
  | int16
  | float32
  | double64
  deriving DecidableEq, Repr

namespace AnalogFormat

def size : AnalogFormat → Nat
  | int32 => 4
  | int16 => 2
  | float32 => 4
  | double64 => 8

/-- `DownSampling::Apply`: cut to the target's limits, and whether that was necessary. -/
def downSample (max min x : Float) : Float × Bool :=
  if x > max then (max, true) else if x < min then (min, true) else (x, false)

/-- The value's bytes, and whether it was out of range. -/
def convert : AnalogFormat → Float → List UInt8 × Bool
  | int32, x =>
    let (y, overrange) := downSample 2147483647 (-2147483648) x
    (encodeU32 y.toInt32.toUInt32, overrange)
  | int16, x =>
    let (y, overrange) := downSample 32767 (-32768) x
    (encodeU16 y.toInt16.toUInt16, overrange)
  | float32, x =>
    let (y, overrange) := downSample 3.40282346638528859811704183484516925440e+38
      (-3.40282346638528859811704183484516925440e+38) x
    (encodeU32 y.toFloat32.toBits, overrange)
  | double64, x => (encodeLE 8 x.toBits.toNat, false)

end AnalogFormat

/-- Flags only (`ConvertQ`). -/
def flagsOnly {T : Type} (id : GroupVariationID) : DNP3Serializer (TypedMeasurement T) :=
  ⟨id, 1, fun meas => [meas.flags]⟩

/-- Flags and absolute time (`ConvertQT`). -/
def flagsTime {T : Type} (id : GroupVariationID) : DNP3Serializer (TypedMeasurement T) :=
  ⟨id, 7, fun meas => meas.flags :: time48 meas.time⟩

/-- Flags and a 16-bit relative time (`ConvertQTDowncast`). -/
def flagsRelativeTime {T : Type} (id : GroupVariationID) : DNP3Serializer (TypedMeasurement T) :=
  ⟨id, 3, fun meas => meas.flags :: encodeLE 2 meas.time.value⟩

/-- A counter: flags, four or two bytes of the value, time. -/
def counter (id : GroupVariationID) (hasFlags : Bool) (width : Nat) (hasTime : Bool) :
    DNP3Serializer (TypedMeasurement UInt32) where
  id := id
  size := (if hasFlags then 1 else 0) + width + if hasTime then 6 else 0
  write meas :=
    (if hasFlags then [meas.flags] else []) ++ encodeLE width meas.value.toNat ++
      if hasTime then time48 meas.time else []

/-- An analog: flags, the value, time.  A value out of range is cut and flagged. -/
def analog (id : GroupVariationID) (hasFlags : Bool) (format : AnalogFormat) (hasTime : Bool) :
    DNP3Serializer (TypedMeasurement Float) where
  id := id
  size := (if hasFlags then 1 else 0) + format.size + if hasTime then 6 else 0
  write meas :=
    let (bytes, overrange) := format.convert meas.value
    (if hasFlags then [if overrange then OVERRANGE ||| meas.flags else meas.flags] else []) ++
      bytes ++ if hasTime then time48 meas.time else []

def timeAndInterval : DNP3Serializer TimeAndInterval :=
  ⟨⟨50, 4⟩, 11, fun meas => time48 meas.time ++ encodeU32 meas.interval ++ [meas.units]⟩

/-- Octet strings: the variation is the length. -/
def octetString (isEvent : Bool) (size : Nat) : DNP3Serializer OctetString :=
  ⟨⟨if isEvent then 111 else 110, UInt8.ofNat size⟩, size, fun value => value.data⟩

/-- Packed bits are written one by one; with flags each binary takes a byte. -/
def staticBinary : DNP3Serializer (TypedMeasurement Bool) := flagsOnly ⟨1, 2⟩

def staticDoubleBinary : StaticDoubleBinaryVariation → DNP3Serializer (TypedMeasurement DoubleBit)
  | .Group3Var2 => flagsOnly ⟨3, 2⟩

def staticBinaryOutputStatus :
    StaticBinaryOutputStatusVariation → DNP3Serializer (TypedMeasurement Bool)
  | .Group10Var2 => flagsOnly ⟨10, 2⟩

def staticCounter : StaticCounterVariation → DNP3Serializer (TypedMeasurement UInt32)
  | .Group20Var1 => counter ⟨20, 1⟩ true 4 false
  | .Group20Var2 => counter ⟨20, 2⟩ true 2 false
  | .Group20Var5 => counter ⟨20, 5⟩ false 4 false
  | .Group20Var6 => counter ⟨20, 6⟩ false 2 false

def staticFrozenCounter : StaticFrozenCounterVariation → DNP3Serializer (TypedMeasurement UInt32)
  | .Group21Var1 => counter ⟨21, 1⟩ true 4 false
  | .Group21Var2 => counter ⟨21, 2⟩ true 2 false
  | .Group21Var5 => counter ⟨21, 5⟩ true 4 true
  | .Group21Var6 => counter ⟨21, 6⟩ true 2 true
  | .Group21Var9 => counter ⟨21, 9⟩ false 4 false
  | .Group21Var10 => counter ⟨21, 10⟩ false 2 false

def staticAnalog : StaticAnalogVariation → DNP3Serializer (TypedMeasurement Float)
  | .Group30Var1 => analog ⟨30, 1⟩ true .int32 false
  | .Group30Var2 => analog ⟨30, 2⟩ true .int16 false
  | .Group30Var3 => analog ⟨30, 3⟩ false .int32 false
  | .Group30Var4 => analog ⟨30, 4⟩ false .int16 false
  | .Group30Var5 => analog ⟨30, 5⟩ true .float32 false
  | .Group30Var6 => analog ⟨30, 6⟩ true .double64 false

def staticAnalogOutputStatus :
    StaticAnalogOutputStatusVariation → DNP3Serializer (TypedMeasurement Float)
  | .Group40Var1 => analog ⟨40, 1⟩ true .int32 false
  | .Group40Var2 => analog ⟨40, 2⟩ true .int16 false
  | .Group40Var3 => analog ⟨40, 3⟩ true .float32 false
  | .Group40Var4 => analog ⟨40, 4⟩ true .double64 false

def eventBinary : EventBinaryVariation → DNP3Serializer (TypedMeasurement Bool)
  | .Group2Var1 => flagsOnly ⟨2, 1⟩
  | .Group2Var2 => flagsTime ⟨2, 2⟩
  | .Group2Var3 => flagsRelativeTime ⟨2, 3⟩

def eventDoubleBinary : EventDoubleBinaryVariation → DNP3Serializer (TypedMeasurement DoubleBit)
  | .Group4Var1 => flagsOnly ⟨4, 1⟩
  | .Group4Var2 => flagsTime ⟨4, 2⟩
  | .Group4Var3 => flagsRelativeTime ⟨4, 3⟩

def eventBinaryOutputStatus :
    EventBinaryOutputStatusVariation → DNP3Serializer (TypedMeasurement Bool)
  | .Group11Var1 => flagsOnly ⟨11, 1⟩
  | .Group11Var2 => flagsTime ⟨11, 2⟩

def eventCounter : EventCounterVariation → DNP3Serializer (TypedMeasurement UInt32)
  | .Group22Var1 => counter ⟨22, 1⟩ true 4 false
  | .Group22Var2 => counter ⟨22, 2⟩ true 2 false
  | .Group22Var5 => counter ⟨22, 5⟩ true 4 true
  | .Group22Var6 => counter ⟨22, 6⟩ true 2 true

def eventFrozenCounter : EventFrozenCounterVariation → DNP3Serializer (TypedMeasurement UInt32)
  | .Group23Var1 => counter ⟨23, 1⟩ true 4 false
  | .Group23Var2 => counter ⟨23, 2⟩ true 2 false
  | .Group23Var5 => counter ⟨23, 5⟩ true 4 true
  | .Group23Var6 => counter ⟨23, 6⟩ true 2 true

def eventAnalog : EventAnalogVariation → DNP3Serializer (TypedMeasurement Float)
  | .Group32Var1 => analog ⟨32, 1⟩ true .int32 false
  | .Group32Var2 => analog ⟨32, 2⟩ true .int16 false
  | .Group32Var3 => analog ⟨32, 3⟩ true .int32 true
  | .Group32Var4 => analog ⟨32, 4⟩ true .int16 true
  | .Group32Var5 => analog ⟨32, 5⟩ true .float32 false
  | .Group32Var6 => analog ⟨32, 6⟩ true .double64 false
  | .Group32Var7 => analog ⟨32, 7⟩ true .float32 true
  | .Group32Var8 => analog ⟨32, 8⟩ true .double64 true

def eventAnalogOutputStatus :
    EventAnalogOutputStatusVariation → DNP3Serializer (TypedMeasurement Float)
  | .Group42Var1 => analog ⟨42, 1⟩ true .int32 false
  | .Group42Var2 => analog ⟨42, 2⟩ true .int16 false
  | .Group42Var3 => analog ⟨42, 3⟩ true .int32 true
  | .Group42Var4 => analog ⟨42, 4⟩ true .int16 true
  | .Group42Var5 => analog ⟨42, 5⟩ true .float32 false
  | .Group42Var6 => analog ⟨42, 6⟩ true .double64 false
  | .Group42Var7 => analog ⟨42, 7⟩ true .float32 true
  | .Group42Var8 => analog ⟨42, 8⟩ true .double64 true

end DNP3Serializer

end OpenDnp3.App
