import OpenDnp3.App.ParserPasses

/-!
# Device attributes

Group 0 holds the attributes of a device.  Each one brings its own type code and length, so the
parser finds the next one only if it takes the length of this one as it is meant.  The length of an
extended list of attributes, type 255, is meant with 256 added to it.
-/

namespace OpenDnp3.App

open Lib

/-! ## Values -/

/-- The type codes of attribute values. -/
inductive DeviceAttrType
  | VISIBLE_STRING
  | UNSIGNED_INT
  | SIGNED_INT
  | FLOATING_POINT
  | OCTET_STRING
  | BIT_STRING
  | DNP3_TIME
  | UNICODE
  | ATTR_LIST
  | EXT_ATTR_LIST
  deriving DecidableEq, Repr

/-- `DeviceAttributeValue`; the members that a type does not use have their defaults. -/
structure DeviceAttributeValue where
  type : DeviceAttrType := .VISIBLE_STRING
  stringValue : List UInt8 := []
  unsignedValue : Nat := 0
  signedValue : Int := 0
  floatValue : Float := 0
  timeValue : Nat := 0
  rawValue : List UInt8 := []

/-- A number of so many bits, read with its sign. -/
def signedOf (bits n : Nat) : Int := if n < 2 ^ (bits - 1) then n else n - 2 ^ bits

/-- The lengths of payload that hold an integer. -/
def isIntegerLength (n : Nat) : Bool := n = 1 || n = 2 || n = 4

theorem isIntegerLength_of_mem {n : Nat} (h : n ∈ [1, 2, 4]) : isIntegerLength n = true := by
  simpa [isIntegerLength, or_assoc] using h

/-- `timeValue |= payload[j] << (j * 8)` for each byte. -/
def shiftedBytes (payload : List UInt8) (shift : Nat) : Nat :=
  match payload with
  | [] => 0
  | byte :: rest => byte.toNat <<< (shift * 8) ||| shiftedBytes rest (shift + 1)

/-- The body of the loop of `ParseRangeOfDeviceAttributes` that builds the value.  Integers are
    copied as they stand in the memory of a little-endian machine. -/
def deviceAttributeValue (typeCode : UInt8) (payload : List UInt8) : DeviceAttributeValue :=
  match typeCode with
  | 1 => { type := .VISIBLE_STRING, stringValue := payload }
  | 2 =>
    { type := .UNSIGNED_INT
      unsignedValue := if isIntegerLength payload.length then decodeLE payload else 0 }
  | 3 =>
    { type := .SIGNED_INT
      signedValue :=
        if isIntegerLength payload.length then signedOf (8 * payload.length) (decodeLE payload)
        else 0 }
  | 4 =>
    { type := .FLOATING_POINT
      floatValue :=
        if payload.length = 4 then (Float32.ofBits (UInt32.ofNat (decodeLE payload))).toFloat
        else if payload.length = 8 then Float.ofBits (UInt64.ofNat (decodeLE payload)) else 0 }
  | 5 => { type := .OCTET_STRING, rawValue := payload }
  | 6 => { type := .BIT_STRING, rawValue := payload }
  | 7 =>
    { type := .DNP3_TIME
      timeValue := if payload.length = 6 then shiftedBytes payload 0 else 0 }
  | 8 => { type := .UNICODE, stringValue := payload }
  | 254 => { type := .ATTR_LIST, rawValue := payload }
  | 255 => { type := .EXT_ATTR_LIST, rawValue := payload }
  | _ => { type := .OCTET_STRING, rawValue := payload }

/-- Bytes that do not overlap are added. -/
theorem shiftedBytes_eq (payload : List UInt8) (shift : Nat) :
    shiftedBytes payload shift = decodeLE payload * 256 ^ shift := by
  induction payload generalizing shift with
  | nil => simp [shiftedBytes, decodeLE]
  | cons byte rest ih =>
    have hpow : 2 ^ (shift * 8) = 256 ^ shift := by
      rw [Nat.mul_comm, Nat.pow_mul]
    have hhigher : decodeLE rest * 256 ^ (shift + 1) = (decodeLE rest <<< 8) <<< (shift * 8) := by
      rw [Nat.shiftLeft_eq, Nat.shiftLeft_eq, hpow, Nat.pow_succ', Nat.mul_assoc]
    have hlow : byte.toNat < 2 ^ 8 := byte.toNat_lt
    rw [shiftedBytes, ih, hhigher, ← Nat.shiftLeft_or_distrib, Nat.or_comm,
      ← Nat.shiftLeft_add_eq_or_of_lt hlow, Nat.shiftLeft_eq, Nat.shiftLeft_eq, hpow, decodeLE,
      Nat.add_comm, Nat.mul_comm (decodeLE rest)]

/-! ## Attributes as they are sent -/

/-- An attribute; the length of its payload is what its length byte can say. -/
structure Attribute where
  typeCode : UInt8
  payload : List UInt8
  sized : if typeCode = 255 then 256 ≤ payload.length ∧ payload.length ≤ 511
    else payload.length ≤ 255

namespace Attribute

def lengthByte (a : Attribute) : UInt8 :=
  UInt8.ofNat (if a.typeCode = 255 then a.payload.length - 256 else a.payload.length)

def bytes (a : Attribute) : List UInt8 := a.typeCode :: a.lengthByte :: a.payload

/-- **What the value should be**: of the type that the code stands for, and read from the whole
    payload of this attribute and from nothing else. -/
structure Decoded (a : Attribute) (value : DeviceAttributeValue) : Prop where
  own : value = deviceAttributeValue a.typeCode a.payload
  string : a.typeCode = 1 ∨ a.typeCode = 8 → value.stringValue = a.payload
  raw : a.typeCode ∉ [1, 2, 3, 4, 7, 8] → value.rawValue = a.payload
  unsigned : a.typeCode = 2 → a.payload.length ∈ [1, 2, 4] →
    value.unsignedValue = decodeLE a.payload
  signed : a.typeCode = 3 → a.payload.length ∈ [1, 2, 4] →
    value.signedValue = signedOf (8 * a.payload.length) (decodeLE a.payload)
  time : a.typeCode = 7 → a.payload.length = 6 → value.timeValue = decodeLE a.payload

/-- **Values are read as the format says.** -/
theorem decoded_deviceAttributeValue (a : Attribute) :
    a.Decoded (deviceAttributeValue a.typeCode a.payload) := by
  obtain ⟨typeCode, payload, sized⟩ := a
  refine ⟨rfl, ?_, ?_, ?_, ?_, ?_⟩
  · rintro (rfl | rfl) <;> rfl
  · intro hraw
    simp only [List.mem_cons, List.not_mem_nil, or_false, not_or] at hraw
    obtain ⟨h1, h2, h3, h4, h7, h8⟩ := hraw
    unfold deviceAttributeValue
    split <;> first | rfl | contradiction
  · rintro rfl hlength
    exact if_pos (isIntegerLength_of_mem hlength)
  · rintro rfl hlength
    exact if_pos (isIntegerLength_of_mem hlength)
  · rintro rfl hlength
    have htime := shiftedBytes_eq payload 0
    rw [Nat.pow_zero, Nat.mul_one] at htime
    exact (if_pos hlength).trans htime

theorem toNat_lengthByte {a : Attribute} (h : a.typeCode ≠ 255) :
    a.lengthByte.toNat = a.payload.length := by
  have hsized := a.sized
  rw [if_neg h] at hsized
  rw [lengthByte, if_neg h, UInt8.toNat_ofNat']
  omega

/-- The length byte of an extended list leaves 256 bytes out. -/
theorem toNat_lengthByte_ext {a : Attribute} (h : a.typeCode = 255) :
    a.lengthByte.toNat + 256 = a.payload.length := by
  have hsized := a.sized
  rw [if_pos h] at hsized
  rw [lengthByte, if_pos h, UInt8.toNat_ofNat']
  omega

end Attribute

/-! ## Delivery -/

/-- One call for each attribute, in order, with the index of the attribute and its value. -/
def Delivered (variation : UInt8) : Nat → List Attribute → List ParsedHeader → Prop
  | _, [], [] => True
  | index, a :: as, .deviceAttribute set v typeCode payload :: calls =>
    (set.toNat = index ∧ v = variation ∧ a.Decoded (deviceAttributeValue typeCode payload)) ∧
      Delivered variation (index + 1) as calls
  | _, _, _ => False

/-- The first attribute of a range is as long as its length byte says, whatever its type. -/
theorem parseRangeOfDeviceAttributes_cons (variation : UInt8) (index count : Nat)
    (typeCode length : UInt8) {payload rest : List UInt8} (h : payload.length = length.toNat) :
    parseRangeOfDeviceAttributes variation index (count + 1)
        (typeCode :: length :: (payload ++ rest)) =
      (parseRangeOfDeviceAttributes variation (index + 1) count rest).map fun later =>
        (.deviceAttribute (UInt8.ofNat index) variation typeCode payload :: later.1, later.2) := by
  have htake : (typeCode :: length :: (payload ++ rest)).take (2 + length.toNat) =
      typeCode :: length :: payload := by
    rw [← h, Nat.add_comm]
    simp
  have hdrop : (typeCode :: length :: (payload ++ rest)).drop (2 + length.toNat) = rest := by
    rw [← h, Nat.add_comm]
    simp
  have hlength : 2 + length.toNat ≤ (typeCode :: length :: (payload ++ rest)).length := by
    simp only [List.length_cons, List.length_append]
    omega
  rw [parseRangeOfDeviceAttributes_succ _ _ _ _ (by simp)]
  change parseDeviceAttribute variation typeCode index count length.toNat _ = _
  rw [parseDeviceAttribute, takeBytes_eq_ok hlength, htake, hdrop, ok_bind]
  cases hlater : parseRangeOfDeviceAttributes variation (index + 1) count rest with
  | error e | ok later =>
    simp only [hlater]
    rfl

theorem delivered_cons_iff {variation : UInt8} {index : Nat} {a : Attribute} {as : List Attribute}
    {set v typeCode : UInt8} {payload : List UInt8} {calls : List ParsedHeader} :
    Delivered variation index (a :: as) (.deviceAttribute set v typeCode payload :: calls) ↔
      (set.toNat = index ∧ v = variation ∧ a.Decoded (deviceAttributeValue typeCode payload)) ∧
        Delivered variation (index + 1) as calls := Iff.rfl

/-- The parser delivers the attributes from this index on and stops behind them. -/
def Parses (variation : UInt8) (index : Nat) (attributes : List Attribute) (rest : List UInt8) :
    Prop :=
  ∃ calls, parseRangeOfDeviceAttributes variation index attributes.length
      (attributes.flatMap Attribute.bytes ++ rest) = .ok (calls, rest) ∧
    Delivered variation index attributes calls

variable {variation : UInt8} {index : Nat} {a : Attribute} {as : List Attribute}
  {rest : List UInt8}

theorem parses_cons_iff_of_length {payload behind : List UInt8}
    (hbytes : a.bytes ++ (as.flatMap Attribute.bytes ++ rest) =
      a.typeCode :: a.lengthByte :: (payload ++ behind))
    (hlength : payload.length = a.lengthByte.toNat) :
    Parses variation index (a :: as) rest ↔
      (index ≤ 255 ∧ a.Decoded (deviceAttributeValue a.typeCode payload)) ∧
        ∃ calls, parseRangeOfDeviceAttributes variation (index + 1) as.length behind =
            .ok (calls, rest) ∧ Delivered variation (index + 1) as calls := by
  have hset : (UInt8.ofNat index).toNat = index ↔ index ≤ 255 := by
    rw [UInt8.toNat_ofNat']
    omega
  rw [Parses, List.flatMap_cons, List.append_assoc, hbytes, List.length_cons,
    parseRangeOfDeviceAttributes_cons _ _ _ _ _ hlength]
  cases parseRangeOfDeviceAttributes variation (index + 1) as.length behind with
  | error e => simp [Except.map]
  | ok later =>
    obtain ⟨calls, behind'⟩ := later
    simp only [Except.map, Except.ok.injEq, Prod.mk.injEq]
    constructor
    · rintro ⟨_, ⟨rfl, rfl⟩, hdelivered⟩
      obtain ⟨⟨hindex, -, hdecoded⟩, hlater⟩ := delivered_cons_iff.mp hdelivered
      exact ⟨⟨hset.mp hindex, hdecoded⟩, calls, ⟨rfl, rfl⟩, hlater⟩
    · rintro ⟨⟨hindex, hdecoded⟩, _, ⟨rfl, rfl⟩, hlater⟩
      exact ⟨_, ⟨rfl, rfl⟩, delivered_cons_iff.mpr ⟨⟨hset.mpr hindex, rfl, hdecoded⟩, hlater⟩⟩

/-- An extended list is cut short. -/
theorem not_parses_ext (h : a.typeCode = 255) : ¬ Parses variation index (a :: as) rest := by
  have hlong := Attribute.toNat_lengthByte_ext h
  have htaken : (a.payload.take a.lengthByte.toNat).length = a.lengthByte.toNat := by
    rw [List.length_take]
    omega
  -- the parser takes the first bytes of the payload for all of it
  have hbytes : a.bytes ++ (as.flatMap Attribute.bytes ++ rest) =
      a.typeCode :: a.lengthByte :: (a.payload.take a.lengthByte.toNat ++
        (a.payload.drop a.lengthByte.toNat ++ (as.flatMap Attribute.bytes ++ rest))) := by
    rw [← List.append_assoc (List.take _ _), List.take_append_drop]
    rfl
  rw [parses_cons_iff_of_length hbytes htaken]
  rintro ⟨⟨-, hdecoded⟩, -⟩
  have hraw := hdecoded.raw (by rw [h]; decide)
  rw [h] at hraw
  have hlength : (a.payload.take a.lengthByte.toNat).length = a.payload.length :=
    congrArg List.length hraw
  omega

theorem parses_cons_iff (h : a.typeCode ≠ 255) :
    Parses variation index (a :: as) rest ↔
      index ≤ 255 ∧ Parses variation (index + 1) as rest := by
  have hlength : a.payload.length = a.lengthByte.toNat := (Attribute.toNat_lengthByte h).symm
  rw [parses_cons_iff_of_length rfl hlength, and_iff_left a.decoded_deviceAttributeValue]
  rfl

/-- **What the loop delivers**: lists without an extended list, as far as their indices are
    bytes. -/
theorem parses_iff (variation : UInt8) (index : Nat) (as : List Attribute) (rest : List UInt8) :
    Parses variation index as rest ↔
      (∀ a ∈ as, a.typeCode ≠ 255) ∧ (as ≠ [] → index + as.length ≤ 256) := by
  induction as generalizing index with
  | nil => exact iff_of_true ⟨[], rfl, trivial⟩ ⟨by simp, by simp⟩
  | cons a as ih =>
    by_cases h : a.typeCode = 255
    · exact iff_of_false (not_parses_ext h) fun hall => hall.1 a List.mem_cons_self h
    · rw [parses_cons_iff h, ih, List.forall_mem_cons, List.length_cons]
      cases as with
      | nil =>
        constructor
        · rintro ⟨hindex, -⟩
          exact ⟨⟨h, by simp⟩, fun _ => Nat.succ_le_succ hindex⟩
        · rintro ⟨-, hlast⟩
          exact ⟨Nat.le_of_succ_le_succ (hlast (by simp)), by simp, by simp⟩
      | cons b bs =>
        simp only [ne_eq, h, not_false_eq_true, true_and, reduceCtorEq, forall_const,
          List.length_cons]
        constructor
        · rintro ⟨hindex, htypes, hlast⟩
          exact ⟨htypes, by omega⟩
        · rintro ⟨htypes, hlast⟩
          exact ⟨by omega, htypes, by omega⟩

/-! ## The range parser -/

/-- The objects of a header of group 0, once its range has been read. -/
def parseAttributeRange (variation : UInt8) (qualifier : QualifierCode) (headerIndex : Nat)
    (range : Range) (buffer : List UInt8) : Except ParseResult (List ParsedHeader × List UInt8) :=
  match GroupVariation.ofWire 0 variation with
  | none => .error .UNKNOWN_OBJECT
  | some enumeration =>
    parseRangeOfObjects ⟨enumeration, 0, variation, qualifier, headerIndex⟩ range buffer

/-- Variation 0 has no entry, and two variations have entries of their own, which the parser does
    not know in a range. -/
theorem parseAttributeRange_eq (variation : UInt8) (qualifier : QualifierCode)
    (headerIndex : Nat) (range : Range) (buffer : List UInt8) :
    parseAttributeRange variation qualifier headerIndex range buffer =
      if variation = 0 then .error .UNKNOWN_OBJECT
      else if variation = 254 ∨ variation = 255 then .error .INVALID_OBJECT_QUALIFIER
      else parseRangeOfDeviceAttributes variation range.start range.count buffer := by
  by_cases h0 : variation = 0
  · subst h0
    rfl
  by_cases h254 : variation = 254
  · subst h254
    rfl
  by_cases h255 : variation = 255
  · subst h255
    rfl
  have hentry : GroupVariation.ofWire 0 variation = some ⟨0, 0⟩ := by
    have hcases : ∀ n < 256, UInt8.ofNat n ≠ 0 → UInt8.ofNat n ≠ 254 → UInt8.ofNat n ≠ 255 →
        GroupVariation.ofWire 0 (UInt8.ofNat n) = some ⟨0, 0⟩ := by decide +kernel
    have hentry := hcases variation.toNat variation.toNat_lt
    rw [UInt8.ofNat_toNat] at hentry
    exact hentry h0 h254 h255
  rw [parseAttributeRange, hentry, if_neg h0, if_neg (not_or.mpr ⟨h254, h255⟩)]
  rfl

/-- **Device attributes under a range**: the parser delivers each attribute once, in order, with
    its index and the value of its own payload, and stops behind the last one, if and only if the
    variation is neither 0 nor one of the two that stand for lists, no attribute is an extended
    list, and the last index is a byte. -/
theorem attributes_delivered_iff (variation : UInt8) (qualifier : QualifierCode)
    (headerIndex start : Nat) (as : List Attribute) (hne : as ≠ []) (rest : List UInt8) :
    (∃ calls, parseAttributeRange variation qualifier headerIndex
        ⟨start, start + as.length - 1⟩ (as.flatMap Attribute.bytes ++ rest) = .ok (calls, rest) ∧
      Delivered variation start as calls) ↔
      (variation ≠ 0 ∧ variation ≠ 254 ∧ variation ≠ 255) ∧ (∀ a ∈ as, a.typeCode ≠ 255) ∧
        start + as.length ≤ 256 := by
  have hpos : 0 < as.length := List.length_pos_of_ne_nil hne
  have hcount : (Range.mk start (start + as.length - 1)).count = as.length := by
    rw [Range.count, if_pos ((Range.isValid_iff _).mpr (by simp only; omega))]
    simp only
    omega
  rw [parseAttributeRange_eq, hcount]
  split
  · rename_i hzero
    exact iff_of_false (by simp) fun h => h.1.1 hzero
  · rename_i hzero
    split
    · rename_i hlist
      refine iff_of_false (by simp) fun h => ?_
      exact hlist.elim h.1.2.1 h.1.2.2
    · rename_i hother
      have hparses := parses_iff variation start as rest
      rw [Parses] at hparses
      have hvariation : variation ≠ 0 ∧ variation ≠ 254 ∧ variation ≠ 255 :=
        ⟨hzero, not_or.mp hother⟩
      rw [hparses, and_iff_right hvariation]
      simp [hne]

/-- Two attributes: a string and an integer. -/
theorem attributes_delivered_two :
    ∃ calls, parseAttributeRange 240 .UINT8_START_STOP 0 ⟨3, 4⟩
        ([1, 2, 65, 66] ++ [2, 2, 0x34, 0x12] ++ [7]) = .ok (calls, [7]) ∧
      Delivered 240 3 [⟨1, [65, 66], by decide⟩, ⟨2, [0x34, 0x12], by decide⟩] calls :=
  (attributes_delivered_iff 240 .UINT8_START_STOP 0 3
    [⟨1, [65, 66], by decide⟩, ⟨2, [0x34, 0x12], by decide⟩] (by simp) [7]).mpr
      ⟨by decide, by simp, by decide⟩

/-- An extended list of 256 bytes. -/
def sampleExtendedList : Attribute where
  typeCode := 255
  payload := List.replicate 256 0
  sized := by
    rw [if_pos rfl, List.length_replicate]
    decide

/-- Its length byte is 0: it is delivered empty, and its bytes are left for the next header. -/
theorem extended_list_cut :
    parseAttributeRange 1 .UINT8_START_STOP 0 ⟨0, 0⟩
        sampleExtendedList.bytes =
      .ok ([.deviceAttribute 0 1 255 []], List.replicate 256 0) := by
  decide +kernel

end OpenDnp3.App
