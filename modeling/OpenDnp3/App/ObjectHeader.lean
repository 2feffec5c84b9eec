import Mathlib.Tactic.Common

/-!
# Object headers

Group and variation of an object header, its qualifier code, and the index ranges it can
name.
-/

namespace OpenDnp3.App

/-! ## Group and variation -/

/-- An entry of the `GroupVariation` enumeration, by its group and variation number. -/
structure GroupVariation where
  group : Nat
  variation : Nat
  deriving DecidableEq, Repr

namespace GroupVariation

/-- The variations that `from_type` knows of a group. -/
def variations : Nat → List Nat
  | 0 => [254, 255]
  | 1 | 3 | 10 | 11 | 13 => List.range 3
  | 2 | 4 | 12 => List.range 4
  | 20 | 22 | 23 => List.range 9
  | 21 => List.range 13
  | 30 => List.range 7
  | 31 | 32 | 33 => List.range 9
  | 34 => List.range 4
  | 40 | 41 => List.range 5
  | 42 | 43 => List.range 9
  | 50 => List.range 5
  | 51 | 52 => [1, 2]
  | 60 => [1, 2, 3, 4]
  | 70 => [1, 2, 3, 4, 5, 6, 7, 8]
  | 80 | 85 | 87 | 88 => [1]
  | 86 => List.range 4
  | 102 | 121 => List.range 2
  | 110 | 111 | 112 | 113 => [0]
  | 120 => [1, 2, 3, 4, 5, 6, 7, 8, 9, 10, 11, 12, 13, 14, 15]
  | 122 => List.range 3
  | _ => []

/-- `GetEnumAndType`: the enumeration entry for the numbers on the wire, `none` for
    `UNKNOWN`.  In some groups the variation carries a length or an attribute number, and all
    of them share one entry. -/
def ofWire (group variation : UInt8) : Option GroupVariation :=
  if (variations group.toNat).contains variation.toNat then
    some ⟨group.toNat, variation.toNat⟩
  else
    match group.toNat with
    | 0 => if variation = 0 then none else some ⟨0, 0⟩
    | 86 => some ⟨86, 0⟩
    | 110 => some ⟨110, 0⟩
    | 111 => some ⟨111, 0⟩
    | 112 => some ⟨112, 0⟩
    | 113 => some ⟨113, 0⟩
    | _ => none

end GroupVariation

inductive GroupVariationType where
  | STATIC
  | EVENT
  | OTHER
  deriving DecidableEq, Repr

/-- `GetType`: does the group hold static values, events or neither? -/
def groupVariationType (group variation : UInt8) : GroupVariationType :=
  match group.toNat with
  | 0 | 1 | 3 | 10 | 20 | 21 | 30 | 31 | 34 | 40 | 85 | 86 | 87 | 102 | 110 | 112 | 120 | 121 =>
    .STATIC
  | 2 | 4 | 11 | 13 | 22 | 23 | 32 | 33 | 41 | 42 | 43 | 88 | 111 | 113 | 122 => .EVENT
  | 50 => if variation = 4 then .STATIC else .OTHER
  | 60 => if variation = 1 then .STATIC else .EVENT
  | _ => .OTHER

/-! ## Qualifiers -/

/-- The qualifiers that the parser knows. -/
inductive QualifierCode where
  | UINT8_START_STOP
  | UINT16_START_STOP
  | ALL_OBJECTS
  | UINT8_CNT
  | UINT16_CNT
  | UINT8_CNT_UINT8_INDEX
  | UINT16_CNT_UINT16_INDEX
  | UINT8_CNT_UINT16_FREE_FORMAT
  /-- Any code that the parser has no case for. -/
  | OTHER
  deriving DecidableEq, Repr

namespace QualifierCode

def ofByte (byte : UInt8) : QualifierCode :=
  match byte.toNat with
  | 0x00 => UINT8_START_STOP
  | 0x01 => UINT16_START_STOP
  | 0x06 => ALL_OBJECTS
  | 0x07 => UINT8_CNT
  | 0x08 => UINT16_CNT
  | 0x17 => UINT8_CNT_UINT8_INDEX
  | 0x28 => UINT16_CNT_UINT16_INDEX
  | 0x5B => UINT8_CNT_UINT16_FREE_FORMAT
  | _ => OTHER

/-- The byte of a qualifier that the outstation writes. -/
def toByte : QualifierCode → UInt8
  | UINT8_START_STOP => 0x00
  | UINT16_START_STOP => 0x01
  | ALL_OBJECTS => 0x06
  | UINT8_CNT => 0x07
  | UINT16_CNT => 0x08
  | UINT8_CNT_UINT8_INDEX => 0x17
  | UINT16_CNT_UINT16_INDEX => 0x28
  | UINT8_CNT_UINT16_FREE_FORMAT => 0x5B
  | OTHER => 0xFF

end QualifierCode

/-! ## Ranges -/

/-- The indices from `start` to `stop`; none when `stop < start`. -/
structure Range where
  start : Nat
  stop : Nat
  deriving DecidableEq, Repr

namespace Range

def invalid : Range := ⟨1, 0⟩

def isValid (r : Range) : Bool := r.start ≤ r.stop

def count (r : Range) : Nat := if r.isValid then r.stop - r.start + 1 else 0

def contains (r : Range) (index : Nat) : Bool := r.start ≤ index && index ≤ r.stop

/-- The indices in both ranges. -/
def intersection (r other : Range) : Range :=
  ⟨max r.start other.start, min r.stop other.stop⟩

/-- The smallest range that covers both. -/
def union (r other : Range) : Range :=
  if r.isValid then ⟨min r.start other.start, max r.stop other.stop⟩ else other

def isOneByte (r : Range) : Bool := r.isValid && r.start ≤ 255 && r.stop ≤ 255

@[simp] theorem isValid_iff (r : Range) : r.isValid = true ↔ r.start ≤ r.stop := by
  simp [isValid]

@[simp] theorem contains_iff (r : Range) (index : Nat) :
    r.contains index = true ↔ r.start ≤ index ∧ index ≤ r.stop := by
  simp [contains]

/-- A union starts at the start of one of its parts. -/
theorem start_union (r other : Range) :
    (r.union other).start = other.start ∨ (r.isValid = true ∧ (r.union other).start = r.start) := by
  unfold union
  split
  · rename_i hvalid
    rcases Nat.le_total r.start other.start with hle | hle
    · exact .inr ⟨hvalid, Nat.min_eq_left hle⟩
    · exact .inl (Nat.min_eq_right hle)
  · exact .inl rfl

theorem contains_union_left {r : Range} {index : Nat} (other : Range)
    (h : r.contains index = true) : (r.union other).contains index = true := by
  rw [contains_iff] at h ⊢
  have hvalid : r.isValid = true := (isValid_iff r).mpr (Nat.le_trans h.1 h.2)
  rw [union, if_pos hvalid]
  exact ⟨Nat.le_trans (Nat.min_le_left ..) h.1, Nat.le_trans h.2 (Nat.le_max_left ..)⟩

theorem contains_union_right {other : Range} {index : Nat} (r : Range)
    (h : other.contains index = true) : (r.union other).contains index = true := by
  rw [contains_iff] at h ⊢
  unfold union
  split
  · exact ⟨Nat.le_trans (Nat.min_le_right ..) h.1, Nat.le_trans h.2 (Nat.le_max_right ..)⟩
  · exact h

end Range

end OpenDnp3.App
