import OpenDnp3.App.CommandHeader
import OpenDnp3.Outstation.CommandStatus

/-!
# Commands

What a user can send to an outstation: control relay output blocks and analog outputs of four
formats.  A control relay output block has its control code twice, in its parts and as the raw
code, and the raw code is written.  The constructors make them agree, but the fields can be
assigned one by one.

Floating point values are kept as their bits.
-/

namespace OpenDnp3.Master

open App Lib
open Outstation (CommandStatus)

/-! ## Control codes -/

inductive OperationType where
  | NUL
  | PULSE_ON
  | PULSE_OFF
  | LATCH_ON
  | LATCH_OFF
  | Undefined
  deriving DecidableEq, Repr

def OperationType.fromType (byte : UInt8) : OperationType :=
  match byte.toNat with
  | 0x0 => .NUL
  | 0x1 => .PULSE_ON
  | 0x2 => .PULSE_OFF
  | 0x3 => .LATCH_ON
  | 0x4 => .LATCH_OFF
  | _ => .Undefined

inductive TripCloseCode where
  | NUL
  | CLOSE
  | TRIP
  | RESERVED
  deriving DecidableEq, Repr

/-- Two bits, so that there is no other value. -/
def TripCloseCode.fromType (bits : Fin 4) : TripCloseCode :=
  match bits with
  | 0 => .NUL
  | 1 => .CLOSE
  | 2 => .TRIP
  | 3 => .RESERVED

/-! ## Control relay output blocks -/

/-- A binary command.  `rawCode` is the code as received. -/
structure ControlRelayOutputBlock where
  opType : OperationType
  tcc : TripCloseCode
  clear : Bool
  count : UInt8
  onTimeMS : UInt32
  offTimeMS : UInt32
  status : CommandStatus
  rawCode : UInt8
  deriving DecidableEq, Repr

namespace ControlRelayOutputBlock

/-- The constructor with a raw control code. -/
def ofRawCode (rawCode count : UInt8) (onTime offTime : UInt32) (status : CommandStatus) :
    ControlRelayOutputBlock where
  opType := .fromType (rawCode &&& 0x0F)
  tcc := .fromType (Fin.ofNat 4 (rawCode >>> (6 : UInt8) &&& 0x3).toNat)
  clear := rawCode &&& 0x20 != 0
  count := count
  onTimeMS := onTime
  offTimeMS := offTime
  status := status
  rawCode := rawCode

/-- `Group12Var1::WriteTarget`. -/
def write (c : ControlRelayOutputBlock) : List UInt8 :=
  [c.rawCode, c.count] ++ (encodeU32 c.onTimeMS ++ (encodeU32 c.offTimeMS ++ [c.status.toType]))

/-- `Group12Var1::ReadTarget`. -/
def read (object : List UInt8) : ControlRelayOutputBlock :=
  ofRawCode (object.getD 0 0) (object.getD 1 0) (decodeU32 (object.drop 2))
    (decodeU32 (object.drop 6)) (.fromType (object.getD 10 0))

/-- The parts of the control code are those of the raw code. -/
def Consistent (c : ControlRelayOutputBlock) : Prop :=
  c.opType = .fromType (c.rawCode &&& 0x0F) ∧
    c.tcc = .fromType (Fin.ofNat 4 (c.rawCode >>> (6 : UInt8) &&& 0x3).toNat) ∧
    c.clear = (c.rawCode &&& 0x20 != 0)

theorem read_write (c : ControlRelayOutputBlock) :
    read c.write = ofRawCode c.rawCode c.count c.onTimeMS c.offTimeMS c.status := by
  have hon : (c.write).drop 2 =
      encodeU32 c.onTimeMS ++ (encodeU32 c.offTimeMS ++ [c.status.toType]) := rfl
  have hoff : (c.write).drop 6 = encodeU32 c.offTimeMS ++ [c.status.toType] := rfl
  unfold read
  rw [hon, hoff, decodeU32_encodeU32_append, decodeU32_encodeU32_append]
  change ofRawCode c.rawCode c.count _ _ (.fromType c.status.toType) = _
  rw [CommandStatus.fromType_toType]

end ControlRelayOutputBlock

/-! ## Analog outputs -/

structure AnalogOutput (V : Type) where
  value : V
  status : CommandStatus
  deriving DecidableEq, Repr

/-! ## All types -/

/-- How a type of command goes on the wire. -/
structure CommandFormat (T : Type) where
  gv : GroupVariation
  write : T → List UInt8
  read : List UInt8 → T

/-- A value with its status behind it. -/
def AnalogOutput.format {V : Type} (variation size : Nat) (encode : V → List UInt8)
    (decode : List UInt8 → V) : CommandFormat (AnalogOutput V) where
  gv := ⟨41, variation⟩
  write c := encode c.value ++ [c.status.toType]
  read object := ⟨decode object, .fromType (object.getD size 0)⟩

theorem AnalogOutput.read_write {V : Type} {variation size : Nat} {encode : V → List UInt8}
    {decode : List UInt8 → V}
    (hdecode : ∀ v rest, decode (encode v ++ rest) = v) (hsize : ∀ v, (encode v).length = size)
    (c : AnalogOutput V) :
    (format variation size encode decode).read ((format variation size encode decode).write c) =
      c := by
  obtain ⟨value, status⟩ := c
  have hbyte : (encode value ++ [status.toType]).getD size 0 = status.toType := by
    rw [← hsize value, List.getD_eq_getElem?_getD, List.getElem?_concat_length]
    rfl
  unfold format
  dsimp only
  rw [hdecode, hbyte, CommandStatus.fromType_toType]

/-- The types of commands that have an object on the wire. -/
inductive CommandType where
  | crob
  | aoInt32
  | aoInt16
  | aoFloat32
  | aoDouble64
  deriving DecidableEq, Repr

namespace CommandType

/-- The class of the commands. -/
@[reducible] def Target : CommandType → Type
  | crob => ControlRelayOutputBlock
  | aoInt32 => AnalogOutput Int32
  | aoInt16 => AnalogOutput Int16
  | aoFloat32 => AnalogOutput UInt32
  | aoDouble64 => AnalogOutput UInt64

def format : (t : CommandType) → CommandFormat t.Target
  | crob =>
    { gv := ⟨12, 1⟩
      write := ControlRelayOutputBlock.write
      read := ControlRelayOutputBlock.read }
  | aoInt32 =>
    AnalogOutput.format 1 4 (fun v => encodeU32 v.toUInt32) (fun b => (decodeU32 b).toInt32)
  | aoInt16 =>
    AnalogOutput.format 2 2 (fun v => encodeU16 v.toUInt16) (fun b => (decodeU16 b).toInt16)
  | aoFloat32 => AnalogOutput.format 3 4 encodeU32 decodeU32
  | aoDouble64 => AnalogOutput.format 4 8 encodeU64 decodeU64

abbrev gv (t : CommandType) : GroupVariation := t.format.gv

abbrev write (t : CommandType) (c : t.Target) : List UInt8 := t.format.write c

abbrev read (t : CommandType) (object : List UInt8) : t.Target := t.format.read object

/-- All value fields are equal; of a floating point number, all bits. -/
def SameValues : (t : CommandType) → t.Target → t.Target → Prop
  | crob, a, b => a.opType = b.opType ∧ a.tcc = b.tcc ∧ a.clear = b.clear ∧ a.count = b.count ∧
    a.onTimeMS = b.onTimeMS ∧ a.offTimeMS = b.offTimeMS
  | aoInt32, a, b => a.value = b.value
  | aoInt16, a, b => a.value = b.value
  | aoFloat32, a, b => a.value = b.value
  | aoDouble64, a, b => a.value = b.value

/-- What is written says what the command is. -/
def Consistent : (t : CommandType) → t.Target → Prop
  | crob, c => ControlRelayOutputBlock.Consistent c
  | _, _ => True

theorem gv_mem (t : CommandType) : t.gv ∈ commandVariations := by
  cases t <;> decide

theorem length_write (t : CommandType) (c : t.Target) : (t.write c).length = commandSize t.gv := by
  cases t <;> rfl

/-- Reading what was written gives the same values exactly for consistent commands. -/
theorem sameValues_read_write_iff (t : CommandType) (c : t.Target) :
    t.SameValues (t.read (t.write c)) c ↔ t.Consistent c := by
  cases t with
  -- the fields are read back from the code, so they have to agree with it
  | crob =>
    change SameValues crob (ControlRelayOutputBlock.read (ControlRelayOutputBlock.write c)) c ↔
      ControlRelayOutputBlock.Consistent c
    rw [ControlRelayOutputBlock.read_write]
    constructor
    · rintro ⟨hop, htcc, hclear, -⟩
      exact ⟨hop.symm, htcc.symm, hclear.symm⟩
    · rintro ⟨hop, htcc, hclear⟩
      exact ⟨hop.symm, htcc.symm, hclear.symm, rfl, rfl, rfl⟩
  -- analog outputs are read back as they were
  | aoInt32 =>
    have hread : read aoInt32 (write aoInt32 c) = c := by
      exact AnalogOutput.read_write (fun v rest => by rw [decodeU32_encodeU32_append]; rfl)
        (fun v => length_encodeU32 _) c
    rw [hread]
    exact iff_of_true rfl trivial
  | aoInt16 =>
    have hread : read aoInt16 (write aoInt16 c) = c := by
      exact AnalogOutput.read_write (fun v rest => by rw [decodeU16_encodeU16_append]; rfl)
        (fun v => length_encodeU16 _) c
    rw [hread]
    exact iff_of_true rfl trivial
  | aoFloat32 =>
    have hread : read aoFloat32 (write aoFloat32 c) = c := by
      exact AnalogOutput.read_write decodeU32_encodeU32_append length_encodeU32 c
    rw [hread]
    exact iff_of_true rfl trivial
  | aoDouble64 =>
    have hread : read aoDouble64 (write aoDouble64 c) = c := by
      exact AnalogOutput.read_write decodeU64_encodeU64_append length_encodeU64 c
    rw [hread]
    exact iff_of_true rfl trivial

end CommandType

end OpenDnp3.Master
