import Mathlib.Algebra.Order.Ring.Int

/-!
# Application layer headers

The first bytes of every application fragment: the control field, the function code and, in
responses, the internal indications.
-/

namespace OpenDnp3.App

/-! ## Control field -/

/-- Sequence numbers are written as literals. -/
instance neZero_seq : NeZero 16 := ⟨Nat.succ_ne_zero 15⟩

/-- The first byte of every application fragment. -/
structure AppControlField where
  FIR : Bool
  FIN : Bool
  CON : Bool
  UNS : Bool
  SEQ : Fin 16
  deriving DecidableEq, Repr

namespace AppControlField

def FIR_MASK : UInt8 := 0x80
def FIN_MASK : UInt8 := 0x40
def CON_MASK : UInt8 := 0x20
def UNS_MASK : UInt8 := 0x10
def SEQ_MASK : UInt8 := 0x0F

def ofByte (byte : UInt8) : AppControlField where
  FIR := byte &&& FIR_MASK != 0
  FIN := byte &&& FIN_MASK != 0
  CON := byte &&& CON_MASK != 0
  UNS := byte &&& UNS_MASK != 0
  SEQ := Fin.ofNat 16 (byte &&& SEQ_MASK).toNat

def toByte (c : AppControlField) : UInt8 :=
  (if c.FIR then FIR_MASK else 0) ||| (if c.FIN then FIN_MASK else 0) |||
    (if c.CON then CON_MASK else 0) ||| (if c.UNS then UNS_MASK else 0) ||| UInt8.ofNat c.SEQ

/-- A request is a single fragment without confirmation. -/
def request (seq : Fin 16) : AppControlField where
  FIR := true
  FIN := true
  CON := false
  UNS := false
  SEQ := seq

def isFirAndFin (c : AppControlField) : Bool := c.FIR && c.FIN

/-- The control field survives being written and read back. -/
theorem ofByte_toByte (c : AppControlField) : ofByte c.toByte = c := by
  obtain ⟨fir, fin, con, uns, seq⟩ := c
  revert seq
  cases fir <;> cases fin <;> cases con <;> cases uns <;> decide

end AppControlField

/-! ## Function codes -/

/-- The function codes, with `UNKNOWN` for all other bytes. -/
inductive FunctionCode where
  | CONFIRM
  | READ
  | WRITE
  | SELECT
  | OPERATE
  | DIRECT_OPERATE
  | DIRECT_OPERATE_NR
  | IMMED_FREEZE
  | IMMED_FREEZE_NR
  | FREEZE_CLEAR
  | FREEZE_CLEAR_NR
  | FREEZE_AT_TIME
  | FREEZE_AT_TIME_NR
  | COLD_RESTART
  | WARM_RESTART
  | INITIALIZE_DATA
  | INITIALIZE_APPLICATION
  | START_APPLICATION
  | STOP_APPLICATION
  | SAVE_CONFIGURATION
  | ENABLE_UNSOLICITED
  | DISABLE_UNSOLICITED
  | ASSIGN_CLASS
  | DELAY_MEASURE
  | RECORD_CURRENT_TIME
  | OPEN_FILE
  | CLOSE_FILE
  | DELETE_FILE
  | GET_FILE_INFO
  | AUTHENTICATE_FILE
  | ABORT_FILE
  | ACTIVATE_CONFIG
  | AUTH_REQUEST
  | AUTH_ERROR
  | RESPONSE
  | UNSOLICITED_RESPONSE
  | AUTH_RESPONSE
  | UNKNOWN
  deriving DecidableEq, Repr

namespace FunctionCode

def toType : FunctionCode → UInt8
  | CONFIRM => 0x00
  | READ => 0x01
  | WRITE => 0x02
  | SELECT => 0x03
  | OPERATE => 0x04
  | DIRECT_OPERATE => 0x05
  | DIRECT_OPERATE_NR => 0x06
  | IMMED_FREEZE => 0x07
  | IMMED_FREEZE_NR => 0x08
  | FREEZE_CLEAR => 0x09
  | FREEZE_CLEAR_NR => 0x0A
  | FREEZE_AT_TIME => 0x0B
  | FREEZE_AT_TIME_NR => 0x0C
  | COLD_RESTART => 0x0D
  | WARM_RESTART => 0x0E
  | INITIALIZE_DATA => 0x0F
  | INITIALIZE_APPLICATION => 0x10
  | START_APPLICATION => 0x11
  | STOP_APPLICATION => 0x12
  | SAVE_CONFIGURATION => 0x13
  | ENABLE_UNSOLICITED => 0x14
  | DISABLE_UNSOLICITED => 0x15
  | ASSIGN_CLASS => 0x16
  | DELAY_MEASURE => 0x17
  | RECORD_CURRENT_TIME => 0x18
  | OPEN_FILE => 0x19
  | CLOSE_FILE => 0x1A
  | DELETE_FILE => 0x1B
  | GET_FILE_INFO => 0x1C
  | AUTHENTICATE_FILE => 0x1D
  | ABORT_FILE => 0x1E
  | ACTIVATE_CONFIG => 0x1F
  | AUTH_REQUEST => 0x20
  | AUTH_ERROR => 0x21
  | RESPONSE => 0x81
  | UNSOLICITED_RESPONSE => 0x82
  | AUTH_RESPONSE => 0x83
  | UNKNOWN => 0xFF

/-- Every byte that is no function code is `UNKNOWN`. -/
def fromType (byte : UInt8) : FunctionCode :=
  match byte with
  | 0x00 => CONFIRM
  | 0x01 => READ
  | 0x02 => WRITE
  | 0x03 => SELECT
  | 0x04 => OPERATE
  | 0x05 => DIRECT_OPERATE
  | 0x06 => DIRECT_OPERATE_NR
  | 0x07 => IMMED_FREEZE
  | 0x08 => IMMED_FREEZE_NR
  | 0x09 => FREEZE_CLEAR
  | 0x0A => FREEZE_CLEAR_NR
  | 0x0B => FREEZE_AT_TIME
  | 0x0C => FREEZE_AT_TIME_NR
  | 0x0D => COLD_RESTART
  | 0x0E => WARM_RESTART
  | 0x0F => INITIALIZE_DATA
  | 0x10 => INITIALIZE_APPLICATION
  | 0x11 => START_APPLICATION
  | 0x12 => STOP_APPLICATION
  | 0x13 => SAVE_CONFIGURATION
  | 0x14 => ENABLE_UNSOLICITED
  | 0x15 => DISABLE_UNSOLICITED
  | 0x16 => ASSIGN_CLASS
  | 0x17 => DELAY_MEASURE
  | 0x18 => RECORD_CURRENT_TIME
  | 0x19 => OPEN_FILE
  | 0x1A => CLOSE_FILE
  | 0x1B => DELETE_FILE
  | 0x1C => GET_FILE_INFO
  | 0x1D => AUTHENTICATE_FILE
  | 0x1E => ABORT_FILE
  | 0x1F => ACTIVATE_CONFIG
  | 0x20 => AUTH_REQUEST
  | 0x21 => AUTH_ERROR
  | 0x81 => RESPONSE
  | 0x82 => UNSOLICITED_RESPONSE
  | 0x83 => AUTH_RESPONSE
  | _ => UNKNOWN

end FunctionCode

/-! ## Internal indications -/

/-- The bits of the internal indications, in the order of the wire. -/
inductive IINBit where
  | BROADCAST
  | CLASS1_EVENTS
  | CLASS2_EVENTS
  | CLASS3_EVENTS
  | NEED_TIME
  | LOCAL_CONTROL
  | DEVICE_TROUBLE
  | DEVICE_RESTART
  | FUNC_NOT_SUPPORTED
  | OBJECT_UNKNOWN
  | PARAM_ERROR
  | EVENT_BUFFER_OVERFLOW
  | ALREADY_EXECUTING
  | CONFIG_CORRUPT
  | RESERVED1
  | RESERVED2
  deriving DecidableEq, Repr

/-- The two bytes of internal indications. -/
structure IINField where
  LSB : UInt8
  MSB : UInt8
  deriving DecidableEq, Repr

/-- Where a bit is: the masks for the two bytes, one of which is zero. -/
def IINBit.mask : IINBit → IINField
  | BROADCAST => ⟨0x01, 0⟩
  | CLASS1_EVENTS => ⟨0x02, 0⟩
  | CLASS2_EVENTS => ⟨0x04, 0⟩
  | CLASS3_EVENTS => ⟨0x08, 0⟩
  | NEED_TIME => ⟨0x10, 0⟩
  | LOCAL_CONTROL => ⟨0x20, 0⟩
  | DEVICE_TROUBLE => ⟨0x40, 0⟩
  | DEVICE_RESTART => ⟨0x80, 0⟩
  | FUNC_NOT_SUPPORTED => ⟨0, 0x01⟩
  | OBJECT_UNKNOWN => ⟨0, 0x02⟩
  | PARAM_ERROR => ⟨0, 0x04⟩
  | EVENT_BUFFER_OVERFLOW => ⟨0, 0x08⟩
  | ALREADY_EXECUTING => ⟨0, 0x10⟩
  | CONFIG_CORRUPT => ⟨0, 0x20⟩
  | RESERVED1 => ⟨0, 0x40⟩
  | RESERVED2 => ⟨0, 0x80⟩

namespace IINField

def empty : IINField := ⟨0, 0⟩

def isSet (iin : IINField) (bit : IINBit) : Bool :=
  iin.LSB &&& bit.mask.LSB != 0 || iin.MSB &&& bit.mask.MSB != 0

def or (a b : IINField) : IINField := ⟨a.LSB ||| b.LSB, a.MSB ||| b.MSB⟩

def setBit (iin : IINField) (bit : IINBit) : IINField := iin.or bit.mask

def clearBit (iin : IINField) (bit : IINBit) : IINField :=
  ⟨iin.LSB &&& ~~~bit.mask.LSB, iin.MSB &&& ~~~bit.mask.MSB⟩

def setBitToValue (iin : IINField) (bit : IINBit) (value : Bool) : IINField :=
  if value then iin.setBit bit else iin.clearBit bit

end IINField

/-! ## Headers -/

structure APDUHeader where
  control : AppControlField
  function : FunctionCode
  deriving DecidableEq, Repr

structure APDUResponseHeader extends APDUHeader where
  IIN : IINField
  deriving DecidableEq, Repr

end OpenDnp3.App
