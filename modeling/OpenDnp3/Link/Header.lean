import OpenDnp3.Link.Crc

/-!
# Link frame headers

The ten header bytes of an FT3 frame: two start bytes, LENGTH, CONTROL, destination,
source and the header CRC.  `LinkHeader` holds the four fields between start bytes and
CRC; the flags and the function code are views of the CONTROL byte.
-/

namespace OpenDnp3.Link

open Lib

/-! ## Constants -/

def LPDU_MIN_LENGTH : Nat := 5
def LPDU_HEADER_SIZE : Nat := 10
def LPDU_DATA_BLOCK_SIZE : Nat := 16
def LPDU_CRC_SIZE : Nat := 2
def LPDU_DATA_PLUS_CRC_SIZE : Nat := 18
def LPDU_MAX_USER_DATA_SIZE : Nat := 250
/-- 10 (header) + 250 (user data) + 32 (block CRCs). -/
def LPDU_MAX_FRAME_SIZE : Nat := 292

/-- Offset of the CRC in the header. -/
def LI_CRC : Nat := 8

def MASK_DIR : UInt8 := 0x80
def MASK_PRM : UInt8 := 0x40
def MASK_FCB : UInt8 := 0x20
def MASK_FCV : UInt8 := 0x10
def MASK_FUNC_OR_PRM : UInt8 := 0x4F

/-! ## Function codes -/

/-- Link layer function codes. -/
inductive LinkFunction where
  | PRI_RESET_LINK_STATES
  | PRI_TEST_LINK_STATES
  | PRI_CONFIRMED_USER_DATA
  | PRI_UNCONFIRMED_USER_DATA
  | PRI_REQUEST_LINK_STATUS
  | SEC_ACK
  | SEC_NACK
  | SEC_LINK_STATUS
  | SEC_NOT_SUPPORTED
  | INVALID
  deriving DecidableEq, Repr

namespace LinkFunction

def toType : LinkFunction → UInt8
  | PRI_RESET_LINK_STATES => 0x40
  | PRI_TEST_LINK_STATES => 0x42
  | PRI_CONFIRMED_USER_DATA => 0x43
  | PRI_UNCONFIRMED_USER_DATA => 0x44
  | PRI_REQUEST_LINK_STATUS => 0x49
  | SEC_ACK => 0x0
  | SEC_NACK => 0x1
  | SEC_LINK_STATUS => 0xB
  | SEC_NOT_SUPPORTED => 0xF
  | INVALID => 0xFF

def fromType (arg : UInt8) : LinkFunction :=
  if arg = 0x40 then PRI_RESET_LINK_STATES
  else if arg = 0x42 then PRI_TEST_LINK_STATES
  else if arg = 0x43 then PRI_CONFIRMED_USER_DATA
  else if arg = 0x44 then PRI_UNCONFIRMED_USER_DATA
  else if arg = 0x49 then PRI_REQUEST_LINK_STATUS
  else if arg = 0x0 then SEC_ACK
  else if arg = 0x1 then SEC_NACK
  else if arg = 0xB then SEC_LINK_STATUS
  else if arg = 0xF then SEC_NOT_SUPPORTED
  else INVALID

end LinkFunction

/-! ## Headers -/

/-- Source and destination of a frame or message. -/
structure Addresses where
  source : UInt16
  destination : UInt16
  deriving DecidableEq, Repr

/-- The three broadcast destinations differ in the confirmation they ask for. -/
inductive LinkBroadcastAddress where
  | DontConfirm
  | ShallConfirm
  | OptionalConfirm
  deriving DecidableEq, Repr

def LinkBroadcastAddress.toAddress : LinkBroadcastAddress → UInt16
  | DontConfirm => 0xFFFD
  | ShallConfirm => 0xFFFE
  | OptionalConfirm => 0xFFFF

namespace Addresses

def isBroadcast (a : Addresses) : Bool :=
  a.destination == LinkBroadcastAddress.DontConfirm.toAddress ||
    a.destination == LinkBroadcastAddress.ShallConfirm.toAddress ||
    a.destination == LinkBroadcastAddress.OptionalConfirm.toAddress

end Addresses

/-- The fields of a frame header, as they are read from the wire. -/
structure LinkHeader where
  length : UInt8
  src : UInt16
  dest : UInt16
  ctrl : UInt8
  deriving DecidableEq, Repr

namespace LinkHeader

def isFromMaster (h : LinkHeader) : Bool := (h.ctrl &&& MASK_DIR) != 0

def isPriToSec (h : LinkHeader) : Bool := (h.ctrl &&& MASK_PRM) != 0

def isFcbSet (h : LinkHeader) : Bool := (h.ctrl &&& MASK_FCB) != 0

def isFcvDfcSet (h : LinkHeader) : Bool := (h.ctrl &&& MASK_FCV) != 0

def getFuncEnum (h : LinkHeader) : LinkFunction :=
  LinkFunction.fromType (h.ctrl &&& MASK_FUNC_OR_PRM)

def validLength (h : LinkHeader) : Bool := 4 < h.length

/-- The CONTROL byte for a direction, frame count bit, FCV/DFC bit and function. -/
def controlByte (isMaster fcb fcvdfc : Bool) (func : LinkFunction) : UInt8 :=
  let ret := func.toType
  let ret := if isMaster then ret ||| MASK_DIR else ret
  let ret := if fcb then ret ||| MASK_FCB else ret
  if fcvdfc then ret ||| MASK_FCV else ret

/-- Read the fields of a buffer of at least ten bytes; start bytes and CRC are not checked. -/
def read (buff : List UInt8) : LinkHeader where
  length := buff.getD 2 0
  dest := decodeU16 (buff.drop 4)
  src := decodeU16 (buff.drop 6)
  ctrl := buff.getD 3 0

/-- The ten header bytes, start bytes and CRC included. -/
def write (h : LinkHeader) : List UInt8 :=
  CRC.addCrc ([0x05, 0x64, h.length, h.ctrl] ++ encodeU16 h.dest ++ encodeU16 h.src)

@[simp] theorem length_write (h : LinkHeader) : h.write.length = LPDU_HEADER_SIZE := by
  simp [write, LPDU_HEADER_SIZE]

/-- Reading a written header gives its fields back, whatever follows it. -/
theorem read_write_append (h : LinkHeader) (rest : List UInt8) : read (h.write ++ rest) = h := by
  obtain ⟨length, src, dest, ctrl⟩ := h
  simp only [read, write, CRC.addCrc, List.append_assoc, List.cons_append, List.nil_append,
    List.getD_cons_succ, List.getD_cons_zero, List.drop_succ_cons, List.drop_zero,
    decodeU16_encodeU16_append, mk.injEq, and_true, true_and]
  -- the source address follows the two bytes of the destination
  rw [List.drop_left' (length_encodeU16 dest), decodeU16_encodeU16_append]

/-- The fields are read from the first eight bytes only. -/
theorem read_append {buff : List UInt8} (rest : List UInt8) (h : LI_CRC ≤ buff.length) :
    read (buff ++ rest) = read buff := by
  unfold LI_CRC at h
  have hget : ∀ i < 8, (buff ++ rest).getD i 0 = buff.getD i 0 := by
    intro i hi
    simp only [List.getD_eq_getElem?_getD]
    rw [List.getElem?_append_left (by omega)]
  have hdrop : ∀ i ≤ 6, decodeU16 ((buff ++ rest).drop i) = decodeU16 (buff.drop i) := by
    intro i hi
    rw [decodeU16, decodeU16, List.drop_append_of_le_length (by omega),
      List.take_append_of_le_length (by rw [List.length_drop]; omega)]
  simp only [read, hget 2 (by omega), hget 3 (by omega), hdrop 4 (by omega), hdrop 6 (by omega)]

end LinkHeader

/-- What a frame tells the layer above about its header. -/
structure LinkHeaderFields where
  func : LinkFunction
  isFromMaster : Bool
  fcb : Bool
  fcvdfc : Bool
  addresses : Addresses
  deriving DecidableEq, Repr

/-- A frame as it is handed to the sink: header fields and user data. -/
structure Frame where
  fields : LinkHeaderFields
  userData : List UInt8
  deriving DecidableEq, Repr

end OpenDnp3.Link
