import OpenDnp3.App.HeaderBytes
import OpenDnp3.SecAuth.OutstationUserDatabase
import OpenDnp3.SecAuth.SessionStore

/-!
# Objects of secure authentication

The objects of group 120 that an outstation writes itself, each as a record with its bytes, and how
one of them is put into a response in free format.  Random bytes come from outside: a draw says
what the generator left in its destination and whether it reported an error.
-/

namespace OpenDnp3.SecAuth

open App Lib

/-- `HMACType`. -/
inductive HMACType
  | NO_MAC_VALUE
  | HMAC_SHA1_TRUNC_4
  | HMAC_SHA1_TRUNC_10
  | HMAC_SHA256_TRUNC_8
  | HMAC_SHA256_TRUNC_16
  | HMAC_SHA1_TRUNC_8
  | AES_GMAC
  | UNKNOWN
  deriving DecidableEq, Repr

def HMACType.toType : HMACType → UInt8
  | NO_MAC_VALUE => 0x0
  | HMAC_SHA1_TRUNC_4 => 0x1
  | HMAC_SHA1_TRUNC_10 => 0x2
  | HMAC_SHA256_TRUNC_8 => 0x3
  | HMAC_SHA256_TRUNC_16 => 0x4
  | HMAC_SHA1_TRUNC_8 => 0x5
  | AES_GMAC => 0x6
  | UNKNOWN => 0xFF

def KeyWrapAlgorithm.toType : KeyWrapAlgorithm → UInt8
  | AES_128 => 0x1
  | AES_256 => 0x2
  | UNDEFINED => 0x0

def KeyStatus.toType : KeyStatus → UInt8
  | OK => 0x1
  | NOT_INIT => 0x2
  | COMM_FAIL => 0x3
  | AUTH_FAIL => 0x4
  | UNDEFINED => 0x0

/-! ## Random bytes -/

/-- `AuthSizes::MAX_CHALLENGE_DATA_SIZE`. -/
def maxChallengeDataSize : Nat := 64

/-- `AuthSizes::GetBoundedChallengeSize`. -/
def getBoundedChallengeSize (size : Nat) : Nat := max 4 (min size maxChallengeDataSize)

theorem getBoundedChallengeSize_le (size : Nat) : getBoundedChallengeSize size ≤ 64 := by
  unfold getBoundedChallengeSize maxChallengeDataSize
  omega

/-- `GetSecureRandom`: what it leaves in the first bytes of a buffer, as many as are asked for, and
    whether it reports no error. -/
structure Draw where
  bytes : Vector UInt8 maxChallengeDataSize
  ok : Bool

def Draw.take (draw : Draw) (n : Nat) : List UInt8 := draw.bytes.toList.take n

theorem Draw.length_take (draw : Draw) {n : Nat} (h : n ≤ 64) : (draw.take n).length = n := by
  have hlength : draw.bytes.toList.length = 64 := Vector.length_toList
  rw [Draw.take, List.length_take, hlength]
  exact Nat.min_eq_left h

/-! ## Objects -/

/-- A challenge. -/
structure Group120Var1 where
  challengeSeqNum : UInt32
  userNum : UInt16
  hmacAlgo : HMACType
  challengeReason : UInt8
  challengeData : List UInt8

def Group120Var1.bytes (o : Group120Var1) : List UInt8 :=
  encodeU32 o.challengeSeqNum ++ encodeU16 o.userNum ++ [o.hmacAlgo.toType, o.challengeReason] ++
    o.challengeData

/-- The status of the session keys, with a challenge for the key change. -/
structure Group120Var5 where
  keyChangeSeqNum : UInt32
  userNum : UInt16
  keyWrapAlgo : KeyWrapAlgorithm
  keyStatus : KeyStatus
  hmacAlgo : HMACType
  challengeData : List UInt8
  hmacValue : List UInt8
  deriving DecidableEq

def Group120Var5.bytes (o : Group120Var5) : List UInt8 :=
  encodeU32 o.keyChangeSeqNum ++ (encodeU16 o.userNum ++
    (o.keyWrapAlgo.toType :: o.keyStatus.toType :: o.hmacAlgo.toType ::
      (encodeLE 2 o.challengeData.length ++ (o.challengeData ++ o.hmacValue))))

structure Group120Var12 where
  keyChangeSeqNum : UInt32
  userNum : UInt16
  challengeData : List UInt8

def Group120Var12.bytes (o : Group120Var12) : List UInt8 :=
  encodeU32 o.keyChangeSeqNum ++ encodeU16 o.userNum ++ encodeLE 2 o.challengeData.length ++
    o.challengeData

/-! ## Free format -/

/-- `HeaderWriter::WriteFreeFormat` of an object with these bytes. -/
def writeFreeFormat (w : HeaderWriter) (id : GroupVariationID) (object : List UInt8) :
    Option HeaderWriter :=
  if w.remaining < 3 + 1 + 2 + object.length then none
  else some (w.put ([id.group, id.variation, QualifierCode.UINT8_CNT_UINT16_FREE_FORMAT.toByte, 1] ++
    encodeLE 2 object.length ++ object))

/-- There is room for the object and the header before it. -/
def HasRoom (w : HeaderWriter) (object : List UInt8) : Prop := 6 + object.length ≤ w.remaining

variable {w : HeaderWriter} (id : GroupVariationID) {object : List UInt8}

theorem writeFreeFormat_eq_none_iff : writeFreeFormat w id object = none ↔ ¬ HasRoom w object := by
  rw [writeFreeFormat, HasRoom]
  split
  · exact iff_of_true rfl (by omega)
  · exact iff_of_false (by rintro ⟨⟩) (by omega)

theorem writeFreeFormat_of_hasRoom (hfits : w.position ≤ w.buffer.length)
    (h : HasRoom w object) :
    ∃ w', writeFreeFormat w id object = some w' ∧
      w'.position = w.position + (6 + object.length) ∧ w'.position ≤ w'.buffer.length := by
  rw [HasRoom] at h
  rw [writeFreeFormat, if_neg (by omega)]
  generalize hbytes : [id.group, id.variation,
    QualifierCode.UINT8_CNT_UINT16_FREE_FORMAT.toByte, 1] ++ encodeLE 2 object.length ++ object =
      bytes
  have hlength : bytes.length = 6 + object.length := by
    rw [← hbytes]
    simp only [List.length_append, List.length_cons, List.length_nil, length_encodeLE]
  have happends := Appends.put bytes hfits (hlength ▸ h)
  refine ⟨_, rfl, ?_, happends.fits⟩
  rw [happends.position, hlength]

end OpenDnp3.SecAuth
