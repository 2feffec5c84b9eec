import OpenDnp3.Lib.Memory
import OpenDnp3.Link.Header

/-!
# FT3 frames

Formatting and taking apart the frames of the link layer.  User data is cut into blocks
of sixteen bytes, each followed by its CRC; the last block may be shorter.

`readUserData` works inside one memory, as its only caller does: it moves the blocks of a
body to the front of the buffer the body itself lies in.
-/

namespace OpenDnp3.Link.LinkFrame

open Lib

/-! ## Sizes -/

/-- Bytes that `dataLength` bytes of user data take on the wire. -/
def calcUserDataSize (dataLength : Nat) : Nat :=
  if 0 < dataLength then
    let mod16 := dataLength % LPDU_DATA_BLOCK_SIZE
    let size := (dataLength / LPDU_DATA_BLOCK_SIZE) * LPDU_DATA_PLUS_CRC_SIZE
    if 0 < mod16 then size + mod16 + LPDU_CRC_SIZE else size
  else 0

/-- Size of a frame that carries `dataLength` bytes of user data. -/
def calcFrameSize (dataLength : Nat) : Nat :=
  LPDU_HEADER_SIZE + calcUserDataSize dataLength

theorem calcUserDataSize_eq (len : Nat) :
    calcUserDataSize len = len / 16 * 18 + if 0 < len % 16 then len % 16 + 2 else 0 := by
  rcases Nat.eq_zero_or_pos len with rfl | hpos
  · rfl
  · rw [calcUserDataSize, if_pos hpos]
    dsimp only
    split <;> simp only [LPDU_DATA_BLOCK_SIZE, LPDU_DATA_PLUS_CRC_SIZE, LPDU_CRC_SIZE] at * <;>
      split <;> omega

/-- A non-empty body is one block and the body of what is left. -/
theorem calcUserDataSize_step {len : Nat} (h : 0 < len) :
    calcUserDataSize len = min len 16 + 2 + calcUserDataSize (len - min len 16) := by
  rw [calcUserDataSize_eq, calcUserDataSize_eq]
  by_cases hle : len ≤ 16
  · rw [Nat.min_eq_left hle]
    split <;> split <;> omega
  · rw [Nat.min_eq_right (by omega)]
    split <;> split <;> omega

theorem le_calcUserDataSize (len : Nat) : len ≤ calcUserDataSize len := by
  rw [calcUserDataSize_eq]
  split <;> omega

/-! ## Taking a body apart -/

/-- Size of the next block when `length` user bytes are left: `num` in the source's loops. -/
def blockSize (length : Nat) : Nat :=
  if length ≤ LPDU_DATA_BLOCK_SIZE then length else LPDU_DATA_BLOCK_SIZE

variable (length : Nat) (body mem src : List UInt8) (pRead pWrite : Nat)

theorem blockSize_eq : blockSize length = min length 16 := by
  unfold blockSize
  split <;> simp only [LPDU_DATA_BLOCK_SIZE] at * <;> omega

theorem sub_blockSize_lt {length : Nat} (h : 0 < length) : length - blockSize length < length := by
  rw [blockSize_eq]
  omega

/-- Move the `length` user bytes of the body at `pRead` to `pWrite`, leaving out the CRCs. -/
def readUserData (mem : List UInt8) (pRead pWrite length : Nat) : List UInt8 :=
  if _h : 0 < length then
    let num := blockSize length
    let num_with_crc := num + 2
    readUserData (memmove mem pWrite pRead num) (pRead + num_with_crc) (pWrite + num)
      (length - num)
  else mem
termination_by length
decreasing_by
  exact sub_blockSize_lt _h

/-- Is every block of the body followed by its CRC? -/
def validateBodyCRC (pBody : List UInt8) (length : Nat) : Bool :=
  if _h : 0 < length then
    let num := blockSize length
    if CRC.isCorrectCRC pBody num then validateBodyCRC (pBody.drop (num + 2)) (length - num)
    else false
  else true
termination_by length
decreasing_by
  exact sub_blockSize_lt _h

/-! ## Formatting -/

/-- The header bytes of a frame with `dataLength` bytes of user data. -/
def formatHeader (dataLength : Nat) (isMaster fcb fcvDfc : Bool) (func : LinkFunction)
    (dest src : UInt16) : List UInt8 :=
  LinkHeader.write
    { length := UInt8.ofNat (dataLength + LPDU_MIN_LENGTH)
      src := src
      dest := dest
      ctrl := LinkHeader.controlByte isMaster fcb fcvDfc func }

/-- The blocks of a body, each followed by its CRC. -/
def writeUserData (src : List UInt8) (length : Nat) : List UInt8 :=
  if _h : 0 < length then
    let num := blockSize length
    CRC.addCrc (src.take num) ++ writeUserData (src.drop num) (length - num)
  else []
termination_by length
decreasing_by
  exact sub_blockSize_lt _h

/-- Formatting a secondary-to-primary frame. -/
def formatSec (func : LinkFunction) (isMaster isRcvBuffFull : Bool) (dest src : UInt16) :
    List UInt8 :=
  formatHeader 0 isMaster false isRcvBuffFull func dest src

def formatAck : Bool → Bool → UInt16 → UInt16 → List UInt8 :=
  formatSec .SEC_ACK

def formatNack : Bool → Bool → UInt16 → UInt16 → List UInt8 :=
  formatSec .SEC_NACK

def formatLinkStatus : Bool → Bool → UInt16 → UInt16 → List UInt8 :=
  formatSec .SEC_LINK_STATUS

def formatNotSupported : Bool → Bool → UInt16 → UInt16 → List UInt8 :=
  formatSec .SEC_NOT_SUPPORTED

def formatResetLinkStates (isMaster : Bool) (dest src : UInt16) : List UInt8 :=
  formatHeader 0 isMaster false false .PRI_RESET_LINK_STATES dest src

def formatRequestLinkStatus (isMaster : Bool) (dest src : UInt16) : List UInt8 :=
  formatHeader 0 isMaster false false .PRI_REQUEST_LINK_STATUS dest src

def formatTestLinkStatus (isMaster fcb : Bool) (dest src : UInt16) : List UInt8 :=
  formatHeader 0 isMaster fcb true .PRI_TEST_LINK_STATES dest src

/-- A frame with user data; more than 250 bytes are refused and nothing is written. -/
def formatUserData (func : LinkFunction) (isMaster fcb fcv : Bool) (dest src : UInt16)
    (userData : List UInt8) : List UInt8 :=
  if LPDU_MAX_USER_DATA_SIZE < userData.length then []
  else
    formatHeader userData.length isMaster fcb fcv func dest src ++
      writeUserData userData userData.length

def formatConfirmedUserData (isMaster fcb : Bool) : UInt16 → UInt16 → List UInt8 → List UInt8 :=
  formatUserData .PRI_CONFIRMED_USER_DATA isMaster fcb true

def formatUnconfirmedUserData (isMaster : Bool) : UInt16 → UInt16 → List UInt8 → List UInt8 :=
  formatUserData .PRI_UNCONFIRMED_USER_DATA isMaster false false

/-! ## The body of a frame

`userDataOf` is what a body says: its blocks without the CRCs.  `readUserData` leaves exactly
that at the place it writes to, and touches nothing above it. -/

/-- The first `length` user bytes of a body. -/
def userDataOf (body : List UInt8) (length : Nat) : List UInt8 :=
  if _h : 0 < length then
    body.take (min length 16) ++ userDataOf (body.drop (min length 16 + 2)) (length - min length 16)
  else []
termination_by length

theorem readUserData_zero : readUserData mem pRead pWrite 0 = mem := by
  rw [readUserData]
  simp

theorem readUserData_step {length : Nat} (h : 0 < length) :
    readUserData mem pRead pWrite length =
      readUserData (memmove mem pWrite pRead (min length 16)) (pRead + (min length 16 + 2))
        (pWrite + min length 16) (length - min length 16) := by
  conv_lhs => rw [readUserData]
  simp only [h, ↓reduceDIte, blockSize_eq]

theorem validateBodyCRC_zero : validateBodyCRC body 0 = true := by
  rw [validateBodyCRC]
  simp

theorem validateBodyCRC_step {length : Nat} (h : 0 < length) :
    validateBodyCRC body length =
      (CRC.isCorrectCRC body (min length 16) &&
        validateBodyCRC (body.drop (min length 16 + 2)) (length - min length 16)) := by
  conv_lhs => rw [validateBodyCRC]
  simp only [h, ↓reduceDIte, blockSize_eq]
  cases CRC.isCorrectCRC body (min length 16) <;> simp

theorem writeUserData_zero : writeUserData src 0 = [] := by
  rw [writeUserData]
  simp

theorem writeUserData_step {length : Nat} (h : 0 < length) :
    writeUserData src length =
      CRC.addCrc (src.take (min length 16)) ++
        writeUserData (src.drop (min length 16)) (length - min length 16) := by
  conv_lhs => rw [writeUserData]
  simp only [h, ↓reduceDIte, blockSize_eq]

theorem userDataOf_zero : userDataOf body 0 = [] := by
  rw [userDataOf]
  simp

theorem userDataOf_step {length : Nat} (h : 0 < length) :
    userDataOf body length =
      body.take (min length 16) ++
        userDataOf (body.drop (min length 16 + 2)) (length - min length 16) := by
  conv_lhs => rw [userDataOf]
  simp only [h, ↓reduceDIte]

/-- What `readUserData` does to the memory.  The write position stays behind the read
    position, so a block is never overwritten before it has been moved. -/
theorem readUserData_spec (hlt : pWrite ≤ pRead)
    (hfit : pRead + calcUserDataSize length ≤ mem.length) :
    (readUserData mem pRead pWrite length).length = mem.length ∧
    (readUserData mem pRead pWrite length).take (pWrite + length) =
      mem.take pWrite ++ userDataOf (mem.drop pRead) length ∧
    (readUserData mem pRead pWrite length).drop (pRead + calcUserDataSize length) =
      mem.drop (pRead + calcUserDataSize length) := by
  induction length using Nat.strongRecOn generalizing mem pRead pWrite with
  | ind length ih =>
    rcases Nat.eq_zero_or_pos length with rfl | hpos
    · simp [readUserData_zero, userDataOf_zero]
    · have hsize := calcUserDataSize_step hpos
      have hle := le_calcUserDataSize (length - min length 16)
      have hblk : (slice mem pRead (min length 16)).length = min length 16 :=
        length_slice (by omega)
      -- the memory after the first block has been moved
      have hmem : (memmove mem pWrite pRead (min length 16)).length = mem.length :=
        length_writeAt (by rw [hblk]; omega)
      obtain ⟨hlen, htake, hdrop⟩ := ih (length - min length 16) (by omega)
        (memmove mem pWrite pRead (min length 16)) (pRead + (min length 16 + 2))
        (pWrite + min length 16) (by omega) (by rw [hmem]; omega)
      have hrest : (memmove mem pWrite pRead (min length 16)).drop (pRead + (min length 16 + 2)) =
          mem.drop (pRead + (min length 16 + 2)) :=
        drop_writeAt (by omega) (by rw [hblk]; omega)
      have hfront : (memmove mem pWrite pRead (min length 16)).take (pWrite + min length 16) =
          mem.take pWrite ++ slice mem pRead (min length 16) := by
        have h := take_add_writeAt (slice mem pRead (min length 16))
          (show pWrite ≤ mem.length by omega)
        rwa [hblk] at h
      have hfinal : (memmove mem pWrite pRead (min length 16)).drop
          (pRead + calcUserDataSize length) = mem.drop (pRead + calcUserDataSize length) :=
        drop_writeAt (by omega) (by rw [hblk]; omega)
      rw [readUserData_step _ _ _ hpos]
      refine ⟨hlen.trans hmem, ?_, ?_⟩
      · rw [show pWrite + length = pWrite + min length 16 + (length - min length 16) by omega,
          htake, hrest, hfront, userDataOf_step _ hpos, List.append_assoc, List.drop_drop]
        rfl
      · rw [← hfinal, hsize, ← Nat.add_assoc, hdrop]

/-- The body check and the user bytes depend on the body itself only. -/
theorem validateBodyCRC_append (rest : List UInt8) (h : calcUserDataSize length ≤ body.length) :
    validateBodyCRC (body ++ rest) length = validateBodyCRC body length ∧
    userDataOf (body ++ rest) length = userDataOf body length := by
  induction length using Nat.strongRecOn generalizing body with
  | ind length ih =>
    rcases Nat.eq_zero_or_pos length with rfl | hpos
    · simp [validateBodyCRC_zero, userDataOf_zero]
    · have hsize := calcUserDataSize_step hpos
      obtain ⟨hval, huser⟩ := ih (length - min length 16) (by omega)
        (body.drop (min length 16 + 2)) (by rw [List.length_drop]; omega)
      rw [validateBodyCRC_step _ hpos, validateBodyCRC_step _ hpos, userDataOf_step _ hpos,
        userDataOf_step _ hpos, CRC.isCorrectCRC_append _ (by omega),
        List.drop_append_of_le_length (by omega), List.take_append_of_le_length (by omega),
        hval, huser]
      exact ⟨rfl, rfl⟩

/-! ## Round trip -/

@[simp] theorem length_writeUserData (h : src.length = length) :
    (writeUserData src length).length = calcUserDataSize length := by
  induction length using Nat.strongRecOn generalizing src with
  | ind length ih =>
    rcases Nat.eq_zero_or_pos length with rfl | hpos
    · simp [writeUserData_zero, calcUserDataSize]
    · rw [writeUserData_step _ hpos, calcUserDataSize_step hpos, List.length_append,
        CRC.length_addCrc, ih (length - min length 16) (by omega) _ (by simp [h])]
      simp [h]

/-- A written body passes the CRC check and gives the user data back. -/
theorem read_writeUserData (rest : List UInt8) (h : src.length = length) :
    validateBodyCRC (writeUserData src length ++ rest) length = true ∧
    userDataOf (writeUserData src length ++ rest) length = src := by
  induction length using Nat.strongRecOn generalizing src with
  | ind length ih =>
    rcases Nat.eq_zero_or_pos length with rfl | hpos
    · rw [List.length_eq_zero_iff] at h
      simp [validateBodyCRC_zero, userDataOf_zero, h]
    · have htake : (src.take (min length 16)).length = min length 16 := by
        simp only [List.length_take]
        omega
      obtain ⟨hval, huser⟩ := ih (length - min length 16) (by omega)
        (src.drop (min length 16)) (by simp [h])
      -- the first block, its CRC, and the rest of the body
      have hdrop : (writeUserData src length ++ rest).drop (min length 16 + 2) =
          writeUserData (src.drop (min length 16)) (length - min length 16) ++ rest := by
        rw [writeUserData_step _ hpos, List.append_assoc]
        exact List.drop_left' (by rw [CRC.length_addCrc, htake])
      have hblock : (writeUserData src length ++ rest).take (min length 16) =
          src.take (min length 16) := by
        rw [writeUserData_step _ hpos, CRC.addCrc]
        simp only [List.append_assoc]
        exact List.take_left' htake
      have hcrc : CRC.isCorrectCRC (writeUserData src length ++ rest) (min length 16) = true := by
        have hok := CRC.isCorrectCRC_addCrc (src.take (min length 16))
          (writeUserData (src.drop (min length 16)) (length - min length 16) ++ rest)
        rwa [htake, ← List.append_assoc, ← writeUserData_step _ hpos] at hok
      rw [validateBodyCRC_step _ hpos, userDataOf_step _ hpos, hcrc, hdrop, hblock, hval, huser]
      exact ⟨rfl, List.take_append_drop _ _⟩

end OpenDnp3.Link.LinkFrame
