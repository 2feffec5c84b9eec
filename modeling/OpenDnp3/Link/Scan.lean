import OpenDnp3.Link.LinkLayerParser

/-!
# The reference scan

What a receiver should find in a stream of bytes, said without a buffer or a state
machine.  `scan` looks at one position after the other:

- fewer than ten bytes left: stop;
- no valid header here: go on at the next byte;
- a valid header of a frame that is not complete: stop;
- a complete frame whose block CRCs are all correct: deliver it and go on behind it;
- a complete frame with a wrong block CRC: go on at the next byte.

The scan of a prefix is not simply a prefix of the scan: how it continues depends on what
follows.  The lemmas are therefore about `scan (s ++ t)` for every continuation `t`.
-/

namespace OpenDnp3.Link

open ShiftableBuffer (StartsFrame)

/-! ## Valid headers and declared frames -/

/-- Primary functions prescribe FCV, secondary ones forbid FCB. -/
def LinkFunction.legalBits (fcb fcv : Bool) : LinkFunction → Bool
  | PRI_CONFIRMED_USER_DATA | PRI_TEST_LINK_STATES => fcv
  | PRI_REQUEST_LINK_STATUS | PRI_RESET_LINK_STATES | PRI_UNCONFIRMED_USER_DATA => !fcv
  | SEC_ACK | SEC_NACK | SEC_LINK_STATUS | SEC_NOT_SUPPORTED => !fcb
  | INVALID => false

def LinkFunction.carriesUserData : LinkFunction → Bool
  | PRI_CONFIRMED_USER_DATA | PRI_UNCONFIRMED_USER_DATA => true
  | _ => false

/-- Are the first ten bytes of `s` a valid header? -/
def validHeader (s : List UInt8) : Bool :=
  let h := LinkHeader.read s
  decide (StartsFrame s) && CRC.isCorrectCRC s 8 && decide (5 ≤ h.length.toNat) &&
    h.getFuncEnum.legalBits h.isFcbSet h.isFcvDfcSet &&
    (h.getFuncEnum.carriesUserData == decide (5 < h.length.toNat))

/-- Number of user bytes the header of `s` declares. -/
def declaredLength (s : List UInt8) : Nat := (LinkHeader.read s).length.toNat - 5

/-- Number of blocks, the last one possibly short. -/
def blockCount (len : Nat) : Nat := (len + 15) / 16

/-- Size of the `k`-th block of a body. -/
def blockLength (len k : Nat) : Nat := min 16 (len - 16 * k)

/-- Size of the whole frame: header, user bytes and two CRC bytes for each block. -/
def declaredSize (s : List UInt8) : Nat :=
  10 + declaredLength s + 2 * blockCount (declaredLength s)

/-- Is each block of the frame at the front of `s` followed by its CRC? -/
def blocksCorrect (s : List UInt8) : Bool :=
  (List.range (blockCount (declaredLength s))).all fun k =>
    CRC.isCorrectCRC (s.drop (10 + 18 * k)) (blockLength (declaredLength s) k)

/-- The frame at the front of `s`. -/
def declaredFrame (s : List UInt8) : Frame where
  fields :=
    let h := LinkHeader.read s
    { func := h.getFuncEnum
      isFromMaster := h.isFromMaster
      fcb := h.isFcbSet
      fcvdfc := h.isFcvDfcSet
      addresses := { source := h.src, destination := h.dest } }
  userData :=
    (List.range (blockCount (declaredLength s))).flatMap fun k =>
      (s.drop (10 + 18 * k)).take (blockLength (declaredLength s) k)

theorem ten_le_declaredSize (s : List UInt8) : 10 ≤ declaredSize s := by
  simp only [declaredSize]
  omega

/-- The frames in a stream of bytes. -/
def scan (s : List UInt8) : List Frame :=
  if _hlen : s.length < 10 then []
  else if validHeader s then
    if s.length < declaredSize s then []
    else if blocksCorrect s then declaredFrame s :: scan (s.drop (declaredSize s))
    else scan (s.drop 1)
  else scan (s.drop 1)
termination_by s.length
decreasing_by
  · have := ten_le_declaredSize s
    rw [List.length_drop]
    omega
  · rw [List.length_drop]
    omega
  · rw [List.length_drop]
    omega

/-! ## The code's view of header and body -/

/-- The function check depends on the CONTROL byte only, so it is enough to look at all of them. -/
theorem validateFunctionCode_eq (h : LinkHeader) :
    LinkLayerParser.validateFunctionCode h = h.getFuncEnum.legalBits h.isFcbSet h.isFcvDfcSet := by
  have hall : ∀ ctrl : Fin 256,
      LinkLayerParser.validateFunctionCode ⟨0, 0, 0, UInt8.ofFin ctrl⟩ =
        (LinkHeader.getFuncEnum ⟨0, 0, 0, UInt8.ofFin ctrl⟩).legalBits
          (LinkHeader.isFcbSet ⟨0, 0, 0, UInt8.ofFin ctrl⟩)
          (LinkHeader.isFcvDfcSet ⟨0, 0, 0, UInt8.ofFin ctrl⟩) := by
    decide +kernel
  exact hall h.ctrl.toFin

theorem userLength_read (s : List UInt8) :
    LinkLayerParser.userLength (LinkHeader.read s) = declaredLength s := rfl

theorem calcFrameSize_declaredLength (s : List UInt8) :
    LinkFrame.calcFrameSize (declaredLength s) = declaredSize s := by
  rw [LinkFrame.calcFrameSize, LinkFrame.calcUserDataSize_eq, declaredSize, blockCount,
    LPDU_HEADER_SIZE]
  split <;> omega

private theorem blockCount_step {len : Nat} (h : 0 < len) :
    blockCount len = blockCount (len - min len 16) + 1 := by
  simp only [blockCount]
  omega

private theorem blockCount_rest_eq_zero {len : Nat} (h : len ≤ 16) :
    blockCount (len - min len 16) = 0 := by
  simp only [blockCount]
  omega

/-- The loop over the blocks visits block after block. -/
theorem validateBodyCRC_eq (len : Nat) (body : List UInt8) :
    LinkFrame.validateBodyCRC body len =
      (List.range (blockCount len)).all fun k =>
        CRC.isCorrectCRC (body.drop (18 * k)) (blockLength len k) := by
  induction len using Nat.strongRecOn generalizing body with
  | ind len ih =>
    rcases Nat.eq_zero_or_pos len with rfl | hpos
    · rw [LinkFrame.validateBodyCRC_zero]
      rfl
    · rw [LinkFrame.validateBodyCRC_step _ hpos, ih _ (by omega), blockCount_step hpos,
        List.range_succ_eq_map, List.all_cons, List.all_map]
      congr 1
      · rw [blockLength, Nat.mul_zero, List.drop_zero, Nat.sub_zero, Nat.min_comm]
      · by_cases hlast : len ≤ 16
        · rw [blockCount_rest_eq_zero hlast]
          rfl
        · rw [Nat.min_eq_right (by omega)]
          refine List.all_congr rfl fun k => ?_
          simp only [Function.comp_apply, List.drop_drop, blockLength]
          congr 2 <;> omega

theorem userDataOf_eq (len : Nat) (body : List UInt8) :
    LinkFrame.userDataOf body len =
      (List.range (blockCount len)).flatMap fun k =>
        (body.drop (18 * k)).take (blockLength len k) := by
  induction len using Nat.strongRecOn generalizing body with
  | ind len ih =>
    rcases Nat.eq_zero_or_pos len with rfl | hpos
    · rw [LinkFrame.userDataOf_zero]
      rfl
    · rw [LinkFrame.userDataOf_step _ hpos, ih _ (by omega), blockCount_step hpos,
        List.range_succ_eq_map, List.flatMap_cons, List.flatMap_map]
      congr 1
      · rw [blockLength, Nat.mul_zero, List.drop_zero, Nat.sub_zero, Nat.min_comm]
      · by_cases hlast : len ≤ 16
        · rw [blockCount_rest_eq_zero hlast]
          rfl
        · rw [Nat.min_eq_right (by omega)]
          refine congrArg₂ _ (funext fun k => ?_) rfl
          simp only [List.drop_drop, blockLength]
          congr 2 <;> omega

theorem blocksCorrect_eq (s : List UInt8) :
    blocksCorrect s = LinkFrame.validateBodyCRC (s.drop 10) (declaredLength s) := by
  rw [validateBodyCRC_eq, blocksCorrect]
  simp only [List.drop_drop]

theorem declaredFrame_userData (s : List UInt8) :
    (declaredFrame s).userData = LinkFrame.userDataOf (s.drop 10) (declaredLength s) := by
  rw [userDataOf_eq, declaredFrame]
  simp only [List.drop_drop]

/-! ## What follows the bytes looked at does not matter -/

section Continuation

variable {s : List UInt8} (t : List UInt8)

theorem startsFrame_append (h : 1 < s.length) : StartsFrame (s ++ t) ↔ StartsFrame s := by
  simp only [StartsFrame, List.getD_eq_getElem?_getD]
  rw [List.getElem?_append_left (by omega), List.getElem?_append_left (by omega)]

theorem validHeader_append (h : 10 ≤ s.length) : validHeader (s ++ t) = validHeader s := by
  have hread : LinkHeader.read (s ++ t) = LinkHeader.read s :=
    LinkHeader.read_append t (by simp only [LI_CRC]; omega)
  simp only [validHeader, hread, CRC.isCorrectCRC_append t (show 8 + 2 ≤ s.length by omega),
    startsFrame_append t (show 1 < s.length by omega)]

theorem declaredLength_append (h : 10 ≤ s.length) :
    declaredLength (s ++ t) = declaredLength s := by
  rw [declaredLength, LinkHeader.read_append t (by simp only [LI_CRC]; omega), declaredLength]

theorem declaredSize_append (h : 10 ≤ s.length) : declaredSize (s ++ t) = declaredSize s := by
  rw [declaredSize, declaredLength_append t h, declaredSize]

/-- A complete frame is the same whatever follows it. -/
theorem frame_append (h : declaredSize s ≤ s.length) :
    blocksCorrect (s ++ t) = blocksCorrect s ∧ declaredFrame (s ++ t) = declaredFrame s := by
  have hten : 10 ≤ s.length := Nat.le_trans (ten_le_declaredSize s) h
  have hbody : LinkFrame.calcUserDataSize (declaredLength s) ≤ (s.drop 10).length := by
    have hsize := calcFrameSize_declaredLength s
    simp only [LinkFrame.calcFrameSize, LPDU_HEADER_SIZE] at hsize
    rw [List.length_drop]
    omega
  obtain ⟨hval, huser⟩ := LinkFrame.validateBodyCRC_append _ _ t hbody
  have hdrop : (s ++ t).drop 10 = s.drop 10 ++ t := List.drop_append_of_le_length hten
  refine ⟨?_, ?_⟩
  · rw [blocksCorrect_eq, blocksCorrect_eq, declaredLength_append t hten, hdrop, hval]
  · have hfields : (declaredFrame (s ++ t)).fields = (declaredFrame s).fields := by
      simp only [declaredFrame, LinkHeader.read_append t (show LI_CRC ≤ s.length by
        simp only [LI_CRC]; omega)]
    have hdata : (declaredFrame (s ++ t)).userData = (declaredFrame s).userData := by
      rw [declaredFrame_userData, declaredFrame_userData, declaredLength_append t hten, hdrop,
        huser]
    exact congrArg₂ Frame.mk hfields hdata

/-! ## One position of the scan -/

theorem scan_short (h : s.length < 10) : scan s = [] := by
  rw [scan, dif_pos h]

theorem scan_invalid (h : 10 ≤ s.length) (hbad : validHeader s = false) :
    scan (s ++ t) = scan (s.drop 1 ++ t) := by
  have hlen : ¬ (s ++ t).length < 10 := by
    rw [List.length_append]
    omega
  rw [scan, dif_neg hlen, if_neg (by rw [validHeader_append t h, hbad]; exact Bool.false_ne_true),
    List.drop_append_of_le_length (by omega)]

/-- A byte that does not start a frame is passed over, however short the input is. -/
theorem scan_skip (h : 1 < s.length) (hstart : ¬ StartsFrame s) :
    scan (s ++ t) = scan (s.drop 1 ++ t) := by
  have hdrop : (s ++ t).drop 1 = s.drop 1 ++ t := List.drop_append_of_le_length (by omega)
  by_cases hlen : (s ++ t).length < 10
  · rw [scan_short hlen, ← hdrop, scan_short]
    rw [List.length_drop]
    omega
  · have hbad : validHeader (s ++ t) = false := by
      simp [validHeader, startsFrame_append t h, hstart]
    rw [scan, dif_neg hlen, if_neg (by rw [hbad]; exact Bool.false_ne_true), hdrop]

theorem scan_incomplete (h : 10 ≤ s.length) (hok : validHeader s = true)
    (hsize : s.length < declaredSize s) : scan s = [] := by
  rw [scan, dif_neg (by omega), if_pos hok, if_pos hsize]

/-- A complete frame is delivered when its blocks are correct, and passed over when not. -/
theorem scan_complete (h : 10 ≤ s.length) (hok : validHeader s = true)
    (hsize : declaredSize s ≤ s.length) :
    scan (s ++ t) =
      if blocksCorrect s then declaredFrame s :: scan (s.drop (declaredSize s) ++ t)
      else scan (s.drop 1 ++ t) := by
  obtain ⟨hblocks, hframe⟩ := frame_append t hsize
  have hlen : ¬ (s ++ t).length < 10 := by
    rw [List.length_append]
    omega
  have hfits : ¬ (s ++ t).length < declaredSize (s ++ t) := by
    rw [declaredSize_append t h, List.length_append]
    omega
  rw [scan, dif_neg hlen, if_pos (by rw [validHeader_append t h, hok]), if_neg hfits, hblocks,
    hframe, declaredSize_append t h, List.drop_append_of_le_length hsize,
    List.drop_append_of_le_length (by omega)]

/-- Bytes without the two start bytes of a frame are passed over. -/
theorem scan_noise {noise : List UInt8} (hnoise : ¬[0x05, 0x64] <:+: noise)
    (hs : s.head? ≠ some 0x64) : scan (noise ++ s) = scan s := by
  induction noise with
  | nil => rfl
  | cons b rest ih =>
    rw [← ih fun h => hnoise (h.trans (List.suffix_cons b rest).isInfix), List.cons_append]
    cases hdata : rest ++ s with
    | nil => rw [scan_short (s := [b]) (by simp), scan_short (by decide)]
    | cons c data =>
      have hstart : ¬StartsFrame (b :: c :: data) := by
        rintro ⟨rfl : b = _, rfl : c = _⟩
        cases rest with
        | nil => exact hs (congrArg List.head? hdata)
        | cons c' rest =>
          obtain ⟨rfl, -⟩ := List.cons.inj hdata
          exact hnoise ⟨[], rest, rfl⟩
      simpa using scan_skip [] (by simp) hstart

end Continuation

end OpenDnp3.Link
