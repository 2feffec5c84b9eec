import OpenDnp3.Lib.ShiftRegister
import OpenDnp3.Link.Crc

/-!
# Burst errors

The checksum of a block is what a feedback shift register of 16 bits holds after the bits of the
block, the lowest bit of each byte first.  The table of the source replaces eight shifts at a time.
A block with its checksum behind it always leaves the same bits in the register, whatever the
block, so an error is noticed if and only if it leaves something there by itself.
-/

namespace OpenDnp3.Link.CRC

open Lib Lib.ShiftRegister

/-! ## The table -/

/-- The feedback of the register: the generator polynomial of the checksum, its highest power left
    out, with the coefficients in reverse order. -/
def polynomial : BitVec 16 := 0xA6BC#16

/-- The bits of a byte in the order of their transmission. -/
def byteBits (b : UInt8) : List Bool := (List.range 8).map b.toBitVec.getLsbD

/-- The bits of some bytes in the order of their transmission. -/
def bitsOf (bytes : List UInt8) : List Bool := bytes.flatMap byteBits

theorem length_byteBits (b : UInt8) : (byteBits b).length = 8 := rfl

theorem length_bitsOf (bytes : List UInt8) : (bitsOf bytes).length = bytes.length * 8 := by
  simp [bitsOf, length_byteBits]

theorem value_byteBits (b : UInt8) : value 16 (byteBits b) = b.toUInt16.toBitVec := by
  apply BitVec.eq_of_getLsbD_eq
  intro i hi
  rw [getLsbD_value, byteBits, List.getD_eq_getElem?_getD, List.getElem?_map]
  by_cases hlow : i < 8
  · simp [hi, hlow]
  · simp [hlow, BitVec.getLsbD_of_ge b.toBitVec i (Nat.le_of_not_lt hlow)]

/-- Every entry of the table is the feedback of eight shifts. -/
theorem crcTable_eq : ∀ n < 256, (crcTable.getD n 0).toBitVec =
    (shift polynomial)^[8] (BitVec.ofNat 16 n) := by
  decide +kernel

/-- **One step of the loop** takes in the eight bits of a byte. -/
theorem toBitVec_update (crc : UInt16) (b : UInt8) :
    (update crc b).toBitVec = feedAll polynomial crc.toBitVec (byteBits b) := by
  generalize hindex : ((crc ^^^ b.toUInt16) &&& 0xFF).toNat = index
  have hlt : index < 256 := by
    rw [← hindex, UInt16.toNat_and]
    exact Nat.lt_of_le_of_lt Nat.and_le_right (by decide)
  -- the low byte selects the table entry, the high byte is only shifted
  have hlow : (crc ^^^ b.toUInt16).toBitVec &&& BitVec.ofNat 16 (2 ^ 8 - 1) =
      BitVec.ofNat 16 index := by
    rw [← hindex]
    exact ((BitVec.ofNat_toNat ..).trans (BitVec.setWidth_eq _)).symm
  have hhigh : (crc ^^^ b.toUInt16).toBitVec >>> 8 = crc.toBitVec >>> 8 := by
    have hzero : b.toUInt16.toBitVec >>> 8 = 0#16 := by
      apply BitVec.eq_of_getLsbD_eq
      intro i _
      rw [BitVec.getLsbD_ushiftRight, ← value_byteBits, getLsbD_value]
      simp [byteBits]
    rw [UInt16.toBitVec_xor, BitVec.ushiftRight_xor_distrib, hzero, BitVec.xor_zero]
  calc (update crc b).toBitVec
      = (crcTable.getD index 0).toBitVec ^^^ crc.toBitVec >>> 8 := by
        rw [update, hindex]
        rfl
    _ = (shift polynomial)^[8] (crc ^^^ b.toUInt16).toBitVec := by
        rw [iterate_shift_split, crcTable_eq index hlt, hlow, hhigh]
    _ = feedAll polynomial crc.toBitVec (byteBits b) := by
        rw [feedAll_eq (by rw [length_byteBits]; decide), value_byteBits]
        rfl

theorem toBitVec_foldl_update (input : List UInt8) (crc : UInt16) :
    (input.foldl update crc).toBitVec = feedAll polynomial crc.toBitVec (bitsOf input) := by
  induction input generalizing crc with
  | nil => rfl
  | cons b rest ih =>
    rw [List.foldl_cons, ih, toBitVec_update, ← feedAll_append]
    rfl

/-! ## The check -/

/-- What is left in the register by a block with its checksum. -/
def residue : BitVec 16 := (shift polynomial)^[16] (BitVec.allOnes 16)

theorem value_bitsOf_pair (low high : UInt8) :
    value 16 (bitsOf [low, high]) = (decodeU16 [low, high]).toBitVec := by
  apply BitVec.eq_of_getLsbD_eq
  intro i hi
  have hlow : low.toNat < 2 ^ 8 := low.toNat_lt
  have hnumber : decodeLE [low, high] = 2 ^ 8 * high.toNat + low.toNat := by
    simp only [decodeLE]
    omega
  have hvalue : (decodeU16 [low, high]).toBitVec = BitVec.ofNat 16 (decodeLE [low, high]) := rfl
  rw [getLsbD_value, hvalue, BitVec.getLsbD_ofNat, hnumber, Nat.testBit_two_pow_mul_add _ hlow]
  simp only [bitsOf, List.flatMap_cons, List.flatMap_nil, List.append_nil,
    List.getD_eq_getElem?_getD]
  by_cases hfirst : i < 8
  · rw [List.getElem?_append_left hfirst]
    simp [byteBits, hfirst]
    rfl
  · rw [List.getElem?_append_right (Nat.le_of_not_lt hfirst)]
    have hsecond : i - 8 < 8 := by omega
    simp [byteBits, hfirst, hsecond]
    rfl

/-- **The check**: block and checksum together leave the residue in the register. -/
theorem isCorrectCRC_iff {bytes : List UInt8} {length : Nat} (h : bytes.length = length + 2) :
    isCorrectCRC bytes length = true ↔ feedAll polynomial 0#16 (bitsOf bytes) = residue := by
  have hdrop : (bytes.drop length).length = 2 := by
    rw [List.length_drop, h, Nat.add_sub_cancel_left]
  obtain ⟨low, high, hpair⟩ := List.length_eq_two.mp hdrop
  generalize hcrc : ((bytes.take length).foldl update 0).toBitVec = crc
  have hfits : (bitsOf [low, high]).length ≤ 16 := Nat.le_refl 16
  have hsplit : feedAll polynomial 0#16 (bitsOf bytes) =
      (shift polynomial)^[16] (crc ^^^ (decodeU16 [low, high]).toBitVec) := by
    rw [← List.take_append_drop length bytes, bitsOf, List.flatMap_append, feedAll_append, ← bitsOf,
      ← bitsOf, hpair, feedAll_eq hfits, value_bitsOf_pair, ← hcrc, toBitVec_foldl_update]
    rfl
  rw [hsplit, residue, iterate_shift_inj (by decide), isCorrectCRC, beq_iff_eq, hpair, calcCrc,
    ← UInt16.toBitVec_inj, UInt16.toBitVec_not, hcrc, ← BitVec.xor_allOnes]
  -- the complement of the register is the checksum: together they are all ones
  rw [← BitVec.xor_right_inj crc, ← BitVec.xor_assoc, BitVec.xor_self, BitVec.zero_xor, eq_comm]

/-! ## Errors -/

/-- An error: the bits that are flipped. -/
def corrupt (bytes error : List UInt8) : List UInt8 := List.zipWith (· ^^^ ·) bytes error

/-- At least one bit is flipped, and all of them lie within 16 consecutive ones. -/
def Burst (error : List UInt8) : Prop :=
  ∃ before window after,
    bitsOf error = List.replicate before false ++ window ++ List.replicate after false ∧
      window.length ≤ 16 ∧ true ∈ window

theorem bitsOf_corrupt (bytes error : List UInt8) :
    bitsOf (corrupt bytes error) = List.zipWith xor (bitsOf bytes) (bitsOf error) := by
  induction bytes generalizing error with
  | nil => rfl
  | cons b bytes ih =>
    cases error with
    | nil => simp [corrupt, bitsOf]
    | cons e error =>
      have hbyte : byteBits (b ^^^ e) = List.zipWith xor (byteBits b) (byteBits e) := by
        simp [byteBits, List.range_succ]
      have hrest := ih error
      simp only [bitsOf, corrupt, List.zipWith_cons_cons, List.flatMap_cons] at hrest ⊢
      have hlength : (byteBits b).length = (byteBits e).length := rfl
      rw [hbyte, hrest, List.zipWith_append hlength]

/-- **Bursts are noticed**: whatever the block, if its checksum is added and an error flips one bit
    at least and only bits within 16 consecutive ones, the check fails. -/
theorem isCorrectCRC_burst (m error : List UInt8) (hlength : error.length = (addCrc m).length)
    (hburst : Burst error) : isCorrectCRC (corrupt (addCrc m) error) m.length = false := by
  obtain ⟨before, window, after, herror, hwindow, hone⟩ := hburst
  have hreceived : (corrupt (addCrc m) error).length = m.length + 2 := by
    rw [corrupt, List.length_zipWith, hlength, Nat.min_self, length_addCrc]
  have hbits : (bitsOf (addCrc m)).length = (bitsOf error).length := by
    rw [length_bitsOf, length_bitsOf, hlength]
  have hsent : feedAll polynomial 0#16 (bitsOf (addCrc m)) = residue := by
    have hcorrect := isCorrectCRC_addCrc m []
    rw [List.append_nil] at hcorrect
    exact (isCorrectCRC_iff (length_addCrc m)).mp hcorrect
  have hsum : feedAll polynomial (0#16 ^^^ 0#16) (List.zipWith xor _ _) = _ :=
    feedAll_zipWith_xor hbits 0#16 0#16
  rw [hsent, BitVec.xor_self, ← bitsOf_corrupt] at hsum
  -- if the check did not fail, the error alone would leave nothing in the register
  rw [Bool.eq_false_iff, Ne, isCorrectCRC_iff hreceived, hsum]
  intro hsame
  apply feedAll_burst_ne_zero (show polynomial.msb = true by decide) hwindow hone before after
  rw [← herror, ← BitVec.xor_right_inj residue, hsame, BitVec.xor_zero]

/-- Three bits in a row are flipped: the last one of the block and the first two of its checksum. -/
theorem isCorrectCRC_burst_three :
    isCorrectCRC (corrupt (addCrc [5]) [0x80, 0x03, 0x00]) 1 = false :=
  isCorrectCRC_burst [5] [0x80, 0x03, 0x00] rfl
    ⟨7, [true, true, true], 14, by decide, by decide, by decide⟩

end OpenDnp3.Link.CRC
