import Mathlib.Data.BitVec

/-!
# Feedback shift registers

A register of `w` bits takes in a stream of bits.  Each step adds a bit to the lowest position,
shifts down, and adds the feedback `poly` if a one has been shifted out.  Everything is linear with
respect to exclusive or.  If the feedback has a one in the highest position, nothing is lost by a
shift: only the register with no ones in it gives the register with no ones.
-/

namespace OpenDnp3.Lib.ShiftRegister

variable {w : Nat} (poly : BitVec w)

/-- Shift down, with feedback for the bit that is shifted out. -/
def shift (r : BitVec w) : BitVec w := (r >>> 1) ^^^ (if r.getLsbD 0 then poly else 0#w)

/-- A bit in the lowest position. -/
def lowest (w : Nat) (bit : Bool) : BitVec w := if bit then 1#w else 0#w

/-- Take in one bit. -/
def feed (r : BitVec w) (bit : Bool) : BitVec w := shift poly (r ^^^ lowest w bit)

/-- Take in a stream. -/
def feedAll (r : BitVec w) (bits : List Bool) : BitVec w := bits.foldl (feed poly) r

/-- The bits of a stream in a register, the first one lowest. -/
def value (w : Nat) : List Bool → BitVec w
  | [] => 0#w
  | bit :: rest => lowest w bit ^^^ value w rest <<< 1

variable {poly}

/-! ## One shift -/

variable (n : Nat) (r s : BitVec w) {bits : List Bool}

theorem shift_xor : shift poly (r ^^^ s) = shift poly r ^^^ shift poly s := by
  unfold shift
  rw [BitVec.ushiftRight_xor_distrib, BitVec.getLsbD_xor]
  cases r.getLsbD 0 <;> cases s.getLsbD 0
  · simp
  · simp [BitVec.xor_assoc]
  · simp [BitVec.xor_assoc, BitVec.xor_comm (s >>> 1)]
  · -- the feedback is added twice
    have hcancel : (r >>> 1 ^^^ poly) ^^^ (s >>> 1 ^^^ poly) = r >>> 1 ^^^ s >>> 1 := by
      rw [BitVec.xor_comm (s >>> 1), BitVec.xor_assoc, ← BitVec.xor_assoc poly, BitVec.xor_self,
        BitVec.zero_xor]
    simpa using hcancel.symm

/-- **Nothing is lost by a shift**: a one that is shifted out comes back in the highest position. -/
theorem shift_eq_zero_iff (hpoly : poly.msb = true) (r : BitVec w) :
    shift poly r = 0#w ↔ r = 0#w := by
  constructor
  · intro hzero
    have hlow : r.getLsbD 0 = false := by
      by_contra hone
      have hmsb := congrArg BitVec.msb hzero
      rw [shift, if_pos (Bool.eq_true_of_not_eq_false hone), BitVec.msb_xor, hpoly] at hmsb
      simp [BitVec.msb_ushiftRight] at hmsb
    rw [shift, hlow, if_neg Bool.false_ne_true, BitVec.xor_zero] at hzero
    apply BitVec.eq_of_getLsbD_eq
    intro i _
    cases i with
    | zero => rw [hlow, BitVec.getLsbD_zero]
    | succ i =>
      have hbit := congrArg (·.getLsbD i) hzero
      simpa [BitVec.getLsbD_ushiftRight, Nat.add_comm 1 i] using hbit
  · rintro rfl
    simp [shift]

theorem iterate_shift_eq_zero_iff (hpoly : poly.msb = true) (n : Nat) (r : BitVec w) :
    (shift poly)^[n] r = 0#w ↔ r = 0#w := by
  induction n generalizing r with
  | zero => exact Iff.rfl
  | succ n ih => rw [Function.iterate_succ_apply, ih, shift_eq_zero_iff hpoly]

theorem iterate_shift_xor :
    (shift poly)^[n] (r ^^^ s) = (shift poly)^[n] r ^^^ (shift poly)^[n] s := by
  induction n generalizing r s with
  | zero => rfl
  | succ n ih => simp [shift_xor, ih]

theorem iterate_shift_inj (hpoly : poly.msb = true) (n : Nat) {r s : BitVec w} :
    (shift poly)^[n] r = (shift poly)^[n] s ↔ r = s := by
  rw [← BitVec.xor_eq_zero_iff, ← iterate_shift_xor, iterate_shift_eq_zero_iff hpoly,
    BitVec.xor_eq_zero_iff]

/-- Bits that do not reach the lowest position only move down. -/
theorem shift_shiftLeft {r : BitVec w} (htop : ∀ i, w ≤ i + 1 → r.getLsbD i = false) :
    shift poly (r <<< 1) = r := by
  have hlow : (r <<< 1).getLsbD 0 = false := by simp
  rw [shift, hlow, if_neg Bool.false_ne_true, BitVec.xor_zero]
  apply BitVec.eq_of_getLsbD_eq
  intro i _
  rw [BitVec.getLsbD_ushiftRight, BitVec.getLsbD_shiftLeft, Nat.add_sub_cancel_left]
  by_cases hin : 1 + i < w
  · simp [hin]
  · rw [htop i (by omega), Bool.and_false]

theorem iterate_shift_shiftLeft {r : BitVec w} (htop : ∀ i, w ≤ i + n → r.getLsbD i = false) :
    (shift poly)^[n] (r <<< n) = r := by
  induction n with
  | zero => simp
  | succ n ih =>
    have hfree : ∀ i, w ≤ i + 1 → (r <<< n).getLsbD i = false := by
      intro i hi
      rw [BitVec.getLsbD_shiftLeft, htop (i - n) (by omega), Bool.and_false]
    rw [Function.iterate_succ_apply, BitVec.shiftLeft_add, shift_shiftLeft hfree,
      ih fun i hi => htop i (by omega)]

/-- **Several shifts at once**: the feedback depends on the bits that are shifted out, so that it
    can be looked up, and the others only move down. -/
theorem iterate_shift_split :
    (shift poly)^[n] r = (shift poly)^[n] (r &&& BitVec.ofNat w (2 ^ n - 1)) ^^^ r >>> n := by
  have hsplit : r = (r &&& BitVec.ofNat w (2 ^ n - 1)) ^^^ (r >>> n) <<< n := by
    apply BitVec.eq_of_getLsbD_eq
    intro i hi
    rw [BitVec.getLsbD_xor, BitVec.getLsbD_and, BitVec.getLsbD_ofNat, Nat.testBit_two_pow_sub_one,
      BitVec.getLsbD_shiftLeft, BitVec.getLsbD_ushiftRight]
    by_cases hlow : i < n
    · simp [hi, hlow]
    · simp [hi, hlow, Nat.add_sub_cancel' (Nat.le_of_not_lt hlow)]
  have hhigh : (shift poly)^[n] ((r >>> n) <<< n) = r >>> n :=
    iterate_shift_shiftLeft n fun i hi => by simp [BitVec.getLsbD_of_ge r (n + i) (by omega)]
  conv_lhs => rw [hsplit]
  rw [iterate_shift_xor, hhigh]

/-! ## Streams -/

theorem getLsbD_value (bits : List Bool) (i : Nat) :
    (value w bits).getLsbD i = (decide (i < w) && bits.getD i false) := by
  induction bits generalizing i with
  | nil => simp [value]
  | cons bit rest ih =>
    rw [value, BitVec.getLsbD_xor, BitVec.getLsbD_shiftLeft]
    cases i with
    | zero => cases bit <;> simp [lowest, BitVec.getLsbD_one]
    | succ i =>
      have hlowest : (lowest w bit).getLsbD (i + 1) = false := by
        cases bit <;> simp [lowest, BitVec.getLsbD_one]
      rw [hlowest, Nat.add_sub_cancel, ih, List.getD_cons_succ]
      by_cases hi : i + 1 < w
      · simp [hi, Nat.lt_of_succ_lt hi]
      · simp [hi]

theorem shift_value (h : bits.length < w) : shift poly (value w bits <<< 1) = value w bits := by
  apply shift_shiftLeft
  intro i hi
  rw [getLsbD_value, List.getD_eq_getElem?_getD, List.getElem?_eq_none (by omega)]
  simp

/-- **Up to `w` bits** can be added first and shifted afterwards. -/
theorem feedAll_eq (h : bits.length ≤ w) (r : BitVec w) :
    feedAll poly r bits = (shift poly)^[bits.length] (r ^^^ value w bits) := by
  induction bits generalizing r with
  | nil => simp [feedAll, value]
  | cons bit rest ih =>
    have hrest : rest.length < w := h
    calc feedAll poly r (bit :: rest)
        = (shift poly)^[rest.length] (feed poly r bit ^^^ value w rest) :=
          ih (Nat.le_of_lt hrest) _
      _ = (shift poly)^[rest.length] (shift poly
            (r ^^^ lowest w bit ^^^ value w rest <<< 1)) := by
          rw [shift_xor, shift_value hrest, feed]
      _ = (shift poly)^[(bit :: rest).length] (r ^^^ value w (bit :: rest)) := by
          rw [value, BitVec.xor_assoc, List.length_cons, Function.iterate_succ_apply]

theorem feedAll_append (first second : List Bool) :
    feedAll poly r (first ++ second) = feedAll poly (feedAll poly r first) second :=
  List.foldl_append

theorem feed_xor (a b : Bool) :
    feed poly (r ^^^ s) (xor a b) = feed poly r a ^^^ feed poly s b := by
  have hlowest : lowest w (xor a b) = lowest w a ^^^ lowest w b := by
    cases a <;> cases b <;> simp [lowest]
  rw [feed, feed, feed, ← shift_xor, hlowest]
  congr 1
  ac_rfl

/-- **Streams are added** bit by bit, or after they have been taken in. -/
theorem feedAll_zipWith_xor {first second : List Bool} (h : first.length = second.length)
    (r s : BitVec w) :
    feedAll poly (r ^^^ s) (List.zipWith xor first second) =
      feedAll poly r first ^^^ feedAll poly s second := by
  induction first generalizing second r s with
  | nil =>
    cases List.eq_nil_of_length_eq_zero h.symm
    rfl
  | cons a first ih =>
    cases second with
    | nil => cases h
    | cons b second =>
      simp only [List.zipWith_cons_cons, feedAll, List.foldl_cons, feed_xor]
      exact ih (Nat.succ.inj h) _ _

theorem feedAll_zeros : feedAll poly r (List.replicate n false) = (shift poly)^[n] r := by
  induction n generalizing r with
  | zero => rfl
  | succ n ih =>
    rw [List.replicate_succ, feedAll, List.foldl_cons, Function.iterate_succ_apply, ← ih, feedAll,
      feed]
    simp [lowest]

/-- **Bursts leave a trace**: the zeros before the window keep the empty register as it is, the
    window fits into the register, and no later shift makes it empty again. -/
theorem feedAll_burst_ne_zero (hpoly : poly.msb = true) (hlength : bits.length ≤ w)
    (hone : true ∈ bits) (before after : Nat) :
    feedAll poly 0#w (List.replicate before false ++ bits ++ List.replicate after false) ≠ 0#w := by
  rw [feedAll_append, feedAll_append, feedAll_zeros, feedAll_zeros,
    (iterate_shift_eq_zero_iff hpoly before 0#w).mpr rfl, feedAll_eq hlength, Ne,
    iterate_shift_eq_zero_iff hpoly, iterate_shift_eq_zero_iff hpoly, BitVec.zero_xor]
  intro hempty
  obtain ⟨i, hi⟩ := List.mem_iff_getElem?.mp hone
  have hlt : i < w := (List.getElem?_eq_some_iff.mp hi).1.trans_le hlength
  have hbit : (value w bits).getLsbD i = false := by rw [hempty, BitVec.getLsbD_zero]
  rw [getLsbD_value, List.getD_eq_getElem?_getD, hi] at hbit
  simp [hlt] at hbit

end OpenDnp3.Lib.ShiftRegister
