import Mathlib.Algebra.Order.Ring.Int
import Mathlib.Data.List.Basic

/-!
# Little-endian integers

Fixed-width unsigned integers on the wire, least significant byte first.  The
width is the number of bytes; a value too large for it loses its high bits.
-/

namespace OpenDnp3.Lib

/-- The `w` little-endian bytes of `n`. -/
def encodeLE : Nat → Nat → List UInt8
  | 0, _ => []
  | w + 1, n => UInt8.ofNat n :: encodeLE w (n / 256)

/-- The number with the given little-endian bytes. -/
def decodeLE : List UInt8 → Nat
  | [] => 0
  | b :: bs => b.toNat + 256 * decodeLE bs

@[simp] theorem length_encodeLE (w n : Nat) : (encodeLE w n).length = w := by
  induction w generalizing n with
  | zero => rfl
  | succ w ih => simp only [encodeLE, List.length_cons, ih]

/-- Decoding the bytes of `n` gives `n` back, up to the width. -/
theorem decodeLE_encodeLE (w n : Nat) : decodeLE (encodeLE w n) = n % 256 ^ w := by
  induction w generalizing n with
  | zero => simp only [encodeLE, decodeLE, Nat.pow_zero, Nat.mod_one]
  | succ w ih =>
    have hb : (UInt8.ofNat n).toNat = n % 256 := UInt8.toNat_ofNat' ..
    rw [encodeLE, decodeLE, ih, hb, Nat.pow_succ', Nat.mod_mul]

theorem decodeLE_lt (bs : List UInt8) : decodeLE bs < 256 ^ bs.length := by
  induction bs with
  | nil => simp [decodeLE]
  | cons b bs ih =>
    have hb : b.toNat < 256 := b.toNat_lt
    rw [decodeLE, List.length_cons, Nat.pow_succ']
    omega

/-- The bytes are those of their own number. -/
theorem encodeLE_decodeLE (bs : List UInt8) : encodeLE bs.length (decodeLE bs) = bs := by
  induction bs with
  | nil => rfl
  | cons b bs ih =>
    have hb : b.toNat < 256 := b.toNat_lt
    have hlow : UInt8.ofNat (b.toNat + 256 * decodeLE bs) = b := by
      apply UInt8.toNat_inj.mp
      rw [UInt8.toNat_ofNat']
      omega
    have hhigh : (b.toNat + 256 * decodeLE bs) / 256 = decodeLE bs := by omega
    rw [List.length_cons, decodeLE, encodeLE, hlow, hhigh, ih]

/-- A number that fits into two bytes is read back from them. -/
theorem decodeLE_pair {n : Nat} (h : n < 65536) :
    decodeLE [UInt8.ofNat n, UInt8.ofNat (n / 256)] = n := by
  have hread : decodeLE (encodeLE 2 n) = n % 256 ^ 2 := decodeLE_encodeLE 2 n
  rw [Nat.mod_eq_of_lt (show n < 256 ^ 2 from h)] at hread
  exact hread

theorem encodeLE_pair (low high : UInt8) : encodeLE 2 (decodeLE [low, high]) = [low, high] :=
  encodeLE_decodeLE [low, high]

/-- The two bytes of a 16-bit value. -/
def encodeU16 (x : UInt16) : List UInt8 :=
  encodeLE 2 x.toNat

/-- The 16-bit value in the first two bytes of `bs`. -/
def decodeU16 (bs : List UInt8) : UInt16 :=
  UInt16.ofNat (decodeLE (bs.take 2))

@[simp] theorem length_encodeU16 (x : UInt16) : (encodeU16 x).length = 2 :=
  length_encodeLE 2 _

/-- A 16-bit value survives being written and read back. -/
@[simp] theorem decodeU16_encodeU16_append (x : UInt16) (rest : List UInt8) :
    decodeU16 (encodeU16 x ++ rest) = x := by
  have hx : x.toNat < 256 ^ 2 := x.toNat_lt
  rw [decodeU16, List.take_left' (length_encodeU16 x), encodeU16, decodeLE_encodeLE,
    Nat.mod_eq_of_lt hx, UInt16.ofNat_toNat]

/-- Two bytes survive being read and written back. -/
theorem encodeU16_decodeU16 {bs : List UInt8} (h : 2 ≤ bs.length) :
    encodeU16 (decodeU16 bs) = bs.take 2 := by
  have hlength : (bs.take 2).length = 2 := by
    rw [List.length_take]
    exact Nat.min_eq_left h
  have hlt : decodeLE (bs.take 2) < 2 ^ 16 := by
    have hbound := decodeLE_lt (bs.take 2)
    rw [hlength] at hbound
    exact hbound
  have hback := encodeLE_decodeLE (bs.take 2)
  rw [hlength] at hback
  rw [encodeU16, decodeU16, UInt16.toNat_ofNat_of_lt' hlt, hback]

/-- The four bytes of a 32-bit value. -/
def encodeU32 (x : UInt32) : List UInt8 :=
  encodeLE 4 x.toNat

/-- The 32-bit value in the first four bytes of `bs`. -/
def decodeU32 (bs : List UInt8) : UInt32 :=
  UInt32.ofNat (decodeLE (bs.take 4))

@[simp] theorem length_encodeU32 (x : UInt32) : (encodeU32 x).length = 4 :=
  length_encodeLE 4 _

/-- A 32-bit value survives being written and read back. -/
@[simp] theorem decodeU32_encodeU32_append (x : UInt32) (rest : List UInt8) :
    decodeU32 (encodeU32 x ++ rest) = x := by
  have hx : x.toNat < 256 ^ 4 := x.toNat_lt
  rw [decodeU32, List.take_left' (length_encodeU32 x), encodeU32, decodeLE_encodeLE,
    Nat.mod_eq_of_lt hx, UInt32.ofNat_toNat]

/-- Four bytes survive being read and written back. -/
theorem encodeU32_decodeU32 {bs : List UInt8} (h : 4 ≤ bs.length) :
    encodeU32 (decodeU32 bs) = bs.take 4 := by
  have hlength : (bs.take 4).length = 4 := by
    rw [List.length_take]
    exact Nat.min_eq_left h
  have hlt : decodeLE (bs.take 4) < 2 ^ 32 := by
    have hbound := decodeLE_lt (bs.take 4)
    rw [hlength] at hbound
    exact hbound
  have hback := encodeLE_decodeLE (bs.take 4)
  rw [hlength] at hback
  rw [encodeU32, decodeU32, UInt32.toNat_ofNat_of_lt' hlt, hback]

/-- The eight bytes of a 64-bit value. -/
def encodeU64 (x : UInt64) : List UInt8 :=
  encodeLE 8 x.toNat

/-- The 64-bit value in the first eight bytes of `bs`. -/
def decodeU64 (bs : List UInt8) : UInt64 :=
  UInt64.ofNat (decodeLE (bs.take 8))

@[simp] theorem length_encodeU64 (x : UInt64) : (encodeU64 x).length = 8 :=
  length_encodeLE 8 _

/-- A 64-bit value survives being written and read back. -/
@[simp] theorem decodeU64_encodeU64_append (x : UInt64) (rest : List UInt8) :
    decodeU64 (encodeU64 x ++ rest) = x := by
  have hx : x.toNat < 256 ^ 8 := x.toNat_lt
  rw [decodeU64, List.take_left' (length_encodeU64 x), encodeU64, decodeLE_encodeLE,
    Nat.mod_eq_of_lt hx, UInt64.ofNat_toNat]

end OpenDnp3.Lib
