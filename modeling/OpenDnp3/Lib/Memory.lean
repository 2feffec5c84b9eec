import Mathlib.Data.List.Basic

/-!
# Flat memories

A memory is a list of cells addressed from zero.  Two operations are enough to
describe code that copies blocks around in one buffer:

- `slice mem pos n` reads the `n` cells from `pos` on;
- `writeAt mem pos data` overwrites the cells from `pos` on with `data`.

The lemmas say what a read sees after a write: the written block itself, or what
was there before when the two ranges do not meet.
-/

namespace OpenDnp3.Lib

universe u

variable {α : Type u}

/-- The `n` cells of `mem` from position `pos` on. -/
def slice (mem : List α) (pos n : Nat) : List α :=
  (mem.drop pos).take n

/-- Overwrite `mem` from position `pos` on with `data`. -/
def writeAt (mem : List α) (pos : Nat) (data : List α) : List α :=
  mem.take pos ++ data ++ mem.drop (pos + data.length)

/-- Copy `n` cells from `src` to `dst` inside one memory. -/
def memmove (mem : List α) (dst src n : Nat) : List α :=
  writeAt mem dst (slice mem src n)

/-! ## Reading -/

variable {mem data : List α} {pos : Nat}

theorem length_slice {n : Nat} (h : pos + n ≤ mem.length) : (slice mem pos n).length = n := by
  simp only [slice, List.length_take, List.length_drop]
  omega

/-- Adjacent reads compose. -/
theorem slice_add (mem : List α) (pos m n : Nat) :
    slice mem pos (m + n) = slice mem pos m ++ slice mem (pos + m) n := by
  simp only [slice, List.take_add, List.drop_drop]

/-- Dropping the front of a read is a later, shorter read. -/
theorem drop_slice (mem : List α) (pos m n : Nat) :
    (slice mem pos n).drop m = slice mem (pos + m) (n - m) := by
  simp only [slice, List.drop_take, List.drop_drop]

/-! ## Reading after writing -/

theorem length_writeAt (h : pos + data.length ≤ mem.length) :
    (writeAt mem pos data).length = mem.length := by
  simp only [writeAt, List.length_append, List.length_take, List.length_drop]
  omega

/-- The cells above a written block are unchanged. -/
theorem drop_writeAt {k : Nat} (hpos : pos ≤ mem.length) (h : pos + data.length ≤ k) :
    (writeAt mem pos data).drop k = mem.drop k := by
  have hlen : (mem.take pos ++ data).length = pos + data.length := by
    simp only [List.length_append, List.length_take]
    omega
  rw [writeAt, List.drop_append, List.drop_eq_nil_of_le (by omega), List.nil_append, hlen,
    List.drop_drop]
  congr 1
  omega

/-- The cells below a written block are unchanged. -/
theorem take_writeAt (data : List α) {k : Nat} (hpos : pos ≤ mem.length) (h : k ≤ pos) :
    (writeAt mem pos data).take k = mem.take k := by
  rw [writeAt, List.append_assoc, List.take_append_of_le_length, List.take_take,
    Nat.min_eq_left h]
  simp only [List.length_take]
  omega

/-- Reading a written block gives what was written. -/
theorem slice_writeAt_self (data : List α) (hpos : pos ≤ mem.length) :
    slice (writeAt mem pos data) pos data.length = data := by
  have hlen : (mem.take pos).length = pos := by
    simp only [List.length_take]
    omega
  rw [slice, writeAt, List.append_assoc, List.drop_append, List.drop_eq_nil_of_le (by omega),
    List.nil_append, hlen, Nat.sub_self, List.drop_zero, List.take_left]

/-- Appending below the write position: the first cells of the memory followed by
    the written block are one prefix of the new memory. -/
theorem take_add_writeAt (data : List α) (hpos : pos ≤ mem.length) :
    (writeAt mem pos data).take (pos + data.length) = mem.take pos ++ data := by
  rw [writeAt, List.take_append_of_le_length, List.take_of_length_le]
  · simp only [List.length_append, List.length_take]
    omega
  · simp only [List.length_append, List.length_take]
    omega

/-- Writing over a block of the same length replaces it. -/
theorem writeAt_append {front hole back : List α} (h : data.length = hole.length) :
    writeAt (front ++ (hole ++ back)) front.length data = front ++ (data ++ back) := by
  rw [writeAt, List.take_left, h, List.drop_append, List.drop_eq_nil_of_le (Nat.le_add_right ..),
    List.nil_append, Nat.add_sub_cancel_left, List.drop_left, List.append_assoc]

end OpenDnp3.Lib
