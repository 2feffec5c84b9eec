import OpenDnp3.Lib.Memory
import OpenDnp3.Link.Header

/-!
# The receive buffer

A fixed memory with a read and a write position.  Bytes between the two have been
received and not been consumed; `shift` moves them to the front to make room again.
The facade does not own the memory: the parser writes extracted user data into it too.
-/

namespace OpenDnp3.Link

open Lib

structure ShiftableBuffer where
  pBuffer : List UInt8
  readPos : Nat
  writePos : Nat
  deriving DecidableEq, Repr

namespace ShiftableBuffer

/-- An empty buffer over `size` bytes of memory. -/
def create (size : Nat) : ShiftableBuffer where
  pBuffer := List.replicate size 0
  readPos := 0
  writePos := 0

def numBytesRead (b : ShiftableBuffer) : Nat := b.writePos - b.readPos

/-- The bytes received and not consumed. -/
def readBuffer (b : ShiftableBuffer) : List UInt8 :=
  slice b.pBuffer b.readPos b.numBytesRead

def advanceRead (b : ShiftableBuffer) (aNumBytes : Nat) : ShiftableBuffer :=
  { b with readPos := b.readPos + aNumBytes }

def shift (b : ShiftableBuffer) : ShiftableBuffer where
  pBuffer := memmove b.pBuffer 0 b.readPos b.numBytesRead
  readPos := 0
  writePos := b.numBytesRead

def numWriteBytes (b : ShiftableBuffer) : Nat := b.pBuffer.length - b.writePos

def advanceWrite (b : ShiftableBuffer) (numBytes : Nat) : ShiftableBuffer :=
  { b with writePos := b.writePos + numBytes }

/-- The channel's side: fill the offered space with received bytes. -/
def fill (b : ShiftableBuffer) (data : List UInt8) : ShiftableBuffer :=
  { b with pBuffer := writeAt b.pBuffer b.writePos data }

/-- The loop of `sync`, with the number of unread bytes as fuel. -/
def syncLoop : Nat → ShiftableBuffer → Bool × ShiftableBuffer
  | 0, b => (false, b)
  | fuel + 1, b =>
    if 1 < b.numBytesRead then
      if b.readBuffer.getD 0 0 = 0x05 ∧ b.readBuffer.getD 1 0 = 0x64 then (true, b)
      else syncLoop fuel (b.advanceRead 1)
    else (false, b)

/-- Skip to the next pair of start bytes. -/
def sync (b : ShiftableBuffer) : Bool × ShiftableBuffer :=
  syncLoop b.numBytesRead b

/-! ## Well-formed buffers -/

/-- The two positions are in order and inside a memory of 292 bytes. -/
structure WellFormed (b : ShiftableBuffer) : Prop where
  read_le : b.readPos ≤ b.writePos
  write_le : b.writePos ≤ b.pBuffer.length
  size_eq : b.pBuffer.length = LPDU_MAX_FRAME_SIZE

theorem wellFormed_create : (create LPDU_MAX_FRAME_SIZE).WellFormed where
  read_le := Nat.le_refl 0
  write_le := Nat.zero_le _
  size_eq := List.length_replicate

variable {b : ShiftableBuffer}

theorem WellFormed.length_readBuffer (h : b.WellFormed) :
    b.readBuffer.length = b.numBytesRead := by
  have := h.read_le
  have := h.write_le
  refine length_slice ?_
  simp only [numBytesRead]
  omega

@[simp] theorem numBytesRead_advanceRead (b : ShiftableBuffer) (n : Nat) :
    (b.advanceRead n).numBytesRead = b.numBytesRead - n := by
  simp only [numBytesRead, advanceRead]
  omega

@[simp] theorem readBuffer_advanceRead (b : ShiftableBuffer) (n : Nat) :
    (b.advanceRead n).readBuffer = b.readBuffer.drop n := by
  rw [readBuffer, numBytesRead_advanceRead, readBuffer, drop_slice]
  rfl

theorem WellFormed.advanceRead (h : b.WellFormed) {n : Nat} (hn : n ≤ b.numBytesRead) :
    (b.advanceRead n).WellFormed where
  read_le := by
    have := h.read_le
    simp only [numBytesRead] at hn
    simp only [ShiftableBuffer.advanceRead]
    omega
  write_le := h.write_le
  size_eq := h.size_eq

/-! ## Shifting and filling -/

theorem WellFormed.shift (h : b.WellFormed) : b.shift.WellFormed := by
  have hlen : (slice b.pBuffer b.readPos b.numBytesRead).length = b.numBytesRead :=
    h.length_readBuffer
  have hmem : b.shift.pBuffer.length = b.pBuffer.length := by
    refine length_writeAt ?_
    have := h.write_le
    rw [hlen, numBytesRead]
    omega
  refine ⟨Nat.zero_le _, ?_, hmem.trans h.size_eq⟩
  have := h.write_le
  rw [hmem]
  simp only [ShiftableBuffer.shift, numBytesRead]
  omega

/-- Shifting keeps the unread bytes. -/
theorem WellFormed.readBuffer_shift (h : b.WellFormed) : b.shift.readBuffer = b.readBuffer := by
  have hself := slice_writeAt_self b.readBuffer (Nat.zero_le b.pBuffer.length)
  rw [h.length_readBuffer] at hself
  exact hself

/-- Received bytes are appended to the unread ones. -/
theorem WellFormed.readBuffer_receive (h : b.WellFormed) {data : List UInt8} :
    ((b.fill data).advanceWrite data.length).readBuffer = b.readBuffer ++ data := by
  have hnum : ((b.fill data).advanceWrite data.length).numBytesRead =
      b.numBytesRead + data.length := by
    have := h.read_le
    simp only [numBytesRead, advanceWrite, fill]
    omega
  have hend : b.readPos + b.numBytesRead = b.writePos := by
    have := h.read_le
    simp only [numBytesRead]
    omega
  -- the unread bytes lie below the write position, the new ones are what was written there
  have hold : slice (writeAt b.pBuffer b.writePos data) b.readPos b.numBytesRead =
      b.readBuffer := by
    have htake := take_writeAt data h.write_le (Nat.le_refl b.writePos)
    have hslice : ∀ mem : List UInt8,
        slice mem b.readPos b.numBytesRead = (mem.take b.writePos).drop b.readPos := by
      intro mem
      rw [slice, List.drop_take]
      rfl
    rw [hslice, htake, ← hslice]
    rfl
  rw [readBuffer, hnum]
  simp only [advanceWrite, fill]
  rw [slice_add, hold, hend, slice_writeAt_self data h.write_le]

theorem WellFormed.receive (h : b.WellFormed) {data : List UInt8}
    (hfit : data.length ≤ b.numWriteBytes) :
    ((b.fill data).advanceWrite data.length).WellFormed := by
  have hwrite := h.write_le
  simp only [numWriteBytes] at hfit
  have hmem : (writeAt b.pBuffer b.writePos data).length = b.pBuffer.length :=
    length_writeAt (by omega)
  refine ⟨?_, ?_, ?_⟩
  · have := h.read_le
    simp only [advanceWrite, fill]
    omega
  · simp only [advanceWrite, fill, hmem]
    omega
  · simp only [advanceWrite, fill, hmem, h.size_eq]

/-! ## Searching for the start bytes -/

/-- Do the start bytes of a frame stand first in `s`? -/
def StartsFrame (s : List UInt8) : Prop :=
  s.getD 0 0 = 0x05 ∧ s.getD 1 0 = 0x64

instance (s : List UInt8) : Decidable (StartsFrame s) :=
  inferInstanceAs (Decidable (_ ∧ _))

/-- Skipping to the start bytes drops bytes one at a time, none of which starts a frame.  Any
    view `f` of the unread bytes that ignores such a byte is therefore unchanged. -/
theorem syncLoop_spec {β : Type} (f : List UInt8 → β)
    (hskip : ∀ s : List UInt8, 1 < s.length → ¬ StartsFrame s → f s = f (s.drop 1))
    (fuel : Nat) (b : ShiftableBuffer) (h : b.WellFormed) (hfuel : b.numBytesRead ≤ fuel) :
    (syncLoop fuel b).2.WellFormed ∧
    (syncLoop fuel b).2.numBytesRead ≤ b.numBytesRead ∧
    f (syncLoop fuel b).2.readBuffer = f b.readBuffer ∧
    (if (syncLoop fuel b).1 then
      StartsFrame (syncLoop fuel b).2.readBuffer ∧ 1 < (syncLoop fuel b).2.numBytesRead
    else (syncLoop fuel b).2.numBytesRead ≤ 1) := by
  induction fuel generalizing b with
  | zero =>
    refine ⟨h, Nat.le_refl _, rfl, ?_⟩
    simp only [syncLoop, Bool.false_eq_true, ↓reduceIte]
    omega
  | succ fuel ih =>
    rw [syncLoop]
    split
    · next hmore =>
      split
      · next hstart => exact ⟨h, Nat.le_refl _, rfl, hstart, hmore⟩
      · next hstart =>
        -- a byte that starts no frame is dropped, and nobody misses it
        have hstep : f b.readBuffer = f (b.advanceRead 1).readBuffer := by
          rw [readBuffer_advanceRead]
          exact hskip _ (by rw [h.length_readBuffer]; exact hmore) hstart
        obtain ⟨hwf, hle, hview, hres⟩ := ih (b.advanceRead 1) (h.advanceRead (by omega))
          (by rw [numBytesRead_advanceRead]; omega)
        rw [numBytesRead_advanceRead] at hle
        exact ⟨hwf, by omega, hview.trans hstep.symm, hres⟩
    · next hmore =>
      exact ⟨h, Nat.le_refl _, rfl, by simp only [Bool.false_eq_true, ↓reduceIte]; omega⟩

end ShiftableBuffer

end OpenDnp3.Link
