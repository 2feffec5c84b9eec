import OpenDnp3.Lib.LittleEndian
import OpenDnp3.Lib.Memory
import OpenDnp3.SecAuth.SessionStore

/-!
# Session keys under an update key

The master sends new session keys encrypted.  What is encrypted is the length of the keys, the two
keys, the key status object of the outstation, and zeros up to a multiple of eight bytes.  It is
put together in a buffer of a fixed size.  The outstation decrypts it and takes what stands behind
the keys for the status object.
-/

namespace OpenDnp3.SecAuth

open Lib

/-- `AuthSizes::MAX_SESSION_KEY_WRAP_BUFFER_SIZE`. -/
def maxSessionKeyWrapBufferSize : Nat := (2 + 2 * maxSessionKeySize + 128 + 64 + 7) / 8 * 8

/-- `IKeyWrapAlgo`: key, input and the size of the destination give the output; `none` is an
    error. -/
structure KeyWrapAlgo where
  wrapKey : List UInt8 → List UInt8 → Nat → Option (List UInt8)
  unwrapKey : List UInt8 → List UInt8 → Nat → Option (List UInt8)

/-- Decryption gives back what was encrypted, if it is made of blocks and there is room for it. -/
def KeyWrapAlgo.Inverts (algo : KeyWrapAlgo) : Prop :=
  ∀ kek input size output size', 8 ∣ input.length → algo.wrapKey kek input size = some output →
    input.length ≤ size' → algo.unwrapKey kek output size' = some input

/-- `SessionKeysView::IsValid`. -/
def SessionKeysView.isValid (view : SessionKeysView) : Bool :=
  !view.controlKey.isEmpty && !view.monitorKey.isEmpty

/-! ## Putting the data together -/

/-- The array `dataToWrap` and the sequence `dest` in it.  The array is as long as what was written;
    `safe` says whether that was inside its real size. -/
structure Staging where
  buffer : List UInt8
  offset : Nat
  remaining : Nat
  safe : Bool

namespace Staging

/-- `memcpy` to the sequence, which looks at no size, and `advance`, which does. -/
def copy (s : Staging) (bytes : List UInt8) : Staging where
  buffer := writeAt s.buffer s.offset bytes
  offset := s.offset + min s.remaining bytes.length
  remaining := s.remaining - min s.remaining bytes.length
  safe := s.safe && (bytes.isEmpty || s.offset + bytes.length ≤ maxSessionKeyWrapBufferSize)

/-- `UInt16::write_to`. -/
def writeUInt16 (s : Staging) (n : Nat) : Staging :=
  if s.remaining < 2 then s else s.copy (encodeLE 2 n)

/-- Zeros until the sequence is empty. -/
def pad (s : Staging) : Staging := s.copy (List.replicate s.remaining 0)

end Staging

/-- `WRAPPED_DATA_SIZE_WITH_PADDING`, a 32-bit number. -/
def paddedSize (size : Nat) : Nat :=
  if size % 8 = 0 then size else (size + (8 - size % 8)) % 2 ^ 32

/-- `WRAPPED_DATA_SIZE`, a 32-bit number. -/
def wrappedDataSize (keys : SessionKeysView) (keyStatus : List UInt8) : Nat :=
  (2 + keys.controlKey.length + keys.monitorKey.length + keyStatus.length) % 2 ^ 32

/-- The first half of `KeyWrapBuffer::Wrap`, up to the call of the algorithm. -/
def stage (keys : SessionKeysView) (keyStatus : List UInt8)
    (dataToWrap : Vector UInt8 maxSessionKeyWrapBufferSize) : Staging :=
  let dest : Staging := ⟨dataToWrap.toList, 0, paddedSize (wrappedDataSize keys keyStatus), true⟩
  let dest := dest.writeUInt16 keys.controlKey.length
  (((dest.copy keys.controlKey).copy keys.monitorKey).copy keyStatus).pad

/-- What comes of a call: the wrapped data if it returns true. -/
structure Wrapped where
  safe : Bool
  data : Option (List UInt8)
  deriving DecidableEq

/-- `KeyWrapBuffer::Wrap`; the array on the stack has any content at first. -/
def wrap (algo : KeyWrapAlgo) (updateKey : List UInt8) (keys : SessionKeysView)
    (keyStatus : List UInt8) (dataToWrap : Vector UInt8 maxSessionKeyWrapBufferSize) : Wrapped :=
  if keys.isValid then
    let dest := stage keys keyStatus dataToWrap
    let input := dest.buffer.take (paddedSize (wrappedDataSize keys keyStatus))
    let output := algo.wrapKey updateKey input maxSessionKeyWrapBufferSize
    ⟨dest.safe, output.filter fun data => !data.isEmpty⟩
  else
    ⟨true, none⟩

/-- `AuthSizes::SessionKeySizeWithinLimits`. -/
def sessionKeySizeWithinLimits (size : Nat) : Bool := 16 ≤ size && size ≤ maxSessionKeySize

/-- `SessionKeyUnwrapBuffer::Unwrap`: the keys and the key status object, or a failure. -/
def unwrap (algo : KeyWrapAlgo) (updateKey inputData : List UInt8) :
    Option (SessionKeysView × List UInt8) :=
  match algo.unwrapKey updateKey inputData maxSessionKeyWrapBufferSize with
  | some (low :: high :: rest) =>
    let keyLength := decodeLE [low, high]
    if sessionKeySizeWithinLimits keyLength && 2 * keyLength ≤ rest.length then
      some (⟨rest.take keyLength, (rest.drop keyLength).take keyLength⟩,
        (rest.drop keyLength).drop keyLength)
    else
      none
  | _ => none

/-! ## What stands in the buffer -/

/-- These bytes have been written, one after the other, and so much room is left. -/
structure Staged (s : Staging) (written : List UInt8) (room : Nat) : Prop where
  offset : s.offset = written.length
  remaining : s.remaining = room
  fits : written.length ≤ s.buffer.length
  bytes : s.buffer.take written.length = written
  safe : s.safe = true ↔ written.length ≤ maxSessionKeyWrapBufferSize

variable {s : Staging} {written : List UInt8} {room : Nat}

theorem Staged.copy (h : Staged s written room) (bytes : List UInt8) (hroom : bytes.length ≤ room) :
    Staged (s.copy bytes) (written ++ bytes) (room - bytes.length) := by
  have hmin : min s.remaining bytes.length = bytes.length := by
    rw [h.remaining]
    exact Nat.min_eq_right hroom
  have hstart : s.offset ≤ s.buffer.length := h.offset ▸ h.fits
  refine ⟨?_, ?_, ?_, ?_, ?_⟩
  · rw [Staging.copy, hmin, h.offset, List.length_append]
  · rw [Staging.copy, hmin, h.remaining]
  · simp only [Staging.copy, writeAt, List.length_append, List.length_take, List.length_drop]
    have hoffset := h.offset
    omega
  · rw [List.length_append, ← h.offset]
    simp only [Staging.copy]
    rw [take_add_writeAt bytes hstart, h.offset, h.bytes]
  · -- an empty copy writes nowhere
    simp only [Staging.copy, Bool.and_eq_true, Bool.or_eq_true, List.isEmpty_iff, h.safe,
      decide_eq_true_eq, h.offset, List.length_append]
    constructor
    · rintro ⟨hbefore, rfl | hafter⟩
      · exact hbefore
      · exact hafter
    · exact fun hafter => ⟨Nat.le_trans (Nat.le_add_right ..) hafter, Or.inr hafter⟩

theorem Staged.pad (h : Staged s written room) :
    Staged s.pad (written ++ List.replicate room 0) 0 := by
  have hcopy := h.copy (List.replicate room 0) (by simp)
  rw [List.length_replicate, Nat.sub_self] at hcopy
  rw [Staging.pad, h.remaining]
  exact hcopy

/-- How many zeros a size needs. -/
def padding (size : Nat) : Nat := (8 - size % 8) % 8

theorem paddedSize_eq {size : Nat} (hsize : size < 2 ^ 31) :
    paddedSize size = size + padding size := by
  unfold paddedSize padding
  split <;> omega

theorem padding_eq_zero_iff (size : Nat) : padding size = 0 ↔ 8 ∣ size := by
  unfold padding
  omega

/-- The largest size that fits is itself made of blocks. -/
theorem add_padding_le_iff (size : Nat) :
    size + padding size ≤ maxSessionKeyWrapBufferSize ↔ size ≤ maxSessionKeyWrapBufferSize := by
  have hmax : maxSessionKeyWrapBufferSize = 264 := rfl
  rw [hmax]
  unfold padding
  omega

section Keys

variable {keys : SessionKeysView} {keyStatus : List UInt8}
  (dataToWrap : Vector UInt8 maxSessionKeyWrapBufferSize)

/-- The data without the zeros. -/
def plainData (keys : SessionKeysView) (keyStatus : List UInt8) : List UInt8 :=
  encodeLE 2 keys.controlKey.length ++ keys.controlKey ++ keys.monitorKey ++ keyStatus

theorem length_plainData (keys : SessionKeysView) (keyStatus : List UInt8) :
    (plainData keys keyStatus).length =
      2 + keys.controlKey.length + keys.monitorKey.length + keyStatus.length := by
  simp only [plainData, List.length_append, length_encodeLE]

/-- The padded data. -/
def paddedData (keys : SessionKeysView) (keyStatus : List UInt8) : List UInt8 :=
  plainData keys keyStatus ++ List.replicate (padding (plainData keys keyStatus).length) 0

theorem length_paddedData (keys : SessionKeysView) (keyStatus : List UInt8) :
    (paddedData keys keyStatus).length =
      (plainData keys keyStatus).length + padding (plainData keys keyStatus).length := by
  rw [paddedData, List.length_append, List.length_replicate]

/-- **The data is put together** as the format says, as long as its size is counted right. -/
theorem staged_stage (hsize : (plainData keys keyStatus).length < 2 ^ 31) :
    paddedSize (wrappedDataSize keys keyStatus) = (paddedData keys keyStatus).length ∧
      Staged (stage keys keyStatus dataToWrap) (paddedData keys keyStatus) 0 := by
  have hcount : wrappedDataSize keys keyStatus = (plainData keys keyStatus).length := by
    rw [length_plainData] at hsize ⊢
    rw [wrappedDataSize, Nat.mod_eq_of_lt (by omega)]
  have hpadded : paddedSize (wrappedDataSize keys keyStatus) =
      (paddedData keys keyStatus).length := by
    rw [hcount, paddedSize_eq hsize, length_paddedData]
  refine ⟨hpadded, ?_⟩
  generalize hzeros : padding (plainData keys keyStatus).length = zeros
  have htotal : (paddedData keys keyStatus).length =
      2 + keys.controlKey.length + keys.monitorKey.length + keyStatus.length + zeros := by
    rw [length_paddedData, hzeros, length_plainData]
  -- one write after the other
  have hnone : Staged ⟨dataToWrap.toList, 0, (paddedData keys keyStatus).length, true⟩ []
      (paddedData keys keyStatus).length :=
    ⟨rfl, rfl, Nat.zero_le _, List.take_zero, iff_of_true rfl (Nat.zero_le _)⟩
  have hlength := hnone.copy (encodeLE 2 keys.controlKey.length)
    (by rw [length_encodeLE, htotal]; omega)
  rw [length_encodeLE, List.nil_append] at hlength
  have hcontrol := hlength.copy keys.controlKey (by omega)
  have hmonitor := hcontrol.copy keys.monitorKey (by omega)
  have hstatus := hmonitor.copy keyStatus (by omega)
  have hrest : (paddedData keys keyStatus).length - 2 - keys.controlKey.length -
      keys.monitorKey.length - keyStatus.length = zeros := by omega
  rw [hrest] at hstatus
  have hbytes : encodeLE 2 keys.controlKey.length ++ keys.controlKey ++ keys.monitorKey ++
      keyStatus ++ List.replicate zeros 0 = paddedData keys keyStatus := by
    rw [paddedData, hzeros, plainData]
  have hall := hstatus.pad
  rw [hbytes] at hall
  have hfirst : ¬ (paddedData keys keyStatus).length < 2 := by omega
  rw [stage, hpadded]
  exact hall

theorem safe_of_safe_copy {bytes : List UInt8} (h : (s.copy bytes).safe = true) :
    s.safe = true ∧ bytes.length ≤ maxSessionKeyWrapBufferSize := by
  simp only [Staging.copy, Bool.and_eq_true, Bool.or_eq_true, List.isEmpty_iff,
    decide_eq_true_eq] at h
  obtain ⟨hsafe, rfl | hle⟩ := h
  · exact ⟨hsafe, Nat.zero_le _⟩
  · exact ⟨hsafe, Nat.le_trans (Nat.le_add_left ..) hle⟩

/-- **The buffer is large enough** for the data up to its own size, and for no more. -/
theorem safe_stage_iff (hcontrol : keys.controlKey.length ≤ maxSessionKeySize)
    (hmonitor : keys.monitorKey.length ≤ maxSessionKeySize) :
    (stage keys keyStatus dataToWrap).safe = true ↔
      (plainData keys keyStatus).length ≤ maxSessionKeyWrapBufferSize := by
  have hmax : maxSessionKeyWrapBufferSize = 264 := rfl
  have hkey : maxSessionKeySize = 32 := rfl
  by_cases hlong : maxSessionKeyWrapBufferSize < keyStatus.length
  · -- the copy of the status object alone is too long, wherever it begins
    refine iff_of_false ?_ ?_
    · intro hsafe
      have hcopy := (safe_of_safe_copy hsafe).1
      exact absurd (safe_of_safe_copy hcopy).2 (Nat.not_le.mpr hlong)
    · rw [length_plainData]
      omega
  · have hsize : (plainData keys keyStatus).length < 2 ^ 31 := by
      rw [length_plainData]
      omega
    rw [(staged_stage dataToWrap hsize).2.safe, length_paddedData, add_padding_le_iff]

/-- Reading back the padded data: the zeros stay with the status object. -/
theorem unwrap_paddedData {algo : KeyWrapAlgo} {updateKey data : List UInt8}
    (hequal : keys.controlKey.length = keys.monitorKey.length)
    (hmin : 16 ≤ keys.controlKey.length) (hmax : keys.controlKey.length ≤ maxSessionKeySize)
    (hplain : algo.unwrapKey updateKey data maxSessionKeyWrapBufferSize =
      some (paddedData keys keyStatus)) :
    unwrap algo updateKey data = some (keys,
      keyStatus ++ List.replicate (padding (plainData keys keyStatus).length) 0) := by
  generalize hzeros : List.replicate (padding (plainData keys keyStatus).length) (0 : UInt8) = zeros
  have hbound : maxSessionKeySize = 32 := rfl
  have hread := decodeLE_pair (show keys.controlKey.length < 65536 by omega)
  -- the length of a key, both keys, the status object and the padding
  have hdata : paddedData keys keyStatus =
      UInt8.ofNat keys.controlKey.length :: UInt8.ofNat (keys.controlKey.length / 256) ::
        (keys.controlKey ++ (keys.monitorKey ++ (keyStatus ++ zeros))) := by
    rw [paddedData, hzeros]
    simp [plainData, encodeLE]
  have hlimits : sessionKeySizeWithinLimits keys.controlKey.length = true := by
    rw [sessionKeySizeWithinLimits, Bool.and_eq_true, decide_eq_true_eq, decide_eq_true_eq]
    exact ⟨hmin, hmax⟩
  have hroom : 2 * keys.controlKey.length ≤
      (keys.controlKey ++ (keys.monitorKey ++ (keyStatus ++ zeros))).length := by
    simp only [List.length_append]
    omega
  unfold unwrap
  rw [hplain, hdata]
  simp only [hread, hlimits, decide_eq_true hroom, Bool.and_self, if_true, List.take_left,
    List.drop_left]
  rw [hequal, List.take_left, List.drop_left]

end Keys

/-! ## There and back -/

/-- An algorithm that does nothing. -/
def plainAlgo : KeyWrapAlgo := ⟨fun _ input _ => some input, fun _ input _ => some input⟩

theorem inverts_plainAlgo : plainAlgo.Inverts := by
  intro kek input size output size' _ hwrap _
  cases hwrap
  rfl

/-- **Wrapping and unwrapping**: for two keys of the same admissible length and a key status
    object, no write goes outside of the buffer and what the outstation unwraps is what the master
    wrapped, with every algorithm that can be inverted, if and only if length, keys and status
    object fit into the buffer and fill whole blocks. -/
theorem wrap_unwrap_iff (keys : SessionKeysView) (keyStatus : List UInt8)
    (hequal : keys.controlKey.length = keys.monitorKey.length)
    (hmin : 16 ≤ keys.controlKey.length) (hmax : keys.controlKey.length ≤ maxSessionKeySize) :
    (∀ algo : KeyWrapAlgo, algo.Inverts → ∀ updateKey dataToWrap,
      (wrap algo updateKey keys keyStatus dataToWrap).safe = true ∧
        ∀ data, (wrap algo updateKey keys keyStatus dataToWrap).data = some data →
          unwrap algo updateKey data = some (keys, keyStatus)) ↔
      2 + 2 * keys.controlKey.length + keyStatus.length ≤ maxSessionKeyWrapBufferSize ∧
        8 ∣ 2 + 2 * keys.controlKey.length + keyStatus.length := by
  have hsize : (plainData keys keyStatus).length =
      2 + 2 * keys.controlKey.length + keyStatus.length := by
    rw [length_plainData, ← hequal]
    omega
  have hvalid : keys.isValid = true := by
    have hcontrol : keys.controlKey ≠ [] := List.ne_nil_of_length_pos (by omega)
    have hmonitor : keys.monitorKey ≠ [] := List.ne_nil_of_length_pos (by omega)
    simp [SessionKeysView.isValid, hcontrol, hmonitor]
  have hbuffer : maxSessionKeyWrapBufferSize = 264 := rfl
  rw [← hsize]
  constructor
  · intro hall
    -- the algorithm that does nothing shows both conditions
    obtain ⟨hsafe, hback⟩ := hall plainAlgo inverts_plainAlgo [] (Vector.replicate _ 0)
    rw [wrap, if_pos hvalid] at hsafe
    have hfits := (safe_stage_iff _ hmax (hequal ▸ hmax)).mp hsafe
    refine ⟨hfits, (padding_eq_zero_iff _).mp ?_⟩
    obtain ⟨hpadded, hstaged⟩ := staged_stage (Vector.replicate _ 0)
      (show (plainData keys keyStatus).length < 2 ^ 31 by omega)
    have hne : paddedData keys keyStatus ≠ [] := by
      apply List.ne_nil_of_length_pos
      rw [length_paddedData]
      omega
    have hdata : (wrap plainAlgo [] keys keyStatus (Vector.replicate _ 0)).data =
        some (paddedData keys keyStatus) := by
      simp [wrap, hvalid, plainAlgo, hpadded, hstaged.bytes, hne]
    have hread := hback _ hdata
    rw [unwrap_paddedData hequal hmin hmax rfl, Option.some.injEq, Prod.mk.injEq] at hread
    have hlength := congrArg List.length hread.2
    rw [List.length_append, List.length_replicate] at hlength
    omega
  · rintro ⟨hfits, hblocks⟩ algo hinverts updateKey dataToWrap
    obtain ⟨hpadded, hstaged⟩ := staged_stage dataToWrap
      (show (plainData keys keyStatus).length < 2 ^ 31 by omega)
    have hzero := (padding_eq_zero_iff _).mpr hblocks
    rw [wrap, if_pos hvalid]
    refine ⟨(safe_stage_iff _ hmax (hequal ▸ hmax)).mpr hfits, ?_⟩
    intro data hdata
    obtain ⟨hwrapped, -⟩ := Option.filter_eq_some_iff.mp hdata
    rw [hpadded, hstaged.bytes] at hwrapped
    have hplain := hinverts _ _ _ _ maxSessionKeyWrapBufferSize
      (by rw [length_paddedData, hzero]; exact hblocks) hwrapped
      (by rw [length_paddedData, hzero]; exact hfits)
    rw [unwrap_paddedData hequal hmin hmax hplain, hzero]
    simp

/-- Eight bytes in front of the data, with the checks of `AESKeyWrap`. -/
def boxAlgo : KeyWrapAlgo where
  wrapKey _ input size :=
    if input.length % 8 = 0 ∧ 16 ≤ input.length ∧ input.length + 8 ≤ size then
      some (List.replicate 8 0xA6 ++ input)
    else none
  unwrapKey _ input size :=
    if 16 ≤ input.length ∧ input.length % 8 = 0 ∧ input.length - 8 ≤ size then
      some (input.drop 8)
    else none

theorem inverts_boxAlgo : boxAlgo.Inverts := by
  intro kek input size output size' hblocks hwrap hroom
  obtain ⟨hok, hout⟩ := Option.ite_none_right_eq_some.mp hwrap
  cases hout
  have hlength : (List.replicate 8 (0xA6 : UInt8) ++ input).length = 8 + input.length := by
    rw [List.length_append, List.length_replicate]
  have hunwrap : 16 ≤ (List.replicate 8 (0xA6 : UInt8) ++ input).length ∧
      (List.replicate 8 (0xA6 : UInt8) ++ input).length % 8 = 0 ∧
      (List.replicate 8 (0xA6 : UInt8) ++ input).length - 8 ≤ size' := by
    rw [hlength]
    omega
  exact (if_pos hunwrap).trans (congrArg some (List.drop_left' (List.length_replicate ..)))

/-- Two keys of 16 bytes. -/
def sampleKeys : SessionKeysView := ⟨List.replicate 16 1, List.replicate 16 2⟩

/-- With a status object of six bytes they fill five blocks. -/
theorem wrap_unwrap_blocks :
    unwrap boxAlgo [] (List.replicate 8 0xA6 ++ paddedData sampleKeys (List.replicate 6 3)) =
      some (sampleKeys, List.replicate 6 3) :=
  ((wrap_unwrap_iff sampleKeys (List.replicate 6 3) (by decide) (by decide) (by decide)).mpr
    (by decide) boxAlgo inverts_boxAlgo [] (Vector.replicate _ 0)).2 _ (by decide +kernel)

/-- A status object of 231 bytes is written past the end of the buffer; one of 15 bytes comes back
    with seven zeros behind it. -/
theorem wrap_unwrap_lossy :
    (wrap boxAlgo [] sampleKeys (List.replicate 231 3) (Vector.replicate _ 0)).safe = false ∧
    ((wrap boxAlgo [] sampleKeys (List.replicate 15 3) (Vector.replicate _ 0)).data.bind
        (unwrap boxAlgo [])).map Prod.snd =
      some (List.replicate 15 3 ++ List.replicate 7 0) := by
  decide +kernel

end OpenDnp3.SecAuth
