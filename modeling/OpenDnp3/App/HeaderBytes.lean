import OpenDnp3.App.HeaderWriter

/-!
# The bytes that a writer appends

What the functions of `HeaderWriter` and the iterator for objects with an index do to the buffer, as
bytes behind those that are there already.  A header is *open* while its iterator is at work: its
count is a hole that the iterator fills when it is done.
-/

namespace OpenDnp3.App

open Lib

/-! ## Appending -/

/-- From `w` to `w'`, these bytes have been appended in the same buffer. -/
structure Appends (w : HeaderWriter) (bytes : List UInt8) (w' : HeaderWriter) : Prop where
  length : w'.buffer.length = w.buffer.length
  position : w'.position = w.position + bytes.length
  fits : w'.position ≤ w'.buffer.length
  take : w'.buffer.take w'.position = w.buffer.take w.position ++ bytes

namespace Appends

variable {w w₁ w₂ : HeaderWriter} {a b bytes hole : List UInt8}

theorem refl (h : w.position ≤ w.buffer.length) : Appends w [] w :=
  ⟨rfl, rfl, h, (List.append_nil _).symm⟩

theorem trans (h₁ : Appends w a w₁) (h₂ : Appends w₁ b w₂) : Appends w (a ++ b) w₂ where
  length := h₂.length.trans h₁.length
  position := by
    rw [h₂.position, h₁.position, List.length_append, Nat.add_assoc]
  fits := h₂.fits
  take := by
    rw [h₂.take, h₁.take, List.append_assoc]

theorem remaining (h : Appends w bytes w₁) : w₁.remaining + bytes.length = w.remaining := by
  have hlength := h.length
  have hposition := h.position
  have hfits := h.fits
  unfold HeaderWriter.remaining
  omega

theorem position_le (h : Appends w bytes w₁) : w.position ≤ w₁.position := by
  rw [h.position]
  exact Nat.le_add_right ..

/-- The position was inside the buffer before. -/
theorem fits_before (h : Appends w bytes w₁) : w.position ≤ w.buffer.length := by
  have hfits := h.fits
  rw [h.length] at hfits
  exact Nat.le_trans h.position_le hfits

theorem put (bytes : List UInt8) (h : w.position ≤ w.buffer.length)
    (hroom : bytes.length ≤ w.remaining) :
    Appends w bytes (w.put bytes) where
  length := by
    unfold HeaderWriter.remaining at hroom
    exact length_writeAt (by omega)
  position := rfl
  fits := by
    unfold HeaderWriter.remaining at hroom
    change w.position + bytes.length ≤ (writeAt w.buffer w.position bytes).length
    rw [length_writeAt (by omega)]
    omega
  take := take_add_writeAt bytes h

theorem skip {n : Nat} (h : w.position ≤ w.buffer.length) (hroom : n ≤ w.remaining) :
    ∃ hole, hole.length = n ∧ Appends w hole (w.skip n) := by
  unfold HeaderWriter.remaining at hroom
  have hlength : (slice w.buffer w.position n).length = n := length_slice (by omega)
  refine ⟨slice w.buffer w.position n, hlength, rfl, ?_, ?_, ?_⟩
  · rw [hlength]
    rfl
  · change w.position + n ≤ w.buffer.length
    omega
  · exact List.take_add

/-- Fill a hole. -/
theorem patch (h : Appends w (a ++ (hole ++ b)) w₁) (hlength : bytes.length = hole.length) :
    Appends w (a ++ (bytes ++ b)) (w₁.patch (w.position + a.length) bytes) := by
  have htaken : (w.buffer.take w.position).length = w.position := by
    rw [List.length_take]
    exact Nat.min_eq_left h.fits_before
  -- the buffer, cut at the hole
  have hbuffer : w₁.buffer = (w.buffer.take w.position ++ a) ++
      (hole ++ (b ++ w₁.buffer.drop w₁.position)) := by
    calc w₁.buffer = w₁.buffer.take w₁.position ++ w₁.buffer.drop w₁.position :=
          (List.take_append_drop ..).symm
      _ = _ := by
          rw [h.take]
          simp only [List.append_assoc]
  have hfront : (w.buffer.take w.position ++ a).length = w.position + a.length := by
    rw [List.length_append, htaken]
  have hpatched : (w₁.patch (w.position + a.length) bytes).buffer =
      (w.buffer.take w.position ++ (a ++ (bytes ++ b))) ++ w₁.buffer.drop w₁.position := by
    change writeAt w₁.buffer (w.position + a.length) bytes = _
    rw [← hfront]
    conv => lhs; rw [hbuffer]
    rw [writeAt_append hlength]
    simp only [List.append_assoc]
  have hall : (w.buffer.take w.position ++ (a ++ (bytes ++ b))).length = w₁.position := by
    rw [h.position, List.length_append, htaken]
    simp only [List.length_append, hlength]
  have hsame : (w₁.patch (w.position + a.length) bytes).buffer.length = w₁.buffer.length := by
    have hfits := h.fits
    rw [hpatched, List.length_append, hall, List.length_drop]
    omega
  refine ⟨hsame.trans h.length, ?_, ?_, ?_⟩
  · change w₁.position = _
    rw [h.position]
    simp only [List.length_append, hlength]
  · rw [hsame]
    exact h.fits
  · change List.take w₁.position _ = _
    rw [hpatched, ← hall, List.take_left]

end Appends

/-! ## Headers -/

/-- The fixed part of a header. -/
def headerBytes (id : GroupVariationID) (qc : QualifierCode) : List UInt8 :=
  [id.group, id.variation, qc.toByte]

namespace HeaderWriter

variable {w w' : HeaderWriter} {id : GroupVariationID} {qc : QualifierCode} {reserve : Nat}

/-- A header is written where it fits together with what is reserved for its objects. -/
theorem writeHeaderWithReserve_eq_some (h : w.position ≤ w.buffer.length)
    (hwrite : w.writeHeaderWithReserve id qc reserve = some w') :
    Appends w (headerBytes id qc) w' ∧ reserve ≤ w'.remaining := by
  unfold writeHeaderWithReserve writeHeader at hwrite
  split at hwrite
  · cases hwrite
  · split at hwrite
    · cases hwrite
    · cases hwrite
      have happends : Appends w (headerBytes id qc) (w.put (headerBytes id qc)) := by
        refine .put _ h ?_
        change 3 ≤ _
        omega
      have hremaining := happends.remaining
      change _ + 3 = _ at hremaining
      refine ⟨happends, ?_⟩
      change reserve ≤ (w.put (headerBytes id qc)).remaining
      omega

theorem writeHeaderWithReserve_isSome (id : GroupVariationID) (qc : QualifierCode)
    (h : 3 + reserve ≤ w.remaining) :
    (w.writeHeaderWithReserve id qc reserve).isSome = true := by
  unfold writeHeaderWithReserve writeHeader
  rw [if_neg (by omega), if_neg (by omega)]
  rfl

theorem writeSingleValue_eq_some {object : List UInt8} (h : w.position ≤ w.buffer.length)
    (hwrite : w.writeSingleValue id object = some w') :
    Appends w (headerBytes id .UINT8_CNT ++ (1 :: object)) w' := by
  unfold writeSingleValue at hwrite
  rw [Option.map_eq_some_iff] at hwrite
  obtain ⟨w₁, hheader, rfl⟩ := hwrite
  obtain ⟨happends, hroom⟩ := writeHeaderWithReserve_eq_some h hheader
  change 1 + object.length ≤ w₁.remaining at hroom
  have hcount : Appends w₁ [1] (w₁.put [1]) := by
    refine .put _ happends.fits ?_
    change 1 ≤ _
    omega
  have hremaining := hcount.remaining
  change _ + 1 = _ at hremaining
  have hobject := Appends.put object hcount.fits (by omega)
  exact happends.trans (hcount.trans hobject)

theorem writeSingleValue_isSome (id : GroupVariationID) {object : List UInt8}
    (h : 4 + object.length ≤ w.remaining) :
    (w.writeSingleValue id object).isSome = true := by
  unfold writeSingleValue
  rw [Option.isSome_map]
  apply writeHeaderWithReserve_isSome
  change 3 + (1 + object.length) ≤ _
  omega

end HeaderWriter

@[simp] theorem IndexType.length_encode (t : IndexType) (n : Nat) :
    (t.encode n).length = t.size := length_encodeLE ..

/-! ## Objects with a prefixed index -/

namespace PrefixedWriteIterator

variable {M : Type} {it it' : PrefixedWriteIterator M} {w w₁ w₂ : HeaderWriter}
  {lead objects : List UInt8}

/-- An object behind its index. -/
def entryBytes (it : PrefixedWriteIterator M) (index : Nat) (value : M) : List UInt8 :=
  it.indexType.encode index ++ it.serializer.write value

/-- **A header at work**: from `w` on, the bytes of the header (`lead`), a hole for the count,
    and the objects so far. -/
structure Open (it : PrefixedWriteIterator M) (w : HeaderWriter) (lead objects : List UInt8)
    (w₁ : HeaderWriter) : Prop where
  appends : ∃ hole, hole.length = it.indexType.size ∧ Appends w (lead ++ (hole ++ objects)) w₁
  countPosition : it.countPosition = w.position + lead.length

variable {serializer : DNP3Serializer M} {indexType : IndexType} {qc : QualifierCode}
  {ctoID : GroupVariationID}

/-- Beginning a header leaves room for one object. -/
theorem open_start (hfits : w.position ≤ w.buffer.length)
    (hstart : start? w indexType qc serializer = (some it, w₁)) :
    it.indexType = indexType ∧ it.serializer = serializer ∧ it.count = 0 ∧
      it.Open w (headerBytes serializer.id qc) [] w₁ ∧
      serializer.size + indexType.size ≤ w₁.remaining := by
  unfold start? at hstart
  split at hstart
  · cases hstart
  · rename_i w' hheader
    cases hstart
    obtain ⟨happends, hroom⟩ := HeaderWriter.writeHeaderWithReserve_eq_some hfits hheader
    obtain ⟨hole, hlength, hskip⟩ :=
      Appends.skip (n := indexType.size) happends.fits (by omega)
    have hremaining := hskip.remaining
    refine ⟨rfl, rfl, rfl, ⟨⟨hole, hlength, ?_⟩, happends.position⟩, ?_⟩
    · rw [List.append_nil]
      exact happends.trans hskip
    · omega

/-- A header that does not fit leaves the buffer alone. -/
theorem start_none (hstart : start? w indexType qc serializer = (none, w₁)) : w₁ = w := by
  unfold start? at hstart
  split at hstart
  · cases hstart
    rfl
  · cases hstart

theorem start_isSome (qc : QualifierCode)
    (hroom : 3 + (2 * indexType.size + serializer.size) ≤ w.remaining) :
    ((start? w indexType qc serializer).1).isSome = true := by
  have hsome := HeaderWriter.writeHeaderWithReserve_isSome serializer.id qc hroom
  unfold start?
  split
  · rename_i hnone
    rw [hnone] at hsome
    cases hsome
  · rfl

/-- The same with a common time of occurrence in front. -/
theorem open_startWithCTO {cto : List UInt8} (hfits : w.position ≤ w.buffer.length)
    (hstart : startWithCTO? w indexType qc serializer ctoID cto = (some it, w₁)) :
    it.indexType = indexType ∧ it.serializer = serializer ∧ it.count = 0 ∧
      it.Open w ((headerBytes ctoID .UINT8_CNT ++ (1 :: cto)) ++ headerBytes serializer.id qc)
        [] w₁ ∧
      serializer.size + indexType.size ≤ w₁.remaining := by
  unfold startWithCTO? at hstart
  split at hstart
  · cases hstart
  · rename_i w' hcto
    have happends := HeaderWriter.writeSingleValue_eq_some hfits hcto
    split at hstart
    · rename_i it' w₂ hsecond
      cases hstart
      obtain ⟨hindex, hserializer, hcount, hopen, hroom⟩ := open_start happends.fits hsecond
      obtain ⟨hole, hlength, hmore⟩ := hopen.appends
      refine ⟨hindex, hserializer, hcount, ⟨⟨hole, hlength, ?_⟩, ?_⟩, hroom⟩
      · rw [List.append_assoc]
        exact happends.trans hmore
      · rw [hopen.countPosition, happends.position, Nat.add_assoc, ← List.length_append]
    · cases hstart

/-- The time is taken back when no object fits behind it. -/
theorem startWithCTO_none {cto : List UInt8} (hfits : w.position ≤ w.buffer.length)
    (hstart : startWithCTO? w indexType qc serializer ctoID cto = (none, w₁)) :
    Appends w [] w₁ := by
  unfold startWithCTO? at hstart
  split at hstart
  · cases hstart
    exact .refl hfits
  · rename_i w' hcto
    have happends := HeaderWriter.writeSingleValue_eq_some hfits hcto
    split at hstart
    · cases hstart
    · rename_i w₂ hsecond
      cases hstart
      rw [start_none hsecond]
      have hposition := happends.position_le
      refine ⟨happends.length, rfl, ?_, ?_⟩
      · rw [happends.length]
        exact hfits
      · -- the bytes in front of the position are as before
        have htake := congrArg (List.take w.position) happends.take
        rw [List.take_take, Nat.min_eq_left hposition] at htake
        rw [htake, List.append_nil, List.take_left']
        rw [List.length_take]
        exact Nat.min_eq_left hfits

theorem startWithCTO_isSome {cto : List UInt8} (hfits : w.position ≤ w.buffer.length)
    (hroom : 4 + cto.length + (3 + (2 * indexType.size + serializer.size)) ≤ w.remaining) :
    ((startWithCTO? w indexType qc serializer ctoID cto).1).isSome = true := by
  have hroom₁ : 4 + cto.length ≤ w.remaining := by omega
  have hsome := HeaderWriter.writeSingleValue_isSome ctoID hroom₁
  unfold startWithCTO?
  split
  · rename_i hnone
    rw [hnone] at hsome
    cases hsome
  · rename_i w' hcto
    have hremaining := (HeaderWriter.writeSingleValue_eq_some hfits hcto).remaining
    rw [List.length_append, List.length_cons] at hremaining
    change _ + (3 + (cto.length + 1)) = _ at hremaining
    have hroom₂ : 3 + (2 * indexType.size + serializer.size) ≤ w'.remaining := by omega
    have hsecond := start_isSome qc hroom₂
    split
    · rfl
    · rename_i w₂ hnone
      rw [hnone] at hsecond
      cases hsecond

/-- **One more object.** -/
theorem Open.write (h : it.Open w lead objects w₁) {value : M} {index : Nat}
    (hsize : (it.serializer.write value).length = it.serializer.size)
    (hwrite : it.write w₁ value index = some (it', w₂)) :
    it'.indexType = it.indexType ∧ it'.serializer = it.serializer ∧ it'.count = it.count + 1 ∧
      it'.Open w lead (objects ++ it.entryBytes index value) w₂ := by
  unfold PrefixedWriteIterator.write at hwrite
  split at hwrite
  · cases hwrite
    obtain ⟨hole, hlength, happends⟩ := h.appends
    have hindex := Appends.put (it.indexType.encode index) happends.fits (by
      rw [IndexType.length_encode]
      omega)
    have hremaining := hindex.remaining
    rw [IndexType.length_encode] at hremaining
    have hvalue := Appends.put (it.serializer.write value) hindex.fits (by
      rw [hsize]
      omega)
    refine ⟨rfl, rfl, rfl, ⟨hole, hlength, ?_⟩, h.countPosition⟩
    have hall := happends.trans (hindex.trans hvalue)
    simp only [List.append_assoc] at hall ⊢
    exact hall
  · cases hwrite

theorem write_isSome (value : M) (index : Nat)
    (hroom : it.serializer.size + it.indexType.size ≤ w₁.remaining) :
    (it.write w₁ value index).isSome = true := by simp [PrefixedWriteIterator.write, if_pos hroom]

/-- **The bytes of a finished header**: the count goes into the hole. -/
theorem Open.finish (h : it.Open w lead objects w₁) :
    Appends w (lead ++ (it.indexType.encode it.count ++ objects)) (it.finish w₁) := by
  obtain ⟨hole, hlength, happends⟩ := h.appends
  unfold PrefixedWriteIterator.finish
  rw [h.countPosition]
  apply happends.patch
  rw [IndexType.length_encode, hlength]

end PrefixedWriteIterator

/-! ## The size of the objects -/

namespace DNP3Serializer

theorem length_counter (id : GroupVariationID) (hasFlags hasTime : Bool) (width : Nat)
    (meas : TypedMeasurement UInt32) :
    ((counter id hasFlags width hasTime).write meas).length =
      (counter id hasFlags width hasTime).size := by
  unfold counter time48
  cases hasFlags <;> cases hasTime <;> simp <;> omega

theorem length_analog (id : GroupVariationID) (hasFlags hasTime : Bool)
    (format : AnalogFormat) (meas : TypedMeasurement Float) :
    ((analog id hasFlags format hasTime).write meas).length =
      (analog id hasFlags format hasTime).size := by
  have hconvert : (format.convert meas.value).1.length = format.size := by
    unfold AnalogFormat.convert
    cases format <;> simp [AnalogFormat.size]
  unfold analog time48
  cases hasFlags <;> cases hasTime <;> simp [hconvert] <;> omega

end DNP3Serializer

end OpenDnp3.App
