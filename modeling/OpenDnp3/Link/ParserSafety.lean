import OpenDnp3.Link.ParserCorrect

/-!
# The parser stays inside its buffer

The model of the parser is total: a position can pass the end of the memory without harm, and
a loop that runs out of fuel just stops.  The functions of this module are those of the model
with what the source relies on checked at its place:

- the assertions of `AdvanceRead` and `AdvanceWrite`;
- every byte read or written lies in the memory;
- the length of the user data does not wrap around;
- each loop comes to its own end.

Where one of these fails the result is `none`.  On coherent parsers a checked function is the
unchecked one (`step?_eq`, `onRead?_eq`), so nothing fails in any run (`onRead_safe`).
-/

namespace OpenDnp3.Link

open Lib
open ShiftableBuffer (StartsFrame)

/-! ## The buffer -/

namespace ShiftableBuffer

def advanceRead? (b : ShiftableBuffer) (numBytes : Nat) : Option ShiftableBuffer :=
  if numBytes ≤ b.numBytesRead then some (b.advanceRead numBytes) else none

def advanceWrite? (b : ShiftableBuffer) (numBytes : Nat) : Option ShiftableBuffer :=
  if numBytes ≤ b.numWriteBytes then some (b.advanceWrite numBytes) else none

/-- The unread bytes are copied, so they have to lie in the memory. -/
def shift? (b : ShiftableBuffer) : Option ShiftableBuffer :=
  if b.readPos + b.numBytesRead ≤ b.pBuffer.length then some b.shift else none

def syncLoop? : Nat → ShiftableBuffer → Option (Bool × ShiftableBuffer)
  | 0, _ => none
  | fuel + 1, b =>
    if 1 < b.numBytesRead then
      if b.readPos + 2 ≤ b.pBuffer.length then
        if StartsFrame b.readBuffer then some (true, b)
        else (b.advanceRead? 1).bind (syncLoop? fuel)
      else none
    else some (false, b)

def sync? (b : ShiftableBuffer) : Option (Bool × ShiftableBuffer) :=
  syncLoop? b.numBytesRead b

variable {b : ShiftableBuffer}

/-- The unread bytes lie in the memory. -/
theorem WellFormed.unread_le (h : b.WellFormed) :
    b.readPos + b.numBytesRead ≤ b.pBuffer.length := by
  have hread := h.read_le
  have hwrite := h.write_le
  simp only [numBytesRead]
  omega

theorem syncLoop?_eq (fuel : Nat) (h : b.WellFormed) (hpos : 0 < b.numBytesRead)
    (hfuel : b.numBytesRead ≤ fuel) : syncLoop? fuel b = some (syncLoop fuel b) := by
  induction fuel generalizing b with
  | zero => exact absurd hpos (by omega)
  | succ fuel ih =>
    rw [syncLoop?, syncLoop]
    by_cases hmore : 1 < b.numBytesRead
    · have hunread := h.unread_le
      rw [if_pos hmore, if_pos hmore, if_pos (by omega)]
      by_cases hstart : StartsFrame b.readBuffer
      · rw [if_pos hstart]
        exact congrArg some (if_pos hstart).symm
      · have hrest := ih (h.advanceRead (Nat.le_of_lt hmore))
          (by rw [numBytesRead_advanceRead]; omega) (by rw [numBytesRead_advanceRead]; omega)
        rw [if_neg hstart, advanceRead?, if_pos (Nat.le_of_lt hmore), Option.bind_some, hrest]
        exact congrArg some (if_neg hstart).symm
    · rw [if_neg hmore, if_neg hmore]

end ShiftableBuffer

/-! ## The body of a frame -/

namespace LinkFrame

def validateBodyCRC? (mem : List UInt8) (pBody length : Nat) : Option Bool :=
  if _h : 0 < length then
    let num := blockSize length
    if pBody + (num + 2) ≤ mem.length then
      if CRC.isCorrectCRC (mem.drop pBody) num then
        validateBodyCRC? mem (pBody + (num + 2)) (length - num)
      else some false
    else none
  else some true
termination_by length
decreasing_by
  exact sub_blockSize_lt _h

def readUserData? (mem : List UInt8) (pRead pWrite length : Nat) : Option (List UInt8) :=
  if _h : 0 < length then
    let num := blockSize length
    let num_with_crc := num + 2
    if pRead + num ≤ mem.length ∧ pWrite + num ≤ mem.length then
      readUserData? (memmove mem pWrite pRead num) (pRead + num_with_crc) (pWrite + num)
        (length - num)
    else none
  else some mem
termination_by length
decreasing_by
  exact sub_blockSize_lt _h

theorem validateBodyCRC?_eq (length : Nat) (mem : List UInt8) (pBody : Nat)
    (hfits : pBody + calcUserDataSize length ≤ mem.length) :
    validateBodyCRC? mem pBody length = some (validateBodyCRC (mem.drop pBody) length) := by
  induction length using Nat.strongRecOn generalizing pBody with
  | ind length ih =>
    rw [validateBodyCRC?, validateBodyCRC]
    by_cases hpos : 0 < length
    · rw [calcUserDataSize_step hpos, ← blockSize_eq] at hfits
      have hrest := ih _ (sub_blockSize_lt hpos) (pBody + (blockSize length + 2)) (by omega)
      simp only [dif_pos hpos, hrest, List.drop_drop]
      rw [if_pos (by omega)]
      split <;> rfl
    · rw [dif_neg hpos, dif_neg hpos]

theorem readUserData?_eq (length : Nat) (mem : List UInt8) (pRead pWrite : Nat)
    (hle : pWrite ≤ pRead) (hfits : pRead + calcUserDataSize length ≤ mem.length) :
    readUserData? mem pRead pWrite length = some (readUserData mem pRead pWrite length) := by
  induction length using Nat.strongRecOn generalizing mem pRead pWrite with
  | ind length ih =>
    rw [readUserData?, readUserData]
    by_cases hpos : 0 < length
    · rw [calcUserDataSize_step hpos, ← blockSize_eq] at hfits
      -- moving a block keeps the size of the memory
      have hmem : (memmove mem pWrite pRead (blockSize length)).length = mem.length := by
        refine length_writeAt ?_
        rw [length_slice (by omega)]
        omega
      have hrest := ih _ (sub_blockSize_lt hpos) (memmove mem pWrite pRead (blockSize length))
        (pRead + (blockSize length + 2)) (pWrite + blockSize length) (by omega) (by omega)
      simp only [dif_pos hpos, hrest]
      rw [if_pos (by omega)]
    · rw [dif_neg hpos, dif_neg hpos]

end LinkFrame

namespace LinkLayerParser

/-! ## The state machine -/

/-- The length of the user data is unsigned in the source and must not go below zero. -/
def validateBody? (p : LinkLayerParser) : Option Bool :=
  if LPDU_MIN_LENGTH ≤ p.header.length.toNat then
    LinkFrame.validateBodyCRC? p.buffer.pBuffer (p.buffer.readPos + LPDU_HEADER_SIZE)
      (userLength p.header)
  else none

def transferUserData? (p : LinkLayerParser) : Option LinkLayerParser :=
  let len := userLength p.header
  (LinkFrame.readUserData? p.buffer.pBuffer (p.buffer.readPos + LPDU_HEADER_SIZE) 0 len).map
    fun mem => { p with userDataLength := len, buffer := { p.buffer with pBuffer := mem } }

def failFrame? (p : LinkLayerParser) : Option LinkLayerParser :=
  (p.buffer.advanceRead? 1).map fun buffer => { p with buffer := buffer }

def pushFrame? (p : LinkLayerParser) : Option (Frame × LinkLayerParser) :=
  (p.buffer.advanceRead? p.frameSize).map fun buffer => (p.frame, { p with buffer := buffer })

def parseSync? (p : LinkLayerParser) : Option (ParserState × LinkLayerParser) :=
  if 10 ≤ p.buffer.numBytesRead then
    p.buffer.sync?.map fun (synced, buffer) =>
      (if synced then .ReadHeader else .FindSync, { p with buffer := buffer })
  else some (.FindSync, p)

def parseHeader? (p : LinkLayerParser) : Option (ParserState × LinkLayerParser) :=
  if 10 ≤ p.buffer.numBytesRead then
    -- the header is read together with its CRC
    if p.buffer.readPos + LPDU_HEADER_SIZE ≤ p.buffer.pBuffer.length then
      let (ok, p) := p.readHeader
      if ok then some (.ReadBody, p) else p.failFrame?.map fun p => (.FindSync, p)
    else none
  else some (.ReadHeader, p)

def parseBody? (p : LinkLayerParser) : Option (ParserState × LinkLayerParser) :=
  if p.buffer.numBytesRead < p.frameSize then some (.ReadBody, p)
  else p.validateBody?.bind fun ok =>
    if ok then p.transferUserData?.map fun p => (.Complete, p)
    else p.failFrame?.map fun p => (.FindSync, p)

def parseOneStep? (p : LinkLayerParser) : Option (ParserState × LinkLayerParser) :=
  match p.state with
  | .FindSync => p.parseSync?
  | .ReadHeader => p.parseHeader?
  | .ReadBody => p.parseBody?
  | .Complete => some (p.state, p)

def step? (p : LinkLayerParser) : Option LinkLayerParser :=
  p.parseOneStep?.map fun (state, p) => { p with state := state }

def parseUntilCompleteLoop? : Nat → LinkLayerParser → Option LinkLayerParser
  | 0, _ => none
  | fuel + 1, p =>
    p.step?.bind fun q => if q.state ≠ p.state then parseUntilCompleteLoop? fuel q else some q

def parseUntilComplete? (p : LinkLayerParser) : Option LinkLayerParser :=
  parseUntilCompleteLoop? (p.work + 1) p

def onReadLoop? : Nat → LinkLayerParser → Option (LinkLayerParser × List Frame)
  | 0, _ => none
  | fuel + 1, p =>
    p.parseUntilComplete?.bind fun p =>
      if p.state = .Complete then
        p.pushFrame?.bind fun (frame, p) =>
          (onReadLoop? fuel { p with state := .FindSync }).map fun (p, frames) =>
            (p, frame :: frames)
      else some (p, [])

/-- `onRead` with everything checked. -/
def onRead? (p : LinkLayerParser) (data : List UInt8) : Option (LinkLayerParser × List Frame) :=
  ((p.buffer.fill data).advanceWrite? data.length).bind fun buffer =>
    let p := { p with buffer := buffer }
    (onReadLoop? (p.buffer.numBytesRead + 1) p).bind fun (p, frames) =>
      p.buffer.shift?.map fun buffer => ({ p with buffer := buffer }, frames)

/-! ## One step -/

variable {p : LinkLayerParser}

theorem failFrame?_eq (h : 0 < p.buffer.numBytesRead) : p.failFrame? = some p.failFrame := by
  rw [failFrame?, ShiftableBuffer.advanceRead?, if_pos (Nat.succ_le_of_lt h)]
  rfl

/-- The body of an accepted header that is there as a whole lies in the memory. -/
theorem HasHeader.body_le (h : p.HasHeader) (hwf : p.buffer.WellFormed)
    (hsize : p.frameSize ≤ p.buffer.numBytesRead) :
    p.buffer.readPos + LPDU_HEADER_SIZE + LinkFrame.calcUserDataSize (userLength p.header) ≤
      p.buffer.pBuffer.length := by
  have hcalc := h.calcUserDataSize_eq
  have hunread := hwf.unread_le
  rw [h.userLength_eq]
  omega

theorem validateBody?_eq (hwf : p.buffer.WellFormed) (h : p.HasHeader)
    (hsize : p.frameSize ≤ p.buffer.numBytesRead) : p.validateBody? = some p.validateBody := by
  have hmin : LPDU_MIN_LENGTH ≤ p.header.length.toNat := by
    have hvalid := h.valid
    simp only [validHeader, Bool.and_eq_true, decide_eq_true_eq, ← h.header_eq] at hvalid
    exact hvalid.1.1.2
  -- the bytes behind the unread ones are not looked at
  obtain ⟨cells, hbody, hfits⟩ := h.body_append hwf hsize
  rw [validateBody?, if_pos hmin, LinkFrame.validateBodyCRC?_eq _ _ _ (h.body_le hwf hsize),
    hbody, (LinkFrame.validateBodyCRC_append _ _ _ hfits).1, validateBody]

theorem transferUserData?_eq (hwf : p.buffer.WellFormed) (h : p.HasHeader)
    (hsize : p.frameSize ≤ p.buffer.numBytesRead) :
    p.transferUserData? = some p.transferUserData := by
  rw [transferUserData?, LinkFrame.readUserData?_eq _ _ _ _ (Nat.zero_le _) (h.body_le hwf hsize)]
  rfl

/-- **One step of the state machine** fails no check. -/
theorem step?_eq (hp : p.Coherent) : p.step? = some p.step := by
  have hunread := hp.wellFormed.unread_le
  simp only [step?, step, parseOneStep?, parseOneStep]
  cases hstate : p.state with
  | FindSync =>
    simp only [parseSync?, parseSync]
    by_cases hlen : 10 ≤ p.buffer.numBytesRead
    · have hsync : p.buffer.sync? = some p.buffer.sync :=
        ShiftableBuffer.syncLoop?_eq _ hp.wellFormed (by omega) (Nat.le_refl _)
      rw [if_pos hlen, if_pos hlen, hsync]
      rfl
    · rw [if_neg hlen, if_neg hlen]
      rfl
  -- skipping the sync bytes is in range because ten bytes were read
  | ReadHeader =>
    simp only [parseHeader?, parseHeader]
    by_cases hlen : 10 ≤ p.buffer.numBytesRead
    · have hbuf := (readHeader_spec (hp.readHeader hstate).1).2.1
      rw [if_pos hlen, if_pos hlen, if_pos (by simp only [LPDU_HEADER_SIZE]; omega)]
      cases hok : p.readHeader.1 with
      | true => rfl
      | false =>
        rw [failFrame?_eq (by rw [hbuf]; omega)]
        rfl
    · rw [if_neg hlen, if_neg hlen]
      rfl
  | ReadBody =>
    have hhas := hp.readBody hstate
    simp only [parseBody?, parseBody]
    by_cases hsize : p.buffer.numBytesRead < p.frameSize
    · rw [if_pos hsize, if_pos hsize]
      rfl
    · have hcomplete := Nat.le_of_not_lt hsize
      rw [if_neg hsize, if_neg hsize, validateBody?_eq hp.wellFormed hhas hcomplete,
        Option.bind_some]
      cases hok : p.validateBody with
      | true =>
        rw [transferUserData?_eq hp.wellFormed hhas hcomplete]
        rfl
      | false =>
        have hlen := hhas.length
        rw [failFrame?_eq (by omega)]
        rfl
  | Complete => rfl

/-! ## The loops -/

/-- The fuel is enough because the work left goes down with every change of state. -/
theorem parseUntilCompleteLoop?_eq (fuel : Nat) (hp : p.Coherent) (hfuel : p.work < fuel) :
    parseUntilCompleteLoop? fuel p = some (parseUntilCompleteLoop fuel p) := by
  induction fuel generalizing p with
  | zero => exact absurd hfuel (Nat.not_lt_zero _)
  | succ fuel ih =>
    have hok := step_spec hp
    rw [parseUntilCompleteLoop?, parseUntilCompleteLoop, step?_eq hp, Option.bind_some]
    by_cases hmove : p.step.state ≠ p.state
    · have hless := hok.work_lt hmove
      rw [if_pos hmove, if_pos hmove]
      exact ih hok.coherent (by omega)
    · rw [if_neg hmove, if_neg hmove]

/-- Each frame pushed takes ten bytes at least off the unread ones. -/
theorem onReadLoop?_eq (fuel : Nat) (hp : p.Coherent) (hfuel : p.buffer.numBytesRead < fuel) :
    onReadLoop? fuel p = some (onReadLoop fuel p) := by
  induction fuel generalizing p with
  | zero => exact absurd hfuel (Nat.not_lt_zero _)
  | succ fuel ih =>
    obtain ⟨hco, -, hbytes, -⟩ :=
      parseUntilCompleteLoop_spec (p.work + 1) hp (Nat.lt_succ_self _)
    change p.parseUntilComplete.Coherent at hco
    change p.parseUntilComplete.buffer.numBytesRead ≤ _ at hbytes
    have hparse : p.parseUntilComplete? = some p.parseUntilComplete :=
      parseUntilCompleteLoop?_eq _ hp (Nat.lt_succ_self _)
    simp only [onReadLoop?, onReadLoop, hparse, Option.bind_some]
    by_cases hcomp : p.parseUntilComplete.state = .Complete
    · obtain ⟨hten, hle⟩ := hco.complete hcomp
      have hpush : p.parseUntilComplete.pushFrame? = some p.parseUntilComplete.pushFrame := by
        rw [pushFrame?, ShiftableBuffer.advanceRead?, if_pos hle]
        rfl
      have hrest := ih (p := { p.parseUntilComplete.pushFrame.2 with state := .FindSync })
        (coherent_of_findSync (hco.wellFormed.advanceRead hle) rfl)
        (by simp only [pushFrame, ShiftableBuffer.numBytesRead_advanceRead]; omega)
      rw [if_pos hcomp, if_pos hcomp, hpush, Option.bind_some, hrest]
      rfl
    · rw [if_neg hcomp, if_neg hcomp]

/-! ## Reading -/

theorem declaredSize_le (s : List UInt8) : declaredSize s ≤ LPDU_MAX_FRAME_SIZE := by
  have hbyte := (LinkHeader.read s).length.toNat_lt
  simp only [declaredSize, declaredLength, blockCount, LPDU_MAX_FRAME_SIZE]
  omega

/-- The longest frame just fits, so a parser that needs more bytes has room for them. -/
theorem Starved.bytes_lt (h : p.Starved) : p.buffer.numBytesRead < LPDU_MAX_FRAME_SIZE := by
  rcases h with hshort | ⟨hhas, hsize⟩
  · simp only [LPDU_MAX_FRAME_SIZE]
    omega
  · have hdeclared := declaredSize_le p.buffer.readBuffer
    rw [← hhas.frameSize_eq] at hdeclared
    omega

/-- **One read** that fits fails no check and leaves room for the next. -/
theorem onRead?_eq (hp : p.Waiting) {data : List UInt8}
    (hfit : data.length ≤ p.buffer.numWriteBytes) :
    p.onRead? data = some (p.onRead data) ∧ 0 < (p.onRead data).1.buffer.numWriteBytes := by
  obtain ⟨hco, -⟩ := hp.coherent.receive hp.not_complete hfit
  obtain ⟨hco', -, -, hstarved⟩ :=
    onReadLoop_spec ((p.receive data).buffer.numBytesRead + 1) hco (Nat.lt_succ_self _)
  -- the bytes that were read fit into what had been offered
  have hwrite : (p.buffer.fill data).advanceWrite? data.length =
      some (p.receive data).buffer := by
    have hsize : (p.buffer.fill data).pBuffer.length = p.buffer.pBuffer.length :=
      hco.wellFormed.size_eq.trans hp.coherent.wellFormed.size_eq.symm
    refine if_pos ?_
    rw [ShiftableBuffer.numWriteBytes, hsize]
    exact hfit
  have hloop := onReadLoop?_eq _ hco (Nat.lt_succ_self _)
  refine ⟨?_, ?_⟩
  · rw [onRead?, hwrite, Option.bind_some]
    change (onReadLoop? ((p.receive data).buffer.numBytesRead + 1) (p.receive data)).bind _ = _
    rw [hloop, Option.bind_some]
    simp only [ShiftableBuffer.shift?, if_pos hco'.wellFormed.unread_le]
    rfl
  -- the parser stops with less than a whole frame, so there is room for more
  · have hroom := hstarved.bytes_lt
    have hsize := hco'.wellFormed.shift.size_eq
    have hend : (p.onRead data).1.buffer = (onReadLoop ((p.receive data).buffer.numBytesRead + 1)
        (p.receive data)).1.buffer.shift := rfl
    rw [hend, ShiftableBuffer.numWriteBytes, hsize]
    exact Nat.sub_pos_of_lt hroom

/-- **Safe reception**: in every sequence of reads, each at most as large as the space offered
    for it, no read fails a check, and between the reads the positions are in order and inside
    the memory of 292 bytes, with room for more. -/
theorem onRead_safe (chunks : List (List UInt8)) (hfit : create.Offered chunks) :
    Along (fun p data => (p.onRead data).1)
      (fun p data => p.onRead? data = some (p.onRead data)) create chunks ∧
    Always (fun p data => (p.onRead data).1)
      (fun p => p.buffer.readPos ≤ p.buffer.writePos ∧
        p.buffer.writePos ≤ LPDU_MAX_FRAME_SIZE ∧
        p.buffer.pBuffer.length = LPDU_MAX_FRAME_SIZE ∧
        0 < p.buffer.numWriteBytes) create chunks := by
  have hstep : ∀ (p : LinkLayerParser) (data : List UInt8),
      (p.Waiting ∧ 0 < p.buffer.numWriteBytes) → data.length ≤ p.buffer.numWriteBytes →
      (p.onRead data).1.Waiting ∧ 0 < (p.onRead data).1.buffer.numWriteBytes :=
    fun _ _ hp hdata => ⟨(onRead_spec hp.1 hdata).1, (onRead?_eq hp.1 hdata).2⟩
  have hcreate : create.Waiting ∧ 0 < create.buffer.numWriteBytes :=
    ⟨searching_create.waiting, by decide +kernel⟩
  refine ⟨along_of_step hstep (fun _ _ hp hdata => (onRead?_eq hp.1 hdata).1) hcreate hfit,
    (always_of_step hstep hcreate hfit).mono ?_⟩
  rintro p ⟨hwait, hroom⟩
  have hwf := hwait.coherent.wellFormed
  have hwrite := hwf.write_le
  rw [hwf.size_eq] at hwrite
  exact ⟨hwf.read_le, hwrite, hwf.size_eq, hroom⟩

/-- Noise and the first bytes of a frame in one read, the rest of the frame in the next. -/
theorem onRead_safe_two_chunks :
    create.onRead? [0xFF, 0x05, 0x64, 0x05, 0xC9] =
      some (create.onRead [0xFF, 0x05, 0x64, 0x05, 0xC9]) ∧
    0 < (create.onRead [0xFF, 0x05, 0x64, 0x05, 0xC9]).1.buffer.numWriteBytes :=
  have hsafe := onRead_safe
    [[0xFF, 0x05, 0x64, 0x05, 0xC9], [0x01, 0x00, 0x00, 0x04, 0xA6, 0x57]]
    ⟨by decide +kernel, by decide +kernel, trivial⟩
  ⟨hsafe.1.1, hsafe.2.2.1.2.2.2⟩

end LinkLayerParser

end OpenDnp3.Link
