import OpenDnp3.Link.Scan

/-!
# The parser performs the reference scan

For every way of cutting a stream into reads, the frames that the parser hands to its sink
are those of the reference scan of the whole stream.

## Proof idea

`pending p t` is what a parser should still deliver when `t` is yet to be received.  A step
of the state machine keeps `pending p t` for every `t` (`step_spec`); pushing a frame takes
the frame off it; receiving bytes moves them from `t` into the buffer.  When the machine
stops, it needs more bytes (`starved_of_stuck`) and nothing in the buffer can be delivered
before they come in (`Starved.pending_nil`).
-/

namespace OpenDnp3.Link.LinkLayerParser

open Lib
open ShiftableBuffer (StartsFrame)

/-! ## Coherent parsers -/

/-- The parser has accepted the header that stands first in its buffer. -/
structure HasHeader (p : LinkLayerParser) : Prop where
  length : 10 ≤ p.buffer.numBytesRead
  valid : validHeader p.buffer.readBuffer = true
  header_eq : p.header = LinkHeader.read p.buffer.readBuffer
  frameSize_eq : p.frameSize = declaredSize p.buffer.readBuffer

/-- What the state says about the buffer. -/
structure Coherent (p : LinkLayerParser) : Prop where
  wellFormed : p.buffer.WellFormed
  readHeader : p.state = .ReadHeader → StartsFrame p.buffer.readBuffer ∧ 1 < p.buffer.numBytesRead
  readBody : p.state = .ReadBody → p.HasHeader
  complete : p.state = .Complete → 10 ≤ p.frameSize ∧ p.frameSize ≤ p.buffer.numBytesRead

/-- What is still to be delivered when `t` is yet to be received.  In state `Complete` the
    front of the buffer may be overwritten already, and the frame is ready. -/
def pending (p : LinkLayerParser) (t : List UInt8) : List Frame :=
  if p.state = .Complete then p.frame :: scan (p.buffer.readBuffer.drop p.frameSize ++ t)
  else scan (p.buffer.readBuffer ++ t)

variable {p : LinkLayerParser}

theorem pending_of_not_complete (h : p.state ≠ .Complete)
    (t : List UInt8) : p.pending t = scan (p.buffer.readBuffer ++ t) := by
  rw [pending, if_neg h]

/-- A parser that searches for the next frame is coherent as soon as its buffer is. -/
theorem coherent_of_findSync (h : p.buffer.WellFormed)
    (hstate : p.state = .FindSync) : p.Coherent where
  wellFormed := h
  readHeader h := by rw [hstate] at h; cases h
  readBody h := by rw [hstate] at h; cases h
  complete h := by rw [hstate] at h; cases h

/-- What a step has to achieve: coherence, the same frames to come, and less work left if
    the state has changed. -/
structure StepOk (p q : LinkLayerParser) : Prop where
  coherent : q.Coherent
  pending_eq : ∀ t, q.pending t = p.pending t
  work_lt : q.state ≠ p.state → q.work < p.work
  bytes_le : q.buffer.numBytesRead ≤ p.buffer.numBytesRead

/-! ## Searching for the start bytes -/

theorem step_findSync (hp : p.Coherent) (hstate : p.state = .FindSync) :
    StepOk p p.step := by
  have hnc : p.state ≠ .Complete := by rw [hstate]; exact ParserState.noConfusion
  by_cases hlen : 10 ≤ p.buffer.numBytesRead
  · obtain ⟨hwf, hle, -, hres⟩ := ShiftableBuffer.syncLoop_spec (fun _ => ()) (fun _ _ _ => rfl)
      p.buffer.numBytesRead p.buffer hp.wellFormed (Nat.le_refl _)
    -- the skipped bytes do not start a frame, so the scan passes over them too
    have hview : ∀ t, scan (p.buffer.sync.2.readBuffer ++ t) =
        scan (p.buffer.readBuffer ++ t) := fun t =>
      (ShiftableBuffer.syncLoop_spec (fun s => scan (s ++ t))
        (fun _ hs hstart => scan_skip t hs hstart)
        p.buffer.numBytesRead p.buffer hp.wellFormed (Nat.le_refl _)).2.2.1
    have hstep : p.step = { p with
        state := if p.buffer.sync.1 then .ReadHeader else .FindSync
        buffer := p.buffer.sync.2 } := by
      simp only [step, parseOneStep, hstate, parseSync, if_pos hlen]
    change p.buffer.sync.2.numBytesRead ≤ _ at hle
    change if p.buffer.sync.1 then _ else _ at hres
    rw [hstep]
    cases hsync : p.buffer.sync.1 with
    | true =>
      rw [hsync, if_pos rfl] at hres
      refine ⟨⟨hwf, fun _ => hres, (fun h => by cases h), (fun h => by cases h)⟩, ?_, ?_, hle⟩
      · intro t
        rw [pending_of_not_complete ParserState.noConfusion, pending_of_not_complete hnc]
        exact hview t
      · intro _
        simp only [work, hstate, ↓reduceIte]
        omega
    | false =>
      refine ⟨coherent_of_findSync hwf rfl, ?_, ?_, hle⟩
      · intro t
        rw [pending_of_not_complete ParserState.noConfusion, pending_of_not_complete hnc]
        exact hview t
      · intro h
        exact absurd hstate.symm h
  · have hstep : p.step = p := by
      simp only [step, parseOneStep, hstate, parseSync, if_neg hlen]
      rw [← hstate]
    rw [hstep]
    exact ⟨hp, fun _ => rfl, fun h => absurd rfl h, Nat.le_refl _⟩

/-! ## Failing a frame -/

/-- The common end of the error paths: give up the byte that started the frame. -/
theorem stepOk_failFrame {p q : LinkLayerParser} (hp : p.Coherent)
    (hstate : p.state = .ReadHeader ∨ p.state = .ReadBody) (hbuf : q.buffer = p.buffer)
    (hlen : 0 < p.buffer.numBytesRead)
    (hscan : ∀ t, scan (p.buffer.readBuffer ++ t) = scan (p.buffer.readBuffer.drop 1 ++ t)) :
    StepOk p { q.failFrame with state := .FindSync } := by
  have hnc : p.state ≠ .Complete := by
    rcases hstate with h | h <;> rw [h] <;> exact ParserState.noConfusion
  have hread : q.failFrame.buffer.readBuffer = p.buffer.readBuffer.drop 1 := by
    rw [failFrame, ShiftableBuffer.readBuffer_advanceRead, hbuf]
  have hnum : q.failFrame.buffer.numBytesRead = p.buffer.numBytesRead - 1 := by
    rw [failFrame, ShiftableBuffer.numBytesRead_advanceRead, hbuf]
  have hwf : q.failFrame.buffer.WellFormed := by
    rw [failFrame, hbuf]
    exact hp.wellFormed.advanceRead hlen
  refine ⟨coherent_of_findSync hwf rfl, ?_, ?_, by simp only [hnum]; omega⟩
  · intro t
    rw [pending_of_not_complete ParserState.noConfusion, pending_of_not_complete hnc]
    simp only [hread, hscan t]
  · intro _
    simp only [work, hnum]
    rcases hstate with h | h <;> rw [h] <;> dsimp only <;> omega

/-! ## Reading the header -/

/-- `readHeader` accepts exactly the valid headers and records what they declare. -/
theorem readHeader_spec (hstart : StartsFrame p.buffer.readBuffer) :
    p.readHeader.1 = validHeader p.buffer.readBuffer ∧
    p.readHeader.2.buffer = p.buffer ∧
    (p.readHeader.1 = true →
      p.readHeader.2.header = LinkHeader.read p.buffer.readBuffer ∧
      p.readHeader.2.frameSize = declaredSize p.buffer.readBuffer) := by
  set s := p.buffer.readBuffer with hs
  have hpayload : ∀ func : LinkFunction,
      (func == .PRI_CONFIRMED_USER_DATA || func == .PRI_UNCONFIRMED_USER_DATA) =
        func.carriesUserData := by
    intro func
    cases func <;> rfl
  have hlenpos : decide (0 < userLength (LinkHeader.read s)) =
      decide (5 < (LinkHeader.read s).length.toNat) := by
    simp only [userLength, LPDU_MIN_LENGTH]
    congr 1
    simp only [eq_iff_iff]
    omega
  have hvalidLength : (LinkHeader.read s).validLength =
      decide (5 ≤ (LinkHeader.read s).length.toNat) := by
    rfl
  have hread : p.readHeader = if CRC.isCorrectCRC s 8 then
      ({ p with header := LinkHeader.read s } : LinkLayerParser).validateHeaderParameters
      else (false, { p with header := LinkHeader.read s }) := by
    simp only [readHeader, LI_CRC, ← hs]
  have hvalid : validHeader s = (CRC.isCorrectCRC s 8 &&
      decide (5 ≤ (LinkHeader.read s).length.toNat) &&
      validateFunctionCode (LinkHeader.read s) &&
      ((LinkHeader.read s).getFuncEnum.carriesUserData ==
        decide (5 < (LinkHeader.read s).length.toNat))) := by
    simp [validHeader, hstart, validateFunctionCode_eq]
  -- both sides are the same conjunction; each conjunct is decided in turn
  rw [hread, hvalid]
  simp only [validateHeaderParameters, hvalidLength, hpayload, hlenpos]
  cases CRC.isCorrectCRC s 8
  · simp
  cases decide (5 ≤ (LinkHeader.read s).length.toNat)
  · simp
  cases validateFunctionCode (LinkHeader.read s)
  · simp
  cases (LinkHeader.read s).getFuncEnum.carriesUserData <;>
    cases decide (5 < (LinkHeader.read s).length.toNat) <;>
    simp [userLength_read, calcFrameSize_declaredLength]

theorem step_readHeader (hp : p.Coherent) (hstate : p.state = .ReadHeader) : StepOk p p.step := by
  have hnc : p.state ≠ .Complete := by rw [hstate]; exact ParserState.noConfusion
  obtain ⟨hstart, hmore⟩ := hp.readHeader hstate
  by_cases hlen : 10 ≤ p.buffer.numBytesRead
  · have hlen' : 10 ≤ p.buffer.readBuffer.length := by
      rw [hp.wellFormed.length_readBuffer]
      exact hlen
    obtain ⟨hok, hbuf, hrec⟩ := readHeader_spec hstart
    cases hvalid : p.readHeader.1 with
    | true =>
      obtain ⟨hheader, hsize⟩ := hrec hvalid
      have hstep : p.step = { p.readHeader.2 with state := .ReadBody } := by
        simp only [step, parseOneStep, hstate, parseHeader, if_pos hlen, hvalid, ↓reduceIte]
      -- a valid header: the body begins where it was
      have hhas : ({ p.readHeader.2 with state := .ReadBody } : LinkLayerParser).HasHeader := by
        refine ⟨?_, ?_, ?_, ?_⟩
        · simp only [hbuf, hlen]
        · simp only [hbuf, ← hok, hvalid]
        · simp only [hbuf, hheader]
        · simp only [hbuf, hsize]
      rw [hstep]
      refine ⟨⟨?_, (fun h => by cases h), fun _ => hhas, (fun h => by cases h)⟩, ?_, ?_, ?_⟩
      · simp only [hbuf, hp.wellFormed]
      · intro t
        rw [pending_of_not_complete ParserState.noConfusion, pending_of_not_complete hnc]
        simp only [hbuf]
      · intro _
        simp only [work, hstate, hbuf]
        omega
      · simp only [hbuf, Nat.le_refl]
    | false =>
      -- an invalid one: the search goes on behind the sync bytes
      have hstep : p.step = { p.readHeader.2.failFrame with state := .FindSync } := by
        simp only [step, parseOneStep, hstate, parseHeader, if_pos hlen, hvalid,
          Bool.false_eq_true, ↓reduceIte]
      rw [hstep]
      exact stepOk_failFrame hp (.inl hstate) hbuf (by omega)
        (fun t => scan_invalid t hlen' (by rw [← hok, hvalid]))
  -- too few bytes for a header: the parser waits
  · have hstep : p.step = p := by
      simp only [step, parseOneStep, hstate, parseHeader, if_neg hlen]
      rw [← hstate]
    rw [hstep]
    exact ⟨hp, fun _ => rfl, fun h => absurd rfl h, Nat.le_refl _⟩

/-! ## The body -/

section Body

variable {p : LinkLayerParser}

theorem HasHeader.userLength_eq (h : p.HasHeader) :
    userLength p.header = declaredLength p.buffer.readBuffer := by
  rw [h.header_eq, userLength_read]

theorem HasHeader.calcUserDataSize_eq (h : p.HasHeader) :
    LPDU_HEADER_SIZE + LinkFrame.calcUserDataSize (declaredLength p.buffer.readBuffer) =
      p.frameSize := by
  rw [h.frameSize_eq, ← calcFrameSize_declaredLength, LinkFrame.calcFrameSize]

theorem validateBody_eq (h : p.HasHeader) :
    p.validateBody = blocksCorrect p.buffer.readBuffer := by
  rw [validateBody, h.userLength_eq, blocksCorrect_eq, LPDU_HEADER_SIZE]

/-- The body in the memory is the body in the unread bytes, followed by other cells. -/
theorem HasHeader.body_append (hwf : p.buffer.WellFormed) (h : p.HasHeader)
    (hsize : p.frameSize ≤ p.buffer.numBytesRead) :
    ∃ cells, p.buffer.pBuffer.drop (p.buffer.readPos + LPDU_HEADER_SIZE) =
        p.buffer.readBuffer.drop LPDU_HEADER_SIZE ++ cells ∧
      LinkFrame.calcUserDataSize (userLength p.header) ≤
        (p.buffer.readBuffer.drop LPDU_HEADER_SIZE).length := by
  have hcalc := h.calcUserDataSize_eq
  refine ⟨(p.buffer.pBuffer.drop (p.buffer.readPos + LPDU_HEADER_SIZE)).drop
    (p.buffer.numBytesRead - LPDU_HEADER_SIZE), ?_, ?_⟩
  · rw [ShiftableBuffer.readBuffer, drop_slice, slice, List.take_append_drop]
  · rw [List.length_drop, hwf.length_readBuffer, h.userLength_eq]
    omega

/-- Extracting the user data overwrites the frame itself at most: the bytes behind it stay. -/
theorem transferUserData_spec (hwf : p.buffer.WellFormed) (h : p.HasHeader)
    (hsize : p.frameSize ≤ p.buffer.numBytesRead) :
    p.transferUserData.buffer.WellFormed ∧
    p.transferUserData.frame = declaredFrame p.buffer.readBuffer ∧
    p.transferUserData.buffer.readBuffer.drop p.frameSize =
      p.buffer.readBuffer.drop p.frameSize := by
  have hrd := hwf.read_le
  have hwr := hwf.write_le
  have hcalc := h.calcUserDataSize_eq
  have hnum : p.buffer.numBytesRead = p.buffer.writePos - p.buffer.readPos := rfl
  -- the user data is moved to the front of the memory, which has been read already
  obtain ⟨hlen, htake, hdrop⟩ := LinkFrame.readUserData_spec
    (declaredLength p.buffer.readBuffer) p.buffer.pBuffer
    (p.buffer.readPos + LPDU_HEADER_SIZE) 0 (Nat.zero_le _) (by omega)
  refine ⟨⟨hrd, ?_, ?_⟩, ?_, ?_⟩
  · simp only [transferUserData, h.userLength_eq, hlen, hwr]
  · simp only [transferUserData, h.userLength_eq, hlen, hwf.size_eq]
  · obtain ⟨cells, hbody, hfits⟩ := h.body_append hwf hsize
    have huser : p.transferUserData.frame.userData =
        (declaredFrame p.buffer.readBuffer).userData := by
      rw [h.userLength_eq] at hfits
      simp only [frame, transferUserData, h.userLength_eq]
      rw [declaredFrame_userData]
      change _ = LinkFrame.userDataOf (p.buffer.readBuffer.drop LPDU_HEADER_SIZE) _
      rw [← (LinkFrame.validateBodyCRC_append _ _ _ hfits).2, ← hbody]
      simpa using htake
    have hfields : p.transferUserData.frame.fields =
        (declaredFrame p.buffer.readBuffer).fields := by
      simp only [frame, transferUserData, declaredFrame, ← h.header_eq]
    exact congrArg₂ Frame.mk hfields huser
  -- the bytes behind the frame are out of its reach
  · have hmem : p.transferUserData.buffer.pBuffer.drop (p.buffer.readPos + p.frameSize) =
        p.buffer.pBuffer.drop (p.buffer.readPos + p.frameSize) := by
      rw [← hcalc, ← Nat.add_assoc]
      simp only [transferUserData, h.userLength_eq]
      exact hdrop
    rw [ShiftableBuffer.readBuffer, ShiftableBuffer.readBuffer, drop_slice, drop_slice, slice, slice]
    exact congrArg (List.take _) hmem

end Body

theorem step_readBody (hp : p.Coherent) (hstate : p.state = .ReadBody) :
    StepOk p p.step := by
  have hnc : p.state ≠ .Complete := by rw [hstate]; exact ParserState.noConfusion
  have hhas := hp.readBody hstate
  have hlen : 10 ≤ p.buffer.readBuffer.length := by
    rw [hp.wellFormed.length_readBuffer]
    exact hhas.length
  by_cases hsize : p.buffer.numBytesRead < p.frameSize
  -- too few bytes for the body: the parser waits
  · have hstep : p.step = p := by
      simp only [step, parseOneStep, hstate, parseBody, if_pos hsize]
      rw [← hstate]
    rw [hstep]
    exact ⟨hp, fun _ => rfl, fun h => absurd rfl h, Nat.le_refl _⟩
  · have hscan := fun t => scan_complete t hlen hhas.valid
      (by rw [hp.wellFormed.length_readBuffer, ← hhas.frameSize_eq]; omega)
    cases hok : p.validateBody with
    | true =>
      have hstep : p.step = { p.transferUserData with state := .Complete } := by
        simp only [step, parseOneStep, hstate, parseBody, if_neg hsize, hok, ↓reduceIte]
      obtain ⟨hwf, hframe, hrest⟩ := transferUserData_spec hp.wellFormed hhas (by omega)
      have hten : 10 ≤ p.frameSize := by
        rw [hhas.frameSize_eq]
        exact ten_le_declaredSize _
      rw [hstep]
      refine ⟨⟨hwf, (fun h => by cases h), (fun h => by cases h), fun _ => ⟨hten, ?_⟩⟩, ?_, ?_, ?_⟩
      · exact Nat.le_of_not_lt hsize
      -- the frame comes first, then whatever the bytes behind it hold
      · intro t
        have hpend : ({ p.transferUserData with state := .Complete } : LinkLayerParser).pending t =
            p.transferUserData.frame ::
              scan (p.transferUserData.buffer.readBuffer.drop p.frameSize ++ t) := rfl
        rw [hpend, hframe, hrest, pending_of_not_complete hnc, hscan t, ← validateBody_eq hhas,
          hok, if_pos rfl, ← hhas.frameSize_eq]
      · intro _
        simp only [work, hstate]
        exact Nat.lt_succ_self _
      · exact Nat.le_refl _
    | false =>
      have hstep : p.step = { p.failFrame with state := .FindSync } := by
        simp only [step, parseOneStep, hstate, parseBody, if_neg hsize, hok,
          Bool.false_eq_true, ↓reduceIte]
      rw [hstep]
      refine stepOk_failFrame hp (.inr hstate) rfl ?_ ?_
      · have := hhas.length
        omega
      · intro t
        rw [hscan t, ← validateBody_eq hhas, hok, if_neg Bool.false_ne_true]

/-! ## The loops -/

/-- **One step of the state machine** keeps what is to be delivered. -/
theorem step_spec (hp : p.Coherent) : StepOk p p.step := by
  cases hstate : p.state with
  | FindSync => exact step_findSync hp hstate
  | ReadHeader => exact step_readHeader hp hstate
  | ReadBody => exact step_readBody hp hstate
  | Complete =>
    have hstep : p.step = p := by
      simp only [step, parseOneStep, hstate]
      rw [← hstate]
    rw [hstep]
    exact ⟨hp, fun _ => rfl, fun h => absurd rfl h, Nat.le_refl _⟩

/-- The parser cannot go on before more bytes come in: too few for a header, or an accepted
    header whose frame is not complete. -/
def Starved (p : LinkLayerParser) : Prop :=
  p.buffer.numBytesRead < 10 ∨ p.HasHeader ∧ p.buffer.numBytesRead < p.frameSize

theorem Starved.pending_nil (h : p.Starved) (hwf : p.buffer.WellFormed)
    (hnc : p.state ≠ .Complete) : p.pending [] = [] := by
  rw [pending_of_not_complete hnc, List.append_nil]
  have hread := hwf.length_readBuffer
  rcases h with hshort | ⟨hhas, hsize⟩
  · exact scan_short (by omega)
  · refine scan_incomplete ?_ hhas.valid ?_
    · rw [hread]
      exact hhas.length
    · rw [hread, ← hhas.frameSize_eq]
      exact hsize

/-- When a step leaves the state as it is, the parser needs more bytes. -/
theorem starved_of_stuck (hp : p.Coherent)
    (hstuck : p.step.state = p.state) (hnc : p.step.state ≠ .Complete) : p.step.Starved := by
  have hbytes := (step_spec hp).bytes_le
  cases hstate : p.state with
  | FindSync =>
    -- either too few bytes came in, or the search has left one byte at most
    by_cases hlen : 10 ≤ p.buffer.numBytesRead
    · have hres := (ShiftableBuffer.syncLoop_spec (fun _ => ()) (fun _ _ _ => rfl)
        p.buffer.numBytesRead p.buffer hp.wellFormed (Nat.le_refl _)).2.2.2
      change if p.buffer.sync.1 then _ else p.buffer.sync.2.numBytesRead ≤ 1 at hres
      cases hsync : p.buffer.sync.1 with
      | true =>
        simp only [step, parseOneStep, hstate, parseSync, if_pos hlen, hsync] at hstuck
        cases hstuck
      | false =>
        rw [hsync, if_neg Bool.false_ne_true] at hres
        have hbuf : p.step.buffer = p.buffer.sync.2 := by
          simp only [step, parseOneStep, hstate, parseSync, if_pos hlen]
        left
        rw [hbuf]
        omega
    · exact .inl (by omega)
  | ReadHeader =>
    by_cases hlen : 10 ≤ p.buffer.numBytesRead
    · cases hvalid : p.readHeader.1 <;>
        simp only [step, parseOneStep, hstate, parseHeader, if_pos hlen, hvalid] at hstuck <;>
        cases hstuck
    · exact .inl (by omega)
  | ReadBody =>
    by_cases hsize : p.buffer.numBytesRead < p.frameSize
    · have hstep : p.step = p := by
        simp only [step, parseOneStep, hstate, parseBody, if_pos hsize]
        rw [← hstate]
      rw [hstep]
      exact .inr ⟨hp.readBody hstate, hsize⟩
    · cases hok : p.validateBody <;>
        simp only [step, parseOneStep, hstate, parseBody, if_neg hsize, hok] at hstuck <;>
        cases hstuck
  | Complete =>
    rw [hstuck] at hnc
    exact absurd hstate hnc

/-- The run of steps: the frames to come are kept, and it ends with a complete frame or for
    want of bytes. -/
theorem parseUntilCompleteLoop_spec (fuel : Nat) (hp : p.Coherent) (hfuel : p.work < fuel) :
    (parseUntilCompleteLoop fuel p).Coherent ∧
    (∀ t, (parseUntilCompleteLoop fuel p).pending t = p.pending t) ∧
    (parseUntilCompleteLoop fuel p).buffer.numBytesRead ≤ p.buffer.numBytesRead ∧
    ((parseUntilCompleteLoop fuel p).state ≠ .Complete →
      (parseUntilCompleteLoop fuel p).Starved) := by
  induction fuel generalizing p with
  | zero => exact absurd hfuel (Nat.not_lt_zero _)
  | succ fuel ih =>
    have hok := step_spec hp
    rw [parseUntilCompleteLoop]
    by_cases hmove : p.step.state ≠ p.state
    · rw [if_pos hmove]
      have hless := hok.work_lt hmove
      obtain ⟨hco, hpend, hbytes, hend⟩ := ih hok.coherent (by omega)
      exact ⟨hco, fun t => (hpend t).trans (hok.pending_eq t), Nat.le_trans hbytes hok.bytes_le, hend⟩
    · rw [if_neg hmove]
      exact ⟨hok.coherent, hok.pending_eq, hok.bytes_le,
        starved_of_stuck hp (not_not.mp hmove)⟩

/-- The loop of `onRead`: the frames it pushes come off those to be delivered, and it ends
    for want of bytes. -/
theorem onReadLoop_spec (fuel : Nat) (hp : p.Coherent) (hfuel : p.buffer.numBytesRead < fuel) :
    (onReadLoop fuel p).1.Coherent ∧ (onReadLoop fuel p).1.state ≠ .Complete ∧
    (∀ t, p.pending t = (onReadLoop fuel p).2 ++ (onReadLoop fuel p).1.pending t) ∧
    (onReadLoop fuel p).1.Starved := by
  induction fuel generalizing p with
  | zero => exact absurd hfuel (Nat.not_lt_zero _)
  | succ fuel ih =>
    obtain ⟨hco, hpend, hbytes, hend⟩ :=
      parseUntilCompleteLoop_spec (p.work + 1) hp (Nat.lt_succ_self _)
    change p.parseUntilComplete.Coherent at hco
    change ∀ t, p.parseUntilComplete.pending t = _ at hpend
    change p.parseUntilComplete.buffer.numBytesRead ≤ _ at hbytes
    simp only [onReadLoop]
    set q := p.parseUntilComplete with hq
    by_cases hcomp : q.state = .Complete
    · obtain ⟨hten, hle⟩ := hco.complete hcomp
      -- the parser after the frame has been pushed
      set q' : LinkLayerParser := { q.pushFrame.2 with state := .FindSync } with hq'
      have hwf' : q'.buffer.WellFormed := hco.wellFormed.advanceRead hle
      have hbytes' : q'.buffer.numBytesRead = q.buffer.numBytesRead - q.frameSize :=
        ShiftableBuffer.numBytesRead_advanceRead _ _
      obtain ⟨hco'', hst'', hpend'', hend''⟩ :=
        ih (coherent_of_findSync hwf' rfl) (by omega)
      have htake : ∀ t, q.pending t = q.frame :: q'.pending t := by
        intro t
        rw [pending, if_pos hcomp, pending_of_not_complete (p := q') ParserState.noConfusion]
        simp only [hq', pushFrame, ShiftableBuffer.readBuffer_advanceRead]
      rw [if_pos hcomp]
      refine ⟨hco'', hst'', ?_, hend''⟩
      intro t
      rw [← hpend t, htake t, hpend'' t]
      rfl
    · rw [if_neg hcomp]
      exact ⟨hco, hcomp, fun t => (hpend t).symm, hend hcomp⟩

/-! ## Reading a stream -/

/-- Between two reads: coherent, and nothing in the buffer can be delivered yet. -/
structure Waiting (p : LinkLayerParser) : Prop where
  coherent : p.Coherent
  not_complete : p.state ≠ .Complete
  pending_nil : p.pending [] = []

/-- Searching for sync with an empty buffer, as after construction or a reset. -/
structure Searching (p : LinkLayerParser) : Prop where
  wellFormed : p.buffer.WellFormed
  findSync : p.state = .FindSync
  empty : p.buffer.readBuffer = []

theorem searching_create : create.Searching where
  wellFormed := ShiftableBuffer.wellFormed_create
  findSync := rfl
  empty := rfl

theorem Searching.pending_eq (h : p.Searching) (t : List UInt8) :
    p.pending t = scan t := by
  rw [pending_of_not_complete (by rw [h.findSync]; exact ParserState.noConfusion), h.empty]
  rfl

theorem Searching.waiting (h : p.Searching) : p.Waiting where
  coherent := coherent_of_findSync h.wellFormed h.findSync
  not_complete := by rw [h.findSync]; exact ParserState.noConfusion
  pending_nil := (h.pending_eq []).trans (scan_short (by decide))

/-- More bytes behind the unread ones do not disturb what the state says. -/
theorem Coherent.receive (hp : p.Coherent) (hnc : p.state ≠ .Complete)
    {data : List UInt8} (hfit : data.length ≤ p.buffer.numWriteBytes) :
    (p.receive data).Coherent ∧ ∀ t, (p.receive data).pending t = p.pending (data ++ t) := by
  have hwf : (p.receive data).buffer.WellFormed := hp.wellFormed.receive hfit
  have hread : (p.receive data).buffer.readBuffer = p.buffer.readBuffer ++ data :=
    hp.wellFormed.readBuffer_receive
  have hnum : (p.receive data).buffer.numBytesRead = p.buffer.numBytesRead + data.length := by
    rw [← hwf.length_readBuffer, hread, List.length_append, hp.wellFormed.length_readBuffer]
  -- what was found in the unread bytes is found there with more of them behind
  refine ⟨⟨hwf, ?_, ?_, fun h => absurd h hnc⟩, ?_⟩
  · intro hstate
    obtain ⟨hstart, hmore⟩ := hp.readHeader hstate
    refine ⟨?_, by omega⟩
    rw [hread]
    refine (startsFrame_append data ?_).mpr hstart
    rw [hp.wellFormed.length_readBuffer]
    exact hmore
  · intro hstate
    have hhas := hp.readBody hstate
    have hlen : 10 ≤ p.buffer.readBuffer.length := by
      rw [hp.wellFormed.length_readBuffer]
      exact hhas.length
    refine ⟨?_, ?_, ?_, ?_⟩
    · rw [hnum]
      exact Nat.le_trans hhas.length (Nat.le_add_right _ _)
    · rw [hread, validHeader_append data hlen]
      exact hhas.valid
    · rw [hread, LinkHeader.read_append data (by simp only [LI_CRC]; omega)]
      exact hhas.header_eq
    · rw [hread, declaredSize_append data hlen]
      exact hhas.frameSize_eq
  · intro t
    have hnc' : (p.receive data).state ≠ .Complete := hnc
    rw [pending_of_not_complete hnc, pending_of_not_complete hnc', hread, List.append_assoc]

/-- Shifting the buffer changes nothing that can be observed. -/
theorem Waiting.shift (hp : p.Waiting) :
    p.shift.Waiting ∧ ∀ t, p.shift.pending t = p.pending t := by
  have hread : p.shift.buffer.readBuffer = p.buffer.readBuffer :=
    hp.coherent.wellFormed.readBuffer_shift
  have hpend : ∀ t, p.shift.pending t = p.pending t := by
    intro t
    have hnc : p.shift.state ≠ .Complete := hp.not_complete
    rw [pending_of_not_complete hp.not_complete, pending_of_not_complete hnc, hread]
  refine ⟨⟨⟨hp.coherent.wellFormed.shift, ?_, ?_, fun h => absurd h hp.not_complete⟩,
    hp.not_complete, (hpend []).trans hp.pending_nil⟩, hpend⟩
  · intro hstate
    rw [hread]
    exact hp.coherent.readHeader hstate
  · intro hstate
    have hhas := hp.coherent.readBody hstate
    refine ⟨hhas.length, ?_, ?_, ?_⟩
    · rw [hread]
      exact hhas.valid
    · rw [hread]
      exact hhas.header_eq
    · rw [hread]
      exact hhas.frameSize_eq

/-- **One read**: the frames pushed are those that the new bytes complete. -/
theorem onRead_spec (hp : p.Waiting) {data : List UInt8}
    (hfit : data.length ≤ p.buffer.numWriteBytes) :
    (p.onRead data).1.Waiting ∧
    ∀ t, p.pending (data ++ t) = (p.onRead data).2 ++ (p.onRead data).1.pending t := by
  obtain ⟨hco, hpend⟩ := hp.coherent.receive hp.not_complete hfit
  obtain ⟨hco', hst', hloop, hend⟩ :=
    onReadLoop_spec ((p.receive data).buffer.numBytesRead + 1) hco (Nat.lt_succ_self _)
  obtain ⟨hwait, hshift⟩ :=
    Waiting.shift ⟨hco', hst', hend.pending_nil hco'.wellFormed hst'⟩
  refine ⟨hwait, fun t => ?_⟩
  rw [← hpend t, hloop t, ← hshift t]
  rfl

/-- Any number of reads. -/
theorem onReads_spec (hp : p.Waiting) {chunks : List (List UInt8)} (hfit : p.Offered chunks) :
    (p.onReads chunks).1.Waiting ∧
    ∀ t, p.pending (chunks.flatten ++ t) =
      (p.onReads chunks).2 ++ (p.onReads chunks).1.pending t := by
  induction chunks generalizing p with
  | nil => exact ⟨hp, fun _ => rfl⟩
  | cons data rest ih =>
    obtain ⟨hfirst, hlater⟩ := hfit
    obtain ⟨hwait, hpend⟩ := onRead_spec hp hfirst
    obtain ⟨hwait', hpend'⟩ := ih hwait hlater
    refine ⟨hwait', fun t => ?_⟩
    rw [List.flatten_cons, List.append_assoc, hpend, hpend', ← List.append_assoc]
    rfl

/-- A parser that searches for sync delivers the reference scan of what it is given. -/
theorem onReads_eq_scan (hp : p.Searching) {chunks : List (List UInt8)} (hfit : p.Offered chunks) :
    (p.onReads chunks).2 = scan chunks.flatten := by
  obtain ⟨hwait, hpend⟩ := onReads_spec hp.waiting hfit
  have h := hpend []
  rw [hwait.pending_nil, List.append_nil, List.append_nil, hp.pending_eq] at h
  exact h.symm

/-- **The parser performs the reference scan**: however a stream is cut into reads, each no
    larger than the space offered for it, the frames handed to the sink are those of the scan
    of the whole stream. -/
theorem frames_eq_scan_of_chunks (p : LinkLayerParser) (hp : p.Searching) (s : List UInt8)
    (chunks : List (List UInt8)) (hsplit : chunks.flatten = s) (hfit : p.Offered chunks) :
    (p.onReads chunks).2 = scan s := by
  rw [← hsplit]
  exact onReads_eq_scan hp hfit

/-- A request for the link status, received in two pieces. -/
theorem frames_eq_scan_of_two_chunks :
    create.Offered [[0x05, 0x64, 0x05, 0xC9], [0x01, 0x00, 0x00, 0x04, 0xA6, 0x57]] ∧
    (create.onReads [[0x05, 0x64, 0x05, 0xC9], [0x01, 0x00, 0x00, 0x04, 0xA6, 0x57]]).2 =
      scan [0x05, 0x64, 0x05, 0xC9, 0x01, 0x00, 0x00, 0x04, 0xA6, 0x57] :=
  have hfit : create.Offered [[0x05, 0x64, 0x05, 0xC9], [0x01, 0x00, 0x00, 0x04, 0xA6, 0x57]] :=
    ⟨by decide +kernel, by decide +kernel, trivial⟩
  ⟨hfit, frames_eq_scan_of_chunks create searching_create _ _ rfl hfit⟩

end OpenDnp3.Link.LinkLayerParser
