import Mathlib.Data.List.Chain
import OpenDnp3.Transport.RoundTrip

/-!
# What a receiver returns

A receiver gets segments of any senders in any order and is reset now and then.  Segments that it
rejects leave the fragment in the buffer alone; segments that are too long and new first segments
discard it.  The run of a receiver is followed here together with the list of the segments that
it has accepted.
-/

namespace OpenDnp3.Transport

open Lib
open Link (Addresses)

/-! ## Segments -/

def Message.header (segment : Message) : TransportHeader := .ofByte (segment.payload.headD 0)

/-- The payload of a segment, without its header. -/
def Message.data (segment : Message) : List UInt8 := segment.payload.tail

/-- **Segments that make up one fragment**: the first one and no other has FIR, the numbers are
    consecutive, and all have the same addresses. -/
structure Fragment (addresses : Addresses) (parts : List Message) : Prop where
  ne_nil : parts ≠ []
  first : ∀ s ∈ parts.head?, s.header.fir = true
  later : ∀ s ∈ parts.tail, s.header.fir = false
  consecutive : List.IsChain (fun a b => b.header.seq = a.header.seq + 1) parts
  addresses_eq : ∀ s ∈ parts, s.addresses = addresses

namespace Fragment

variable {addresses : Addresses} {parts : List Message} {segment : Message}

theorem singleton (hfir : segment.header.fir = true) : Fragment segment.addresses [segment] where
  ne_nil := List.cons_ne_nil _ _
  first := by
    intro s hs
    cases hs
    exact hfir
  later := by
    intro s hs
    cases hs
  consecutive := .singleton _
  addresses_eq := by
    intro s hs
    rw [List.mem_singleton.mp hs]

/-- One more segment. -/
theorem concat (h : Fragment addresses parts) (hfir : segment.header.fir = false)
    (hseq : ∀ s ∈ parts.getLast?, segment.header.seq = s.header.seq + 1)
    (haddresses : segment.addresses = addresses) : Fragment addresses (parts ++ [segment]) where
  ne_nil := List.append_ne_nil_of_left_ne_nil h.ne_nil _
  first := by
    intro s hs
    rw [List.head?_append_of_ne_nil _ h.ne_nil] at hs
    exact h.first s hs
  later := by
    intro s hs
    rw [List.tail_append_of_ne_nil h.ne_nil] at hs
    obtain hs | hs := List.mem_append.mp hs
    · exact h.later s hs
    · rw [List.mem_singleton.mp hs]
      exact hfir
  consecutive := by
    refine List.isChain_append.mpr ⟨h.consecutive, .singleton _, ?_⟩
    intro s hs t ht
    cases ht
    exact hseq s hs
  addresses_eq := by
    intro s hs
    obtain hs | hs := List.mem_append.mp hs
    · exact h.addresses_eq s hs
    · rw [List.mem_singleton.mp hs]
      exact haddresses

end Fragment

/-! ## One segment -/

namespace TransportRx

/-- The segment begins a fragment or goes on with the one that is there. -/
def fitsIn (rx : TransportRx) (segment : Message) : Bool :=
  segment.header.fir || (decide (0 < rx.numBytesRead) && segment.header.seq == rx.expectedSeq &&
    segment.addresses == rx.lastAddresses)

/-- What the segment is appended to: nothing if it begins a fragment. -/
def before (rx : TransportRx) (segment : Message) : TransportRx :=
  if segment.header.fir then rx.reset else rx

/-- The receiver takes the segment into its buffer. -/
def accepts (rx : TransportRx) (segment : Message) : Bool :=
  !segment.payload.isEmpty && rx.fitsIn segment &&
    decide (segment.data.length ≤
      (rx.before segment).rxBuffer.length - (rx.before segment).numBytesRead)

/-- The segment behind what is there. -/
def appended (rx : TransportRx) (segment : Message) : TransportRx where
  rxBuffer := writeAt rx.rxBuffer rx.numBytesRead segment.data
  numBytesRead := rx.numBytesRead + segment.data.length
  lastAddresses := segment.addresses
  expectedSeq := segment.header.seq + 1

variable {rx : TransportRx} {segment : Message}

theorem restart_eq (rx : TransportRx) (segment : Message) :
    rx.restart segment.header.fir = rx.before segment := by
  unfold restart before
  cases segment.header.fir with
  | false => rfl
  | true =>
    rw [Bool.true_and, if_pos rfl]
    split
    · rfl
    · rename_i hpos
      -- nothing to discard
      obtain ⟨rxBuffer, numBytesRead, lastAddresses, expectedSeq⟩ := rx
      have hzero : numBytesRead = 0 := by simpa using hpos
      rw [hzero]
      rfl

theorem processReceive_eq (rx : TransportRx) (hne : segment.payload ≠ []) :
    rx.processReceive segment =
      if rx.fitsIn segment then
        (rx.before segment).accept segment.header segment.addresses segment.data
      else (.empty, rx) := by
  obtain ⟨addresses, payload⟩ := segment
  obtain _ | ⟨byte, data⟩ := payload
  · exact absurd rfl hne
  set segment : Message := ⟨addresses, byte :: data⟩ with hsegment
  -- the three tests of the source in their order, then the append
  have hprocess : rx.processReceive segment =
      if !segment.header.fir && (rx.restart segment.header.fir).numBytesRead == 0 then
        (.empty, rx.restart segment.header.fir)
      else if !segment.header.fir &&
          segment.header.seq != (rx.restart segment.header.fir).expectedSeq then
        (.empty, rx.restart segment.header.fir)
      else if !segment.header.fir &&
          segment.addresses != (rx.restart segment.header.fir).lastAddresses then
        (.empty, rx.restart segment.header.fir)
      else (rx.restart segment.header.fir).accept segment.header segment.addresses
        segment.data := rfl
  rw [hprocess, restart_eq]
  unfold before fitsIn
  cases segment.header.fir with
  | true => rfl
  | false =>
    simp only [Bool.not_false, Bool.true_and, Bool.false_eq_true, ↓reduceIte, Bool.false_or]
    split
    · rw [if_neg]
      simp_all
    · rename_i hpos
      split
      · rw [if_neg]
        simp_all
      · rename_i hseq
        split
        · rw [if_neg]
          simp_all
        · rename_i haddresses
          rw [if_pos]
          simp only [beq_iff_eq, bne_iff_ne, ne_eq, Decidable.not_not] at hpos hseq haddresses
          simp only [hseq, haddresses, Bool.and_eq_true, decide_eq_true_eq, beq_self_eq_true,
            and_true]
          omega

/-- A segment that is not accepted leaves the buffer alone or discards what is in it. -/
theorem processReceive_rejected (h : rx.accepts segment = false) :
    (rx.processReceive segment).1 = .empty ∧
      ((rx.processReceive segment).2 = rx ∨ (rx.processReceive segment).2 = rx.reset) := by
  by_cases hne : segment.payload = []
  · obtain ⟨addresses, payload⟩ := segment
    cases hne
    exact ⟨rfl, .inl rfl⟩
  rw [processReceive_eq rx hne]
  split
  · rename_i hfits
    -- too long
    have hlong : ¬segment.data.length ≤
        (rx.before segment).rxBuffer.length - (rx.before segment).numBytesRead := by
      intro hle
      unfold accepts at h
      rw [hfits, decide_eq_true hle] at h
      simp [hne] at h
    have hdiscard : (rx.before segment).reset = rx.reset := by
      unfold before
      split <;> rfl
    unfold accept
    rw [if_pos (Nat.lt_of_not_le hlong)]
    exact ⟨rfl, .inr hdiscard⟩
  · exact ⟨rfl, .inl rfl⟩

/-- A segment that is accepted is appended, and returned with what is there if it is the last
    one. -/
theorem processReceive_accepted (h : rx.accepts segment = true) :
    rx.processReceive segment =
      if segment.header.fin then
        (⟨segment.addresses, ((rx.before segment).appended segment).rxBuffer.take
          ((rx.before segment).appended segment).numBytesRead⟩,
          ((rx.before segment).appended segment).reset)
      else (.empty, (rx.before segment).appended segment) := by
  unfold accepts at h
  simp only [Bool.and_eq_true, Bool.not_eq_true', List.isEmpty_eq_false_iff,
    decide_eq_true_eq] at h
  obtain ⟨⟨hne, hfits⟩, hroom⟩ := h
  rw [processReceive_eq rx hne, if_pos hfits]
  unfold accept
  rw [if_neg (Nat.not_lt.mpr hroom)]
  rfl

end TransportRx

/-! ## A run -/

/-- What happens to a receiver. -/
inductive RxInput where
  | segment (segment : Message)
  | reset
  deriving DecidableEq, Repr

/-- The segment that is received, if any. -/
def RxInput.segment? : RxInput → Option Message
  | segment s => some s
  | reset => none

/-- A receiver and the segments that it has accepted. -/
structure Receiving where
  rx : TransportRx
  accepted : List Message

namespace Receiving

def create (maxRxFragSize : UInt32) : Receiving := ⟨.create maxRxFragSize, []⟩

def step (r : Receiving) : RxInput → Receiving
  | .segment segment =>
    ⟨(r.rx.processReceive segment).2,
      if r.rx.accepts segment then r.accepted ++ [segment] else r.accepted⟩
  | .reset => ⟨r.rx.reset, r.accepted⟩

/-- **What is in the buffer**: nothing, or the accepted segments from the last first one on. -/
structure Assembling (r : Receiving) (earlier parts : List Message) : Prop where
  accepted_eq : r.accepted = earlier ++ parts
  fragment : Fragment r.rx.lastAddresses parts
  unfinished : ∀ s ∈ parts, s.header.fin = false
  expectedSeq_eq : ∀ s ∈ parts.getLast?, r.rx.expectedSeq = s.header.seq + 1
  holds : r.rx.Holds (parts.flatMap Message.data)

/-- The invariant of a receiver. -/
structure Assembled (maxRxFragSize : UInt32) (r : Receiving) : Prop where
  wellFormed : r.rx.WellFormed maxRxFragSize
  assembling : 0 < r.rx.numBytesRead → ∃ earlier parts, r.Assembling earlier parts

variable {maxRxFragSize : UInt32} {r : Receiving} {segment : Message}

/-- The segments that an accepted segment makes up a fragment with. -/
theorem Assembled.fragment (h : r.Assembled maxRxFragSize)
    (haccepts : r.rx.accepts segment = true) :
    ∃ earlier parts, r.accepted = earlier ++ parts ∧
      Fragment segment.addresses (parts ++ [segment]) ∧ (∀ s ∈ parts, s.header.fin = false) ∧
      (r.rx.before segment).Holds (parts.flatMap Message.data) ∧
      (parts.flatMap Message.data).length + segment.data.length ≤ maxRxFragSize.toNat := by
  have hsize := h.wellFormed.size_eq
  unfold TransportRx.accepts at haccepts
  simp only [Bool.and_eq_true, decide_eq_true_eq] at haccepts
  obtain ⟨⟨-, hfits⟩, hroom⟩ := haccepts
  unfold TransportRx.fitsIn at hfits
  unfold TransportRx.before at hroom ⊢
  cases hfir : segment.header.fir with
  -- FIR starts anew, whatever had arrived before
  | true =>
    rw [hfir] at hroom
    refine ⟨r.accepted, [], (List.append_nil _).symm, .singleton hfir, ?_, ?_, ?_⟩
    · intro s hs
      cases hs
    · exact ⟨rfl, rfl, Nat.zero_le _⟩
    · rw [List.flatMap_nil, List.length_nil, Nat.zero_add, ← hsize]
      exact hroom
  | false =>
    rw [hfir] at hroom hfits
    simp only [Bool.false_or, Bool.and_eq_true, decide_eq_true_eq, beq_iff_eq] at hfits
    obtain ⟨⟨hpos, hseq⟩, haddresses⟩ := hfits
    -- it continues the fragment that is being assembled
    obtain ⟨earlier, parts, hassembling⟩ := h.assembling hpos
    refine ⟨earlier, parts, hassembling.accepted_eq, ?_, hassembling.unfinished,
      hassembling.holds, ?_⟩
    · rw [haddresses]
      refine hassembling.fragment.concat hfir ?_ haddresses
      intro s hs
      rw [hseq, hassembling.expectedSeq_eq s hs]
    · have hnum := hassembling.holds.numBytesRead_eq
      have hle := h.wellFormed.read_le
      change segment.data.length ≤ r.rx.rxBuffer.length - r.rx.numBytesRead at hroom
      omega

/-- The buffer holds the segment behind the others. -/
theorem holds_appended {rx : TransportRx} {soFar : List UInt8} (h : rx.Holds soFar)
    (hroom : soFar.length + segment.data.length ≤ rx.rxBuffer.length) :
    (rx.appended segment).Holds (soFar ++ segment.data) := by
  have hlength : (writeAt rx.rxBuffer rx.numBytesRead segment.data).length =
      rx.rxBuffer.length := length_writeAt (by rw [h.numBytesRead_eq]; exact hroom)
  refine ⟨?_, ?_, ?_⟩
  · change rx.numBytesRead + segment.data.length = _
    rw [h.numBytesRead_eq, List.length_append]
  · change (writeAt rx.rxBuffer rx.numBytesRead segment.data).take _ = _
    rw [List.length_append, h.numBytesRead_eq, take_add_writeAt segment.data h.length_le,
      h.take_eq]
  · change _ ≤ (writeAt rx.rxBuffer rx.numBytesRead segment.data).length
    rw [hlength, List.length_append]
    exact hroom

theorem length_before (rx : TransportRx) (segment : Message) :
    (rx.before segment).rxBuffer.length = rx.rxBuffer.length := by
  unfold TransportRx.before
  split <;> rfl

/-- **One step**: the buffer goes on to hold the accepted segments from the last first one. -/
theorem Assembled.step (h : r.Assembled maxRxFragSize) (input : RxInput) :
    (r.step input).Assembled maxRxFragSize := by
  cases input with
  | reset => exact ⟨h.wellFormed.reset, fun hpos => absurd hpos (Nat.lt_irrefl 0)⟩
  | segment segment =>
    refine ⟨h.wellFormed.processReceive segment, ?_⟩
    intro hpos
    change 0 < (r.rx.processReceive segment).2.numBytesRead at hpos
    cases haccepts : r.rx.accepts segment with
    | false =>
      have hstep : r.step (.segment segment) = ⟨(r.rx.processReceive segment).2, r.accepted⟩ := by
        simp [Receiving.step, haccepts]
      obtain ⟨-, hsame | hreset⟩ := TransportRx.processReceive_rejected haccepts
      · rw [hsame] at hpos
        rw [hstep, hsame]
        exact h.assembling hpos
      · rw [hreset] at hpos
        exact absurd hpos (Nat.lt_irrefl 0)
    | true =>
      have hprocess := TransportRx.processReceive_accepted haccepts
      obtain ⟨earlier, parts, haccepted, hfragment, hunfinished, hholds, hroom⟩ :=
        h.fragment haccepts
      cases hfin : segment.header.fin with
      | true =>
        -- the buffer has been handed on
        rw [hprocess, hfin] at hpos
        exact absurd hpos (Nat.lt_irrefl 0)
      | false =>
        rw [hfin] at hprocess
        have hstep : r.step (.segment segment) =
            ⟨(r.rx.before segment).appended segment, r.accepted ++ [segment]⟩ := by
          simp [Receiving.step, haccepts, hprocess]
        have hbuffer : (parts.flatMap Message.data).length + segment.data.length ≤
            (r.rx.before segment).rxBuffer.length := by
          rw [length_before, h.wellFormed.size_eq]
          exact hroom
        rw [hstep]
        refine ⟨earlier, parts ++ [segment], ?_, hfragment, ?_, ?_, ?_⟩
        · rw [haccepted, List.append_assoc]
        · intro s hs
          obtain hs | hs := List.mem_append.mp hs
          · exact hunfinished s hs
          · rw [List.mem_singleton.mp hs]
            exact hfin
        · intro s hs
          rw [List.getLast?_concat] at hs
          cases hs
          rfl
        · rw [List.flatMap_append, List.flatMap_singleton]
          exact holds_appended hholds hbuffer

theorem assembled_create (maxRxFragSize : UInt32) :
    (create maxRxFragSize).Assembled maxRxFragSize :=
  ⟨TransportRx.Reachable.create.wellFormed, fun hpos => absurd hpos (Nat.lt_irrefl 0)⟩

/-- **A whole run.** -/
theorem assembled_run (maxRxFragSize : UInt32) (inputs : List RxInput) :
    (run step (create maxRxFragSize) inputs).Assembled maxRxFragSize :=
  invariant_run (fun _ input h => h.step input) (assembled_create maxRxFragSize) inputs

/-- Only segments that were received are accepted, each once and in order. -/
theorem accepted_sublist (maxRxFragSize : UInt32) (inputs : List RxInput) :
    (run step (create maxRxFragSize) inputs).accepted.Sublist
      (inputs.filterMap RxInput.segment?) := by
  -- for any receiver, so that the induction can move on to the next one
  have hgeneral : ∀ (r : Receiving) (past : List Message), r.accepted.Sublist past →
      (run step r inputs).accepted.Sublist (past ++ inputs.filterMap RxInput.segment?) := by
    induction inputs with
    | nil =>
      intro r past h
      rw [List.filterMap_nil, List.append_nil]
      exact h
    | cons input inputs ih =>
      intro r past h
      rw [run_cons]
      cases input with
      | reset => exact ih (r.step .reset) past h
      | segment segment =>
        have hstep : (r.step (.segment segment)).accepted.Sublist (past ++ [segment]) := by
          unfold Receiving.step
          dsimp only
          split
          · exact h.append (List.Sublist.refl _)
          · exact h.trans (List.sublist_append_left past [segment])
        have hlater := ih (r.step (.segment segment)) (past ++ [segment]) hstep
        rw [List.append_assoc] at hlater
        exact hlater
  exact hgeneral (create maxRxFragSize) [] (List.Sublist.refl [])

end Receiving

/-- **What a receiver returns is a fragment, and it is whole.**  In every run a message comes only
    from an accepted segment with FIN.  It is put together from this segment and the accepted
    segments before it, back to the last one with FIR: none of them is left out, and none but the
    last has FIN, so that none is part of another message. -/
theorem message_is_fragment (maxRxFragSize : UInt32) (inputs : List RxInput) (segment : Message) :
    let r := run Receiving.step (.create maxRxFragSize) inputs
    let message := (r.rx.processReceive segment).1
    (r.rx.accepts segment = false ∨ segment.header.fin = false → message = .empty) ∧
    (r.rx.accepts segment = true → segment.header.fin = true →
      ∃ earlier parts, r.accepted = earlier ++ parts ∧
        (r.accepted ++ [segment]).Sublist (inputs.filterMap RxInput.segment? ++ [segment]) ∧
        Fragment segment.addresses (parts ++ [segment]) ∧
        (∀ s ∈ parts, s.header.fin = false) ∧
        message = ⟨segment.addresses, (parts ++ [segment]).flatMap Message.data⟩ ∧
        message.payload.length ≤ maxRxFragSize.toNat) := by
  have hassembled := Receiving.assembled_run maxRxFragSize inputs
  have hsublist := Receiving.accepted_sublist maxRxFragSize inputs
  generalize run Receiving.step (.create maxRxFragSize) inputs = r at hassembled hsublist
  refine ⟨?_, fun haccepts hfin => ?_⟩
  · intro hnone
    cases haccepts : r.rx.accepts segment with
    | false => exact (TransportRx.processReceive_rejected haccepts).1
    | true =>
      rw [haccepts] at hnone
      obtain hnone | hnone := hnone
      · cases hnone
      · rw [TransportRx.processReceive_accepted haccepts, hnone]
        rfl
  · obtain ⟨earlier, parts, haccepted, hfragment, hunfinished, hholds, hroom⟩ :=
      hassembled.fragment haccepts
    have hbuffer : (parts.flatMap Message.data).length + segment.data.length ≤
        (r.rx.before segment).rxBuffer.length := by
      rw [Receiving.length_before, hassembled.wellFormed.size_eq]
      exact hroom
    -- the buffer begins with the parts and this segment
    have hall := Receiving.holds_appended hholds hbuffer
    have hmessage : (r.rx.processReceive segment).1 =
        ⟨segment.addresses, (parts ++ [segment]).flatMap Message.data⟩ := by
      rw [TransportRx.processReceive_accepted haccepts, if_pos hfin, List.flatMap_append,
        List.flatMap_singleton, hall.numBytesRead_eq, hall.take_eq]
    refine ⟨earlier, parts, haccepted, hsublist.append (List.Sublist.refl _), hfragment,
      hunfinished, hmessage, ?_⟩
    rw [hmessage]
    rw [List.flatMap_append, List.flatMap_singleton, List.length_append]
    exact hroom

end OpenDnp3.Transport
