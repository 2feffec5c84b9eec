import OpenDnp3.Link.FrameRoundTrip
import OpenDnp3.Transport.Transport

/-!
# From one transport function to the other

A fragment that is segmented, framed, sent as a stream of bytes, parsed and reassembled
arrives as it was sent: `apdu_arrives`.  The pieces:

- `segments_eq_cut`: the sender produces the segments of `cut`;
- `scan_frames`: the reference scan finds the frames they travel in;
- `processReceives_cut`: the receiver reassembles the segments of `cut`, whatever it had
  received before.
-/

namespace OpenDnp3.Transport

open Lib
open Link

/-! ## The segments of a payload -/

/-- The segments of `payload`, the first one with sequence number `seq`. -/
def cut (fir : Bool) (seq : Fin 64) (payload : List UInt8) : List (List UInt8) :=
  if payload.length ≤ 249 then [TransportHeader.toByte fir true seq :: payload]
  else
    (TransportHeader.toByte fir false seq :: payload.take 249) ::
      cut false (seq + 1) (payload.drop 249)
termination_by payload.length
decreasing_by
  rw [List.length_drop]
  omega

variable (fir : Bool) (seq : Fin 64)

theorem cut_last {payload : List UInt8} (h : payload.length ≤ 249) :
    cut fir seq payload = [TransportHeader.toByte fir true seq :: payload] := by
  rw [cut, if_pos h]

theorem cut_more {payload : List UInt8} (h : 249 < payload.length) :
    cut fir seq payload =
      (TransportHeader.toByte fir false seq :: payload.take 249) ::
        cut false (seq + 1) (payload.drop 249) := by
  rw [cut, if_neg (Nat.not_le_of_lt h)]

theorem cut_ne_nil (payload : List UInt8) : cut fir seq payload ≠ [] := by
  rcases Nat.lt_or_ge 249 payload.length with h | h
  · rw [cut_more fir seq h]
    exact List.cons_ne_nil _ _
  · rw [cut_last fir seq h]
    exact List.cons_ne_nil _ _

/-- Every segment fits a link frame. -/
theorem length_le_of_mem_cut (payload : List UInt8) :
    ∀ segment ∈ cut fir seq payload,
      0 < segment.length ∧ segment.length ≤ LPDU_MAX_USER_DATA_SIZE := by
  induction hn : payload.length using Nat.strongRecOn generalizing fir seq payload with
  | ind n ih =>
    intro segment hmem
    simp only [LPDU_MAX_USER_DATA_SIZE]
    rcases Nat.lt_or_ge 249 payload.length with h | h
    · rw [cut_more fir seq h, List.mem_cons] at hmem
      rcases hmem with rfl | hmem
      · rw [List.length_cons, List.length_take]
        omega
      · exact ih _ (by rw [List.length_drop]; omega) _ _ _ rfl segment hmem
    · rw [cut_last fir seq h, List.mem_singleton] at hmem
      subst hmem
      rw [List.length_cons]
      omega

/-! ## The sender -/

namespace TransportTx

/-- One round of the sender: the next segment, and whether there is another one. -/
theorem getSegment_advance {tx : TransportTx} (hnone : tx.txSegment = none) :
    tx.getSegment.1 =
      TransportHeader.toByte (tx.tpduCount == 0) (decide (tx.message.payload.length ≤ 249))
        tx.sequence :: tx.message.payload.take 249 ∧
    tx.getSegment.2.advance.1 = decide (249 < tx.message.payload.length) ∧
    tx.getSegment.2.advance.2 =
      { message := { tx.message with payload := tx.message.payload.drop 249 }
        txSegment := none
        sequence := tx.sequence + 1
        tpduCount := tx.tpduCount + 1 } := by
  have hnum : tx.numToSend = min tx.message.payload.length 249 := by
    rw [numToSend]
    split <;> simp only [MAX_TPDU_PAYLOAD] at * <;> omega
  have htake : tx.message.payload.take tx.numToSend = tx.message.payload.take 249 := by
    rw [hnum, Nat.min_comm, ← List.take_take, List.take_length]
  have hdrop : tx.message.payload.drop tx.numToSend = tx.message.payload.drop 249 := by
    rcases Nat.lt_or_ge 249 tx.message.payload.length with h | h
    · rw [hnum, Nat.min_eq_right (Nat.le_of_lt h)]
    · rw [hnum, Nat.min_eq_left h, List.drop_length, List.drop_eq_nil_of_le h]
  have hget : tx.getSegment = (TransportHeader.toByte (tx.tpduCount == 0)
      (tx.numToSend == tx.message.payload.length) tx.sequence ::
        tx.message.payload.take tx.numToSend,
      { tx with txSegment := some (TransportHeader.toByte (tx.tpduCount == 0)
        (tx.numToSend == tx.message.payload.length) tx.sequence ::
          tx.message.payload.take tx.numToSend) }) := by
    simp only [getSegment, hnone]
  -- FIN is set when the rest of the message fits
  have hfin : (tx.numToSend == tx.message.payload.length) =
      decide (tx.message.payload.length ≤ 249) := by
    rw [hnum, beq_eq_decide]
    congr 1
    simp only [eq_iff_iff]
    omega
  rw [hget]
  refine ⟨by rw [hfin, htake], ?_, ?_⟩
  · change (!(tx.message.payload.drop tx.numToSend).isEmpty) = _
    rw [hdrop]
    rcases Nat.lt_or_ge 249 tx.message.payload.length with h | h
    · have hne : tx.message.payload.drop 249 ≠ [] := by
        rw [Ne, List.drop_eq_nil_iff]
        omega
      rw [decide_eq_true h, Bool.not_eq_true', List.isEmpty_eq_false_iff]
      exact hne
    · rw [List.drop_eq_nil_of_le h, decide_eq_false (Nat.not_lt_of_le h)]
      rfl
  · change TransportTx.mk { tx.message with payload := tx.message.payload.drop tx.numToSend }
      _ _ _ = _
    rw [hdrop]

/-- The sender's segments are those of `cut`, as long as the 32-bit counter does not wrap. -/
theorem segments_eq_cut (fuel : Nat) {tx : TransportTx} (hnone : tx.txSegment = none)
    (hpos : 0 < tx.message.payload.length) (hfuel : tx.message.payload.length ≤ fuel)
    (hcount : tx.tpduCount.toNat + tx.message.payload.length ≤ 2 ^ 32) :
    tx.segments fuel = cut (tx.tpduCount == 0) tx.sequence tx.message.payload := by
  induction fuel generalizing tx with
  | zero => omega
  | succ fuel ih =>
    obtain ⟨hseg, hmore, hnext⟩ := getSegment_advance hnone
    simp only [segments, hseg, hmore, hnext]
    rcases Nat.lt_or_ge 249 tx.message.payload.length with h | h
    · rw [cut_more _ _ h, decide_eq_false (Nat.not_le_of_lt h), decide_eq_true h, if_pos rfl]
      -- a segment has gone out, so the next one is not the first
      have hsucc : (tx.tpduCount + 1).toNat = tx.tpduCount.toNat + 1 := by
        rw [UInt32.toNat_add]
        refine Nat.mod_eq_of_lt ?_
        change tx.tpduCount.toNat + 1 < 2 ^ 32
        omega
      have hfir : (tx.tpduCount + 1 == 0) = false := by
        rw [beq_eq_false_iff_ne]
        intro h0
        rw [h0] at hsucc
        cases hsucc
      rw [ih rfl (by simp only [List.length_drop]; omega) (by simp only [List.length_drop]; omega)
        (by simp only [List.length_drop, hsucc]; omega), hfir]
    · rw [cut_last _ _ h, decide_eq_true h, decide_eq_false (Nat.not_lt_of_le h),
        if_neg Bool.false_ne_true, List.take_of_length_le h]

end TransportTx

/-! ## The stream -/

/-- A segment framed for the link. -/
def frameSegment (isMaster : Bool) (addresses : Addresses) (segment : List UInt8) : List UInt8 :=
  LinkFrame.formatUnconfirmedUserData isMaster addresses.destination addresses.source segment

/-- The message that the link layer passes up for a frame with user data. -/
def pushDataUp (frame : Frame) : Message where
  addresses := frame.fields.addresses
  payload := frame.userData

/-- The scan of a sequence of frames finds one frame for each segment. -/
theorem scan_frames (isMaster : Bool) (addresses : Addresses) (segments : List (List UInt8))
    (h : ∀ segment ∈ segments, 0 < segment.length ∧ segment.length ≤ LPDU_MAX_USER_DATA_SIZE) :
    (scan (segments.map (frameSegment isMaster addresses)).flatten).map pushDataUp =
      segments.map fun segment => { addresses := addresses, payload := segment } := by
  induction segments with
  | nil =>
    rw [List.map_nil, List.flatten_nil, scan_short (by decide)]
    rfl
  | cons segment rest ih =>
    obtain ⟨hpos, hlen⟩ := h segment (List.mem_cons_self ..)
    rw [List.map_cons, List.flatten_cons, frameSegment,
      scan_formatUnconfirmedUserData isMaster _ _ hpos hlen, List.map_cons, List.map_cons,
      ih fun s hs => h s (List.mem_cons_of_mem _ hs)]
    rfl

/-! ## The receiver -/

namespace TransportRx

/-- The bytes received so far of the fragment being put together. -/
structure Holds (rx : TransportRx) (soFar : List UInt8) : Prop where
  numBytesRead_eq : rx.numBytesRead = soFar.length
  take_eq : rx.rxBuffer.take soFar.length = soFar
  length_le : soFar.length ≤ rx.rxBuffer.length

/-- The receiver takes a segment with this header from these addresses. -/
def Expects (rx : TransportRx) (fir : Bool) (seq : Fin 64) (addresses : Addresses) : Prop :=
  fir = false → 0 < rx.numBytesRead ∧ rx.expectedSeq = seq ∧ rx.lastAddresses = addresses

variable (rx : TransportRx)

theorem restart_false : rx.restart false = rx := by
  rw [restart, Bool.false_and, if_neg Bool.false_ne_true]

/-- A first segment starts from nothing, whatever was there. -/
theorem holds_restart_true : (rx.restart true).Holds [] := by
  refine ⟨?_, rfl, Nat.zero_le _⟩
  rw [restart, Bool.true_and]
  split
  · rfl
  · next h =>
    rw [decide_eq_true_eq] at h
    rw [List.length_nil]
    omega

theorem length_restart (fir : Bool) : (rx.restart fir).rxBuffer.length = rx.rxBuffer.length := by
  rw [restart]
  split <;> rfl

theorem processReceive_of_expects {rx : TransportRx} {fir : Bool} {seq : Fin 64}
    {addresses : Addresses} (h : rx.Expects fir seq addresses) (fin : Bool)
    (payload : List UInt8) :
    rx.processReceive
        { addresses := addresses, payload := TransportHeader.toByte fir fin seq :: payload } =
      (rx.restart fir).accept ⟨fir, fin, seq⟩ addresses payload := by
  simp only [processReceive, TransportHeader.ofByte_toByte]
  cases fir with
  | true => simp only [Bool.not_true, Bool.false_and, Bool.false_eq_true, ↓reduceIte]
  | false =>
    obtain ⟨hpos, hseq, haddr⟩ := h rfl
    have hne : (rx.numBytesRead == 0) = false := by
      rw [beq_eq_false_iff_ne]
      omega
    simp [restart_false, hne, hseq, haddr]

/-- Accepting the last segment completes the fragment. -/
theorem accept_fin {rx : TransportRx} {soFar : List UInt8} (h : rx.Holds soFar)
    {payload : List UInt8} (hfit : soFar.length + payload.length ≤ rx.rxBuffer.length)
    (fir : Bool) (seq : Fin 64) (addresses : Addresses) :
    (rx.accept ⟨fir, true, seq⟩ addresses payload).1 =
      { addresses := addresses, payload := soFar ++ payload } := by
  have hnum := h.numBytesRead_eq
  rw [accept, if_neg (by omega)]
  simp only [↓reduceIte, hnum, take_add_writeAt payload h.length_le, h.take_eq]

/-- Accepting any other segment appends its payload. -/
theorem accept_more {rx : TransportRx} {soFar : List UInt8} (h : rx.Holds soFar)
    {payload : List UInt8} (hfit : soFar.length + payload.length ≤ rx.rxBuffer.length)
    (hpos : 0 < payload.length) (fir : Bool) (seq : Fin 64) (addresses : Addresses) :
    (rx.accept ⟨fir, false, seq⟩ addresses payload).1 = .empty ∧
    (rx.accept ⟨fir, false, seq⟩ addresses payload).2.Holds (soFar ++ payload) ∧
    (rx.accept ⟨fir, false, seq⟩ addresses payload).2.Expects false (seq + 1) addresses ∧
    (rx.accept ⟨fir, false, seq⟩ addresses payload).2.rxBuffer.length = rx.rxBuffer.length := by
  have hnum := h.numBytesRead_eq
  have hlen : (writeAt rx.rxBuffer soFar.length payload).length = rx.rxBuffer.length :=
    length_writeAt hfit
  rw [accept, if_neg (by omega)]
  simp only [Bool.false_eq_true, ↓reduceIte, hnum, hlen, and_true, true_and]
  refine ⟨⟨?_, ?_, ?_⟩, fun _ => ⟨?_, rfl, rfl⟩⟩
  · rw [List.length_append]
  · rw [List.length_append, take_add_writeAt payload h.length_le, h.take_eq]
  · rw [List.length_append, hlen]
    exact hfit
  · dsimp only
    omega

/-- **Reassembly**: the segments of a payload give nothing but the last one, which gives the
    whole fragment. -/
theorem processReceives_cut (addresses : Addresses) (fir : Bool) (seq : Fin 64)
    (payload : List UInt8) (rx : TransportRx) (soFar : List UInt8)
    (hexp : rx.Expects fir seq addresses) (hholds : (rx.restart fir).Holds soFar)
    (hfit : soFar.length + payload.length ≤ rx.rxBuffer.length) :
    (rx.processReceives
        ((cut fir seq payload).map fun s => { addresses := addresses, payload := s })).1 =
      List.replicate ((cut fir seq payload).length - 1) .empty ++
        [{ addresses := addresses, payload := soFar ++ payload }] := by
  induction hn : payload.length using Nat.strongRecOn
      generalizing fir seq payload rx soFar with
  | ind n ih =>
    rw [← length_restart rx fir] at hfit
    rcases Nat.lt_or_ge 249 payload.length with h | h
    -- a full segment: the receiver keeps it and expects the next one
    · have htake : (payload.take 249).length = 249 := by
        rw [List.length_take]
        omega
      obtain ⟨hmsg, hholds', hexp', hlen'⟩ := accept_more hholds
        (show soFar.length + (payload.take 249).length ≤ _ by omega) (by omega) fir seq addresses
      have hrest := ih (payload.drop 249).length (by rw [List.length_drop]; omega) false (seq + 1)
        (payload.drop 249) _ (soFar ++ payload.take 249) hexp'
        (by rw [restart_false]; exact hholds')
        (by rw [hlen', List.length_append, htake, List.length_drop]; omega) rfl
      have hcount : (cut false (seq + 1) (payload.drop 249)).length ≠ 0 := by
        rw [Ne, List.length_eq_zero_iff]
        exact cut_ne_nil _ _ _
      rw [cut_more fir seq h, List.map_cons, processReceives, processReceive_of_expects hexp]
      simp only [hmsg, hrest, List.length_cons, Nat.add_sub_cancel]
      obtain ⟨k, hk⟩ := Nat.exists_eq_succ_of_ne_zero hcount
      rw [hk, Nat.succ_eq_add_one, Nat.add_sub_cancel, List.replicate_succ, List.cons_append,
        List.append_assoc, List.take_append_drop]
    -- the last segment completes the message
    · rw [cut_last fir seq h, List.map_cons, List.map_nil, processReceives,
        processReceive_of_expects hexp]
      simp [accept_fin hholds hfit, processReceives]

end TransportRx

/-! ## The whole way -/

/-- **An APDU arrives as it was sent.**  It is segmented from any sequence number on, framed,
    cut into reads in any way, parsed and given to a receiver in any reachable state: the
    segments give nothing but the last one, which gives the APDU with its addresses. -/
theorem apdu_arrives (isMaster : Bool) (addresses : Addresses) (apdu : List UInt8)
    (maxRxFragSize : UInt32) (hpos : 0 < apdu.length) (hsize : apdu.length ≤ maxRxFragSize.toNat)
    (tx : TransportTx) (rx : TransportRx) (hrx : TransportRx.Reachable maxRxFragSize rx)
    (p : LinkLayerParser) (hp : p.Searching) (segments : List (List UInt8))
    (hsegments : segments =
      (tx.configure { addresses := addresses, payload := apdu }).segments apdu.length)
    (chunks : List (List UInt8))
    (hchunks : chunks.flatten = (segments.map (frameSegment isMaster addresses)).flatten)
    (hfit : p.Offered chunks) :
    (p.onReads chunks).2.length = segments.length ∧
    (rx.processReceives ((p.onReads chunks).2.map pushDataUp)).1 =
      List.replicate (segments.length - 1) .empty ++
        [{ addresses := addresses, payload := apdu }] := by
  have hbound := maxRxFragSize.toNat_lt
  have hcut : segments = cut true tx.sequence apdu := by
    rw [hsegments]
    refine TransportTx.segments_eq_cut apdu.length rfl hpos (Nat.le_refl _) ?_
    simp only [TransportTx.configure, UInt32.toNat_zero]
    omega
  -- every segment arrives as a frame of its own
  have hframes : (p.onReads chunks).2.map pushDataUp =
      segments.map fun s => { addresses := addresses, payload := s } := by
    rw [LinkLayerParser.onReads_eq_scan hp hfit, hchunks]
    refine scan_frames isMaster addresses segments ?_
    rw [hcut]
    exact length_le_of_mem_cut true tx.sequence apdu
  refine ⟨?_, ?_⟩
  · have hlen := congrArg List.length hframes
    rwa [List.length_map, List.length_map] at hlen
  · rw [hframes]
    subst hcut
    refine TransportRx.processReceives_cut addresses true tx.sequence apdu rx [] ?_
      (TransportRx.holds_restart_true rx) ?_
    · intro h
      cases h
    · rw [List.length_nil, hrx.wellFormed.size_eq]
      omega

/-- Two segments, sent to a receiver that still holds part of a fragment of another sender. -/
theorem apdu_arrives_two_segments :
    let rx := ((TransportRx.create 2048).processReceive ⟨⟨7, 1024⟩, [0x45, 1, 2, 3]⟩).2
    let chunks := [frameSegment true ⟨1, 1024⟩ (0x40 :: List.replicate 249 0xAA),
      frameSegment true ⟨1, 1024⟩ [0x81, 0xAA]]
    let frames := (LinkLayerParser.create.onReads chunks).2
    frames.length = 2 ∧
    (rx.processReceives (frames.map pushDataUp)).1 =
      [.empty, ⟨⟨1, 1024⟩, List.replicate 250 0xAA⟩] :=
  apdu_arrives true ⟨1, 1024⟩ (List.replicate 250 0xAA) 2048 (by decide +kernel)
    (by decide +kernel) .create _
    (.processReceive _ .create) LinkLayerParser.create LinkLayerParser.searching_create
    [0x40 :: List.replicate 249 0xAA, [0x81, 0xAA]] (by decide +kernel) _ rfl
    ⟨by decide +kernel, by decide +kernel, trivial⟩

end OpenDnp3.Transport
