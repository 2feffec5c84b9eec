import OpenDnp3.Lib.Memory
import OpenDnp3.Link.Header

/-!
# Transport function

Application fragments are cut into segments of at most 249 bytes, each with a header byte
that holds FIN, FIR and a 6-bit sequence number, and are put together again on the other
side.  Logging and statistics are left out.
-/

namespace OpenDnp3.Transport

open Lib
open Link (Addresses)

def MAX_TPDU_PAYLOAD : Nat := 249

structure Message where
  addresses : Addresses
  payload : List UInt8
  deriving DecidableEq, Repr

/-- The default message stands for "nothing". -/
def Message.empty : Message where
  addresses := ⟨0, 0⟩
  payload := []

/-! ## Segment headers -/

/-- Sequence numbers are written as literals. -/
instance neZero_seq : NeZero 64 := ⟨Nat.succ_ne_zero 63⟩

/-- FIR, FIN and the sequence number of a segment. -/
structure TransportHeader where
  fir : Bool
  fin : Bool
  seq : Fin 64
  deriving DecidableEq, Repr

namespace TransportHeader

def FIN_MASK : UInt8 := 0x80
def FIR_MASK : UInt8 := 0x40
def SEQ_MASK : UInt8 := 0x3F

def ofByte (byte : UInt8) : TransportHeader where
  fir := (byte &&& FIR_MASK) != 0
  fin := (byte &&& FIN_MASK) != 0
  seq := Fin.ofNat 64 (byte &&& SEQ_MASK).toNat

def toByte (fir fin : Bool) (seq : Fin 64) : UInt8 :=
  let hdr : UInt8 := 0
  let hdr := if fir then hdr ||| FIR_MASK else hdr
  let hdr := if fin then hdr ||| FIN_MASK else hdr
  hdr ||| (SEQ_MASK &&& UInt8.ofNat seq.val)

@[simp] theorem ofByte_toByte (fir fin : Bool) (seq : Fin 64) :
    ofByte (toByte fir fin seq) = ⟨fir, fin, seq⟩ := by
  revert fir fin seq
  decide +kernel

end TransportHeader

/-! ## Sending -/

/-- The transmitter: the rest of a message and the number of its next segment. -/
structure TransportTx where
  message : Message
  /-- The segment being transmitted, kept until the transmitter advances. -/
  txSegment : Option (List UInt8)
  sequence : Fin 64
  /-- Number of segments sent of this message, in 32 bits. -/
  tpduCount : UInt32
  deriving DecidableEq, Repr

namespace TransportTx

def create : TransportTx where
  message := .empty
  txSegment := none
  sequence := 0
  tpduCount := 0

/-- Start on a new message.  The sequence number goes on from the message before. -/
def configure (tx : TransportTx) (message : Message) : TransportTx :=
  { tx with txSegment := none, message := message, tpduCount := 0 }

/-- Number of payload bytes of the next segment. -/
def numToSend (tx : TransportTx) : Nat :=
  if tx.message.payload.length < MAX_TPDU_PAYLOAD then tx.message.payload.length
  else MAX_TPDU_PAYLOAD

/-- The next segment: a header and at most 249 bytes of the message. -/
def getSegment (tx : TransportTx) : List UInt8 × TransportTx :=
  match tx.txSegment with
  | some segment => (segment, tx)
  | none =>
    let fir := tx.tpduCount == 0
    let fin := tx.numToSend == tx.message.payload.length
    let segment :=
      TransportHeader.toByte fir fin tx.sequence :: tx.message.payload.take tx.numToSend
    (segment, { tx with txSegment := some segment })

/-- Go on to the next segment; is there one? -/
def advance (tx : TransportTx) : Bool × TransportTx :=
  let payload := tx.message.payload.drop tx.numToSend
  (!payload.isEmpty,
    { message := { tx.message with payload := payload }
      txSegment := none
      sequence := tx.sequence + 1
      tpduCount := tx.tpduCount + 1 })

/-- All segments of the message, taken one after the other; the fuel is a bound on their
    number. -/
def segments : Nat → TransportTx → List (List UInt8)
  | 0, _ => []
  | fuel + 1, tx =>
    let (segment, tx) := tx.getSegment
    let (more, tx) := tx.advance
    segment :: if more then segments fuel tx else []

end TransportTx

/-! ## Receiving -/

/-- The receiver: what has arrived of a message and the number it expects. -/
structure TransportRx where
  rxBuffer : List UInt8
  numBytesRead : Nat
  lastAddresses : Addresses
  expectedSeq : Fin 64
  deriving DecidableEq, Repr

namespace TransportRx

def create (maxRxFragSize : UInt32) : TransportRx where
  rxBuffer := List.replicate maxRxFragSize.toNat 0
  numBytesRead := 0
  lastAddresses := ⟨0, 0⟩
  expectedSeq := 0

def reset (rx : TransportRx) : TransportRx := { rx with numBytesRead := 0 }

/-- A FIR segment received mid-fragment discards the previous bytes. -/
def restart (rx : TransportRx) (fir : Bool) : TransportRx :=
  if fir && decide (0 < rx.numBytesRead) then rx.reset else rx

/-- Append the payload of an accepted segment. -/
def accept (rx : TransportRx) (header : TransportHeader) (addresses : Addresses)
    (payload : List UInt8) : Message × TransportRx :=
  if rx.rxBuffer.length - rx.numBytesRead < payload.length then
    -- transport buffer overflow
    (.empty, { rx with numBytesRead := 0 })
  else
    let rx : TransportRx :=
      { rxBuffer := writeAt rx.rxBuffer rx.numBytesRead payload
        numBytesRead := rx.numBytesRead + payload.length
        lastAddresses := addresses
        expectedSeq := header.seq + 1 }
    if header.fin then
      ({ addresses := addresses, payload := rx.rxBuffer.take rx.numBytesRead },
        { rx with numBytesRead := 0 })
    else (.empty, rx)

/-- `ProcessReceive`: a segment that fits is appended, and FIN ends the message. -/
def processReceive (rx : TransportRx) (segment : Message) : Message × TransportRx :=
  match segment.payload with
  | [] => (.empty, rx)
  | byte :: payload =>
    let header := TransportHeader.ofByte byte
    let rx := rx.restart header.fir
    if !header.fir && rx.numBytesRead == 0 then (.empty, rx)
    else if !header.fir && header.seq != rx.expectedSeq then (.empty, rx)
    else if !header.fir && segment.addresses != rx.lastAddresses then (.empty, rx)
    else rx.accept header segment.addresses payload

/-- The messages returned for a list of segments, one for each. -/
def processReceives : TransportRx → List Message → List Message × TransportRx
  | rx, [] => ([], rx)
  | rx, segment :: rest =>
    let (message, rx) := rx.processReceive segment
    let (messages, rx) := processReceives rx rest
    (message :: messages, rx)

/-- States a receiver can get into. -/
inductive Reachable (maxRxFragSize : UInt32) : TransportRx → Prop where
  | create : Reachable maxRxFragSize (create maxRxFragSize)
  | reset {rx : TransportRx} : Reachable maxRxFragSize rx → Reachable maxRxFragSize rx.reset
  | processReceive {rx : TransportRx} (segment : Message) :
    Reachable maxRxFragSize rx → Reachable maxRxFragSize (rx.processReceive segment).2

/-- What every reachable receiver satisfies. -/
structure WellFormed (maxRxFragSize : UInt32) (rx : TransportRx) : Prop where
  size_eq : rx.rxBuffer.length = maxRxFragSize.toNat
  read_le : rx.numBytesRead ≤ rx.rxBuffer.length

section Invariant

variable {maxRxFragSize : UInt32} {rx : TransportRx}

theorem WellFormed.reset (h : rx.WellFormed maxRxFragSize) :
    rx.reset.WellFormed maxRxFragSize :=
  ⟨h.size_eq, Nat.zero_le _⟩

theorem WellFormed.accept (h : rx.WellFormed maxRxFragSize) (header : TransportHeader)
    (addresses : Addresses) (payload : List UInt8) :
    (rx.accept header addresses payload).2.WellFormed maxRxFragSize := by
  have hread := h.read_le
  rw [TransportRx.accept]
  split
  · exact h.reset
  · next hfit =>
    have hlen : (writeAt rx.rxBuffer rx.numBytesRead payload).length = rx.rxBuffer.length :=
      length_writeAt (by omega)
    split
    · exact ⟨hlen.trans h.size_eq, Nat.zero_le _⟩
    · refine ⟨hlen.trans h.size_eq, ?_⟩
      simp only [hlen]
      omega

theorem WellFormed.processReceive (h : rx.WellFormed maxRxFragSize) (segment : Message) :
    (rx.processReceive segment).2.WellFormed maxRxFragSize := by
  rw [TransportRx.processReceive]
  split
  · exact h
  · next byte payload _ =>
    have hrx : (rx.restart (TransportHeader.ofByte byte).fir).WellFormed maxRxFragSize := by
      rw [restart]
      split
      · exact h.reset
      · exact h
    dsimp only
    split_ifs
    · exact hrx
    · exact hrx
    · exact hrx
    · exact hrx.accept _ _ _

/-- The buffer keeps its size and is never filled beyond it. -/
theorem Reachable.wellFormed (h : Reachable maxRxFragSize rx) : rx.WellFormed maxRxFragSize := by
  induction h with
  | create => exact ⟨List.length_replicate, Nat.zero_le _⟩
  | reset _ ih => exact ih.reset
  | processReceive segment _ ih => exact ih.processReceive segment

end Invariant

end TransportRx

end OpenDnp3.Transport
