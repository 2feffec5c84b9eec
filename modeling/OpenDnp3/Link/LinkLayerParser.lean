import OpenDnp3.Lib.Machine
import OpenDnp3.Link.LinkFrame
import OpenDnp3.Link.ShiftableBuffer

/-!
# The link layer parser

A resumable state machine that finds FT3 frames in a stream of bytes.  The channel writes
received bytes into the buffer the parser offers and calls `onRead`; complete frames go to
a sink, here the list of frames that `onRead` returns.  Logging and the error counters are
left out, nothing depends on them.
-/

namespace OpenDnp3.Link

open Lib

/-- What the parser looks for next. -/
inductive ParserState where
  | FindSync
  | ReadHeader
  | ReadBody
  | Complete
  deriving DecidableEq, Repr

/-- The parser with its buffer and the header read last. -/
structure LinkLayerParser where
  header : LinkHeader
  state : ParserState
  frameSize : Nat
  /-- The user data is a view of the first bytes of the buffer's memory; this is its length. -/
  userDataLength : Nat
  buffer : ShiftableBuffer
  deriving DecidableEq, Repr

namespace LinkLayerParser

/-- A parser as it is constructed. -/
def create : LinkLayerParser where
  header := { length := 5, src := 0, dest := 0, ctrl := 0 }
  state := .FindSync
  frameSize := 0
  userDataLength := 0
  buffer := ShiftableBuffer.create LPDU_MAX_FRAME_SIZE

/-! ## Checking the header -/

/-- Is the function known, and are its FCV or FCB bits legal? -/
def validateFunctionCode (header : LinkHeader) : Bool :=
  if header.isPriToSec then
    match header.getFuncEnum with
    | .PRI_CONFIRMED_USER_DATA | .PRI_TEST_LINK_STATES => header.isFcvDfcSet
    | .PRI_REQUEST_LINK_STATUS | .PRI_RESET_LINK_STATES | .PRI_UNCONFIRMED_USER_DATA =>
      !header.isFcvDfcSet
    | _ => false
  else
    match header.getFuncEnum with
    | .SEC_ACK | .SEC_NACK | .SEC_LINK_STATUS | .SEC_NOT_SUPPORTED => !header.isFcbSet
    | _ => false

/-- Bytes of user data the header declares. -/
def userLength (header : LinkHeader) : Nat := header.length.toNat - LPDU_MIN_LENGTH

/-- The checks that a header with a good CRC has to pass. -/
def validateHeaderParameters (p : LinkLayerParser) : Bool × LinkLayerParser :=
  if !p.header.validLength then (false, p)
  else if !validateFunctionCode p.header then (false, p)
  else
    let user_data_length := userLength p.header
    -- the frame size is recorded before the payload check and stays when that check fails
    let p := { p with frameSize := LinkFrame.calcFrameSize user_data_length }
    let func := p.header.getFuncEnum
    let has_payload := decide (0 < user_data_length)
    let should_have_payload :=
      func == .PRI_CONFIRMED_USER_DATA || func == .PRI_UNCONFIRMED_USER_DATA
    if should_have_payload && !has_payload then (false, p)
    else if !should_have_payload && has_payload then (false, p)
    else (true, p)

def readHeader (p : LinkLayerParser) : Bool × LinkLayerParser :=
  let p := { p with header := LinkHeader.read p.buffer.readBuffer }
  if CRC.isCorrectCRC p.buffer.readBuffer LI_CRC then p.validateHeaderParameters
  else (false, p)

/-! ## The body -/

def validateBody (p : LinkLayerParser) : Bool :=
  LinkFrame.validateBodyCRC (p.buffer.readBuffer.drop LPDU_HEADER_SIZE) (userLength p.header)

/-- Move the user data to the front of the memory the frame itself lies in. -/
def transferUserData (p : LinkLayerParser) : LinkLayerParser :=
  let len := userLength p.header
  { p with
    userDataLength := len
    buffer :=
      { p.buffer with
        pBuffer := LinkFrame.readUserData p.buffer.pBuffer
          (p.buffer.readPos + LPDU_HEADER_SIZE) 0 len } }

def failFrame (p : LinkLayerParser) : LinkLayerParser :=
  { p with buffer := p.buffer.advanceRead 1 }

/-- What is handed to the sink. -/
def frame (p : LinkLayerParser) : Frame where
  fields :=
    { func := p.header.getFuncEnum
      isFromMaster := p.header.isFromMaster
      fcb := p.header.isFcbSet
      fcvdfc := p.header.isFcvDfcSet
      addresses := { source := p.header.src, destination := p.header.dest } }
  userData := p.buffer.pBuffer.take p.userDataLength

def pushFrame (p : LinkLayerParser) : Frame × LinkLayerParser :=
  (p.frame, { p with buffer := p.buffer.advanceRead p.frameSize })

/-! ## The state machine -/

def parseSync (p : LinkLayerParser) : ParserState × LinkLayerParser :=
  if 10 ≤ p.buffer.numBytesRead then
    let (synced, buffer) := p.buffer.sync
    (if synced then .ReadHeader else .FindSync, { p with buffer := buffer })
  else (.FindSync, p)

def parseHeader (p : LinkLayerParser) : ParserState × LinkLayerParser :=
  if 10 ≤ p.buffer.numBytesRead then
    let (ok, p) := p.readHeader
    if ok then (.ReadBody, p) else (.FindSync, p.failFrame)
  else (.ReadHeader, p)

def parseBody (p : LinkLayerParser) : ParserState × LinkLayerParser :=
  if p.buffer.numBytesRead < p.frameSize then (.ReadBody, p)
  else if p.validateBody then (.Complete, p.transferUserData)
  else (.FindSync, p.failFrame)

def parseOneStep (p : LinkLayerParser) : ParserState × LinkLayerParser :=
  match p.state with
  | .FindSync => p.parseSync
  | .ReadHeader => p.parseHeader
  | .ReadBody => p.parseBody
  | .Complete => (p.state, p)

/-- One step, with the new state stored. -/
def step (p : LinkLayerParser) : LinkLayerParser :=
  let (state, p) := p.parseOneStep
  { p with state := state }

/-- Step until the state does not change any more. -/
def parseUntilCompleteLoop : Nat → LinkLayerParser → LinkLayerParser
  | 0, p => p
  | fuel + 1, p => if p.step.state ≠ p.state then parseUntilCompleteLoop fuel p.step else p.step

/-- How much is left to do: unread bytes, then the states a frame goes through. -/
def work (p : LinkLayerParser) : Nat :=
  3 * p.buffer.numBytesRead +
    match p.state with
    | .FindSync => 3
    | .ReadHeader => 2
    | .ReadBody => 1
    | .Complete => 0

def parseUntilComplete (p : LinkLayerParser) : LinkLayerParser :=
  parseUntilCompleteLoop (p.work + 1) p

/-- The loop of `onRead`, with more fuel than there are unread bytes. -/
def onReadLoop : Nat → LinkLayerParser → LinkLayerParser × List Frame
  | 0, p => (p, [])
  | fuel + 1, p =>
    let p := p.parseUntilComplete
    if p.state = .Complete then
      let (frame, p) := p.pushFrame
      let (p, frames) := onReadLoop fuel { p with state := .FindSync }
      (p, frame :: frames)
    else (p, [])

/-- The channel writes `data` into the buffer the parser offered, and the parser takes note. -/
def receive (p : LinkLayerParser) (data : List UInt8) : LinkLayerParser :=
  { p with buffer := (p.buffer.fill data).advanceWrite data.length }

/-- Make room at the end of the buffer. -/
def shift (p : LinkLayerParser) : LinkLayerParser :=
  { p with buffer := p.buffer.shift }

/-- Received bytes `data` are parsed together with what is left of earlier ones. -/
def onRead (p : LinkLayerParser) (data : List UInt8) : LinkLayerParser × List Frame :=
  let p := p.receive data
  let (p, frames) := onReadLoop (p.buffer.numBytesRead + 1) p
  (p.shift, frames)

/-- Successive `onRead` calls, and all the frames they handed to the sink. -/
def onReads : LinkLayerParser → List (List UInt8) → LinkLayerParser × List Frame
  | p, [] => (p, [])
  | p, data :: rest =>
    let (p, frames) := p.onRead data
    let (p, later) := onReads p rest
    (p, frames ++ later)

/-- Each chunk is at most as large as the buffer the parser offers for it. -/
def Offered : LinkLayerParser → List (List UInt8) → Prop :=
  Along (fun p data => (p.onRead data).1) fun p data => data.length ≤ p.buffer.numWriteBytes

end LinkLayerParser

end OpenDnp3.Link
