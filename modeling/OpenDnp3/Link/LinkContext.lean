import OpenDnp3.Lib.Machine
import OpenDnp3.Link.LinkFrame
import OpenDnp3.Transport.Transport

/-!
# The link layer

The contextual state of the link layer, the primary and the secondary state machine, and
the entry points of `LinkLayer`.  The model is one step function on `LinkContext` and
`Input`; everything the layer does to its surroundings is appended to `log`.

- A frame is formatted in one of two buffers and handed to the channel as a view of that
  buffer: `BeginTransmit` copies nothing.  `channel` are the views handed over and not
  completed yet, oldest first; the channel completes them in that order, one `OnTxReady`
  each.
- While the layer above handles a message or a layer-up, it may call `Send`; such calls
  come with the input as `sends`.  Other callbacks do not re-enter.
- Timers are flags; when an armed timer fires is up to the environment.
- Logging and statistics are left out.
-/

namespace OpenDnp3.Link

open Lib
open Transport (Message)

/-! ## The surroundings -/

/-- The part of the configuration that the two stations read. -/
structure LinkLayerConfig where
  IsMaster : Bool
  LocalAddr : UInt16
  RemoteAddr : UInt16
  KeepAliveTimeout : Int
  respondToAnySource : Bool
  deriving DecidableEq, Repr

/-- An `ITransportSegment` with a segment to send: the current segment and those after it.
    Each one fits a frame. -/
structure Segments where
  addresses : Addresses
  current : List UInt8
  later : List (List UInt8)
  fits : ∀ s ∈ current :: later, 0 < s.length ∧ s.length ≤ LPDU_MAX_USER_DATA_SIZE
  deriving DecidableEq, Repr

/-- Move on to the next segment, if there is one. -/
def Segments.advance (t : Segments) : Option Segments :=
  match t with
  | ⟨_, _, [], _⟩ => none
  | ⟨addresses, _, next :: later, fits⟩ =>
    some ⟨addresses, next, later, fun s hs => fits s (List.mem_cons_of_mem _ hs)⟩

inductive LinkTransmitMode where
  | Idle
  | Primary
  | Secondary
  deriving DecidableEq, Repr

inductive PriState where
  | PLLS_Idle
  | PLLS_SendUnconfirmedTransmitWait
  | PLLS_RequestLinkStatusWait
  deriving DecidableEq, Repr

/-- The states of the secondary station. -/
inductive SecState where
  | SLLS_NotReset
  | SLLS_Reset
  | SLLS_TransmitWaitNotReset
  | SLLS_TransmitWaitReset
  deriving DecidableEq, Repr

/-- One of the two `TransmitWait` states? -/
def SecState.isTransmitWait : SecState → Bool
  | SLLS_TransmitWaitNotReset | SLLS_TransmitWaitReset => true
  | _ => false

/-- What the link layer does to its surroundings, and what they do to it. -/
inductive Action where
  /-- A frame is written into the primary or the secondary buffer. -/
  | format (primary : Bool) (bytes : List UInt8)
  /-- A frame is handed to the channel; `bytes` is what the buffer holds at that time. -/
  | beginTransmit (primary : Bool) (bytes : List UInt8)
  /-- The channel has completed its oldest frame. -/
  | complete
  /-- A `Send` is accepted. -/
  | send (segments : Segments)
  /-- `Advance()` is called on the segments being sent. -/
  | advance
  /-- The upper layer's `OnTxReady` is posted. -/
  | postOnTxReady
  | pushDataUp (message : Message)
  | lowerLayerUp
  /-- The layer goes down; with `dropped` the channel forgets its frames. -/
  | lowerLayerDown (dropped : Bool)
  | onKeepAliveInitiated
  | onKeepAliveFailure
  | onKeepAliveSuccess
  | onUnknownDestinationAddress (address : UInt16)
  | onUnknownSourceAddress (address : UInt16)
  /-- A user callback is invoked. -/
  | callback (id : Nat) (result : Bool)
  deriving DecidableEq, Repr

/-- A view of one of the transmit buffers. -/
structure TxView where
  primary : Bool
  length : Nat
  deriving DecidableEq, Repr

/-- The link layer with its two stations, its timers and the frames handed to the channel. -/
structure LinkContext where
  config : LinkLayerConfig
  priTxBuffer : List UInt8
  secTxBuffer : List UInt8
  /-- Lengths of the views that wait for the channel. -/
  pendingPriTx : Option Nat
  pendingSecTx : Option Nat
  pSegments : Option Segments
  txMode : LinkTransmitMode
  rspTimeoutTimer : Bool
  keepAliveTimer : Bool
  nextReadFCB : Bool
  isOnline : Bool
  keepAliveTimeout : Bool
  userLinkStatusCallback : Option Nat
  lastMessageTimestamp : Int
  pPriState : PriState
  pSecState : SecState
  channel : List TxView
  log : List Action
  deriving DecidableEq, Repr

/-- What the upper layer, the lower layer and the timers can call. -/
inductive Input where
  | send (segments : Segments)
  | onFrame (now : Int) (header : LinkHeaderFields) (userdata : List UInt8)
      (sends : List Segments)
  | onTxReady
  | onResponseTimeout
  | onKeepAliveTimeout (now : Int)
  | checkLinkStatus (callback : Option Nat)
  | onLowerLayerUp (now : Int) (sends : List Segments)
  | onLowerLayerDown (dropped : Bool)
  deriving DecidableEq, Repr

namespace LinkContext

/-- A context as it is constructed at time `now`. -/
def create (config : LinkLayerConfig) (now : Int) : LinkContext where
  config := config
  priTxBuffer := List.replicate LPDU_MAX_FRAME_SIZE 0
  secTxBuffer := List.replicate LPDU_HEADER_SIZE 0
  pendingPriTx := none
  pendingSecTx := none
  pSegments := none
  txMode := .Idle
  rspTimeoutTimer := false
  keepAliveTimer := false
  nextReadFCB := false
  isOnline := false
  keepAliveTimeout := false
  userLinkStatusCallback := none
  lastMessageTimestamp := now
  pPriState := .PLLS_Idle
  pSecState := .SLLS_NotReset
  channel := []
  log := []

def emit (c : LinkContext) (a : Action) : LinkContext :=
  { c with log := c.log ++ [a] }

def setPri (c : LinkContext) (state : PriState) : LinkContext := { c with pPriState := state }

def setSec (c : LinkContext) (state : SecState) : LinkContext := { c with pSecState := state }

def setTxMode (c : LinkContext) (mode : LinkTransmitMode) : LinkContext :=
  { c with txMode := mode }

def setPendingPri (c : LinkContext) (length : Option Nat) : LinkContext :=
  { c with pendingPriTx := length }

def setPendingSec (c : LinkContext) (length : Option Nat) : LinkContext :=
  { c with pendingSecTx := length }

def setChannel (c : LinkContext) (channel : List TxView) : LinkContext :=
  { c with channel := channel }

def setSegments (c : LinkContext) (segments : Option Segments) : LinkContext :=
  { c with pSegments := segments }

def setKeepAlive (c : LinkContext) (timeout : Bool) : LinkContext :=
  { c with keepAliveTimeout := timeout }

def setCallback (c : LinkContext) (callback : Option Nat) : LinkContext :=
  { c with userLinkStatusCallback := callback }

/-! ## Frames -/

/-- Hand a view of a buffer to the channel. -/
def beginTransmit (c : LinkContext) (primary : Bool) (length : Nat) : LinkContext :=
  let buffer := if primary then c.priTxBuffer else c.secTxBuffer
  let view : TxView := { primary := primary, length := length }
  (c.setChannel (c.channel ++ [view])).emit (.beginTransmit primary (buffer.take length))

/-- Write a frame into the primary buffer. -/
def formatPri (c : LinkContext) (frame : List UInt8) : LinkContext :=
  { c with priTxBuffer := writeAt c.priTxBuffer 0 frame }.emit (.format true frame)

/-- Write a frame into the secondary buffer. -/
def formatSec (c : LinkContext) (frame : List UInt8) : LinkContext :=
  { c with secTxBuffer := writeAt c.secTxBuffer 0 frame }.emit (.format false frame)

def queueTransmit (c : LinkContext) (length : Nat) (primary : Bool) : LinkContext :=
  if c.txMode = .Idle then
    (c.setTxMode (if primary then .Primary else .Secondary)).beginTransmit primary length
  else if primary then c.setPendingPri (some length)
  else c.setPendingSec (some length)

/-- Format and queue a frame of the secondary station. -/
def queueSec (c : LinkContext) (frame : List UInt8) : LinkContext :=
  (c.formatSec frame).queueTransmit frame.length false

def queueAck (c : LinkContext) (destination : UInt16) : LinkContext :=
  c.queueSec (LinkFrame.formatAck c.config.IsMaster false destination c.config.LocalAddr)

def queueLinkStatus (c : LinkContext) (destination : UInt16) : LinkContext :=
  c.queueSec (LinkFrame.formatLinkStatus c.config.IsMaster false destination c.config.LocalAddr)

/-- Format and queue a frame of the primary station. -/
def queuePri (c : LinkContext) (frame : List UInt8) : LinkContext :=
  (c.formatPri frame).queueTransmit frame.length true

def queueRequestLinkStatus (c : LinkContext) (destination : UInt16) : LinkContext :=
  c.queuePri (LinkFrame.formatRequestLinkStatus c.config.IsMaster destination c.config.LocalAddr)

/-- Format the current segment in the primary buffer and queue it. -/
def queueUnconfirmed (c : LinkContext) (segments : Segments) : LinkContext :=
  c.queuePri (LinkFrame.formatUnconfirmedUserData c.config.IsMaster
    segments.addresses.destination segments.addresses.source segments.current)

def tryPendingSecTx (c : LinkContext) : LinkContext :=
  match c.txMode, c.pendingSecTx with
  | .Idle, some length =>
    ((c.beginTransmit false length).setPendingSec none).setTxMode .Secondary
  | _, _ => c

def tryPendingPriTx (c : LinkContext) : LinkContext :=
  match c.txMode, c.pendingPriTx with
  | .Idle, some length =>
    ((c.beginTransmit true length).setPendingPri none).setTxMode .Primary
  | _, _ => c

section Pending

variable {c : LinkContext} {length : Nat}

theorem tryPendingSecTx_some (hidle : c.txMode = .Idle) (h : c.pendingSecTx = some length) :
    c.tryPendingSecTx = ((c.beginTransmit false length).setPendingSec none).setTxMode .Secondary := by
  simp only [tryPendingSecTx, hidle, h]

theorem tryPendingSecTx_none (h : c.pendingSecTx = none) : c.tryPendingSecTx = c := by
  rw [tryPendingSecTx, h]
  cases c.txMode <;> rfl

theorem tryPendingPriTx_some (hidle : c.txMode = .Idle) (h : c.pendingPriTx = some length) :
    c.tryPendingPriTx = ((c.beginTransmit true length).setPendingPri none).setTxMode .Primary := by
  simp only [tryPendingPriTx, hidle, h]

theorem tryPendingPriTx_none (h : c.pendingPriTx = none) : c.tryPendingPriTx = c := by
  rw [tryPendingPriTx, h]
  cases c.txMode <;> rfl

theorem tryPendingPriTx_busy (h : c.txMode ≠ .Idle) : c.tryPendingPriTx = c := by
  rw [tryPendingPriTx]
  split
  · next hidle _ => exact absurd hidle h
  · rfl

end Pending

/-! ## Timers and callbacks -/

def startResponseTimer (c : LinkContext) : LinkContext := { c with rspTimeoutTimer := true }

def cancelTimer (c : LinkContext) : LinkContext := { c with rspTimeoutTimer := false }

def restartKeepAliveTimer (c : LinkContext) (now : Int) : LinkContext :=
  { c with keepAliveTimer := true, lastMessageTimestamp := now }

/-- Invoke the user's callback, once. -/
def invokeCallback (c : LinkContext) (result : Bool) : LinkContext :=
  match c.userLinkStatusCallback with
  | some id => (c.setCallback none).emit (.callback id result)
  | none => c

def failKeepAlive (c : LinkContext) (timeout : Bool) : LinkContext :=
  (if timeout then c.emit .onKeepAliveFailure else c).invokeCallback false

def completeKeepAlive (c : LinkContext) : LinkContext :=
  (c.emit .onKeepAliveSuccess).invokeCallback true

/-! ## The primary station -/

def trySendRequestLinkStatus (c : LinkContext) : LinkContext :=
  match c.pPriState with
  | .PLLS_Idle =>
    let c := (c.setKeepAlive false).queueRequestLinkStatus c.config.RemoteAddr
    (c.emit .onKeepAliveInitiated).startResponseTimer.setPri .PLLS_RequestLinkStatusWait
  | _ => c

def trySendUnconfirmed (c : LinkContext) (segments : Segments) : LinkContext :=
  match c.pPriState with
  | .PLLS_Idle => (c.queueUnconfirmed segments).setPri .PLLS_SendUnconfirmedTransmitWait
  | _ => c

def tryStartTransmission (c : LinkContext) : LinkContext :=
  let c := if c.keepAliveTimeout then c.trySendRequestLinkStatus else c
  match c.pSegments with
  | some segments => c.trySendUnconfirmed segments
  | none => c

def completeSendOperation (c : LinkContext) : LinkContext :=
  (c.setSegments none).emit .postOnTxReady

/-- `OnTxReady` of the primary states. -/
def priOnTxReady (c : LinkContext) : LinkContext :=
  match c.pPriState, c.pSegments with
  | .PLLS_SendUnconfirmedTransmitWait, some segments =>
    let c := c.emit .advance
    match segments.advance with
    | some next => (c.setSegments (some next)).queueUnconfirmed next
    | none => c.completeSendOperation.setPri .PLLS_Idle
  | _, _ => c

/-- `OnAck`, `OnNack` and `OnNotSupported` of the primary states. -/
def priOnRefusal (c : LinkContext) : LinkContext :=
  match c.pPriState with
  | .PLLS_RequestLinkStatusWait => (c.cancelTimer.failKeepAlive false).setPri .PLLS_Idle
  | _ => c

def priOnLinkStatus (c : LinkContext) : LinkContext :=
  match c.pPriState with
  | .PLLS_RequestLinkStatusWait => c.cancelTimer.completeKeepAlive.setPri .PLLS_Idle
  | _ => c

def priOnTimeout (c : LinkContext) : LinkContext :=
  match c.pPriState with
  | .PLLS_RequestLinkStatusWait => (c.failKeepAlive true).setPri .PLLS_Idle
  | _ => c

/-! ## `LinkLayer::Send` -/

/-- A transfer is accepted when the layer is online and no other is going on. -/
def send (c : LinkContext) (segments : Segments) : LinkContext :=
  if c.isOnline then
    match c.pSegments with
    | some _ => c
    | none => ((c.setSegments (some segments)).emit (.send segments)).tryStartTransmission
  else c

/-- The upper layer handles a message, and sends what it has to send. -/
def pushDataUp (c : LinkContext) (message : Message) (sends : List Segments) : LinkContext :=
  sends.foldl send (c.emit (.pushDataUp message))

/-! ## The secondary station -/

def resetReadFCB (c : LinkContext) : LinkContext := { c with nextReadFCB := true }

def toggleReadFCB (c : LinkContext) : LinkContext := { c with nextReadFCB := !c.nextReadFCB }

/-- `OnTxReady` of the secondary states. -/
def secOnTxReady (c : LinkContext) : LinkContext :=
  match c.pSecState with
  | .SLLS_TransmitWaitNotReset => c.setSec .SLLS_NotReset
  | .SLLS_TransmitWaitReset => c.setSec .SLLS_Reset
  | _ => c

def onTestLinkStatus (c : LinkContext) (source : UInt16) (fcb : Bool) : LinkContext :=
  match c.pSecState with
  | .SLLS_Reset =>
    if c.nextReadFCB = fcb then
      (c.queueAck source).toggleReadFCB.setSec .SLLS_TransmitWaitReset
    else c
  | _ => c

def onResetLinkStates (c : LinkContext) (source : UInt16) : LinkContext :=
  match c.pSecState with
  | .SLLS_NotReset | .SLLS_Reset =>
    (c.queueAck source).resetReadFCB.setSec .SLLS_TransmitWaitReset
  | _ => c

def onRequestLinkStatus (c : LinkContext) (source : UInt16) : LinkContext :=
  match c.pSecState with
  | .SLLS_NotReset => (c.queueLinkStatus source).setSec .SLLS_TransmitWaitNotReset
  | .SLLS_Reset => (c.queueLinkStatus source).setSec .SLLS_TransmitWaitReset
  | _ => c

/-- `OnConfirmedUserData` of the secondary states. -/
def onConfirmedUserData (c : LinkContext) (source : UInt16) (fcb isBroadcast : Bool)
    (message : Message) (sends : List Segments) : LinkContext :=
  match c.pSecState with
  | .SLLS_Reset =>
    let c := if isBroadcast then c else c.queueAck source
    let c := if c.nextReadFCB = fcb then c.toggleReadFCB.pushDataUp message sends else c
    -- also for a broadcast, for which nothing has been queued
    c.setSec .SLLS_TransmitWaitReset
  | _ => c

/-! ## Events -/

/-- The frame passes the checks of `OnFrame`. -/
def acceptsFrame (c : LinkContext) (header : LinkHeaderFields) : Bool :=
  c.isOnline && header.isFromMaster != c.config.IsMaster &&
    (header.addresses.destination == c.config.LocalAddr || header.addresses.isBroadcast) &&
    (header.addresses.source == c.config.RemoteAddr || c.config.respondToAnySource) &&
    !(header.addresses.isBroadcast &&
      !(header.func == .PRI_UNCONFIRMED_USER_DATA || header.func == .PRI_CONFIRMED_USER_DATA))

/-- What the listener is told about a frame that is not accepted. -/
def rejectFrame (c : LinkContext) (header : LinkHeaderFields) : LinkContext :=
  if !c.isOnline || header.isFromMaster == c.config.IsMaster then c
  else if header.addresses.destination != c.config.LocalAddr && !header.addresses.isBroadcast then
    c.emit (.onUnknownDestinationAddress header.addresses.destination)
  else if header.addresses.source != c.config.RemoteAddr && !c.config.respondToAnySource then
    c.emit (.onUnknownSourceAddress header.addresses.source)
  else c

/-- Dispatch an accepted frame to the state machine it is for. -/
def dispatchFrame (c : LinkContext) (header : LinkHeaderFields) (userdata : List UInt8)
    (sends : List Segments) : LinkContext :=
  let source := header.addresses.source
  let message : Message := { addresses := header.addresses, payload := userdata }
  match header.func with
  | .SEC_ACK | .SEC_NACK | .SEC_NOT_SUPPORTED => c.priOnRefusal
  | .SEC_LINK_STATUS => c.priOnLinkStatus
  | .PRI_TEST_LINK_STATES => c.onTestLinkStatus source header.fcb
  | .PRI_RESET_LINK_STATES => c.onResetLinkStates source
  | .PRI_REQUEST_LINK_STATUS => c.onRequestLinkStatus source
  | .PRI_CONFIRMED_USER_DATA =>
    c.onConfirmedUserData source header.fcb header.addresses.isBroadcast message sends
  | .PRI_UNCONFIRMED_USER_DATA => c.pushDataUp message sends
  | .INVALID => c

/-- `LinkLayer::OnFrame`. -/
def onFrame (c : LinkContext) (now : Int) (header : LinkHeaderFields) (userdata : List UInt8)
    (sends : List Segments) : LinkContext :=
  if c.acceptsFrame header then
    ((c.restartKeepAliveTimer now).dispatchFrame header userdata sends).tryStartTransmission
  else c.rejectFrame header

/-- `LinkLayer::OnTxReady`.  Pending frames get access to the channel first. -/
def onTxReady (c : LinkContext) : LinkContext :=
  match c.txMode with
  | .Idle => c
  | .Primary =>
    (c.setTxMode .Idle).tryPendingSecTx.tryPendingPriTx.priOnTxReady.tryStartTransmission
  | .Secondary =>
    (c.setTxMode .Idle).tryPendingSecTx.tryPendingPriTx.secOnTxReady.tryStartTransmission

def onResponseTimeout (c : LinkContext) : LinkContext :=
  c.priOnTimeout.tryStartTransmission

def onKeepAliveTimeout (c : LinkContext) (now : Int) : LinkContext :=
  let elapsed := now - c.lastMessageTimestamp
  let c := if c.config.KeepAliveTimeout ≤ elapsed then c.setKeepAlive true else c
  (c.restartKeepAliveTimer now).tryStartTransmission

def triggerLinkStatusCheck (c : LinkContext) (callback : Option Nat) : LinkContext :=
  if c.isOnline then
    ((c.setCallback callback).setKeepAlive true).tryStartTransmission
  else
    match callback with
    | some id => c.emit (.callback id false)
    | none => c

def onLowerLayerUp (c : LinkContext) (now : Int) (sends : List Segments) : LinkContext :=
  if c.isOnline then c
  else sends.foldl send (({ c with isOnline := true }.restartKeepAliveTimer now).emit .lowerLayerUp)

/-- The layer goes down; whether the channel drops its frames is up to the channel. -/
def onLowerLayerDown (c : LinkContext) (dropped : Bool) : LinkContext :=
  if c.isOnline then
    { c with
      isOnline := false
      keepAliveTimeout := false
      pSegments := none
      txMode := .Idle
      pendingPriTx := none
      pendingSecTx := none
      rspTimeoutTimer := false
      keepAliveTimer := false
      pPriState := .PLLS_Idle
      pSecState := .SLLS_NotReset
      channel := if dropped then [] else c.channel }.emit (.lowerLayerDown dropped)
  else c

/-- The link layer handles one input.  The channel completes a frame only if it has one, and a
    timer fires only if it is armed; its handler does nothing when the layer is offline. -/
def step (c : LinkContext) : Input → LinkContext
  | .send segments => c.send segments
  | .onFrame now header userdata sends => c.onFrame now header userdata sends
  | .onTxReady =>
    match c.channel with
    | [] => c
    | _ :: rest => ((c.setChannel rest).emit .complete).onTxReady
  | .onResponseTimeout =>
    if c.rspTimeoutTimer then
      if c.isOnline then c.cancelTimer.onResponseTimeout else c.cancelTimer
    else c
  | .onKeepAliveTimeout now =>
    if c.keepAliveTimer && c.isOnline then c.onKeepAliveTimeout now else c
  | .checkLinkStatus callback => c.triggerLinkStatusCheck callback
  | .onLowerLayerUp now sends => c.onLowerLayerUp now sends
  | .onLowerLayerDown dropped => c.onLowerLayerDown dropped

end LinkContext

end OpenDnp3.Link
