import OpenDnp3.Link.Header
import OpenDnp3.Outstation.Handlers

/-!
# The outstation's application layer

`OContext` with its four states: what a received fragment, a completed transmission, the
confirm timer, the lower layer and the application's updates make the outstation do.

A response is built in place in the transmit buffer of its channel and stays there, so that a
repeated request can be answered by sending the same bytes again.
-/

namespace OpenDnp3.Outstation

open App Lib
open Link (Addresses LinkBroadcastAddress)

/-! ## State -/

/-- Which confirm does the outstation wait for? -/
inductive OutstationState where
  | Idle
  | SolicitedConfirmWait
  | UnsolicitedConfirmWait
  | NullUnsolicitedConfirmWait
  deriving DecidableEq, Repr

structure Message where
  addresses : Addresses
  payload : List UInt8
  deriving DecidableEq, Repr

/-- A request after `ParseRequest`. -/
structure ParsedRequest where
  addresses : Addresses
  header : APDUHeader
  objects : List UInt8
  deriving DecidableEq, Repr

/-- A transmit buffer; the last response is a view of its first bytes. -/
structure TxBuffer where
  buffer : List UInt8
  lastLength : Nat
  deriving DecidableEq, Repr

namespace TxBuffer

def ofSize (maxTxSize : Nat) : TxBuffer := ⟨List.replicate maxTxSize 0, 0⟩

/-- `Start` and `GetWriter`: objects go behind the response header. -/
def start (tx : TxBuffer) : HeaderWriter := ⟨tx.buffer, 4⟩

def lastResponse (tx : TxBuffer) : List UInt8 := tx.buffer.take tx.lastLength

end TxBuffer

/-- The sequence numbers and the buffer of the solicited or the unsolicited channel. -/
structure Channel where
  num : Fin 16
  confirmNum : Fin 16
  tx : TxBuffer
  deriving DecidableEq, Repr

/-- The last request that was processed, as far as it is remembered. -/
structure RequestHistory where
  hasLast : Bool
  lastHeader : APDUHeader
  lastDigest : UInt16
  lastObjectsLength : Nat
  deriving DecidableEq, Repr

namespace RequestHistory

def fresh : RequestHistory := ⟨false, ⟨.request 0, .UNKNOWN⟩, 0, 0⟩

def reset (h : RequestHistory) : RequestHistory := { h with hasLast := false }

def ofRequest (request : ParsedRequest) : RequestHistory :=
  ⟨true, request.header, Link.CRC.calcCrc request.objects, request.objects.length⟩

def fullyEqualsLastRequest (h : RequestHistory) (request : ParsedRequest) : Bool :=
  h.lastHeader == request.header && h.hasLast &&
    h.lastObjectsLength == request.objects.length &&
    h.lastDigest == Link.CRC.calcCrc request.objects

end RequestHistory

/-- The outstation: its station, the state of the confirm wait and the deferred request. -/
structure OContext where
  addresses : Addresses
  params : OutstationParams
  station : Station
  state : OutstationState
  isOnline : Bool
  isTransmitting : Bool
  /-- `rspContext.fragmentCount`, a 16-bit number. -/
  fragmentCount : Nat
  deferred : Option ParsedRequest
  sol : Channel
  unsol : Channel
  completedNull : Bool
  unsolRetries : NumRetries
  history : RequestHistory
  lastBroadcastMessageReceived : Option LinkBroadcastAddress
  /-- Is the confirm timer running? -/
  confirmTimer : Bool

/-- The context after a reaction, and the state to go to. -/
abbrev Reaction := OContext × OutstationState

namespace OContext

def setStation (s : OContext) (station : Station) : OContext := { s with station }

def setState (s : OContext) (state : OutstationState) : OContext := { s with state }

def setTransmitting (s : OContext) (isTransmitting : Bool) : OContext := { s with isTransmitting }

def setFragmentCount (s : OContext) (fragmentCount : Nat) : OContext := { s with fragmentCount }

def setDeferred (s : OContext) (deferred : Option ParsedRequest) : OContext := { s with deferred }

def setSol (s : OContext) (sol : Channel) : OContext := { s with sol }

def setUnsol (s : OContext) (unsol : Channel) : OContext := { s with unsol }

def setHistory (s : OContext) (history : RequestHistory) : OContext := { s with history }

def setBroadcast (s : OContext) (b : Option LinkBroadcastAddress) : OContext :=
  { s with lastBroadcastMessageReceived := b }

def setTimer (s : OContext) (confirmTimer : Bool) : OContext := { s with confirmTimer }

/-- Write to the log. -/
def record (s : OContext) (actions : List Action) : OContext :=
  s.setStation (s.station.record actions)

/-- An outstation that has just been constructed. -/
def init (addresses : Addresses) (params : OutstationParams) (numUnsolRetries : Option Nat)
    (unsolClassMask : ClassField) (eventBufferConfig : EventBufferConfig) (database : Database) :
    OContext where
  addresses := addresses
  params := params
  station := ⟨database, .ofConfig eventBufferConfig, IINBit.DEVICE_RESTART.mask, .fresh, .fresh,
    unsolClassMask, false, []⟩
  state := .Idle
  isOnline := false
  isTransmitting := false
  fragmentCount := 0
  deferred := none
  sol := ⟨0, 0, .ofSize params.maxTxFragSize⟩
  unsol := ⟨0, 0, .ofSize params.maxTxFragSize⟩
  completedNull := false
  unsolRetries := ⟨0, numUnsolRetries⟩
  history := .fresh
  lastBroadcastMessageReceived := none
  confirmTimer := false

def canTransmit (s : OContext) : Bool := s.isOnline && !s.isTransmitting

/-- `ResponseContext::HasSelection`. -/
def hasSelection (s : OContext) : Bool :=
  s.station.database.hasAnySelection || s.station.eventBuffer.hasAnySelection

/-! ## Internal indications -/

/-- `GetDynamicIIN`. -/
def getDynamicIIN (s : OContext) : OContext × IINField :=
  let classField := s.station.eventBuffer.unwrittenClassField
  let (eventBuffer, overflown) := s.station.eventBuffer.isOverflown
  (s.setStation (s.station.setEventBuffer eventBuffer),
    (((IINField.empty.setBitToValue .CLASS1_EVENTS classField.class1).setBitToValue
      .CLASS2_EVENTS classField.class2).setBitToValue .CLASS3_EVENTS
      classField.class3).setBitToValue .EVENT_BUFFER_OVERFLOW overflown)

/-- `GetResponseIIN`. -/
def getResponseIIN (env : Env) (s : OContext) : OContext × IINField :=
  let (s, dynamic) := s.getDynamicIIN
  (s, (s.station.staticIIN.or dynamic).or env.applicationIIN.toIIN)

/-! ## Transmitting -/

/-- `BeginTx`. -/
def beginTx (s : OContext) (destination : UInt16) (fragment : List UInt8) : OContext :=
  (s.setTransmitting true).record [.transmit destination fragment]

/-- What the response says because of a broadcast: that there was one and, if it has to be
    confirmed, that a confirm is wanted. -/
def broadcastHeader (s : OContext) (header : APDUResponseHeader) : APDUResponseHeader :=
  match s.lastBroadcastMessageReceived with
  | none => header
  | some address =>
    { header with
      IIN := header.IIN.or IINBit.BROADCAST.mask
      control :=
        if address = .ShallConfirm then { header.control with CON := true } else header.control }

/-- `CheckForBroadcastConfirmation`: only a broadcast that has to be confirmed stays
    pending. -/
def checkForBroadcastConfirmation (s : OContext) : OContext :=
  if s.lastBroadcastMessageReceived = some .ShallConfirm then s else s.setBroadcast none

/-- The bytes of a response: its objects with the header in front. -/
def finishResponse (w : HeaderWriter) (header : APDUResponseHeader) : HeaderWriter :=
  w.patch 0 [header.control.toByte, header.function.toType, header.IIN.LSB, header.IIN.MSB]

/-- `BeginResponseTx`. -/
def beginResponseTx (s : OContext) (kind : ResponseKind) (destination : UInt16)
    (header : APDUResponseHeader) (w : HeaderWriter) (events : List Nat) : Reaction :=
  let header := s.broadcastHeader header
  let w := finishResponse w header
  let tx : TxBuffer := ⟨w.buffer, w.position⟩
  let s := s.checkForBroadcastConfirmation
  let s := s.setSol ⟨s.sol.num, header.control.SEQ, tx⟩
  let s := (s.record [.response kind header.control events]).beginTx destination tx.lastResponse
  if header.control.CON then (s.setTimer true, .SolicitedConfirmWait) else (s, .Idle)

/-- `BeginRetransmitLastResponse`. -/
def beginRetransmitLastResponse (s : OContext) (destination : UInt16) : OContext :=
  s.beginTx destination s.sol.tx.lastResponse

/-- `BeginRetransmitLastUnsolicitedResponse`. -/
def beginRetransmitLastUnsolicitedResponse (s : OContext) : OContext :=
  s.beginTx s.addresses.destination s.unsol.tx.lastResponse

/-- `BeginUnsolTx`, with `build::NullUnsolicited` for the header. -/
def beginUnsolTx (s : OContext) (iin : IINField) (w : HeaderWriter) (events : List Nat) :
    OContext :=
  let header := s.broadcastHeader ⟨⟨⟨true, true, true, true, s.unsol.num⟩,
    .UNSOLICITED_RESPONSE⟩, iin⟩
  let w := finishResponse w header
  let tx : TxBuffer := ⟨w.buffer, w.position⟩
  let s := s.checkForBroadcastConfirmation
  let s := s.setUnsol ⟨s.unsol.num + 1, s.unsol.num, tx⟩
  (s.record [.unsolicited header.control events]).beginTx s.addresses.destination tx.lastResponse

/-! ## Responses -/

/-- What `LoadResponse` has written: the objects, the control field without its sequence
    number, and the events. -/
structure Loaded where
  writer : HeaderWriter
  control : AppControlField
  events : List Nat

/-- `ResponseContext::LoadResponse`: events first, then static data. -/
def loadResponse (s : OContext) (w : HeaderWriter) : OContext × Loaded :=
  let fir := s.fragmentCount == 0
  let s := s.setFragmentCount ((s.fragmentCount + 1) % 65536)
  let (eventBuffer, w', events, notFull) := s.station.eventBuffer.load w
  let s := s.setStation (s.station.setEventBuffer eventBuffer)
  let someEventsWritten := w'.remaining < w.remaining
  if notFull then
    let (database, w'', fin) := s.station.database.load w'
    (s.setStation (s.station.setDatabase database),
      ⟨w'', ⟨fir, fin, !fin || someEventsWritten, false, 0⟩, events⟩)
  else (s, ⟨w', ⟨fir, false, true, false, 0⟩, events⟩)

/-- Send what was loaded, with the sequence number and the indications. -/
def respondLoaded (env : Env) (s : OContext) (kind : ResponseKind) (destination : UInt16)
    (seq : Fin 16) (iin : IINField) (loaded : Loaded) : Reaction :=
  let (s, responseIIN) := s.getResponseIIN env
  s.beginResponseTx kind destination
    ⟨⟨{ loaded.control with SEQ := seq }, .RESPONSE⟩, iin.or responseIIN⟩ loaded.writer
    loaded.events

/-- A response of one fragment that carries no events. -/
def singleFragment (w : HeaderWriter) : Loaded := ⟨w, ⟨true, true, false, false, 0⟩, []⟩

/-- `RespondToNonReadRequest`. -/
def respondToNonReadRequest (env : Env) (s : OContext) (request : ParsedRequest) : Reaction :=
  let s := s.setHistory (.ofRequest request)
  let (station, w, iin) := handleNonReadResponse s.params env s.sol.num request.header.function
    request.objects s.sol.tx.start s.station
  respondLoaded env (s.setStation station) .other request.addresses.source
    request.header.control.SEQ iin (singleFragment w)

/-- Forget the selections of an earlier READ. -/
def unselectAll (s : OContext) : OContext :=
  s.setStation ((s.station.setEventBuffer s.station.eventBuffer.unselect).setDatabase
    s.station.database.unselect)

/-- `HandleRead`, where the request is not about files: select what it asks for and load the
    first fragment. -/
def loadRead (s : OContext) (objects : List UInt8) (w : HeaderWriter) :
    OContext × IINField × Loaded :=
  let s := (s.setFragmentCount 0).unselectAll
  match handleObjects readHandler .NoContents objects
      (s.station.database, s.station.eventBuffer) with
  | .error result => (s, iinFromParseResult result, singleFragment w)
  | .ok ((database, eventBuffer), errors) =>
    let s := s.setStation ((s.station.setDatabase database).setEventBuffer eventBuffer)
    let (s, loaded) := s.loadResponse w
    (s, errors, loaded)

/-- `RespondToReadRequest`, with the branch of `HandleRead` for a file block. -/
def respondToReadRequest (env : Env) (s : OContext) (request : ParsedRequest) : Reaction :=
  let s := s.setHistory (.ofRequest request)
  let seq := request.header.control.SEQ
  let w := s.sol.tx.start
  if isFileReadRequest request.objects then
    let (iin, w, calls) := handleFileRead s.params.hasFileHandler env.file request.objects w
    respondLoaded env (s.record (calls.map .file)) .other request.addresses.source seq iin
      (singleFragment w)
  else
    let (s, iin, loaded) := s.loadRead request.objects w
    respondLoaded env s (.first seq) request.addresses.source seq iin loaded

/-- `ContinueMultiFragResponse`. -/
def continueMultiFragResponse (env : Env) (s : OContext) (destination : UInt16) (seq : Fin 16) :
    Reaction :=
  let (s, loaded) := s.loadResponse s.sol.tx.start
  respondLoaded env s .next destination seq .empty loaded

/-! ## The states -/

/-- `OnConfirmProcessed`, with the numbers of events that are still to be confirmed. -/
def notifyConfirm (s : OContext) (uns : Bool) : OContext :=
  let lists := s.station.eventBuffer.lists
  s.record [.confirmProcessed uns (lists.numUnwritten .EC1) (lists.numUnwritten .EC2)
    (lists.numUnwritten .EC3)]

/-- `eventBuffer.ClearWritten()` on a confirm. -/
def clearWritten (s : OContext) (uns : Bool) (seq : Fin 16) : OContext :=
  let eventBuffer := s.station.eventBuffer
  s.setStation ((s.station.setEventBuffer eventBuffer.clearWritten).record
    [.cleared uns seq (eventBuffer.lists.idsIn .written)])

/-- What every accepted confirm does: any request is a new request from now on. -/
def acceptConfirm (s : OContext) : OContext :=
  ((s.setHistory s.history.reset).setTimer false).setBroadcast none

/-- `StateSolicitedConfirmWait::OnConfirm`. -/
def onSolicitedConfirm (env : Env) (s : OContext) (request : ParsedRequest) : Reaction :=
  let control := request.header.control
  if control.UNS || s.sol.confirmNum != control.SEQ then
    (s, s.state)
  else
    let s := (s.acceptConfirm.clearWritten false control.SEQ).notifyConfirm false
    if s.hasSelection then
      s.continueMultiFragResponse env request.addresses.source (control.SEQ + 1)
    else (s, .Idle)

/-- `StateUnsolicitedConfirmWait::OnConfirm`.  The confirm of a null response clears no
    events. -/
def onUnsolicitedConfirm (s : OContext) (request : ParsedRequest) : Reaction :=
  let control := request.header.control
  if !control.UNS || s.unsol.confirmNum != control.SEQ then
    (s, s.state)
  else
    let s := s.acceptConfirm.notifyConfirm true
    let s := if s.completedNull then s.clearWritten true control.SEQ
      else { s with completedNull := true }
    (s.setStation (s.station.setShouldCheck true), .Idle)

/-- The confirm goes to the current state. -/
def onConfirm (env : Env) (s : OContext) (request : ParsedRequest) : Reaction :=
  match s.state with
  | .Idle => (s, .Idle)
  | .SolicitedConfirmWait => s.onSolicitedConfirm env request
  | .UnsolicitedConfirmWait | .NullUnsolicitedConfirmWait => s.onUnsolicitedConfirm request

/-- `StateUnsolicitedConfirmWait::OnConfirmTimeout`: repeat the response, or give up. -/
def onUnsolicitedTimeout (s : OContext) : Reaction :=
  if s.completedNull then
    let (unsolRetries, shouldRetry) := s.unsolRetries.retry
    let s := { s with unsolRetries }
    if shouldRetry && s.deferred.isNone then
      ((s.setTimer true).beginRetransmitLastUnsolicitedResponse, s.state)
    else
      (s.setStation (s.station.setEventBuffer s.station.eventBuffer.unselect), .Idle)
  else (s, .Idle)

def onConfirmTimeout (s : OContext) : Reaction :=
  match s.state with
  | .Idle | .SolicitedConfirmWait => (s, .Idle)
  | .UnsolicitedConfirmWait | .NullUnsolicitedConfirmWait => s.onUnsolicitedTimeout

/-- `OnNewReadRequest` of the states: a wait for a solicited confirm is given up. -/
def onNewReadRequest (env : Env) (s : OContext) (request : ParsedRequest) : Reaction :=
  match s.state with
  | .Idle => s.respondToReadRequest env request
  | .SolicitedConfirmWait | .NullUnsolicitedConfirmWait =>
    (s.setTimer false).respondToReadRequest env request
  | .UnsolicitedConfirmWait => (s.setDeferred (some request), s.state)

/-- `OnNewNonReadRequest` of the states. -/
def onNewNonReadRequest (env : Env) (s : OContext) (request : ParsedRequest) : Reaction :=
  match s.state with
  | .Idle => s.respondToNonReadRequest env request
  | .SolicitedConfirmWait => (s.setTimer false).respondToNonReadRequest env request
  -- the state that the response would lead to is not taken
  | .UnsolicitedConfirmWait | .NullUnsolicitedConfirmWait =>
    (((s.setDeferred none).respondToNonReadRequest env request).1, s.state)

/-- `OnRepeatNonReadRequest` of the states: only one of them touches the timer. -/
def onRepeatNonReadRequest (s : OContext) (request : ParsedRequest) : Reaction :=
  match s.state with
  | .SolicitedConfirmWait =>
    ((s.setTimer false).beginRetransmitLastResponse request.addresses.source, s.state)
  | _ => (s.beginRetransmitLastResponse request.addresses.source, s.state)

/-- `OnRepeatReadRequest` of the states. -/
def onRepeatReadRequest (s : OContext) (request : ParsedRequest) : Reaction :=
  match s.state with
  | .Idle => (s.beginRetransmitLastResponse request.addresses.source, s.state)
  | .SolicitedConfirmWait =>
    ((s.setTimer true).beginRetransmitLastResponse request.addresses.source, s.state)
  | .UnsolicitedConfirmWait | .NullUnsolicitedConfirmWait =>
    (s.setDeferred (some request), s.state)

/-- `OnBroadcastMessage`: a broadcast ends every wait. -/
def onBroadcastMessage (env : Env) (s : OContext) (request : ParsedRequest) : OContext :=
  let station := processBroadcastRequest s.params env s.sol.num request.header.function
    request.objects s.station
  ((s.setStation station).record [.broadcast]).setState .Idle

/-! ## Requests -/

/-- Is the request a repetition of the last one? -/
def recognises (s : OContext) (request : ParsedRequest) : Bool :=
  s.history.hasLast && s.sol.num == request.header.control.SEQ &&
    s.history.fullyEqualsLastRequest request

/-- `OnReceiveSolRequest` and `ProcessNewRequest`. -/
def onReceiveSolRequest (env : Env) (s : OContext) (request : ParsedRequest) : Reaction :=
  if s.recognises request then
    if request.header.function = .READ then s.onRepeatReadRequest request
    else s.onRepeatNonReadRequest request
  else
    let s := s.setSol { s.sol with num := request.header.control.SEQ }
    if request.header.function = .READ then s.onNewReadRequest env request
    else s.onNewNonReadRequest env request

/-- Take the state that a reaction leads to. -/
def take (r : Reaction) : OContext := r.1.setState r.2

/-- `ProcessRequest`. -/
def processRequest (env : Env) (s : OContext) (request : ParsedRequest) : OContext :=
  if request.header.control.UNS then s else take (s.onReceiveSolRequest env request)

/-- `ProcessConfirm`. -/
def processConfirm (env : Env) (s : OContext) (request : ParsedRequest) : OContext :=
  let control := request.header.control
  take ((s.record [.confirm control.UNS control.SEQ]).onConfirm env request)

/-- Function codes that want no answer. -/
def isNoAckFuncCode : FunctionCode → Bool
  | .DIRECT_OPERATE_NR | .IMMED_FREEZE_NR | .FREEZE_AT_TIME_NR | .FREEZE_CLEAR_NR => true
  | _ => false

/-- `ProcessObjects`. -/
def processObjects (env : Env) (s : OContext) (request : ParsedRequest) : OContext :=
  if request.addresses.isBroadcast then
    s.onBroadcastMessage env request
  else if isNoAckFuncCode request.header.function then
    s.setStation (processRequestNoAck s.params env s.sol.num request.header.function
      request.objects s.station)
  else if s.isTransmitting then
    s.setDeferred (some request)
  else if request.header.function = .CONFIRM then
    s.processConfirm env request
  else s.processRequest env request

/-- `UpdateLastBroadcastMessageReceived`. -/
def updateLastBroadcastMessageReceived (s : OContext) (destination : UInt16) : OContext :=
  if destination = LinkBroadcastAddress.DontConfirm.toAddress then
    s.setBroadcast (some .DontConfirm)
  else if destination = LinkBroadcastAddress.ShallConfirm.toAddress then
    s.setBroadcast (some .ShallConfirm)
  else if destination = LinkBroadcastAddress.OptionalConfirm.toAddress then
    s.setBroadcast (some .OptionalConfirm)
  else s.setBroadcast none

/-- `APDUHeaderParser::ParseRequest` and the checks of the control field. -/
def parseRequest (message : Message) : Option ParsedRequest :=
  match message.payload with
  | control :: function :: objects =>
    let header : APDUHeader := ⟨.ofByte control, .fromType function⟩
    if header.control.isFirAndFin && !header.control.CON then
      some ⟨message.addresses, header, objects⟩
    else none
  | _ => none

/-- Is the message meant for this outstation, and from the right master? -/
def isAccepted (s : OContext) (addresses : Addresses) : Bool :=
  (addresses.destination == s.addresses.source || addresses.isBroadcast) &&
    (s.params.respondToAnyMaster || addresses.source == s.addresses.destination)

/-- `ProcessMessage`. -/
def processMessage (env : Env) (s : OContext) (message : Message) : OContext :=
  if s.isAccepted message.addresses then
    let s :=
      if message.addresses.isBroadcast then
        s.updateLastBroadcastMessageReceived message.addresses.destination
      else s
    match parseRequest message with
    | none => s
    | some request => s.processObjects env request
  else s

/-! ## Tasks -/

/-- `ProcessDeferredRequest`; the flag says whether the request was processed. -/
def processDeferredRequest (env : Env) (s : OContext) (request : ParsedRequest) :
    OContext × Bool :=
  if request.header.function = .CONFIRM then
    (s.processConfirm env request, true)
  else if request.header.function = .READ then
    if s.state = .Idle then (s.processRequest env request, true) else (s, false)
  else (s.processRequest env request, true)

/-- `CheckForDeferredRequest`. -/
def checkForDeferredRequest (env : Env) (s : OContext) : OContext :=
  match s.deferred with
  | none => s
  | some request =>
    if s.canTransmit then
      let (s, processed) := s.processDeferredRequest env request
      if processed then s.setDeferred none else s
    else s

/-- Is the outstation free to start an unsolicited response? -/
def canStartUnsolicited (s : OContext) : Bool :=
  s.canTransmit && s.state == .Idle && s.params.allowUnsolicited

/-- `CheckForUnsolicitedNull`. -/
def checkForUnsolicitedNull (env : Env) (s : OContext) : OContext :=
  if s.canStartUnsolicited && !s.completedNull then
    let (s, iin) := s.getResponseIIN env
    let s := (s.setTimer true).setState
      (if s.params.noDefferedReadDuringUnsolicitedNullResponse then .NullUnsolicitedConfirmWait
        else .UnsolicitedConfirmWait)
    s.beginUnsolTx iin s.unsol.tx.start []
  else s

/-- Select and write the events for an unsolicited response. -/
def loadUnsolicited (s : OContext) : OContext × HeaderWriter × List Nat :=
  let eventBuffer := s.station.eventBuffer.unselect.selectAllByClass s.station.unsolClassMask
  let (eventBuffer, w, events, _) := eventBuffer.load s.unsol.tx.start
  ({ s with
      station := s.station.setEventBuffer eventBuffer
      unsolRetries := s.unsolRetries.reset }, w, events)

/-- `CheckForUnsolicited`. -/
def checkForUnsolicited (env : Env) (s : OContext) : OContext :=
  if s.station.shouldCheckForUnsolicited && s.canStartUnsolicited then
    let s := s.setStation (s.station.setShouldCheck false)
    if s.completedNull &&
        s.station.unsolClassMask.intersects s.station.eventBuffer.unwrittenClassField then
      let (s, w, events) := s.loadUnsolicited
      let (s, iin) := s.getResponseIIN env
      ((s.setTimer true).setState .UnsolicitedConfirmWait).beginUnsolTx iin w events
    else s
  else s

/-- `CheckForTaskStart`, in the order of priority. -/
def checkForTaskStart (env : Env) (s : OContext) : OContext :=
  ((s.checkForDeferredRequest env).checkForUnsolicitedNull env).checkForUnsolicited env

/-! ## Steps -/

/-- `OnLowerLayerDown`. -/
def onLowerLayerDown (s : OContext) : OContext :=
  { s with
    station := (s.station.setEventBuffer s.station.eventBuffer.unselect).record [.layerDown]
    state := .Idle
    isOnline := false
    isTransmitting := false
    completedNull := false
    history := s.history.reset
    deferred := none
    fragmentCount := 0
    confirmTimer := false }

end OContext

/-- What happens to an outstation, with the world at that moment.  While a message is handled
    and when a deferred request is handled after it, the world may differ. -/
inductive Input where
  | lowerLayerUp (env : Env)
  | lowerLayerDown
  | txReady (env : Env)
  | receive (message : Message) (env later : Env)
  | confirmTimeout (env : Env)
  | apply (updates : List Database.Update) (env : Env)
  | setRestartIIN

namespace OContext

/-- One event.  The confirm timer only expires while it is running. -/
def step (s : OContext) : Input → OContext
  | .lowerLayerUp env =>
    if s.isOnline then s
    else
      { s with
        isOnline := true
        station := s.station.setShouldCheck true }.checkForTaskStart env
  | .lowerLayerDown => if s.isOnline then s.onLowerLayerDown else s
  | .txReady env =>
    if s.isOnline && s.isTransmitting then (s.setTransmitting false).checkForTaskStart env else s
  | .receive message env later =>
    if s.isOnline then (s.processMessage env message).checkForTaskStart later else s
  | .confirmTimeout env =>
    if s.confirmTimer then
      (take ((s.setTimer false).record [.confirmTimeout]).onConfirmTimeout).checkForTaskStart env
    else s
  | .apply updates env =>
    if updates.isEmpty then s
    else
      let station := s.station.applyUpdates env.timeSource updates
      (s.setStation (station.setShouldCheck true)).checkForTaskStart env
  | .setRestartIIN =>
    s.setStation (s.station.setStaticIIN (s.station.staticIIN.setBit .DEVICE_RESTART))

end OContext

/-! ## A small outstation

Runs that show what can happen in an outstation start from this one: it has the address 10, its
master has the address 1, and its points are binary inputs of class 1. -/

namespace Sample

/-- An application that agrees to everything and has no files. -/
def env (now : Nat) : Env where
  now := now
  timeSource := .ofValue now
  applicationIIN := ⟨false, false, false, false, false⟩
  supportsWriteAbsoluteTime := true
  writeAbsoluteTime := true
  supportsWriteTimeAndInterval := true
  writeTimeAndInterval := true
  supportsAssignClass := true
  coldRestartSupport := .SUPPORTED_DELAY_FINE
  coldRestart := 0
  warmRestartSupport := .SUPPORTED_DELAY_FINE
  warmRestart := 0
  command := fun _ => ⟨.SUCCESS, []⟩
  file := ⟨(.NOT_EXIST, ⟨[], 0, 0, 0, 0, 0⟩), ⟨.NOT_EXIST, 0, 0, 0⟩, ⟨.NOT_EXIST, [], true⟩,
    .NOT_EXIST, .NOT_EXIST, .NOT_EXIST, (.NOT_EXIST, 0)⟩

/-- The binary inputs from 0 on. -/
def binaries : Nat → List (Nat × PointConfig BinarySpec)
  | 0 => []
  | n + 1 => binaries n ++ [(n, ⟨.Class1, .Group1Var2, .Group2Var1, ()⟩)]

theorem keySorted_binaries (n : Nat) : KeySorted (binaries n) ∧ ∀ p ∈ binaries n, p.1 < n := by
  induction n with
  | zero => exact ⟨.nil, by simp [binaries]⟩
  | succ n ih =>
    refine ⟨List.pairwise_append.mpr ⟨ih.1, List.pairwise_singleton _ _, ?_⟩, ?_⟩
    · intro p hp q hq
      rw [List.mem_singleton.mp hq]
      exact ih.2 p hp
    · intro p hp
      rcases List.mem_append.mp hp with hp | hp
      · exact Nat.lt_succ_of_lt (ih.2 p hp)
      · rw [List.mem_singleton.mp hp]
        exact Nat.lt_succ_self n

def database (n : Nat) : Database where
  binary_input := .ofConfig (binaries n) (keySorted_binaries n).1
  double_binary := .ofConfig [] StaticDataMap.sorted_nil
  analog_input := .ofConfig [] StaticDataMap.sorted_nil
  counter := .ofConfig [] StaticDataMap.sorted_nil
  frozen_counter := .ofConfig [] StaticDataMap.sorted_nil
  binary_output_status := .ofConfig [] StaticDataMap.sorted_nil
  analog_output_status := .ofConfig [] StaticDataMap.sorted_nil
  time_and_interval := .ofConfig [] StaticDataMap.sorted_nil
  octet_string := .ofConfig [] StaticDataMap.sorted_nil
  allowed_class_zero_types := []

/-- An outstation with this many binary inputs, room for this many events, fragments of this
    size, and unsolicited responses with class 1 if it may send any. -/
def outstation (points maxEvents maxTxFragSize : Nat) (allowUnsolicited : Bool) : OContext :=
  .init ⟨10, 1⟩ ⟨4, 1000, true, maxTxFragSize, allowUnsolicited, false, true⟩ (some 2)
    ⟨false, true, false, false⟩ ⟨maxEvents, 0, 0, 0, 0, 0, 0, 0⟩ (database points)

/-- The master sends a request. -/
def request (control function : UInt8) (objects : List UInt8) (now : Nat) : Input :=
  .receive ⟨⟨1, 10⟩, control :: function :: objects⟩ (env now) (env now)

/-- The master sends a request to all outstations, which they shall confirm. -/
def broadcast (control function : UInt8) (objects : List UInt8) (now : Nat) : Input :=
  .receive ⟨⟨1, LinkBroadcastAddress.ShallConfirm.toAddress⟩, control :: function :: objects⟩
    (env now) (env now)

/-- A binary input changes. -/
def change (index : Nat) (value : Bool) (now : Nat) : Input :=
  .apply [.binary ⟨value, 1, .ofValue now⟩ index .Detect] (env now)

end Sample

end OpenDnp3.Outstation
