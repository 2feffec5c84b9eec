import OpenDnp3.App.APDUParser
import OpenDnp3.Outstation.Freeze
import OpenDnp3.Outstation.Station

/-!
# Handlers of the application functions

What the outstation does for each function code, apart from the exchange of fragments around
it.  A handler gets the station, the objects of the request and the response written so far.
What the application would answer while the request is handled comes from `Env`.
-/

namespace OpenDnp3.Outstation

open App Lib

/-! ## Configuration and environment -/

/-- `NumRetries`: how often an unsolicited response is repeated; `none` stands for ever. -/
structure NumRetries where
  numRetries : Nat
  maxNumRetries : Option Nat
  deriving DecidableEq, Repr

namespace NumRetries

def retry (r : NumRetries) : NumRetries × Bool :=
  let numRetries := r.numRetries + 1
  ({ r with numRetries },
    match r.maxNumRetries with
    | none => true
    | some max => numRetries ≤ max)

def reset (r : NumRetries) : NumRetries := { r with numRetries := 0 }

end NumRetries

/-- The parameters that do not change.  The mask of unsolicited classes is part of the
    station, because requests change it. -/
structure OutstationParams where
  maxControlsPerRequest : Nat
  selectTimeout : Nat
  noDefferedReadDuringUnsolicitedNullResponse : Bool
  maxTxFragSize : Nat
  allowUnsolicited : Bool
  respondToAnyMaster : Bool
  hasFileHandler : Bool
  deriving DecidableEq, Repr

inductive RestartMode where
  | UNSUPPORTED
  | SUPPORTED_DELAY_FINE
  | SUPPORTED_DELAY_COARSE
  deriving DecidableEq, Repr

structure ApplicationIIN where
  needTime : Bool
  localControl : Bool
  deviceTrouble : Bool
  configCorrupt : Bool
  eventBufferOverflow : Bool
  deriving DecidableEq, Repr

def ApplicationIIN.toIIN (iin : ApplicationIIN) : IINField :=
  ((((IINField.empty.setBitToValue .NEED_TIME iin.needTime).setBitToValue .LOCAL_CONTROL
    iin.localControl).setBitToValue .CONFIG_CORRUPT iin.configCorrupt).setBitToValue
    .DEVICE_TROUBLE iin.deviceTrouble).setBitToValue .EVENT_BUFFER_OVERFLOW
    iin.eventBufferOverflow

/-- The command handler's answer to one command, and what it updates meanwhile. -/
structure CommandReply where
  status : CommandStatus
  updates : List Database.Update

/-- The world around one request: the executor's clock, the time source, and the answers of
    the application, the command handler (by the number of the call) and the file handler. -/
structure Env where
  now : Nat
  timeSource : DNPTime
  applicationIIN : ApplicationIIN
  supportsWriteAbsoluteTime : Bool
  writeAbsoluteTime : Bool
  supportsWriteTimeAndInterval : Bool
  writeTimeAndInterval : Bool
  supportsAssignClass : Bool
  coldRestartSupport : RestartMode
  coldRestart : UInt16
  warmRestartSupport : RestartMode
  warmRestart : UInt16
  command : Nat → CommandReply
  file : FileReplies

/-- The indication for the errors of a handler, or for objects that do not parse. -/
def iinOf {σ : Type} (s : σ) : Except ParseResult (σ × IINField) → σ × IINField
  | .ok (s, errors) => (s, errors)
  | .error result => (s, iinFromParseResult result)

/-! ## READ -/

/-- `ReadHandler`: select in the database and in the event buffer. -/
def readHandler : APDUHandler (Database × EventBuffer) where
  isAllowed _ _ _ := true
  processHeader := fun (db, events) _ header =>
    match header with
    | .allObjects record =>
      match groupVariationType record.group record.variation with
      | .STATIC =>
        let (db, iin) := db.selectAll record.enumeration
        ((db, events), iin)
      | .EVENT =>
        let (events, iin) := events.selectAll record.enumeration
        ((db, events), iin)
      | .OTHER => unsupportedHeader (db, events)
    | .range record range =>
      let (db, iin) := db.selectRange record.enumeration range
      ((db, events), iin)
    | .count record count =>
      let (events, iin) := events.selectCount record.enumeration count
      ((db, events), iin)
    | .indices record indices =>
      let (db, iin) := db.selectIndices record.enumeration indices
      ((db, events), iin)
    | _ => unsupportedHeader (db, events)

/-! ## WRITE -/

structure WriteRun where
  station : Station
  wroteTime : Bool
  wroteIIN : Bool

namespace WriteRun

/-- The restart indication is cleared, once, by a zero at its index. -/
def writeIIN (run : WriteRun) (values : List (Nat × Nat)) : WriteRun × IINField :=
  match values with
  | [(index, value)] =>
    if !run.wroteIIN && index == 7 && value == 0 then
      (⟨run.station.setStaticIIN (run.station.staticIIN.clearBit .DEVICE_RESTART), run.wroteTime,
        true⟩, .empty)
    else (run, IINBit.PARAM_ERROR.mask)
  | _ => (run, IINBit.PARAM_ERROR.mask)

/-- Hand a time to the application. -/
def writeTime (env : Env) (run : WriteRun) (time : Nat) : WriteRun × IINField :=
  (⟨run.station.record [.writeAbsoluteTime time], true, run.wroteIIN⟩,
    if env.writeAbsoluteTime then .empty else IINBit.PARAM_ERROR.mask)

/-- Group 50 variation 1: an absolute time. -/
def writeAbsoluteTime (env : Env) (run : WriteRun) (objects : List (List UInt8)) :
    WriteRun × IINField :=
  if run.wroteTime then (run, IINBit.PARAM_ERROR.mask)
  else if !env.supportsWriteAbsoluteTime then (run, IINBit.FUNC_NOT_SUPPORTED.mask)
  else
    match objects with
    | [time] => run.writeTime env (decodeLE time)
    | _ => (run, IINBit.PARAM_ERROR.mask)

/-- Group 50 variation 3: the time of the preceding RECORD_CURRENT_TIME request. -/
def writeRecordedTime (env : Env) (seq : Fin 16) (run : WriteRun) (objects : List (List UInt8)) :
    WriteRun × IINField :=
  if run.wroteTime then (run, IINBit.PARAM_ERROR.mask)
  else if !env.supportsWriteAbsoluteTime then (run, IINBit.FUNC_NOT_SUPPORTED.mask)
  else
    match objects with
    | [time] =>
      match run.station.time.calcTimeDifference seq env.now with
      | none => (run, IINBit.PARAM_ERROR.mask)
      | some sync =>
        WriteRun.writeTime env ⟨run.station.setTime sync, run.wroteTime, run.wroteIIN⟩
          (decodeLE time + sync.difference)
    | _ => (run, IINBit.PARAM_ERROR.mask)

/-- Group 50 variation 4. -/
def writeTimeAndInterval (env : Env) (run : WriteRun) (values : List (Nat × List UInt8)) :
    WriteRun × IINField :=
  if !env.supportsWriteTimeAndInterval then (run, IINBit.FUNC_NOT_SUPPORTED.mask)
  else
    (⟨run.station.record [.writeTimeAndInterval values], run.wroteTime, run.wroteIIN⟩,
      if env.writeTimeAndInterval then .empty else IINBit.PARAM_ERROR.mask)

end WriteRun

/-- `WriteHandler`: the restart bit, the time, and time and interval. -/
def writeHandler (env : Env) (seq : Fin 16) : APDUHandler WriteRun where
  isAllowed _ _ _ := true
  processHeader := fun run _ header =>
    match header with
    | .bitsOf record _ values =>
      if record.enumeration = ⟨80, 1⟩ then run.writeIIN values else unsupportedHeader run
    | .countOf record objects =>
      if record.enumeration = ⟨50, 1⟩ then run.writeAbsoluteTime env objects
      else if record.enumeration = ⟨50, 3⟩ then run.writeRecordedTime env seq objects
      else unsupportedHeader run
    | .indexed record objects =>
      if record.enumeration = ⟨50, 4⟩ then run.writeTimeAndInterval env objects
      else unsupportedHeader run
    | _ => unsupportedHeader run

def handleWrite (env : Env) (seq : Fin 16) (objects : List UInt8) (st : Station) :
    Station × IINField :=
  let (run, iin) := iinOf ⟨st, false, false⟩
    (handleObjects (writeHandler env seq) .Default objects ⟨st, false, false⟩)
  (run.station, iin)

/-! ## Commands -/

/-- `ICommandAction`: hand a command to the command handler, or answer with a constant. -/
inductive CommandAction where
  | adapter (isSelect : Bool)
  | constant (status : CommandStatus)
  deriving DecidableEq, Repr

/-- A `CommandResponseHandler` at work, with the status of each command and the commands that
    were handed on. -/
structure CommandRun where
  station : Station
  writer : Option HeaderWriter
  numRequests : Nat
  numSuccess : Nat
  statuses : List CommandStatus
  calls : List Command

namespace CommandRun

def start (st : Station) (writer : Option HeaderWriter) : CommandRun := ⟨st, writer, 0, 0, [], []⟩

def allCommandsSuccessful (run : CommandRun) : Bool := run.numRequests == run.numSuccess

/-- The queue flag of a control relay output block. -/
def isQUFlagSet (command : Command) : Bool :=
  command.gv == ⟨12, 1⟩ && command.object.getD 0 0 &&& 0x10 != 0

/-- Call the command handler.  Only an operation gets the update interface. -/
def callHandler (env : Env) (isSelect : Bool) (run : CommandRun) (command : Command) :
    CommandRun × CommandStatus :=
  let reply := env.command run.calls.length
  let station :=
    if isSelect then run.station else run.station.applyUpdates env.timeSource reply.updates
  (⟨station, run.writer, run.numRequests, run.numSuccess, run.statuses, run.calls ++ [command]⟩,
    reply.status)

def doAction (env : Env) (action : CommandAction) (run : CommandRun) (command : Command) :
    CommandRun × CommandStatus :=
  match action with
  | .constant status => (run, status)
  | .adapter isSelect =>
    if isQUFlagSet command then (run, .NOT_SUPPORTED) else callHandler env isSelect run command

/-- Commands beyond the maximum are answered, but neither handed on nor counted. -/
def processCommand (env : Env) (maxCommands : Nat) (action : CommandAction) (run : CommandRun)
    (command : Command) : CommandRun × CommandStatus :=
  if run.numRequests < maxCommands then
    doAction env action { run with numRequests := run.numRequests + 1 } command
  else (run, .TOO_MANY_OPS)

/-- The echo of a command differs from it in the status, its last byte. -/
def withStatus (object : List UInt8) (status : CommandStatus) : List UInt8 :=
  object.dropLast ++ [status.toType]

def serializer (gv : GroupVariation) : DNP3Serializer (List UInt8) :=
  ⟨⟨UInt8.ofNat gv.group, UInt8.ofNat gv.variation⟩, (sizeIn indexedSizes gv).getD 0, id⟩

/-- A header being answered: the handler, the header's iterator and its errors. -/
structure Echo where
  run : CommandRun
  iter : Option (PrefixedWriteIterator (List UInt8))
  iin : IINField

/-- Count a command's status. -/
def count (run : CommandRun) (status : CommandStatus) : CommandRun :=
  { run with
    numSuccess := if status = .SUCCESS then run.numSuccess + 1 else run.numSuccess
    statuses := run.statuses ++ [status] }

/-- Write the echo of a command, where there is a response and room in it. -/
def Echo.write (e : Echo) (object : List UInt8) (index : Nat) : Echo :=
  match e.iter, e.run.writer with
  | some iter, some w =>
    match iter.write w object index with
    | some (iter, w) => ⟨{ e.run with writer := some w }, some iter, e.iin⟩
    | none => e
  | _, _ => e

/-- The body of the loop of `RespondToHeaderWithIterator`. -/
def respondToCommand (env : Env) (maxCommands : Nat) (action : CommandAction)
    (gv : GroupVariation) (e : Echo) (item : Nat × List UInt8) : Echo :=
  let (run, status) := processCommand env maxCommands action e.run ⟨gv, item.1, item.2⟩
  let iin := if status = .NOT_SUPPORTED then e.iin.setBit .PARAM_ERROR else e.iin
  Echo.write ⟨run.count status, e.iter, iin⟩ (withStatus item.2 status) item.1

/-- Begin the header of the answer, if there is a response. -/
def startEcho (run : CommandRun) (record : HeaderRecord) : Echo :=
  match run.writer with
  | none => ⟨run, none, .empty⟩
  | some w =>
    let (indexType, qc) :=
      if record.qualifier = .UINT8_CNT_UINT8_INDEX then
        (IndexType.U8, QualifierCode.UINT8_CNT_UINT8_INDEX)
      else (IndexType.U16, QualifierCode.UINT16_CNT_UINT16_INDEX)
    let (iter, w) := PrefixedWriteIterator.start? w indexType qc (serializer record.enumeration)
    ⟨{ run with writer := some w }, iter, .empty⟩

/-- The destructor of the header's iterator. -/
def Echo.finish (e : Echo) : CommandRun :=
  match e.iter, e.run.writer with
  | some iter, some w => { e.run with writer := some (iter.finish w) }
  | _, _ => e.run

/-- `RespondToHeader`. -/
def respondToHeader (env : Env) (maxCommands : Nat) (action : CommandAction) (run : CommandRun)
    (record : HeaderRecord) (objects : List (Nat × List UInt8)) : CommandRun × IINField :=
  let e := objects.foldl (respondToCommand env maxCommands action record.enumeration)
    (run.startEcho record)
  (e.finish, e.iin)

end CommandRun

/-- Which headers a command request may have. -/
def isAllowedCommand (gv : GroupVariation) (qc : QualifierCode) : Bool :=
  (qc == .UINT8_CNT_UINT8_INDEX || qc == .UINT16_CNT_UINT16_INDEX) &&
    [⟨12, 1⟩, ⟨41, 1⟩, ⟨41, 2⟩, ⟨41, 3⟩, ⟨41, 4⟩].contains gv

def commandResponseHandler (env : Env) (maxCommands : Nat) (action : CommandAction) :
    APDUHandler CommandRun where
  isAllowed _ gv qc := isAllowedCommand gv qc
  processHeader := fun run _ header =>
    match header with
    | .indexed record objects => run.respondToHeader env maxCommands action record objects
    | _ => unsupportedHeader run

/-- Parse the commands of a request and act on them. -/
def runCommands (env : Env) (maxCommands : Nat) (action : CommandAction) (objects : List UInt8)
    (run : CommandRun) : Except ParseResult (CommandRun × IINField) :=
  handleObjects (commandResponseHandler env maxCommands action) .Default objects run

/-- `HandleDirectOperate`; without a writer for requests that want no answer. -/
def handleDirectOperate (params : OutstationParams) (env : Env) (seq : Fin 16)
    (opType : OperateType) (objects : List UInt8) (w : Option HeaderWriter) (st : Station) :
    Station × Option HeaderWriter × IINField :=
  if w.any fun w => objects.length > w.remaining then
    (st, w, IINBit.PARAM_ERROR.mask)
  else
    let (run, iin) := iinOf (.start st w)
      (runCommands env params.maxControlsPerRequest (.adapter false) objects (.start st w))
    ((run.station.record [.operate opType ⟨seq, env.now, objects⟩ run.calls]).setShouldCheck true,
      run.writer, iin)

/-- `HandleCommandWithConstant`. -/
def handleCommandWithConstant (params : OutstationParams) (env : Env) (objects : List UInt8)
    (w : HeaderWriter) (status : CommandStatus) (st : Station) :
    Station × HeaderWriter × IINField :=
  match runCommands env params.maxControlsPerRequest (.constant status) objects
      (.start st (some w)) with
  | .ok (run, _) => (run.station, run.writer.getD w, .empty)
  | .error result => (st, w, iinFromParseResult result)

/-- `HandleSelect`: the selection is recorded when every command handed on succeeded. -/
def handleSelect (params : OutstationParams) (env : Env) (seq : Fin 16) (objects : List UInt8)
    (w : HeaderWriter) (st : Station) : Station × HeaderWriter × IINField :=
  if objects.length > w.remaining then
    (st, w, IINBit.PARAM_ERROR.mask)
  else
    let request : CommandRequest := ⟨seq, env.now, objects⟩
    match runCommands env params.maxControlsPerRequest (.adapter true) objects
        (.start st (some w)) with
    | .ok (run, errors) =>
      let recorded := run.allCommandsSuccessful
      let st := run.station.record [.select request run.statuses recorded]
      (if recorded then st.setControl (.select request) else st, run.writer.getD w, errors)
    | .error result => (st, w, iinFromParseResult result)

/-- `HandleOperate`: an operation needs a valid selection, and a failure loses the selection. -/
def handleOperate (params : OutstationParams) (env : Env) (seq : Fin 16) (objects : List UInt8)
    (w : HeaderWriter) (st : Station) : Station × HeaderWriter × IINField :=
  if objects.length > w.remaining then
    (st, w, IINBit.PARAM_ERROR.mask)
  else
    let request : CommandRequest := ⟨seq, env.now, objects⟩
    let result := st.control.validateSelection request params.selectTimeout
    if result = .SUCCESS then
      let (run, iin) := iinOf (.start st (some w))
        (runCommands env params.maxControlsPerRequest (.adapter false) objects
          (.start st (some w)))
      ((run.station.record [.operate .SelectBeforeOperate request run.calls]).setShouldCheck true,
        run.writer.getD w, iin)
    else
      handleCommandWithConstant params env objects w result
        ((st.setControl st.control.unselect).record [.refused request result])

/-! ## Classes -/

structure AssignRun where
  station : Station
  classHeader : Option Nat
  clazz : PointClass

namespace AssignRun

/-- The types of points that can be assigned to a class. -/
def assignClassType : GroupVariation → Option Database.AssignClassType
  | ⟨1, 0⟩ => some .BinaryInput
  | ⟨3, 0⟩ => some .DoubleBinaryInput
  | ⟨10, 0⟩ => some .BinaryOutputStatus
  | ⟨20, 0⟩ => some .Counter
  | ⟨21, 0⟩ => some .FrozenCounter
  | ⟨30, 0⟩ => some .AnalogInput
  | ⟨40, 0⟩ => some .AnalogOutputStatus
  | _ => none

def pointClass : GroupVariation → Option PointClass
  | ⟨60, 1⟩ => some .Class0
  | ⟨60, 2⟩ => some .Class1
  | ⟨60, 3⟩ => some .Class2
  | ⟨60, 4⟩ => some .Class3
  | _ => none

/-- `IsExpectingAssignment`: was the header before this one a class header? -/
def isExpectingAssignment (run : AssignRun) (current : Nat) : Bool :=
  current > 0 && run.classHeader == some (current - 1)

/-- `RecordClass`. -/
def recordClass (run : AssignRun) (current : Nat) (gv : GroupVariation) : AssignRun × IINField :=
  match pointClass gv with
  | some clazz => (⟨run.station, some current, clazz⟩, .empty)
  | none => (⟨run.station, none, run.clazz⟩, IINBit.PARAM_ERROR.mask)

/-- Store the assignment and tell the application about it. -/
def assigned (run : AssignRun) (type : Database.AssignClassType) (db : Database)
    (actual : Range) : AssignRun :=
  let st := run.station.setDatabase db
  ⟨if actual.isValid then st.record [.recordClassAssignment type run.clazz actual] else st, none,
    run.clazz⟩

/-- `ProcessAssignAll`. -/
def processAssignAll (run : AssignRun) (type : Database.AssignClassType) : AssignRun × IINField :=
  let (db, full) := run.station.database.assignClassToAll type run.clazz
  (run.assigned type db full, if full.isValid then .empty else IINBit.PARAM_ERROR.mask)

/-- `ProcessAssignRange`: a range that was cut or is empty is a parameter error. -/
def processAssignRange (run : AssignRun) (type : Database.AssignClassType) (range : Range) :
    AssignRun × IINField :=
  let (db, actual) := run.station.database.assignClassToRange type run.clazz range
  (run.assigned type db actual, if actual = range then .empty else IINBit.PARAM_ERROR.mask)

/-- An assignment that is not supported uses up the class header, too. -/
def noAssignment (run : AssignRun) : AssignRun × IINField :=
  unsupportedHeader ⟨run.station, none, run.clazz⟩

end AssignRun

/-- `AssignClassHandler`: a class header, then the headers it is assigned to. -/
def assignClassHandler : APDUHandler AssignRun where
  isAllowed _ _ _ := true
  processHeader := fun run current header =>
    match header with
    | .allObjects record =>
      if run.isExpectingAssignment current then
        match AssignRun.assignClassType record.enumeration with
        | some type => run.processAssignAll type
        | none => run.noAssignment
      else run.recordClass current record.enumeration
    | .range record range =>
      if run.isExpectingAssignment current then
        match AssignRun.assignClassType record.enumeration with
        | some type => run.processAssignRange type range
        | none => run.noAssignment
      else (run, IINBit.PARAM_ERROR.mask)
    | _ => unsupportedHeader run

def handleAssignClass (env : Env) (objects : List UInt8) (st : Station) : Station × IINField :=
  if env.supportsAssignClass then
    let (run, iin) := iinOf ⟨st, none, .Class0⟩
      (handleObjects assignClassHandler .NoContents objects ⟨st, none, .Class0⟩)
    (run.station, iin)
  else (st, IINBit.FUNC_NOT_SUPPORTED.mask)

/-- `ClassBasedRequestHandler`: collect event classes. -/
def classBasedRequestHandler : APDUHandler ClassField where
  isAllowed _ _ _ := true
  processHeader := fun classes _ header =>
    match header with
    | .allObjects record =>
      match record.enumeration with
      | ⟨60, 2⟩ => (classes.set (.ofPointClass .Class1), .empty)
      | ⟨60, 3⟩ => (classes.set (.ofPointClass .Class2), .empty)
      | ⟨60, 4⟩ => (classes.set (.ofPointClass .Class3), .empty)
      | _ => unsupportedHeader classes
    | _ => unsupportedHeader classes

def handleDisableUnsolicited (objects : List UInt8) (st : Station) : Station × IINField :=
  match handleObjects classBasedRequestHandler .Default objects .none with
  | .ok (classes, errors) => (st.setUnsolClassMask (st.unsolClassMask.clear classes), errors)
  | .error result => (st, iinFromParseResult result)

def handleEnableUnsolicited (objects : List UInt8) (st : Station) : Station × IINField :=
  match handleObjects classBasedRequestHandler .Default objects .none with
  | .ok (classes, errors) =>
    ((st.setUnsolClassMask (st.unsolClassMask.set classes)).setShouldCheck true, errors)
  | .error result => (st, iinFromParseResult result)

/-! ## Freezing -/

/-- `FreezeRequestHandler`: counters, by range or all of them. -/
def freezeRequestHandler (clear : Bool) (now : DNPTime) : APDUHandler Station where
  isAllowed _ gv qc := FreezeRequestHandler.isAllowed gv qc
  processHeader := fun st _ header =>
    match header with
    | .allObjects record =>
      let (db, events) :=
        FreezeRequestHandler.processAllObjects clear now st.database record.enumeration
      ((st.setDatabase db).feedAll events, .empty)
    | .range record range =>
      let (db, events) :=
        FreezeRequestHandler.processRange clear now st.database record.enumeration range
      ((st.setDatabase db).feedAll events, .empty)
    | _ => unsupportedHeader st

/-- `HandleFreeze` and `HandleFreezeAndClear`: the errors of the headers are not reported. -/
def handleFreeze (clear : Bool) (env : Env) (objects : List UInt8) (st : Station) :
    Station × IINField :=
  match handleObjects (freezeRequestHandler clear env.timeSource) .NoContents objects st with
  | .ok (st, _) => (st, .empty)
  | .error result => (st, iinFromParseResult result)

/-! ## Time and restarts -/

def handleRecordCurrentTime (env : Env) (seq : Fin 16) (st : Station) : Station × IINField :=
  (st.setTime (st.time.recordCurrentTime seq env.now), .empty)

/-- `HandleDelayMeasure`: a delay of zero. -/
def handleDelayMeasure (objects : List UInt8) (w : HeaderWriter) : HeaderWriter × IINField :=
  if objects.isEmpty then ((w.writeSingleValue ⟨52, 2⟩ (encodeU16 0)).getD w, .empty)
  else (w, IINBit.PARAM_ERROR.mask)

/-- A restart is answered with the delay that the application names. -/
def handleRestart (env : Env) (warm : Bool) (objects : List UInt8) (w : HeaderWriter)
    (st : Station) : Station × HeaderWriter × IINField :=
  if objects.isEmpty then
    let delay := if warm then env.warmRestart else env.coldRestart
    match if warm then env.warmRestartSupport else env.coldRestartSupport with
    | .UNSUPPORTED => (st, w, IINBit.FUNC_NOT_SUPPORTED.mask)
    | .SUPPORTED_DELAY_COARSE =>
      (st.record [.restart warm], (w.writeSingleValue ⟨52, 1⟩ (encodeU16 delay)).getD w, .empty)
    | .SUPPORTED_DELAY_FINE =>
      (st.record [.restart warm], (w.writeSingleValue ⟨52, 2⟩ (encodeU16 delay)).getD w, .empty)
  else (st, w, IINBit.PARAM_ERROR.mask)

/-! ## The switches over the function code -/

/-- Put the calls of a file request into the log. -/
def recordFile (st : Station) : FileAnswer → Station × HeaderWriter × IINField
  | (iin, w, calls) => (st.record (calls.map .file), w, iin)

/-- A handler that writes no objects. -/
def withoutObjects (w : HeaderWriter) : Station × IINField → Station × HeaderWriter × IINField
  | (st, iin) => (st, w, iin)

/-- `HandleNonReadResponse`. -/
def handleNonReadResponse (params : OutstationParams) (env : Env) (seq : Fin 16)
    (function : FunctionCode) (objects : List UInt8) (w : HeaderWriter) (st : Station) :
    Station × HeaderWriter × IINField :=
  match function with
  | .WRITE =>
    if isFileWriteRequest objects then
      recordFile st (handleFileWrite params.hasFileHandler env.file objects w)
    else withoutObjects w (handleWrite env seq objects st)
  | .SELECT => handleSelect params env seq objects w st
  | .OPERATE => handleOperate params env seq objects w st
  | .DIRECT_OPERATE =>
    let (st, w', iin) := handleDirectOperate params env seq .DirectOperate objects (some w) st
    (st, w'.getD w, iin)
  | .COLD_RESTART => handleRestart env false objects w st
  | .WARM_RESTART => handleRestart env true objects w st
  | .ASSIGN_CLASS => withoutObjects w (handleAssignClass env objects st)
  | .DELAY_MEASURE => (st, handleDelayMeasure objects w)
  | .RECORD_CURRENT_TIME =>
    if objects.isEmpty then withoutObjects w (handleRecordCurrentTime env seq st)
    else (st, w, IINBit.PARAM_ERROR.mask)
  | .DISABLE_UNSOLICITED =>
    if params.allowUnsolicited then withoutObjects w (handleDisableUnsolicited objects st)
    else (st, w, IINBit.FUNC_NOT_SUPPORTED.mask)
  | .ENABLE_UNSOLICITED =>
    if params.allowUnsolicited then withoutObjects w (handleEnableUnsolicited objects st)
    else (st, w, IINBit.FUNC_NOT_SUPPORTED.mask)
  | .IMMED_FREEZE => withoutObjects w (handleFreeze false env objects st)
  | .FREEZE_CLEAR => withoutObjects w (handleFreeze true env objects st)
  | .OPEN_FILE =>
    recordFile st (handleOpenFile params.hasFileHandler env.file objects w params.maxTxFragSize)
  | .CLOSE_FILE => recordFile st (handleCloseFile params.hasFileHandler env.file objects w)
  | .DELETE_FILE => recordFile st (handleDeleteFile params.hasFileHandler env.file objects w)
  | .GET_FILE_INFO => recordFile st (handleGetFileInfo params.hasFileHandler env.file objects w)
  | .AUTHENTICATE_FILE =>
    recordFile st (handleAuthenticateFile params.hasFileHandler env.file objects w)
  | .ABORT_FILE => recordFile st (handleAbortFile params.hasFileHandler objects w)
  | _ => (st, w, IINBit.FUNC_NOT_SUPPORTED.mask)

/-- `ProcessRequestNoAck`. -/
def processRequestNoAck (params : OutstationParams) (env : Env) (seq : Fin 16)
    (function : FunctionCode) (objects : List UInt8) (st : Station) : Station :=
  match function with
  | .DIRECT_OPERATE_NR =>
    (handleDirectOperate params env seq .DirectOperateNoAck objects none st).1
  | .IMMED_FREEZE_NR => (handleFreeze false env objects st).1
  | .FREEZE_CLEAR_NR => (handleFreeze true env objects st).1
  | _ => st

/-- `ProcessBroadcastRequest`. -/
def processBroadcastRequest (params : OutstationParams) (env : Env) (seq : Fin 16)
    (function : FunctionCode) (objects : List UInt8) (st : Station) : Station :=
  match function with
  | .WRITE => (handleWrite env seq objects st).1
  | .DIRECT_OPERATE_NR | .IMMED_FREEZE_NR | .FREEZE_CLEAR_NR =>
    processRequestNoAck params env seq function objects st
  | .ASSIGN_CLASS => (handleAssignClass env objects st).1
  -- only a request with objects is handled here, the other way round than without broadcast
  | .RECORD_CURRENT_TIME =>
    if objects.isEmpty then st else (handleRecordCurrentTime env seq st).1
  | .DISABLE_UNSOLICITED =>
    if params.allowUnsolicited then (handleDisableUnsolicited objects st).1 else st
  | .ENABLE_UNSOLICITED =>
    if params.allowUnsolicited then (handleEnableUnsolicited objects st).1 else st
  | _ => st

end OpenDnp3.Outstation
