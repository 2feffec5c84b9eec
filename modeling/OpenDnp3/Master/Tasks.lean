import OpenDnp3.App.HeaderWriter
import OpenDnp3.Master.MContext

/-!
# The kinds of tasks

`IMasterTask` leaves to its subclasses how a request is built and what is made of a response.
This module has the tasks that a master makes for itself, the polls, and the requests that a user
can make with a function code and some headers.  Everything else that a user can ask for, such as
commands and files, is a parameter `τ`.

A request is formatted into the buffer of the master.  The builders of the source ignore that a
header may not fit, unless the headers are the user's.
-/

namespace OpenDnp3.Master

open App Lib

/-! ## Requests -/

/-- Headers that are written into a request, and whether they could be. -/
abbrev HeaderBuilder := HeaderWriter → HeaderWriter × Bool

/-- One header that may not fit. -/
def HeaderBuilder.ofOption (write : HeaderWriter → Option HeaderWriter) : HeaderBuilder := fun w =>
  match write w with
  | none => (w, false)
  | some w => (w, true)

/-- A request in a buffer of the given size: its bytes and whether all headers are there. -/
def formatRequest (function : FunctionCode) (seq : Fin 16) (size : Nat) (headers : HeaderBuilder) :
    Bool × List UInt8 :=
  let writer : HeaderWriter := ⟨List.replicate size 0, 0⟩
  let (writer, success) :=
    headers (writer.put [(AppControlField.request seq).toByte, function.toType])
  (success, writer.buffer.take writer.position)

namespace build

def noHeaders : HeaderBuilder := fun w => (w, true)

/-- `WriteClassHeaders`: the event classes first, up to the first header that does not fit. -/
def writeClassHeaders (classes : ClassField) : HeaderBuilder := fun w =>
  let variations : List (Bool × UInt8) :=
    [(classes.class1, 2), (classes.class2, 3), (classes.class3, 4), (classes.class0, 1)]
  variations.foldl
    (fun (w, success) (has, variation) =>
      if success && has then
        HeaderBuilder.ofOption (·.writeHeader ⟨60, variation⟩ .ALL_OBJECTS) w
      else (w, success))
    (w, true)

/-- `ClearRestartIIN`: bit 7 of the indications is written as zero. -/
def restartHeader : HeaderBuilder := fun w =>
  match BitfieldRangeWriteIterator.start? w ⟨80, 1⟩ .U8 .UINT8_START_STOP 7 with
  | (none, w) => (w, true)
  | (some it, w) =>
    match it.write w false with
    | none => (it.finish w, true)
    | some (it, w) => (it.finish w, true)

end build

/-! ## Validation of responses -/

def hasRequestError (iin : IINField) : Bool :=
  iin.isSet .FUNC_NOT_SUPPORTED || iin.isSet .OBJECT_UNKNOWN || iin.isSet .PARAM_ERROR

def validateNullResponse (response : Response) : Bool :=
  validateSingleResponse response.header && response.objects.isEmpty &&
    !hasRequestError response.header.IIN

/-- The result of the many tasks that expect an empty response. -/
def nullResponseResult (response : Response) : ResponseResult :=
  if validateNullResponse response then .OK_FINAL else .ERROR_BAD_RESPONSE

/-! ## Polls -/

inductive PollRequest where
  | startupIntegrity (classes : ClassField)
  | eventScan (classes : ClassField)
  | user (builder : HeaderBuilder)

/-- A poll counts the fragments of its response. -/
structure PollTask where
  request : PollRequest
  rxCount : UInt32

namespace PollTask

def initialized (p : PollTask) : PollTask := { p with rxCount := 0 }

/-- `BuildRequest` of the three polls; only the user's can fail. -/
def buildRequest (p : PollTask) (seq : Fin 16) (size : Nat) : PollTask × Bool × List UInt8 :=
  match p.request with
  | .startupIntegrity classes | .eventScan classes =>
    (p, true, (formatRequest .READ seq size (build.writeClassHeaders classes)).2)
  | .user builder => ({ p with rxCount := 0 }, formatRequest .READ seq size builder)

def processMeasurements (p : PollTask) (response : Response) :
    PollTask × ResponseResult × List SOECall :=
  let (calls, result) :=
    MeasurementHandler.processMeasurements (asResponseInfo response.header) response.objects
  ({ p with rxCount := p.rxCount + 1 },
    match result with
    | .ok () => if response.header.control.FIN then .OK_FINAL else .OK_CONTINUE
    | .error _ => .ERROR_BAD_RESPONSE,
    calls)

def processResponse (p : PollTask) (response : Response) :
    PollTask × ResponseResult × List SOECall :=
  if response.header.control.FIR then
    -- unexpected FIR frame
    if p.rxCount > 0 then (p, .ERROR_BAD_RESPONSE, [])
    else p.processMeasurements response
  else if p.rxCount > 0 then p.processMeasurements response
  -- unexpected non-FIR frame
  else (p, .ERROR_BAD_RESPONSE, [])

end PollTask

/-! ## Time synchronisation -/

/-- `TimeSyncHandler`: the only delay of the only header. -/
def timeSyncHandler : APDUHandler (Option Nat) where
  isAllowed headerCount gv _ := headerCount = 0 && gv = ⟨52, 2⟩
  processHeader time _ header :=
    match header with
    | .countOf _ [object] => (some (decodeLE object), .empty)
    | .countOf _ _ => (time, IINBit.PARAM_ERROR.mask)
    | _ => unsupportedHeader time

def getTimeDelay (objects : List UInt8) : Option Nat :=
  match handleObjects timeSyncHandler .Default objects none with
  | .ok (time, errors) => if errors = .empty then time else none
  | .error _ => none

/-- A negative delay has not been measured yet. -/
structure SerialTimeSyncTask where
  delay : Int
  start : Nat

namespace SerialTimeSyncTask

def initialized (t : SerialTimeSyncTask) : SerialTimeSyncTask := { t with delay := -1 }

def buildRequest (t : SerialTimeSyncTask) (seq : Fin 16) (size now : Nat) :
    SerialTimeSyncTask × Bool × List UInt8 :=
  if t.delay < 0 then
    ({ t with start := now }, true, (formatRequest .DELAY_MEASURE seq size build.noHeaders).2)
  else
    let time := encodeLE 6 ((now + t.delay.toNat) % 2 ^ 64)
    (t, true, (formatRequest .WRITE seq size
      (HeaderBuilder.ofOption (·.writeSingleValue ⟨50, 1⟩ time))).2)

/-- Half of the time that the messages took. -/
def onResponseDelayMeas (t : SerialTimeSyncTask) (response : Response) (now : Nat) :
    SerialTimeSyncTask × ResponseResult :=
  if validateSingleResponse response.header then
    match getTimeDelay response.objects with
    | some rtuTurnAroundTime =>
      let sendReceiveTime := (now + 2 ^ 64 - t.start) % 2 ^ 64
      let delay :=
        if rtuTurnAroundTime ≤ sendReceiveTime then (sendReceiveTime - rtuTurnAroundTime) / 2 else 0
      ({ t with delay := delay }, .OK_REPEAT)
    | none => (t, .ERROR_BAD_RESPONSE)
  else (t, .ERROR_BAD_RESPONSE)

def processResponse (t : SerialTimeSyncTask) (response : Response) (now : Nat) :
    SerialTimeSyncTask × ResponseResult :=
  if t.delay < 0 then t.onResponseDelayMeas response now else (t, nullResponseResult response)

end SerialTimeSyncTask

/-- The outstation records the time at which it gets the first request; the second one says
    which time that was. -/
structure LANTimeSyncTask where
  recorded : Bool
  start : Nat

namespace LANTimeSyncTask

def initialized (t : LANTimeSyncTask) : LANTimeSyncTask := { t with recorded := false }

def buildRequest (t : LANTimeSyncTask) (seq : Fin 16) (size now : Nat) :
    LANTimeSyncTask × Bool × List UInt8 :=
  if t.recorded then
    (t, formatRequest .WRITE seq size
      (HeaderBuilder.ofOption (·.writeSingleValue ⟨50, 3⟩ (encodeLE 6 t.start))))
  else
    ({ t with start := now }, true, (formatRequest .RECORD_CURRENT_TIME seq size build.noHeaders).2)

def processResponse (t : LANTimeSyncTask) (response : Response) :
    LANTimeSyncTask × ResponseResult :=
  if t.recorded then (t, nullResponseResult response)
  else if validateNullResponse response then ({ t with recorded := true }, .OK_REPEAT)
  else (t, .ERROR_BAD_RESPONSE)

end LANTimeSyncTask

/-! ## Restarts -/

/-- `RestartOperationTask` as a handler: one header with a delay.  The delay is for the user. -/
def restartIsAllowed (headerCount : Nat) (gv : GroupVariation) (_ : QualifierCode) : Bool :=
  headerCount = 0 && (gv = ⟨52, 1⟩ || gv = ⟨52, 2⟩)

def restartResult (response : Response) : ResponseResult :=
  if !(validateSingleResponse response.header && !hasRequestError response.header.IIN) then
    .ERROR_BAD_RESPONSE
  else if response.objects.isEmpty then .ERROR_BAD_RESPONSE
  else if (parse .Default restartIsAllowed response.objects).isOk then .OK_FINAL
  else .ERROR_BAD_RESPONSE

/-! ## All tasks -/

inductive RestartType where
  | COLD
  | WARM
  deriving DecidableEq, Repr

def RestartType.function : RestartType → FunctionCode
  | .COLD => .COLD_RESTART
  | .WARM => .WARM_RESTART

/-- The tasks of a master that are modelled here; `other` stands for the rest. -/
inductive Task (τ : Type) where
  | clearRestart
  /-- With the headers of `ConfigureAssignClassRequest`. -/
  | assignClass (headers : HeaderBuilder)
  | disableUnsolicited
  | enableUnsolicited (enabledClasses : ClassField)
  | poll (task : PollTask)
  | serialTimeSync (task : SerialTimeSyncTask)
  | lanTimeSync (task : LANTimeSyncTask)
  | emptyResponse (func : FunctionCode) (format : HeaderBuilder)
  | noResponse (func : FunctionCode) (format : HeaderBuilder)
  | restartOperation (operation : RestartType)
  | other (task : τ)

/-- `OnlyEventClasses`. -/
def onlyEventClasses (classes : ClassField) : ClassField := { classes with class0 := false }

def hasEventClass (classes : ClassField) : Bool :=
  classes.class1 || classes.class2 || classes.class3

def hasAnyClass (classes : ClassField) : Bool := classes.class0 || hasEventClass classes

def allEventClasses : ClassField := ⟨false, true, true, true⟩

namespace Task

variable {τ : Type} [VirtualTask τ]

def initialized : Task τ → Task τ
  | poll p => poll p.initialized
  | serialTimeSync t => serialTimeSync t.initialized
  | lanTimeSync t => lanTimeSync t.initialized
  | other t => other (VirtualTask.initialized t)
  | task => task

def buildRequest (task : Task τ) (seq : Fin 16) (size now : Nat) : Task τ × Bool × List UInt8 :=
  match task with
  | clearRestart => (task, true, (formatRequest .WRITE seq size build.restartHeader).2)
  | assignClass headers => (task, formatRequest .ASSIGN_CLASS seq size headers)
  | disableUnsolicited =>
    (task, true, (formatRequest .DISABLE_UNSOLICITED seq size
      (build.writeClassHeaders allEventClasses)).2)
  | enableUnsolicited enabledClasses =>
    (task, true, (formatRequest .ENABLE_UNSOLICITED seq size
      (build.writeClassHeaders (onlyEventClasses enabledClasses))).2)
  | poll p =>
    let (p, request) := p.buildRequest seq size
    (poll p, request)
  | serialTimeSync t =>
    let (t, request) := t.buildRequest seq size now
    (serialTimeSync t, request)
  | lanTimeSync t =>
    let (t, request) := t.buildRequest seq size now
    (lanTimeSync t, request)
  | emptyResponse func format | noResponse func format =>
    (task, formatRequest func seq size format)
  | restartOperation operation =>
    (task, true, (formatRequest operation.function seq size build.noHeaders).2)
  | other t =>
    let (t, request) := VirtualTask.buildRequest t seq size now
    (other t, request)

/-- `ClearRestartTask::ProcessResponse`: the bit has to be gone. -/
def clearRestartResult (header : APDUResponseHeader) : ResponseResult :=
  if validateSingleResponse header && !header.IIN.isSet .DEVICE_RESTART then .OK_FINAL
  else .ERROR_BAD_RESPONSE

def processResponse (task : Task τ) (response : Response) (now : Nat) :
    Task τ × ResponseResult × List SOECall :=
  match task with
  | clearRestart => (task, clearRestartResult response.header, [])
  | assignClass _ | disableUnsolicited | enableUnsolicited _ | emptyResponse _ _ =>
    (task, nullResponseResult response, [])
  | poll p =>
    let (p, result) := p.processResponse response
    (poll p, result)
  | serialTimeSync t =>
    let (t, result) := t.processResponse response now
    (serialTimeSync t, result, [])
  | lanTimeSync t =>
    let (t, result) := t.processResponse response
    (lanTimeSync t, result, [])
  -- no response is expected; if we somehow receive one, just complete the task
  | noResponse _ _ => (task, .OK_FINAL, [])
  | restartOperation _ => (task, restartResult response, [])
  | other t =>
    let (t, result) := VirtualTask.processResponse t response now
    (other t, result)

instance : VirtualTask (Task τ) where
  initialized := initialized
  buildRequest := buildRequest
  processResponse := processResponse

end Task

/-- No tasks but those of this module. -/
instance : VirtualTask Empty where
  initialized := nofun
  buildRequest := nofun
  processResponse := nofun

/-! ## The tasks of a master -/

namespace priority

def USER_REQUEST : Nat := 110
def CLEAR_RESTART : Nat := 120
def DISABLE_UNSOLICITED : Nat := 130
def ASSIGN_CLASS : Nat := 140
def INTEGRITY_POLL : Nat := 150
def TIME_SYNC : Nat := 160
def ENABLE_UNSOLICITED : Nat := 170
def EVENT_SCAN : Nat := 180
def USER_POLL : Nat := 190

end priority

namespace MasterTasks

variable {ι τ : Type}

def retryBehavior (params : MasterParams) : TaskBehavior :=
  .singleImmediateExecutionWithRetry params.taskRetryPeriod params.maxTaskRetryPeriod

/-- What the application says about the assignment of classes. -/
structure Application where
  assignClassDuringStartup : Bool
  configureAssignClassRequest : HeaderBuilder

/-- Which tasks there are; the last three are optional. -/
def hasTask (params : MasterParams) : StartupTask → Bool
  | .clearRestart | .assignClass | .startupIntegrity | .eventScan => true
  | .enableUnsol => hasEventClass params.unsolClassMask
  | .disableUnsol => params.disableUnsolOnStartup
  | .timeSynchronization => params.timeSyncMode ≠ .None

/-- The tasks that `MasterTasks` constructs.  All of them block others. -/
def ownTask (params : MasterParams) (app : Application) : StartupTask → OwnTask (Task τ)
  | .clearRestart =>
    { priority := priority.CLEAR_RESTART
      blocksLowerPriority := true
      isEnabled := true
      behavior := .reactsToIINOnly
      state := .clearRestart }
  | .assignClass =>
    { priority := priority.ASSIGN_CLASS
      blocksLowerPriority := true
      isEnabled := app.assignClassDuringStartup
      behavior := retryBehavior params
      state := .assignClass app.configureAssignClassRequest }
  | .startupIntegrity =>
    { priority := priority.INTEGRITY_POLL
      blocksLowerPriority := true
      isEnabled := hasAnyClass params.startupIntegrityClassMask
      behavior := retryBehavior params
      state := .poll ⟨.startupIntegrity params.startupIntegrityClassMask, 0⟩ }
  | .eventScan =>
    let classes := onlyEventClasses params.eventScanOnEventsAvailableClassMask
    { priority := priority.EVENT_SCAN
      blocksLowerPriority := true
      isEnabled := hasEventClass classes
      behavior := .reactsToIINOnly
      state := .poll ⟨.eventScan classes, 0⟩ }
  | .enableUnsol =>
    { priority := priority.ENABLE_UNSOLICITED
      blocksLowerPriority := true
      isEnabled := hasEventClass params.unsolClassMask
      behavior := retryBehavior params
      state := .enableUnsolicited params.unsolClassMask }
  | .disableUnsol =>
    { priority := priority.DISABLE_UNSOLICITED
      blocksLowerPriority := true
      isEnabled := true
      behavior := retryBehavior params
      state := .disableUnsolicited }
  | .timeSynchronization =>
    { priority := priority.TIME_SYNC
      blocksLowerPriority := true
      isEnabled := true
      behavior := .reactsToIINOnly
      state :=
        if params.timeSyncMode = .LAN then .lanTimeSync ⟨false, 0⟩ else .serialTimeSync ⟨-1, 0⟩ }

/-- Masters with the tasks of `MasterTasks`. -/
def setup (addresses : ι → Link.Addresses) (params : ι → MasterParams) (app : ι → Application)
    (unused : IMasterTask ι (Task τ)) : Setup ι (Task τ) where
  addresses := addresses
  params := params
  hasTask m := hasTask (params m)
  ownTask m := ownTask (params m) (app m)
  unused := unused

end MasterTasks

/-! ## Tasks for the user -/

inductive FreezeType where
  | ImmediateFreeze
  | ImmediateFreezeNR
  | FreezeAndClear
  | FreezeAndClearNR
  deriving DecidableEq, Repr

namespace FreezeType

def func : FreezeType → FunctionCode
  | ImmediateFreeze => .IMMED_FREEZE
  | ImmediateFreezeNR => .IMMED_FREEZE_NR
  | FreezeAndClear => .FREEZE_CLEAR
  | FreezeAndClearNR => .FREEZE_CLEAR_NR

def expectsResponse : FreezeType → Bool
  | ImmediateFreeze | FreezeAndClear => true
  | ImmediateFreezeNR | FreezeAndClearNR => false

end FreezeType

namespace UserTask

variable {τ : Type}

/-- `MContext::AddScan` and `MContext::Scan`, with the schedule of a scan that is added. -/
def scan (behavior : TaskBehavior) (builder : HeaderBuilder) : UserTask (Task τ) where
  priority := priority.USER_POLL
  expectsResponse := true
  behavior := behavior
  state := .poll ⟨.user builder, 0⟩

/-- `Freeze`: two of the functions are not answered at all. -/
def freeze (type : FreezeType) (builder : HeaderBuilder) (startExpiration : Timestamp) :
    UserTask (Task τ) where
  priority := priority.USER_REQUEST
  expectsResponse := type.expectsResponse
  behavior := .singleExecutionNoRetry startExpiration
  state :=
    if type.expectsResponse then .emptyResponse type.func builder else .noResponse type.func builder

end UserTask

/-! ## One master -/

namespace Single

/-- A master that does without the optional tasks. -/
def params : MasterParams where
  timeSyncMode := .None
  disableUnsolOnStartup := false
  ignoreRestartIIN := false
  unsolClassMask := ⟨false, false, false, false⟩
  startupIntegrityClassMask := ⟨true, true, true, true⟩
  integrityOnEventOverflowIIN := true
  eventScanOnEventsAvailableClassMask := ⟨false, false, false, false⟩
  taskRetryPeriod := 5000
  maxTaskRetryPeriod := 60000
  taskStartTimeout := 10000
  maxTxFragSize := 2048

/-- The application does not assign classes. -/
def setup : Setup Unit (Task Empty) :=
  MasterTasks.setup (fun _ => { source := 1, destination := 1024 }) (fun _ => params)
    (fun _ => ⟨false, build.noHeaders⟩)
    ((UserTask.scan .reactsToIINOnly build.noHeaders).create () false)

/-- A message from the outstation. -/
def message (payload : List UInt8) : Input Unit (Task Empty) :=
  .onReceive () ⟨{ source := 1024, destination := 1 }, payload⟩

end Single

end OpenDnp3.Master
