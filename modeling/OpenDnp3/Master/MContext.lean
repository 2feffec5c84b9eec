import OpenDnp3.Link.Header
import OpenDnp3.Master.Channel

/-!
# The master

`MContext` is the state of one master.  Its methods work on a `Session`: the master together with
the channel it shares with others, so that no method can reach another master.  A `World` is a
channel with all of its masters, for any number of them, and `World.step` is what one call of the
executor does: a message, a finished transmission, a timer, a posted check or demand, a new task,
a layer that comes up or goes down.

Timers may fire at any time.  That covers the handlers of timers that were cancelled too late.
-/

namespace OpenDnp3.Master

open App Link

/-! ## Configuration and state -/

inductive TimeSyncMode where
  | None
  | NonLAN
  | LAN
  deriving DecidableEq, Repr

inductive IndexQualifierMode where
  | allow_one_byte
  | always_two_bytes
  deriving DecidableEq, Repr

/-- The parameters that the modelled functions read. -/
structure MasterParams where
  timeSyncMode : TimeSyncMode
  disableUnsolOnStartup : Bool
  ignoreRestartIIN : Bool
  unsolClassMask : ClassField
  startupIntegrityClassMask : ClassField
  integrityOnEventOverflowIIN : Bool
  eventScanOnEventsAvailableClassMask : ClassField
  taskRetryPeriod : TimeDuration
  maxTaskRetryPeriod : TimeDuration
  taskStartTimeout : TimeDuration
  maxTxFragSize : Nat
  deriving DecidableEq, Repr

inductive TaskState where
  | IDLE
  | TASK_READY
  | WAIT_FOR_RESPONSE
  deriving DecidableEq, Repr

/-- One master: its state, its active task and the confirms it has to send. -/
structure MContext (ι : Type) where
  addresses : Addresses
  params : MasterParams
  /-- The tasks of `MasterTasks` that are there; some of them are optional. -/
  hasTask : StartupTask → Bool
  boundTasks : List (TaskId ι)
  isOnline : Bool
  isSending : Bool
  solSeq : Fin 16
  activeTask : Option (TaskId ι)
  confirmQueue : List APDUHeader
  txBuffer : List UInt8
  tstate : TaskState

/-- A message with the addresses of the link layer. -/
structure Message where
  addresses : Addresses
  payload : List UInt8
  deriving DecidableEq, Repr

/-- `APDUHeaderParser::ParseResponse`. -/
def parseResponse (apdu : List UInt8) : Option Response :=
  match apdu with
  | control :: function :: lsb :: msb :: objects =>
    some ⟨⟨⟨.ofByte control, .fromType function⟩, ⟨lsb, msb⟩⟩, objects⟩
  | _ => none

def solicitedConfirm (seq : Fin 16) : APDUHeader := ⟨⟨true, true, false, false, seq⟩, .CONFIRM⟩

def unsolicitedConfirm (seq : Fin 16) : APDUHeader := ⟨⟨true, true, false, true, seq⟩, .CONFIRM⟩

/-- A master with the channel that it uses. -/
structure Session (ι σ : Type) where
  self : ι
  ctx : MContext ι
  channel : Channel ι σ

namespace Session

variable {ι σ : Type} [DecidableEq ι] [VirtualTask σ]

/-! ## Building blocks -/

def act (s : Session ι σ) (action : Action ι) : Session ι σ :=
  { s with channel := s.channel.act action }

def callSOE (s : Session ι σ) (calls : List SOECall) : Session ι σ :=
  { s with channel := { s.channel with log := s.channel.log ++ calls.map (.soe s.self) } }

def setTaskState (s : Session ι σ) (t : TaskId ι) (state : σ) : Session ι σ :=
  { s with channel := s.channel.modify t fun task => { task with state } }

def completeTask (s : Session ι σ) (t : TaskId ι) (result : TaskCompletion) : Session ι σ :=
  { s with channel := s.channel.completeTask t result }

/-- Something is built in `txBuffer`. -/
def build (s : Session ι σ) (apdu : List UInt8) : Session ι σ :=
  { s with
    ctx := { s.ctx with txBuffer := apdu }
    channel := s.channel.act (.build s.self apdu) }

def transmit (s : Session ι σ) (what : Sent ι) (apdu : List UInt8) : Session ι σ :=
  { s with
    ctx := { s.ctx with isSending := true }
    channel := s.channel.act (.transmit s.self what apdu) }

def incrementSolSeq (s : Session ι σ) : Session ι σ :=
  { s with ctx := { s.ctx with solSeq := s.ctx.solSeq + 1 } }

/-- The state tables return the next state, which the caller assigns. -/
def assign (next : Session ι σ × TaskState) : Session ι σ :=
  { next.1 with ctx := { next.1.ctx with tstate := next.2 } }

/-- `scheduler->Evaluate()`. -/
def evaluate (s : Session ι σ) : Session ι σ :=
  { s with channel := s.channel.postCheckForTaskRun }

/-! ## Confirms -/

/-- Send the first confirm of the queue. -/
def sendConfirm (s : Session ι σ) (confirm : APDUHeader) (rest : List APDUHeader) :
    Session ι σ :=
  let apdu := [confirm.control.toByte, confirm.function.toType]
  let s := (s.build apdu).transmit (.confirm confirm) apdu
  { s with ctx := { s.ctx with confirmQueue := rest } }

/-- Confirms leave one at a time, in the order of the queue. -/
def checkConfirmTransmit (s : Session ι σ) : Session ι σ :=
  if s.ctx.isSending then s
  else
    match s.ctx.confirmQueue with
    | [] => s
    | confirm :: rest => s.sendConfirm confirm rest

def enqueue (s : Session ι σ) (header : APDUHeader) : Session ι σ :=
  { s with
    ctx := { s.ctx with confirmQueue := s.ctx.confirmQueue ++ [header] }
    channel := s.channel.act (.queueConfirm s.self header) }

def queueConfirm (s : Session ι σ) (header : APDUHeader) : Session ι σ :=
  (s.enqueue header).checkConfirmTransmit

/-! ## The active task -/

def completeActiveTask (s : Session ι σ) : Session ι σ :=
  match s.ctx.activeTask with
  | none => s
  | some _ =>
    { s with
      ctx := { s.ctx with activeTask := none }
      channel := s.channel.completeCurrentFor s.self }

/-- Build and send the request of the active task. -/
def resumeActiveTask (s : Session ι σ) : Session ι σ × TaskState :=
  match s.ctx.activeTask with
  | none => (s, s.ctx.tstate)
  | some t =>
    let task := s.channel.objects t
    let (state, success, apdu) :=
      VirtualTask.buildRequest task.state s.ctx.solSeq s.ctx.params.maxTxFragSize s.channel.utc
    let s := (s.setTaskState t state).build apdu
    if !success then
      ((s.completeTask t .FAILURE_MESSAGE_FORMAT_ERROR).completeActiveTask, .IDLE)
    else
      let s := s.transmit (.request t) apdu
      if task.expectsResponse then (s, .WAIT_FOR_RESPONSE)
      else
        -- No response expected -- complete the task after transmit
        (s.incrementSolSeq.completeActiveTask, .IDLE)

/-- `IMasterTask::OnStart`. -/
def onStart (s : Session ι σ) (t : TaskId ι) : Session ι σ :=
  (s.act (.onStart t)).setTaskState t (VirtualTask.initialized (s.channel.objects t).state)

/-- The task becomes the active one. -/
def begun (s : Session ι σ) (t : TaskId ι) : Session ι σ :=
  { s with ctx := { s.ctx with tstate := .TASK_READY, activeTask := some t } }.onStart t

/-- `MContext::Run`: refused unless the master is idle. -/
def run (s : Session ι σ) (t : TaskId ι) : Session ι σ × Bool :=
  if s.ctx.activeTask.isSome || s.ctx.tstate ≠ .IDLE then (s, false)
  else if s.ctx.isSending then (s.begun t, true)
  else (assign (s.begun t).resumeActiveTask, true)

/-- `IMasterTask::OnResponse`: process the response, and complete the task if that ends it. -/
def onResponse (s : Session ι σ) (t : TaskId ι) (response : Response) :
    Session ι σ × ResponseResult :=
  let (state, result, calls) :=
    VirtualTask.processResponse (s.channel.objects t).state response s.channel.utc
  let s := ((s.act (.onResponse s.self t response)).callSOE calls).setTaskState t state
  match result with
  | .ERROR_BAD_RESPONSE => (s.completeTask t .FAILURE_BAD_RESPONSE, result)
  | .OK_FINAL => (s.completeTask t .SUCCESS, result)
  | .OK_REPEAT | .OK_CONTINUE => (s, result)

def startTaskTaskReady (s : Session ι σ) : Session ι σ × TaskState :=
  if s.ctx.isSending then (s, .TASK_READY) else s.resumeActiveTask

/-- Only a response with the number of the request counts. -/
def onResponseWaitForResponse (s : Session ι σ) (response : Response) : Session ι σ × TaskState :=
  if response.header.control.SEQ ≠ s.ctx.solSeq then (s, .WAIT_FOR_RESPONSE)
  else
    match s.ctx.activeTask with
    | none => (s, s.ctx.tstate)
    | some t =>
      let (s, result) := s.incrementSolSeq.onResponse t response
      let s :=
        if response.header.control.CON then
          s.queueConfirm (solicitedConfirm response.header.control.SEQ)
        else s
      match result with
      | .OK_CONTINUE => (s, .WAIT_FOR_RESPONSE)
      | .OK_REPEAT => s.startTaskTaskReady
      -- task completed or failed, either way go back to idle
      | .OK_FINAL | .ERROR_BAD_RESPONSE => (s.completeActiveTask, .IDLE)

def onResponseTimeoutWaitForResponse (s : Session ι σ) : Session ι σ × TaskState :=
  match s.ctx.activeTask with
  | none => (s, s.ctx.tstate)
  | some t =>
    ((s.completeTask t .FAILURE_RESPONSE_TIMEOUT).incrementSolSeq.completeActiveTask, .IDLE)

/-! ## State tables -/

def onTransmitComplete (s : Session ι σ) : Session ι σ × TaskState :=
  match s.ctx.tstate with
  | .TASK_READY => s.resumeActiveTask
  | tstate => (s, tstate)

def onResponseEvent (s : Session ι σ) (response : Response) : Session ι σ × TaskState :=
  match s.ctx.tstate with
  | .WAIT_FOR_RESPONSE => s.onResponseWaitForResponse response
  | tstate => (s, tstate)

def onResponseTimeoutEvent (s : Session ι σ) : Session ι σ × TaskState :=
  match s.ctx.tstate with
  | .WAIT_FOR_RESPONSE => s.onResponseTimeoutWaitForResponse
  | tstate => (s, tstate)

/-! ## Indications -/

/-- `MasterTasks::Demand`, with whether the task exists. -/
def demand (s : Session ι σ) (task : StartupTask) : Session ι σ × Bool :=
  if s.ctx.hasTask task then
    ({ s with channel := s.channel.setMinExpiration (.own s.self task) }, true)
  else (s, false)

def onRestartDetected (s : Session ι σ) : Session ι σ :=
  [StartupTask.clearRestart, .assignClass, .startupIntegrity, .enableUnsol].foldl
    (fun s task => (s.demand task).1) s

/-- Demand a task and have the scheduler look at it, if there is such a task. -/
def demandAndEvaluate (s : Session ι σ) (task : StartupTask) : Session ι σ :=
  let (s, exists_) := s.demand task
  if exists_ then s.evaluate else s

/-- The indications of a response may demand tasks. -/
def processIIN (s : Session ι σ) (iin : IINField) : Session ι σ :=
  let s :=
    if iin.isSet .DEVICE_RESTART && !s.ctx.params.ignoreRestartIIN then
      s.onRestartDetected.evaluate
    else s
  let s :=
    if iin.isSet .EVENT_BUFFER_OVERFLOW && s.ctx.params.integrityOnEventOverflowIIN then
      s.demandAndEvaluate .startupIntegrity
    else s
  let s := if iin.isSet .NEED_TIME then s.demandAndEvaluate .timeSynchronization else s
  let mask := s.ctx.params.eventScanOnEventsAvailableClassMask
  let s :=
    if iin.isSet .CLASS1_EVENTS && mask.class1 || iin.isSet .CLASS2_EVENTS && mask.class2 ||
        iin.isSet .CLASS3_EVENTS && mask.class3 then
      s.demandAndEvaluate .eventScan
    else s
  s.act (.onReceiveIIN s.self iin)

/-! ## Messages -/

/-- The measurements are handed on before the confirm is queued. -/
def processUnsolicitedResponse (s : Session ι σ) (response : Response) : Session ι σ :=
  -- an unsolicited response without the UNS bit is ignored
  if !response.header.control.UNS then s
  else
    let (calls, result) :=
      MeasurementHandler.processMeasurements (asResponseInfo response.header) response.objects
    let s := s.callSOE calls
    let s :=
      if result.isOk && response.header.control.CON then
        s.queueConfirm (unsolicitedConfirm response.header.control.SEQ)
      else s
    s.processIIN response.header.IIN

def processResponse (s : Session ι σ) (response : Response) : Session ι σ :=
  (assign (s.onResponseEvent response)).processIIN response.header.IIN

def processAPDU (s : Session ι σ) (response : Response) : Session ι σ :=
  match response.header.function with
  | .UNSOLICITED_RESPONSE => s.processUnsolicitedResponse response
  | .RESPONSE => s.processResponse response
  | _ => s

def onReceive (s : Session ι σ) (message : Message) : Session ι σ :=
  if !s.ctx.isOnline then s
  else if message.addresses.destination ≠ s.ctx.addresses.source then s
  else if message.addresses.source ≠ s.ctx.addresses.destination then s
  else
    match parseResponse message.payload with
    | none => s
    | some response =>
      (s.act (.receive s.self response.header response.objects)).processAPDU response

/-! ## Other events -/

def txDone (s : Session ι σ) : Session ι σ :=
  { s with
    ctx := { s.ctx with isSending := false }
    channel := s.channel.act (.onTxReady s.self) }

def onTxReady (s : Session ι σ) : Session ι σ :=
  if !s.ctx.isOnline || !s.ctx.isSending then s
  else (assign s.txDone.onTransmitComplete).checkConfirmTransmit

def onResponseTimeout (s : Session ι σ) : Session ι σ :=
  if s.ctx.isOnline then assign s.onResponseTimeoutEvent else s

/-- `MasterTasks::Initialize`: all tasks of the master go to the scheduler. -/
def addAllTasks (s : Session ι σ) : Session ι σ :=
  let own := [StartupTask.clearRestart, .assignClass, .startupIntegrity, .eventScan, .enableUnsol,
    .disableUnsol, .timeSynchronization].filter s.ctx.hasTask
  let ids := own.map (TaskId.own s.self) ++ s.ctx.boundTasks
  { s with channel := ids.foldl (fun c t => c.add ⟨t, s.self⟩) s.channel }

def opened (s : Session ι σ) : Session ι σ :=
  { s with ctx := { s.ctx with isOnline := true } }.addAllTasks.act (.onOpen s.self)

def onLowerLayerUp (s : Session ι σ) : Session ι σ := if s.ctx.isOnline then s else s.opened

/-- The confirms that wait to be sent stay where they are. -/
def closed (s : Session ι σ) : Session ι σ :=
  { s with
    ctx := { s.ctx with
      tstate := .IDLE
      solSeq := 0
      isOnline := false
      isSending := false
      activeTask := none }
    channel := (s.channel.setRunnerOffline s.self).act (.onClose s.self) }

def onLowerLayerDown (s : Session ι σ) : Session ι σ := if s.ctx.isOnline then s.closed else s

/-- A new task object. -/
def create (s : Session ι σ) (task : IMasterTask ι σ) : Session ι σ :=
  { s with channel := { s.channel with
      objects := Function.update s.channel.objects (.user s.channel.created) task
      created := s.channel.created + 1 } }

def scheduleRecurringPollTask (s : Session ι σ) (u : UserTask σ) : Session ι σ :=
  let t := TaskId.user s.channel.created
  let s := s.create (u.create s.self true)
  let s := { s with ctx := { s.ctx with boundTasks := s.ctx.boundTasks ++ [t] } }
  if s.ctx.isOnline then { s with channel := s.channel.add ⟨t, s.self⟩ } else s

/-- A task of the user, which fails at once while the layer is down. -/
def scheduleAdhocTask (s : Session ι σ) (u : UserTask σ) : Session ι σ :=
  let t := TaskId.user s.channel.created
  let s := s.create (u.create s.self false)
  if s.ctx.isOnline then { s with channel := s.channel.add ⟨t, s.self⟩ }
  else
    -- can't run this task since we're offline so fail it immediately
    s.completeTask t .FAILURE_NO_COMMS

end Session

/-! ## The whole channel -/

/-- The masters of a channel and their scheduler. -/
structure World (ι σ : Type) where
  masters : ι → MContext ι
  channel : Channel ι σ

/-- What the masters of a channel are constructed from. -/
structure Setup (ι σ : Type) where
  addresses : ι → Addresses
  params : ι → MasterParams
  /-- The optional tasks that a master has, and the others. -/
  hasTask : ι → StartupTask → Bool
  ownTask : ι → StartupTask → OwnTask σ
  unused : IMasterTask ι σ

/-- What the executor can call. -/
inductive Input (ι σ : Type) where
  | onLowerLayerUp (master : ι)
  | onLowerLayerDown (master : ι)
  | onReceive (master : ι) (message : Message)
  | onTxReady (master : ι)
  | onResponseTimeout (master : ι)
  | scheduleRecurringPollTask (master : ι) (task : UserTask σ)
  | scheduleAdhocTask (master : ι) (task : UserTask σ)
  /-- A posted check. -/
  | checkForTaskRun
  /-- The posted function of `MasterSchedulerBackend::Demand`. -/
  | demand (task : TaskId ι)
  | taskTimer
  | taskStartTimeout
  /-- Time passes. -/
  | clock (now : Timestamp) (utc : Nat)
  /-- The application changes its answer to `AssignClassDuringStartup`. -/
  | assignClassDuringStartup (master : ι) (answer : Bool)

namespace World

variable {ι σ : Type} [DecidableEq ι] [VirtualTask σ]

def session (w : World ι σ) (m : ι) : Session ι σ := ⟨m, w.masters m, w.channel⟩

def put (w : World ι σ) (s : Session ι σ) : World ι σ :=
  ⟨Function.update w.masters s.self s.ctx, s.channel⟩

def withChannel (w : World ι σ) (f : Channel ι σ → Channel ι σ) : World ι σ :=
  { w with channel := f w.channel }

/-- The scheduler makes the task its current one and calls `Run` of its master. -/
def start (w : World ι σ) (r : Record ι) : World ι σ :=
  let c := { w.channel with current := some r, tasks := w.channel.tasks.erase r }
  let (s, accepted) := { w with channel := c }.session r.runner |>.run r.task
  (w.put s).withChannel (·.act (.run r.runner r.task accepted))

/-- `MasterSchedulerBackend::CheckForTaskRun`. -/
def checkForTaskRun (w : World ι σ) : World ι σ :=
  let w := w.withChannel fun c => { c with taskCheckPending := false }.restartTimeoutTimer
  if w.channel.current.isSome then w
  else
    match w.channel.bestTask with
    | none => w
    | some best =>
      if w.channel.expirationTime best ≤ w.channel.now then w.start best
      else w.withChannel fun c => { c with taskTimer := some (c.expirationTime best) }

/-- The clock never goes back and never gets to its greatest value. -/
def advance (c : Channel ι σ) (now : Timestamp) (utc : Nat) : Channel ι σ :=
  if c.now ≤ now ∧ now < Timestamp.max then { c with now, utc } else c

def step (w : World ι σ) : Input ι σ → World ι σ
  | .onLowerLayerUp m => w.put (w.session m).onLowerLayerUp
  | .onLowerLayerDown m => w.put (w.session m).onLowerLayerDown
  | .onReceive m message => w.put ((w.session m).onReceive message)
  | .onTxReady m => w.put (w.session m).onTxReady
  | .onResponseTimeout m => w.put (w.session m).onResponseTimeout
  | .scheduleRecurringPollTask m task => w.put ((w.session m).scheduleRecurringPollTask task)
  | .scheduleAdhocTask m task => w.put ((w.session m).scheduleAdhocTask task)
  | .checkForTaskRun =>
    (w.withChannel fun c => { c with posted := c.posted - 1 }).checkForTaskRun
  | .demand t => (w.withChannel fun c => c.setMinExpiration t).checkForTaskRun
  | .taskTimer => (w.withChannel fun c => { c with taskTimer := none }).checkForTaskRun
  | .taskStartTimeout => w.withChannel Channel.timeoutTasks
  | .clock now utc => w.withChannel fun c => advance c now utc
  | .assignClassDuringStartup m answer =>
    w.withChannel fun c => c.modify (.own m .assignClass) fun task => { task with isEnabled := answer }

/-- The masters of a channel when they have been constructed.  Task objects that are not made
    yet are `unused`. -/
def init (setup : Setup ι σ) (now : Timestamp) : World ι σ where
  masters m :=
    { addresses := setup.addresses m
      params := setup.params m
      hasTask := setup.hasTask m
      boundTasks := []
      isOnline := false
      isSending := false
      solSeq := 0
      activeTask := none
      confirmQueue := []
      txBuffer := []
      tstate := .IDLE }
  channel :=
    { now
      utc := 0
      objects := fun
        | .own m task => (setup.ownTask m task).create m
        | .user _ => setup.unused
      created := 0
      blockingTasks := fun _ => []
      taskCheckPending := false
      posted := 0
      current := none
      tasks := []
      taskTimer := none
      taskStartTimeout := none
      log := [] }

end World

end OpenDnp3.Master
