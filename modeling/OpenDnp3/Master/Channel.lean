import OpenDnp3.Master.MeasurementHandler
import OpenDnp3.Master.TaskBehavior

/-!
# The scheduler that the masters of a channel share

All masters of a channel put their tasks into one `MasterSchedulerBackend`, which lets one task
run at a time.  A `Channel` is what they share: the scheduler with its timers and the checks it
has posted to the executor, the task objects, the sets of blocking tasks of the masters, and the
clock.  Tasks are objects with an identity, because the scheduler, the master and the user hold
pointers to the same one.

The channel also keeps a log of what the masters do.  Nothing in the code depends on it.
-/

namespace OpenDnp3.Master

open App

/-! ## Tasks -/

/-- The tasks that a master makes for itself. -/
inductive StartupTask where
  | clearRestart
  | assignClass
  | startupIntegrity
  | eventScan
  | enableUnsol
  | disableUnsol
  | timeSynchronization
  deriving DecidableEq, Repr

/-- The identity of a task object: one of a master's own tasks, or one made for the user. -/
inductive TaskId (ι : Type) where
  | own (master : ι) (task : StartupTask)
  | user (number : Nat)
  deriving DecidableEq, Repr

/-- The virtual functions of `IMasterTask` with a state to work on. -/
class VirtualTask (σ : Type) where
  /-- `Initialize`, at every start. -/
  initialized : σ → σ
  /-- `BuildRequest` with the sequence number, the size of the buffer and the UTC time: what is
      in the buffer afterwards, and whether it is a request. -/
  buildRequest : σ → Fin 16 → Nat → Nat → σ × Bool × List UInt8
  /-- `ProcessResponse`, with the UTC time and the calls of the user's handler. -/
  processResponse : σ → Response → Nat → σ × ResponseResult × List SOECall

/-- A task object.  What its class and its constructor fix is never changed, but for the
    application's answer that `AssignClassTask::IsEnabled` asks for. -/
structure IMasterTask (ι σ : Type) where
  context : ι
  priority : Nat
  isRecurring : Bool
  blocksLowerPriority : Bool
  expectsResponse : Bool
  isEnabled : Bool
  behavior : TaskBehavior
  state : σ

namespace IMasterTask

variable {ι σ : Type}

def expirationTime (t : IMasterTask ι σ) : Timestamp :=
  if t.isEnabled then t.behavior.expiration else Timestamp.max

def isExpired (t : IMasterTask ι σ) (now : Timestamp) : Bool := t.expirationTime ≤ now

def startExpirationTime (t : IMasterTask ι σ) : Timestamp := t.behavior.startExpiration

end IMasterTask

/-- A task that is made for the user.  None of them blocks others. -/
structure UserTask (σ : Type) where
  priority : Nat
  expectsResponse : Bool
  behavior : TaskBehavior
  state : σ

/-- The object of a task that a user has scheduled. -/
def UserTask.create {ι σ : Type} (u : UserTask σ) (context : ι) (isRecurring : Bool) :
    IMasterTask ι σ where
  context := context
  priority := u.priority
  isRecurring := isRecurring
  blocksLowerPriority := false
  expectsResponse := u.expectsResponse
  isEnabled := true
  behavior := u.behavior
  state := u.state

/-- A task that a master makes for itself.  All of them are recurring and get responses. -/
structure OwnTask (σ : Type) where
  priority : Nat
  blocksLowerPriority : Bool
  isEnabled : Bool
  behavior : TaskBehavior
  state : σ

/-- The object of a task that a master has from the start. -/
def OwnTask.create {ι σ : Type} (o : OwnTask σ) (context : ι) : IMasterTask ι σ where
  context := context
  priority := o.priority
  isRecurring := true
  blocksLowerPriority := o.blocksLowerPriority
  expectsResponse := true
  isEnabled := o.isEnabled
  behavior := o.behavior
  state := o.state

/-! ## The log -/

/-- What a master sends. -/
inductive Sent (ι : Type) where
  | confirm (header : APDUHeader)
  | request (task : TaskId ι)
  deriving DecidableEq, Repr

/-- What the masters of a channel are seen to do. -/
inductive Action (ι : Type) where
  | onOpen (master : ι)
  | onClose (master : ι)
  /-- The scheduler calls `Run`; the result is ignored. -/
  | run (master : ι) (task : TaskId ι) (accepted : Bool)
  | onStart (task : TaskId ι)
  /-- `CompleteTask`: `OnComplete` of the task's callback and `OnTaskComplete` of the application. -/
  | onComplete (task : TaskId ι) (result : TaskCompletion)
  /-- A request or confirm is being built in `txBuffer`. -/
  | build (master : ι) (apdu : List UInt8)
  | transmit (master : ι) (what : Sent ι) (apdu : List UInt8)
  | onTxReady (master : ι)
  | receive (master : ι) (header : APDUResponseHeader) (objects : List UInt8)
  | onResponse (master : ι) (task : TaskId ι) (response : Response)
  | queueConfirm (master : ι) (header : APDUHeader)
  | soe (master : ι) (call : SOECall)
  | onReceiveIIN (master : ι) (iin : IINField)
  deriving DecidableEq, Repr

/-! ## What the masters share -/

/-- A task with the master that runs it. -/
structure Record (ι : Type) where
  task : TaskId ι
  runner : ι
  deriving DecidableEq, Repr

/-- The scheduler that the masters of a channel share, with the tasks and the clock. -/
structure Channel (ι σ : Type) where
  now : Timestamp
  /-- The time of day that the applications know, in milliseconds. -/
  utc : Nat
  objects : TaskId ι → IMasterTask ι σ
  /-- How many tasks have been made for users. -/
  created : Nat
  /-- The `TaskContext` of each master: its blocking tasks. -/
  blockingTasks : ι → List (TaskId ι)
  taskCheckPending : Bool
  /-- How many calls of `CheckForTaskRun` are posted to the executor. -/
  posted : Nat
  current : Option (Record ι)
  tasks : List (Record ι)
  taskTimer : Option Timestamp
  taskStartTimeout : Option Timestamp
  log : List (Action ι)

namespace Channel

variable {ι σ : Type} [DecidableEq ι]

def act (c : Channel ι σ) (action : Action ι) : Channel ι σ :=
  { c with log := c.log ++ [action] }

def modify (c : Channel ι σ) (t : TaskId ι) (f : IMasterTask ι σ → IMasterTask ι σ) :
    Channel ι σ :=
  { c with objects := Function.update c.objects t (f (c.objects t)) }

def expirationTime (c : Channel ι σ) (r : Record ι) : Timestamp :=
  (c.objects r.task).expirationTime

/-! ### Blocking -/

/-- `TaskContext::IsBlocked`. -/
def isBlocked (c : Channel ι σ) (t : TaskId ι) : Bool :=
  (c.blockingTasks (c.objects t).context).any fun blocking =>
    (c.objects blocking).priority < (c.objects t).priority && blocking ≠ t

/-- The set of blocking tasks when a task has ended. -/
def blockingAfter (blocking : List (TaskId ι)) (t : TaskId ι) (blocksLowerPriority : Bool) :
    TaskCompletion → List (TaskId ι)
  | .FAILURE_NO_COMMS => blocking
  | .SUCCESS => blocking.filter (· ≠ t)
  | .FAILURE_RESPONSE_TIMEOUT | .FAILURE_BAD_RESPONSE | .FAILURE_START_TIMEOUT
  | .FAILURE_MESSAGE_FORMAT_ERROR => if blocksLowerPriority then blocking.insert t else blocking

/-! ### Operations on a task -/

/-- `IMasterTask::CompleteTask`. -/
def completeTask (c : Channel ι σ) (t : TaskId ι) (result : TaskCompletion) : Channel ι σ :=
  let task := c.objects t
  { c with
    objects := Function.update c.objects t
      { task with behavior := task.behavior.completed result c.now }
    blockingTasks := Function.update c.blockingTasks task.context
      (blockingAfter (c.blockingTasks task.context) t task.blocksLowerPriority result)
    log := c.log ++ [.onComplete t result] }

/-- Complete one task after the other. -/
def completeAll (c : Channel ι σ) (records : List (Record ι)) (result : TaskCompletion) :
    Channel ι σ :=
  records.foldl (fun c r => c.completeTask r.task result) c

/-- `IMasterTask::SetMinExpiration`. -/
def setMinExpiration (c : Channel ι σ) (t : TaskId ι) : Channel ι σ :=
  c.modify t fun task => { task with behavior := task.behavior.reset }

/-! ### The scheduler -/

def postCheckForTaskRun (c : Channel ι σ) : Channel ι σ :=
  if c.taskCheckPending then c
  else { c with taskCheckPending := true, posted := c.posted + 1 }

def add (c : Channel ι σ) (r : Record ι) : Channel ι σ :=
  { c with tasks := c.tasks ++ [r] }.postCheckForTaskRun

/-- The tasks of the master leave the scheduler, and those that will not come back hear of it. -/
def setRunnerOffline (c : Channel ι σ) (runner : ι) : Channel ι σ :=
  let owned := (c.current.toList ++ c.tasks).filter (·.runner = runner)
  let c := c.completeAll (owned.filter fun r => !(c.objects r.task).isRecurring) .FAILURE_NO_COMMS
  { c with
    current := c.current.filter (·.runner ≠ runner)
    tasks := c.tasks.filter (·.runner ≠ runner) }.postCheckForTaskRun

/-- The task that runs is done: a recurring one waits for its next turn. -/
def completeCurrentFor (c : Channel ι σ) (runner : ι) : Channel ι σ :=
  match c.current with
  -- no active task
  | none => c
  | some r =>
    -- active task not for this runner
    if r.runner ≠ runner then c
    else
      let c := if (c.objects r.task).isRecurring then c.add r else c
      { c with current := none }.postCheckForTaskRun

/-- Arm the timer for the first task that will not wait any longer for its start. -/
def restartTimeoutTimer (c : Channel ι σ) : Channel ι σ :=
  let min := c.tasks.foldl
    (fun min r =>
      let task := c.objects r.task
      if !task.isRecurring && task.startExpirationTime < min then task.startExpirationTime else min)
    Timestamp.max
  { c with taskStartTimeout := if min ≠ Timestamp.max then some min else none }

def isTimedOut (c : Channel ι σ) (r : Record ι) : Bool :=
  !(c.objects r.task).isRecurring && (c.objects r.task).startExpirationTime ≤ c.now

/-- `TimeoutTasks`: tasks that were not started in time fail. -/
def timeoutTasks (c : Channel ι σ) : Channel ι σ :=
  let timedOut := c.tasks.filter c.isTimedOut
  let waiting := c.tasks.filter fun r => !c.isTimedOut r
  { c.completeAll timedOut .FAILURE_START_TIMEOUT with tasks := waiting }.restartTimeoutTimer

/-! ### Which task is next -/

inductive Comparison where
  | LEFT
  | RIGHT
  | SAME
  deriving DecidableEq, Repr

def compareEnabledStatus (c : Channel ι σ) (left right : Record ι) : Comparison :=
  -- left is disabled, check the right
  if c.expirationTime left = Timestamp.max then
    if c.expirationTime right = Timestamp.max then .SAME else .RIGHT
  -- left is enabled, right is disabled
  else if c.expirationTime right = Timestamp.max then .LEFT
  else .SAME

def compareBlockedStatus (c : Channel ι σ) (left right : Record ι) : Comparison :=
  if c.isBlocked left.task then
    if c.isBlocked right.task then .SAME else .RIGHT
  else if c.isBlocked right.task then .LEFT else .SAME

/-- If a task is already expired, the effective expiration time is now. -/
def effectiveTime (c : Channel ι σ) (r : Record ι) : Timestamp :=
  if (c.objects r.task).isExpired c.now then c.now else c.expirationTime r

def compareTime (c : Channel ι σ) (left right : Record ι) : Comparison :=
  if c.effectiveTime left < c.effectiveTime right then .LEFT
  else if c.effectiveTime right < c.effectiveTime left then .RIGHT
  else .SAME

def comparePriority (c : Channel ι σ) (left right : Record ι) : Comparison :=
  if (c.objects left.task).priority < (c.objects right.task).priority then .LEFT
  else if (c.objects right.task).priority < (c.objects left.task).priority then .RIGHT
  else .SAME

/-- Which of two tasks goes first: enabled, then not blocked, then due, then by priority. -/
def getBestTaskToRun (c : Channel ι σ) (left right : Record ι) : Comparison :=
  -- if one task is disabled, return the other task
  if c.compareEnabledStatus left right ≠ .SAME then c.compareEnabledStatus left right
  -- if one task is blocked and the other isn't, return the unblocked task
  else if c.compareBlockedStatus left right ≠ .SAME then c.compareBlockedStatus left right
  -- if the expiration times are the same, break based on priority
  else if c.compareTime left right = .SAME then c.comparePriority left right
  else c.compareTime left right

/-- The loop of `CheckForTaskRun` over the tasks. -/
def bestTask (c : Channel ι σ) : Option (Record ι) :=
  match c.tasks with
  | [] => none
  | first :: rest =>
    some (rest.foldl
      (fun best current => if c.getBestTaskToRun best current = .RIGHT then current else best)
      first)

end Channel

end OpenDnp3.Master
