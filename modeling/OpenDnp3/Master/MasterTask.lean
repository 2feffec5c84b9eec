import OpenDnp3.App.Header
import OpenDnp3.Lib.Machine

/-!
# Tasks of the master

A task is a conversation with the outstation: its request is answered by a response, upon
which the task repeats with the next request or completes.  `TaskClass` holds what a kind of
task overrides; `step` is what all tasks have in common.
-/

namespace OpenDnp3.Master

open App

/-- How a task ended. -/
inductive TaskCompletion where
  | SUCCESS
  | FAILURE_BAD_RESPONSE
  | FAILURE_RESPONSE_TIMEOUT
  | FAILURE_START_TIMEOUT
  | FAILURE_MESSAGE_FORMAT_ERROR
  | FAILURE_NO_COMMS
  deriving DecidableEq, Repr

/-- What a task makes of a response. -/
inductive ResponseResult where
  /-- The response was bad. -/
  | ERROR_BAD_RESPONSE
  /-- The response was good and the task is complete. -/
  | OK_FINAL
  /-- The response was good and the task should repeat the format, transmit and await cycle. -/
  | OK_REPEAT
  /-- The response was good and the task should continue executing. -/
  | OK_CONTINUE
  deriving DecidableEq, Repr

/-- A response as the task gets it. -/
structure Response where
  header : APDUResponseHeader
  objects : List UInt8
  deriving DecidableEq, Repr

/-- What a kind of task overrides: how it starts, what it does with a response, and what it
    tells the user at the end. -/
structure TaskClass (σ ρ : Type) where
  initialized : σ
  processResponse : σ → Response → σ × ResponseResult
  onTaskComplete : σ → TaskCompletion → ρ

/-- A task that has been started. -/
inductive Execution (σ ρ : Type) where
  | running (task : σ)
  | complete (result : ρ)
  deriving DecidableEq, Repr

/-- What can happen to a task that has been started. -/
inductive TaskInput where
  | onResponse (response : Response)
  | onResponseTimeout
  | onLowerLayerClose
  | onStartTimeout
  | onMessageFormatError
  deriving DecidableEq, Repr

/-- `ValidateSingleResponse`: the whole answer is in this fragment. -/
def validateSingleResponse (header : APDUResponseHeader) : Bool :=
  header.control.FIR && header.control.FIN

namespace TaskClass

variable {σ ρ : Type} (K : TaskClass σ ρ)

/-- `IMasterTask::OnResponse`. -/
def onResponse (task : σ) (response : Response) : Execution σ ρ :=
  match K.processResponse task response with
  | (task, .ERROR_BAD_RESPONSE) => .complete (K.onTaskComplete task .FAILURE_BAD_RESPONSE)
  | (task, .OK_FINAL) => .complete (K.onTaskComplete task .SUCCESS)
  | (task, .OK_REPEAT) => .running task
  | (task, .OK_CONTINUE) => .running task

/-- A complete task does not hear of anything any more. -/
def step : Execution σ ρ → TaskInput → Execution σ ρ
  | .complete result, _ => .complete result
  | .running task, .onResponse response => K.onResponse task response
  | .running task, .onResponseTimeout =>
    .complete (K.onTaskComplete task .FAILURE_RESPONSE_TIMEOUT)
  | .running task, .onLowerLayerClose => .complete (K.onTaskComplete task .FAILURE_NO_COMMS)
  | .running task, .onStartTimeout => .complete (K.onTaskComplete task .FAILURE_START_TIMEOUT)
  | .running task, .onMessageFormatError =>
    .complete (K.onTaskComplete task .FAILURE_MESSAGE_FORMAT_ERROR)

/-- The task after its start and the given inputs. -/
def execute (inputs : List TaskInput) : Execution σ ρ :=
  Lib.run K.step (.running K.initialized) inputs

variable {K}

end TaskClass

end OpenDnp3.Master
