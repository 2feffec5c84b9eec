import OpenDnp3.Master.MasterTask

/-!
# When a task of the master is due

Times are readings of the steady clock, signed 64-bit counts with a least and a greatest value
that stand for "immediately" and "never".  A `TaskBehavior` is the schedule of one task: when it
is due next, how long it waits before it is tried again, and until when it may start at all.
-/

namespace OpenDnp3.Master

/-! ## Times -/

/-- A reading of the steady clock. -/
abbrev Timestamp := Int

/-- A difference of two readings. -/
abbrev TimeDuration := Int

namespace Timestamp

def min : Timestamp := -2 ^ 63

def max : Timestamp := 2 ^ 63 - 1

/-- `operator+`, which stops at the greatest time. -/
def plus (time : Timestamp) (duration : TimeDuration) : Timestamp :=
  if Timestamp.max - time ≤ duration then Timestamp.max else time + duration

end Timestamp

namespace TimeDuration

def min : TimeDuration := -2 ^ 63

def max : TimeDuration := 2 ^ 63 - 1

/-- `Double`, which stops at the greatest duration. -/
def double (duration : TimeDuration) : TimeDuration :=
  if TimeDuration.max / 2 ≤ duration then TimeDuration.max else duration + duration

def isNegative (duration : TimeDuration) : Bool := duration < 0

end TimeDuration

/-! ## Schedules -/

/-- When a task is run, repeated and given up. -/
structure TaskBehavior where
  period : TimeDuration
  minRetryDelay : TimeDuration
  maxRetryDelay : TimeDuration
  startExpiration : Timestamp
  expiration : Timestamp
  currentRetryDelay : TimeDuration
  disabled : Bool
  deriving DecidableEq, Repr

namespace TaskBehavior

/-- The constructor of the source. -/
def ofDelays (period : TimeDuration) (expiration : Timestamp)
    (minRetryDelay maxRetryDelay : TimeDuration) (startExpiration : Timestamp) : TaskBehavior where
  period := period
  minRetryDelay := minRetryDelay
  maxRetryDelay := maxRetryDelay
  startExpiration := startExpiration
  expiration := expiration
  currentRetryDelay := minRetryDelay
  disabled := false

def singleExecutionNoRetry (startExpiration : Timestamp) : TaskBehavior :=
  ofDelays TimeDuration.min Timestamp.min TimeDuration.max TimeDuration.max startExpiration

def immediatePeriodic (period minRetryDelay maxRetryDelay : TimeDuration) : TaskBehavior :=
  ofDelays period Timestamp.min minRetryDelay maxRetryDelay Timestamp.max

def singleImmediateExecutionWithRetry (minRetryDelay maxRetryDelay : TimeDuration) :
    TaskBehavior :=
  ofDelays TimeDuration.min Timestamp.min minRetryDelay maxRetryDelay Timestamp.max

def reactsToIINOnly : TaskBehavior :=
  ofDelays TimeDuration.min Timestamp.max TimeDuration.max TimeDuration.max Timestamp.max

def calcNextRetryTimeout (b : TaskBehavior) : TimeDuration :=
  let doubled := TimeDuration.double b.currentRetryDelay
  if b.maxRetryDelay < doubled then b.maxRetryDelay else doubled

def onSuccess (b : TaskBehavior) (now : Timestamp) : TaskBehavior :=
  { b with
    currentRetryDelay := b.minRetryDelay
    expiration :=
      if TimeDuration.isNegative b.period then Timestamp.max else Timestamp.plus now b.period }

def onResponseTimeout (b : TaskBehavior) (now : Timestamp) : TaskBehavior :=
  { b with
    expiration := Timestamp.plus now b.currentRetryDelay
    currentRetryDelay := b.calcNextRetryTimeout }

def reset (b : TaskBehavior) : TaskBehavior :=
  { b with disabled := false, expiration := Timestamp.min, currentRetryDelay := b.minRetryDelay }

def disable (b : TaskBehavior) : TaskBehavior :=
  { b with disabled := true, expiration := Timestamp.max }

/-- What `CompleteTask` makes of the schedule, by how the task ended. -/
def completed (b : TaskBehavior) (result : TaskCompletion) (now : Timestamp) : TaskBehavior :=
  match result with
  -- retry immediately when the comms come back online
  | .FAILURE_NO_COMMS => b.reset
  -- back-off exponentially using the task retry
  | .FAILURE_RESPONSE_TIMEOUT => b.onResponseTimeout now
  | .SUCCESS => b.onSuccess now
  | .FAILURE_BAD_RESPONSE | .FAILURE_START_TIMEOUT | .FAILURE_MESSAGE_FORMAT_ERROR => b.disable

/-- The integrity poll and its like are due: as soon as possible, and not disabled. -/
def IsDue (b : TaskBehavior) : Prop := b.expiration = Timestamp.min ∧ b.disabled = false

theorem isDue_reset (b : TaskBehavior) : b.reset.IsDue := ⟨rfl, rfl⟩

end TaskBehavior

end OpenDnp3.Master
