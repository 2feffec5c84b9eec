import Mathlib.Tactic.Common

/-!
# Statuses of commands

The status with which an outstation answers a command, and which a master reads from the answer.
-/

namespace OpenDnp3.Outstation

/-- What a command is answered with. -/
inductive CommandStatus where
  | SUCCESS
  | TIMEOUT
  | NO_SELECT
  | FORMAT_ERROR
  | NOT_SUPPORTED
  | ALREADY_ACTIVE
  | HARDWARE_ERROR
  | LOCAL
  | TOO_MANY_OPS
  | NOT_AUTHORIZED
  | AUTOMATION_INHIBIT
  | PROCESSING_LIMITED
  | OUT_OF_RANGE
  | DOWNSTREAM_LOCAL
  | ALREADY_COMPLETE
  | BLOCKED
  | CANCELLED
  | BLOCKED_OTHER_MASTER
  | DOWNSTREAM_FAIL
  | NON_PARTICIPATING
  | UNDEFINED
  deriving DecidableEq, Repr

def CommandStatus.toType : CommandStatus → UInt8
  | SUCCESS => 0
  | TIMEOUT => 1
  | NO_SELECT => 2
  | FORMAT_ERROR => 3
  | NOT_SUPPORTED => 4
  | ALREADY_ACTIVE => 5
  | HARDWARE_ERROR => 6
  | LOCAL => 7
  | TOO_MANY_OPS => 8
  | NOT_AUTHORIZED => 9
  | AUTOMATION_INHIBIT => 10
  | PROCESSING_LIMITED => 11
  | OUT_OF_RANGE => 12
  | DOWNSTREAM_LOCAL => 13
  | ALREADY_COMPLETE => 14
  | BLOCKED => 15
  | CANCELLED => 16
  | BLOCKED_OTHER_MASTER => 17
  | DOWNSTREAM_FAIL => 18
  | NON_PARTICIPATING => 126
  | UNDEFINED => 127

/-- A byte without a name is `UNDEFINED`. -/
def CommandStatus.fromType (byte : UInt8) : CommandStatus :=
  match byte.toNat with
  | 0 => .SUCCESS
  | 1 => .TIMEOUT
  | 2 => .NO_SELECT
  | 3 => .FORMAT_ERROR
  | 4 => .NOT_SUPPORTED
  | 5 => .ALREADY_ACTIVE
  | 6 => .HARDWARE_ERROR
  | 7 => .LOCAL
  | 8 => .TOO_MANY_OPS
  | 9 => .NOT_AUTHORIZED
  | 10 => .AUTOMATION_INHIBIT
  | 11 => .PROCESSING_LIMITED
  | 12 => .OUT_OF_RANGE
  | 13 => .DOWNSTREAM_LOCAL
  | 14 => .ALREADY_COMPLETE
  | 15 => .BLOCKED
  | 16 => .CANCELLED
  | 17 => .BLOCKED_OTHER_MASTER
  | 18 => .DOWNSTREAM_FAIL
  | 126 => .NON_PARTICIPATING
  | _ => .UNDEFINED

@[simp] theorem CommandStatus.fromType_toType (status : CommandStatus) :
    fromType status.toType = status := by
  cases status <;> rfl

end OpenDnp3.Outstation
