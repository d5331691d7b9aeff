/-
  Carousel — the ways in which a call is refused.

  * `Fault`: one constructor per cause;
  * `Fault.label` and `Fault.message`: its short name and its wording.
-/
namespace Carousel

/-- Why a call did not do what it was asked to do.  Nothing is tried again: that is for the
    caller to decide. -/
inductive Fault where
  /-- An argument that no state of the system could accept. -/
  | parameter
  /-- No table entry, or no memory, is left. -/
  | exhausted
  /-- A lock was given back by a task that does not hold it. -/
  | notOwner
  /-- A lock is held. -/
  | busy
  /-- A clock or a tick source cannot be made to run as asked. -/
  | hardware
  /-- The operation does not exist on this system. -/
  | unsupported
  deriving DecidableEq

namespace Fault

/-- The short name of a fault. -/
def label : Fault → String
  | parameter => "Parameter"
  | exhausted => "ResourceExhausted"
  | notOwner => "OwnershipViolation"
  | busy => "Busy"
  | hardware => "HardwareInit"
  | unsupported => "Unsupported"

/-- The wording of a fault. -/
def message : Fault → String
  | parameter => "invalid parameter"
  | exhausted => "resource exhausted"
  | notOwner => "mutex is not owned by the calling task"
  | busy => "mutex is held"
  | hardware => "tick source could not be programmed"
  | unsupported => "operation not supported"

end Fault

end Carousel
