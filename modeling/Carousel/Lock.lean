/-
  Carousel — a lock that knows who holds it.

  There is no recursion: whoever asks again while holding the lock is told that it is busy.

  * `acquire`, `release` and `invalidate`: what happens to the lock inside one critical
    section; waiting is the caller's.
-/
import Carousel.Fault
import Carousel.Limits

namespace Carousel

/-- The state of a lock. -/
inductive Lock where
  | free
  | held (owner : TaskId)
  /-- Taken out of use. -/
  | invalid
  deriving DecidableEq

namespace Lock

/-- The task that holds the lock. -/
def owner : Lock → Option TaskId
  | held t => some t
  | _ => none

/-- Task `who` tries to take the lock. -/
def acquire (who : TaskId) : Lock → Except Fault Lock
  | free => .ok (held who)
  | held _ => .error .busy
  | invalid => .error .parameter

/-- Task `who` gives the lock back. -/
def release (who : TaskId) : Lock → Except Fault Lock
  | held t => if t = who then .ok free else .error .notOwner
  | invalid => .error .parameter
  | free => .error .notOwner

/-- Take the lock out of use. -/
def invalidate (_ : Lock) : Lock := invalid

end Lock

end Carousel
