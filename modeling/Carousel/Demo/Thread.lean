/-
  Carousel — the demonstration: where its tasks are in their code.

  Two tasks count in one shared number, under a lock, one in steps of 1 and one in steps of
  10.  A third one takes bytes from a ring that a timer's callback fills.  A fourth one lets
  others run a few times and is done.

  * `Body` and `Alarm`: what tasks run, and what timers carry;
  * `Point` and `Thread`: where a task is.  From one point to the next there is at most one
    critical section, and at most one access to the shared number.
-/
import Carousel.Memory

namespace Carousel.Demo

/-- What a task runs. -/
inductive Body where
  | idle
  | counter
  | receiver
  | greeter
  deriving DecidableEq

/-- What a timer carries: a byte for the ring. -/
inductive Alarm where
  | heartbeat (byte : UInt64)

/-- Where a counting task is. -/
inductive CounterPoint where
  /-- Trying to take the lock. -/
  | acquire
  /-- About to let others run, since the lock was held. -/
  | wait
  | load
  /-- About to store, after it read `value`. -/
  | store (value : Word)
  | release
  | sleep
  deriving DecidableEq

/-- Where a task is. -/
inductive Point where
  /-- It has not run yet. -/
  | fresh
  | idle
  | counter (amount : Word) (point : CounterPoint)
  /-- About to take bytes from the ring. -/
  | receive
  /-- About to sleep, since there was none. -/
  | rest
  /-- About to add to the number of bytes received. -/
  | received (n : Nat)
  | greeter (left : UInt64)
  /-- The body is done. -/
  | returned (code : Int32)
  /-- About to leave the books. -/
  | exit
  /-- Lets others run, for ever. -/
  | parked
  /-- Stopped by a call that must not fail. -/
  | failed (message : String)
  deriving DecidableEq

/-- A task's thread of control. -/
structure Thread where
  /-- The number that it was started with. -/
  id : Nat
  point : Point
  /-- The trap comes first: a pass has picked another task. -/
  trap : Bool
  deriving DecidableEq

/-- A thread that has not run yet. -/
def Thread.fresh : Thread := ⟨0, .fresh, false⟩

/-- Where a body starts, with its argument. -/
def Body.start : Body → UInt64 → Point
  | idle, _ => .idle
  | counter, argument => .counter argument.toUInt32 .acquire
  | receiver, _ => .receive
  | greeter, argument => .greeter argument

end Carousel.Demo
