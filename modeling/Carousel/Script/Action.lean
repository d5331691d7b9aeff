/-
  Carousel — scripts for tasks and callbacks.

  A script is a list of actions, each of them a call of the kernel, of a lock, of the timer
  service or of a ring.  It stands for the body of a task, or for a timer's callback.

  * `Action`, and `Routine`: a script for the body of a task;
  * `Outcome`: what an action comes to;
  * `Event`: what is written down while scripts run.
-/
import Carousel.Kernel.Log
import Carousel.Task.Record

namespace Carousel.Script

/-! ## Actions -/

/-- Something that a task or a callback does. -/
inductive Action where
  /-- Set the kernel up anew. -/
  | setUp
  /-- Make a task that runs the script of number `argument`. -/
  | create (argument size : UInt64) (name : Option String)
  | delete (id : Nat)
  | info (id : Nat)
  /-- Ask for the current task. -/
  | current
  | sleep (ticks : UInt16)
  | sleepMs (ms : UInt16)
  | yield
  | hardwareTick
  | exit (id : Nat)
  /-- Run the body of a task here and now. -/
  | call (id : Nat)
  /-- Take the trap with a stack pointer some words below the one on record. -/
  | save (down : Int)
  | tryLock (m : Nat)
  | lock (m : Nat)
  | unlock (m : Nat)
  /-- Lock, then take the lock out of use. -/
  | retireLock (m : Nat)
  | owner (m : Nat)
  | timerSetUp
  | timerShutDown
  | timerCreate (timeout : UInt32) (autoRestart : Bool) (context : UInt64)
  | timerPause (id : Nat)
  | timerResume (id : Nat)
  | timerRemaining (id : Nat)
  | timerDestroy (id : Nat)
  | timerReset (id : Nat) (timeout : UInt32)
  /-- Some periods of the timer service. -/
  | periods (n : Nat)
  | ringAttach (r size : Nat)
  | ringPut (r : Nat) (bytes : List UInt8) (dropOldest : Bool)
  | ringGet (r n : Nat)
  | ringState (r : Nat)
  | ringClear (r : Nat)

/-- The body of a task: actions, how often they are gone through, and what is returned then. -/
structure Routine where
  actions : List Action
  rounds : Nat
  /-- Without it, the argument is returned. -/
  code : Option Int32

/-! ## Outcomes -/

/-- What an action gives back. -/
inductive Value where
  | nothing
  | number (n : Int)
  | info (i : Info)
  | bytes (b : List UInt8)
  | ring (length capacity : Nat) (isEmpty : Bool)

/-- Why an action was not even tried. -/
inductive Refusal where
  /-- The kernel cannot be set up under running tasks. -/
  | running
  /-- The idle task's body does not come back. -/
  | endless
  | noLock
  | noRing
  /-- Nobody could give the lock back meanwhile. -/
  | wouldBlock
  deriving DecidableEq

/-- What an action comes to. -/
inductive Outcome where
  | done (v : Value)
  | failed (e : Fault)
  | refused (why : Refusal)

namespace Outcome

/-- The outcome of a call that may fail. -/
def of {α : Type} (value : α → Value) : Except Fault α → Outcome
  | .ok a => done (value a)
  | .error e => failed e

/-- The action worked, and gives nothing back. -/
def fine : Outcome := done .nothing

end Outcome

/-! ## Events -/

/-- What is written down while scripts run. -/
inductive Event where
  | log (line : Log.Line)
  /-- The body of a task starts. -/
  | entry (argument : UInt64) (current : TaskId)
  /-- An action of the script of that number is done. -/
  | did (argument : UInt64) (current : TaskId) (outcome : Outcome)
  /-- A timer's callback starts. -/
  | fire (context : UInt64)
  /-- An action of that callback is done. -/
  | callback (context : UInt64) (outcome : Outcome)
  /-- An action from before the tasks run is done. -/
  | boot (outcome : Outcome)
  | tick (n : Nat)
  | switch (old new : TaskId)
  /-- The first context of a task as it is found on its stack. -/
  | frame (r0 status thumb : Word)

end Carousel.Script
