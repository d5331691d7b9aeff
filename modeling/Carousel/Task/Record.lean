/-
  Carousel — what is known of one task.

  * `Status`: where a task is in its life;
  * `Record`: an entry of the task table; `β` is the type of what a task may be asked to run;
  * `Info`: what others may see of it.
-/
import Carousel.Memory
import Carousel.Task.Name

namespace Carousel

/-- Where a task is in its life. -/
inductive Status where
  /-- No task: the entry was never used, or its task is gone. -/
  | vacant
  /-- Made, and not yet run. -/
  | created
  /-- Running, or ready to go on. -/
  | running
  /-- Asleep for a number of ticks. -/
  | waiting
  /-- Done, and still on the books. -/
  | exited
  deriving DecidableEq

/-- The task may be given the processor. -/
def Status.runnable : Status → Bool
  | created | running => true
  | _ => false

/-- What others may see of a task. -/
structure Info where
  id : Nat
  status : Status
  size : UInt64
  /-- The most bytes of its stack that were in use when it was switched out. -/
  depth : UInt64
  name : Name
  deriving DecidableEq

/-- An entry of the task table. -/
structure Record (β : Type) where
  id : Nat
  /-- What the task runs. -/
  body : Option β
  argument : UInt64
  /-- The address just above its stack. -/
  top : Address
  /-- Its stack pointer when it was last switched out. -/
  sp : Address
  /-- The lowest stack pointer it was switched out with. -/
  lowest : Address
  size : UInt64
  status : Status
  /-- Ticks left to sleep. -/
  ticks : UInt16
  name : Name

namespace Record

variable {β : Type}

/-- An entry without a task. -/
def vacant : Record β where
  id := 0
  body := none
  argument := 0
  top := 0
  sp := 0
  lowest := 0
  size := 0
  status := .vacant
  ticks := 0
  name := .empty

/-- A task that has just been made. -/
def fresh (id : Nat) (body : β) (argument : UInt64) (top : Address) (size : UInt64)
    (name : Name) : Record β where
  id := id
  body := some body
  argument := argument
  top := top
  sp := top
  lowest := top
  size := size
  status := .created
  ticks := 0
  name := name

/-- Keep the stack pointer of a task that is switched out and, if `track`, how deep it is. -/
def park (r : Record β) (sp : Address) (track : Bool) : Record β :=
  { r with sp := sp, lowest := if track && sp < r.lowest then sp else r.lowest }

/-- The most bytes of stack that were in use when the task was switched out. -/
def depth (r : Record β) : UInt64 := if r.lowest ≤ r.top then r.top - r.lowest else 0

/-- What others may see. -/
def info (r : Record β) : Info := ⟨r.id, r.status, r.size, r.depth, r.name⟩

end Record

end Carousel
