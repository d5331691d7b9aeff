/-
  Carousel — the calls that tasks make.

  * `setUp` and `create`, with the line that each of them reports;
  * `sleep`, `yield` and `tick`: the passes they make.  The caller raises the trap if the
    pass picked a task;
  * `switchNow`: the trap where nothing has to be saved, as on a host machine;
  * `delete`: not on this system.
-/
import Carousel.Clock.Tick
import Carousel.Kernel.Log
import Carousel.Scheduler.Switch

namespace Carousel.Kernel

open Stack

variable {β : Type}

/-- Where the program image has put what the kernel needs. -/
structure Image where
  /-- The lowest address of the memory for stacks. -/
  pool : Address
  entryPoints : EntryPoints

/-- The addresses that the image for a board is linked to. -/
def Image.board : Image := ⟨0x20000400, ⟨0x08001a2d, 0x08001b40⟩⟩

/-- Addresses on a host machine of 64 bits: the memory for stacks is far from both ends of the
    address space, so that no stack pointer wraps around. -/
def Image.host : Image := ⟨0x555555600000, Image.board.entryPoints⟩

/-- Forget all tasks and make the idle task. -/
def setUp (image : Image) (idle : β) (s : Scheduler β) : Scheduler β × Log.Line :=
  let (id, s) :=
    s.restart (Arena.spanning image.pool poolSize) image.entryPoints idle idleStackSize
  match id with
  | .ok id => (s, .ready id)
  | .error e => (s, .notReady e)

/-- Make a task. -/
def create (s : Scheduler β) (body : β) (argument size : UInt64) (name : Option String) :
    Except Fault TaskId × Scheduler β × Log.Line :=
  match s.spawn body argument size name with
  | .error e => (.error e, s, .notCreated name e)
  | .ok (id, s) =>
    let r := s.task id
    (.ok id, s, .created r.name.toString r.id r.size)

/-- A task cannot be taken away by another one. -/
def delete (_ : Nat) : Except Fault Unit := .error .unsupported

/-- The current task sleeps for some ticks. -/
def sleep (s : Scheduler β) (ticks : UInt16) : Pass β := (s.sleepCurrent ticks).pass .call

/-- The current task sleeps for some milliseconds. -/
def sleepMs (s : Scheduler β) (ms : UInt16) : Pass β := sleep s (Clock.ticksFor ms)

/-- The current task lets others run. -/
def yield (s : Scheduler β) : Pass β := s.pass .call

/-- The hardware tick. -/
def tick (s : Scheduler β) : Pass β := s.pass .clock

/-- The trap where there are no registers to save: the current task is left at the stack pointer
    that is on record for it. -/
def switchNow (s : Scheduler β) : Scheduler β := (s.commit s.currentTask.sp).2

/-- The code that a fresh context would return to spins for ever.  However many spins it is
    watched for, it uses up all of them (the first part: how many are left) and has not come back
    (the second part: whether it has). -/
def trap : Nat → Nat × Bool
  | 0 => (0, false)
  | n + 1 => trap n

end Carousel.Kernel
