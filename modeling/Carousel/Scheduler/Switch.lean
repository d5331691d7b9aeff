/-
  Carousel — changing the current task.

  * `commit`: the switch itself, the only way in which another task becomes current once
    tasks run;
  * `launch`: the choice of the very first task;
  * `sleepCurrent` and `exit`: a task stops being runnable.
-/
import Carousel.Scheduler.Pass

namespace Carousel

open Stack

namespace Scheduler

variable {β : Type}

/-- Switch: keep the stack pointer of the current task, make the pending task current, if there
    is one, and tell the stack pointer to go on with. -/
def commit (s : Scheduler β) (sp : Address) : Address × Scheduler β :=
  let s := s.update s.current (·.park sp tracksDepth)
  let s :=
    match s.pending with
    | none => s
    | some next =>
      { s.update next ({ · with status := .running }) with current := next, pending := none }
  (s.currentTask.sp, s)

/-- Choose the first task and lay out its context: the stack pointer to start with. -/
def launch (s : Scheduler β) : Address × Scheduler β × List Store :=
  let (first, s) := s.scan
  let (s, stores) := { s with current := first, pending := none }.layOut first
  let s := s.update first ({ · with status := .running })
  (s.currentTask.sp, s, stores)

/-- The launch would find a stack: either another task may run, or the current one has one. -/
def canLaunch (s : Scheduler β) : Bool :=
  (others s.current).any (fun i => (s.task i).status.runnable) || s.currentTask.top != 0

/-- Send the current task to sleep. -/
def sleepCurrent (s : Scheduler β) (ticks : UInt16) : Scheduler β :=
  s.update s.current ({ · with status := .waiting, ticks := ticks })

/-- Mark task `id` as done, if there is such a task. -/
def exit (s : Scheduler β) (id : Nat) : Scheduler β :=
  if h : id < maxTasks then
    s.update ⟨id, h⟩ fun r => if r.status = .vacant then r else { r with status := .exited }
  else s

end Scheduler

end Carousel
