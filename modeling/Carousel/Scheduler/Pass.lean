/-
  Carousel — a scheduling pass.

  A pass goes round the table from the task after the current one and picks the first that
  may run; exited tasks on the way are struck off the books.  A pass made by the hardware
  tick also charges every sleeping task for the tick, and wakes those whose sleep is over.
  A task that has never run gets its first context when it is picked.

  * `expire`, `scan` and `layOut`: the three parts;
  * `pass`: all of it, with the words that it wants written to memory.
-/
import Carousel.Scheduler.State

namespace Carousel

open Stack

/-- Who asks for a pass. -/
inductive Trigger where
  /-- The hardware tick. -/
  | clock
  /-- A task. -/
  | call
  deriving DecidableEq

/-- What a pass comes to. -/
structure Pass (β : Type) where
  /-- The task to switch to, if it is not the current one. -/
  pick : Option TaskId
  scheduler : Scheduler β
  stores : List Store

namespace Scheduler

variable {β : Type}

/-! ## Sleep -/

/-- One entry after a hardware tick. -/
def expireOne (r : Record β) : Record β :=
  if r.status = .waiting then
    let ticks := if r.ticks = 0 then 0 else r.ticks - 1
    { r with ticks := ticks, status := if ticks = 0 then .running else .waiting }
  else r

/-- Charge every sleeping task for a tick. -/
def expire (s : Scheduler β) : Scheduler β := { s with tasks := s.tasks.map expireOne }

/-! ## The pick -/

/-- The other positions of the table, going round from the one after `i`. -/
def others (i : TaskId) : List TaskId :=
  (List.range (maxTasks - 1)).map fun k => i + 1 + Fin.ofNat maxTasks k

/-- An exited task is struck off the books. -/
def reclaim (s : Scheduler β) (i : TaskId) : Scheduler β :=
  if (s.task i).status = .exited then s.update i ({ · with status := .vacant }) else s

/-- Walk along `ids` to the first task that may run; without one, it is the current task. -/
def walk (s : Scheduler β) : List TaskId → TaskId × Scheduler β
  | [] => (s.current, s)
  | i :: ids => if (s.task i).status.runnable then (i, s) else (s.reclaim i).walk ids

/-- Go round the table once. -/
def scan (s : Scheduler β) : TaskId × Scheduler β := s.walk (others s.current)

/-! ## The first context -/

/-- Lay the first context of task `i` out on its stack. -/
def layOut (s : Scheduler β) (i : TaskId) : Scheduler β × List Store :=
  let top := (s.task i).top
  (s.update i ({ · with sp := Frame.bottom top }), Frame.stores i s.entryPoints top)

/-! ## The pass -/

/-- A scheduling pass. -/
def pass (s : Scheduler β) (trigger : Trigger) : Pass β :=
  let s := if trigger = .clock then s.expire else s
  let (next, s) := s.scan
  if next = s.current then ⟨none, s, []⟩
  else
    match (s.task next).status with
    | .created =>
      let (s, stores) := s.layOut next
      ⟨some next, { s with pending := some next }, stores⟩
    | .running => ⟨some next, { s with pending := some next }, []⟩
    | _ => ⟨none, s, []⟩

end Scheduler

end Carousel
