/-
  Carousel — tasks that run.

  Every task has a thread of its own.  When another task becomes current the old thread stays
  where it is, in the middle of whatever it was doing, and the new one goes on from where it
  was left.  Only the idle task makes time pass, and actions of scripts if the plan says so.

  * `Simulation`: a rig and the threads of its tasks;
  * `step`: the current thread does one thing;
  * `run`: a whole simulation.
-/
import Carousel.Script.Session

namespace Carousel.Script

/-- A rig and what each task still has to do.  A task without a thread has not run yet. -/
structure Simulation where
  rig : Rig
  threads : Vector (Option (List Work)) maxTasks

namespace Simulation

/-- Another task has become current.  One that has not run yet starts from the context that is
    found on its stack. -/
def resume (s : Simulation) (old new : TaskId) : Simulation :=
  let rig := s.rig.note (.switch old new)
  match s.threads.get new with
  | some _ => { s with rig := rig }
  | none =>
    let sp := rig.scheduler.currentTask.sp
    let r0 := rig.memory.word (sp + 32)
    let pc := rig.memory.word (sp + 56)
    let status := rig.memory.word (sp + 60)
    { rig := rig.note (.frame r0 status (pc &&& 1))
      threads := s.threads.setIfInBounds new (some [.trampoline r0.toNat]) }

/-- The current thread does one thing. -/
def step (s : Simulation) : Simulation :=
  let current := s.rig.scheduler.current
  match s.threads.get current with
  | some (w :: ws) =>
    let (rig, more) := s.rig.step w
    let s : Simulation := ⟨rig, s.threads.setIfInBounds current (some (more ++ ws))⟩
    if rig.finish.isSome ∨ rig.scheduler.current = current then s
    else s.resume current rig.scheduler.current
  | _ => s

/-- Go on until the plan is carried out, for at most so many steps. -/
def runFor : Nat → Simulation → Simulation
  | 0, s => s
  | fuel + 1, s => if s.rig.finish.isSome then s else runFor fuel s.step

/-- Do the boot actions, and then let tasks run. -/
def run (rig : Rig) (boot : List Action) (plan : Plan) : Rig :=
  let rig := Rig.run Rig.patience (boot.map (.perform .boot)) rig
  let unborn := Vector.replicate maxTasks (none : Option (List Work))
  let threads := unborn.setIfInBounds rig.scheduler.current (some [.idle])
  (runFor Rig.patience ⟨{ rig with plan := some plan }, threads⟩).rig

end Simulation

end Carousel.Script
