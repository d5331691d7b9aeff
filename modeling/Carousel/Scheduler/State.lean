/-
  Carousel — the scheduler's state.

  The processor goes round the task table.  One task is current; another one may be pending,
  which means that it was picked and becomes current at the next switch.

  * `Scheduler`, with `task` and `update` for one entry of the table;
  * `spawn` makes a task, `restart` forgets all tasks and makes the idle one, task 0;
  * `entryOf` and `info` look a task up.
-/
import Carousel.Stack.Arena
import Carousel.Stack.Frame
import Carousel.Table
import Carousel.Task.Record

namespace Carousel

open Stack

/-- The task table, and who has the processor. -/
structure Scheduler (β : Type) where
  tasks : Vector (Record β) maxTasks
  /-- How many tasks were made.  The next one gets this number, and none is used twice. -/
  count : Nat
  current : TaskId
  /-- Picked to be the next current task. -/
  pending : Option TaskId
  /-- What is left for stacks. -/
  arena : Arena
  entryPoints : EntryPoints

namespace Scheduler

variable {β : Type}

/-- No tasks, and no memory for any. -/
def blank : Scheduler β where
  tasks := .replicate maxTasks .vacant
  count := 0
  current := 0
  pending := none
  arena := .empty
  entryPoints := .none

/-! ## One entry -/

/-- The entry of task `i`. -/
def task (s : Scheduler β) (i : TaskId) : Record β := s.tasks.get i

/-- Change the entry of task `i`. -/
def update (s : Scheduler β) (i : TaskId) (f : Record β → Record β) : Scheduler β :=
  { s with tasks := s.tasks.setIfInBounds i (f (s.task i)) }

theorem task_update (s : Scheduler β) (i j : TaskId) (f : Record β → Record β) :
    (s.update i f).task j = if i = j then f (s.task i) else s.task j := by
  simp [update, task, Table.get_setIfInBounds]

@[simp] theorem task_update_self (s : Scheduler β) (i : TaskId) (f : Record β → Record β) :
    (s.update i f).task i = f (s.task i) := by
  simp [task_update]

theorem task_update_of_ne (s : Scheduler β) {i j : TaskId} (f : Record β → Record β) (h : i ≠ j) :
    (s.update i f).task j = s.task j := by
  simp [task_update, h]

/-- The entry of the current task. -/
def currentTask (s : Scheduler β) : Record β := s.task s.current

/-- What task `id` runs, and its argument. -/
def entryOf (s : Scheduler β) (id : Nat) : Option (β × UInt64) :=
  if h : id < maxTasks then (s.task ⟨id, h⟩).body.map (·, (s.task ⟨id, h⟩).argument) else none

/-- What others may see of task `id`. -/
def info (s : Scheduler β) (id : Nat) : Except Fault Info :=
  if h : id < maxTasks then
    let r := s.task ⟨id, h⟩
    if r.status = .vacant then .error .parameter else .ok r.info
  else .error .parameter

/-! ## Making tasks -/

/-- Make a task: a number, a stack of at least `size` bytes, and an entry in the table. -/
def spawn (s : Scheduler β) (body : β) (argument size : UInt64) (name : Option String) :
    Except Fault (TaskId × Scheduler β) :=
  if size < minStackSize then .error .parameter
  else if h : s.count < maxTasks then
    match s.arena.cut size with
    | .error e => .error e
    | .ok (region, arena) =>
      let id : TaskId := ⟨s.count, h⟩
      let name := (name.map Name.ofString).getD (Name.numbered s.count)
      let record := Record.fresh s.count body argument region.top region.size name
      .ok (id, { s.update id fun _ => record with count := s.count + 1, arena := arena })
  else .error .exhausted

/-- Forget all tasks and make the idle task.  Without room for it there are no tasks, and the
    current number stays what it was. -/
def restart (s : Scheduler β) (arena : Arena) (entryPoints : EntryPoints) (idle : β)
    (idleSize : UInt64) : Except Fault TaskId × Scheduler β :=
  let s := { blank with current := s.current, arena := arena, entryPoints := entryPoints }
  match s.spawn idle 0 idleSize (some "idle") with
  | .error e => (.error e, s)
  | .ok (id, s) => (.ok id, { s with current := id })

end Scheduler

end Carousel
