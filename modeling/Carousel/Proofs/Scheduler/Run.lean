/-
  Carousel — what can happen to a scheduler.

  * `Request`: one call of the scheduler, by anybody; `serve` what becomes of it, and `permits`:
    the current task calls for itself only, and the idle task stays ready;
  * `Event`: what tasks, interrupts and the trap do, `after` the state after it, `stores` the words
    written for it, and `allows`: when it may come;
  * `requests`: the requests that an event is made of, `after_eq_serveAll` and
    `permitsAll_requests`: it is nothing else;
  * `Reachable`: the states that events lead to once the scheduler is set up, and `Underway`: the
    same with the launch of a first task;
  * `afterAll` and `allowsAll`: events one after another;
  * `serve_spawn_of`, `spawn_eq_ok`, `restart_eq_ok`, `task_commit`, `task_launch`: what is left
    behind.
-/
import Carousel.Kernel.Call
import Carousel.Proofs.Scheduler.Pass

namespace Carousel

open Stack

variable {β : Type}

/-- The idle task. -/
def idleTask : TaskId := 0

/-! ## Requests -/

/-- One call of the scheduler. -/
inductive Request (β : Type) where
  | spawn (body : β) (argument size : UInt64) (name : Option String)
  | pass (trigger : Trigger)
  | commit (sp : Address)
  | sleepCurrent (ticks : UInt16)
  | exit (id : Nat)
  | launch

namespace Scheduler

/-- The state after a request. -/
def serve (s : Scheduler β) : Request β → Scheduler β
  | .spawn body argument size name =>
    match s.spawn body argument size name with
    | .ok (_, s') => s'
    | .error _ => s
  | .pass trigger => (s.pass trigger).scheduler
  | .commit sp => (s.commit sp).2
  | .sleepCurrent ticks => s.sleepCurrent ticks
  | .exit id => s.exit id
  | .launch => s.launch.2.1

/-- The state after requests, first to last. -/
def serveAll (s : Scheduler β) (rs : List (Request β)) : Scheduler β := rs.foldl serve s

/-- Only a task that runs can sleep or be done, for itself, and the idle task does neither. -/
def permits (s : Scheduler β) : Request β → Prop
  | .sleepCurrent _ => s.current ≠ idleTask ∧ s.currentTask.status = .running
  | .exit id => id = s.current ∧ s.current ≠ idleTask ∧ s.currentTask.status = .running
  | _ => True

/-- Each of the requests is permitted when it comes. -/
def permitsAll : Scheduler β → List (Request β) → Prop
  | _, [] => True
  | s, r :: rs => s.permits r ∧ (s.serve r).permitsAll rs

instance decidablePermits (s : Scheduler β) : (r : Request β) → Decidable (s.permits r)
  | .sleepCurrent _ | .exit _ => inferInstanceAs (Decidable (_ ∧ _))
  | .spawn .. | .pass _ | .commit _ | .launch => inferInstanceAs (Decidable True)

instance decidablePermitsAll : (s : Scheduler β) → (rs : List (Request β)) →
    Decidable (s.permitsAll rs)
  | _, [] => inferInstanceAs (Decidable True)
  | s, r :: rs =>
    have := decidablePermitsAll (s.serve r) rs
    inferInstanceAs (Decidable (_ ∧ _))

theorem serveAll_append (s : Scheduler β) (rs rs' : List (Request β)) :
    s.serveAll (rs ++ rs') = (s.serveAll rs).serveAll rs' := List.foldl_append

theorem serveAll_cons (s : Scheduler β) (r : Request β) (rs : List (Request β)) :
    s.serveAll (r :: rs) = (s.serve r).serveAll rs := rfl

theorem permitsAll_append {s : Scheduler β} {rs rs' : List (Request β)} :
    s.permitsAll (rs ++ rs') ↔ s.permitsAll rs ∧ (s.serveAll rs).permitsAll rs' := by
  induction rs generalizing s with
  | nil => simp [permitsAll, serveAll]
  | cons r rs ih => simp [permitsAll, ih, serveAll_cons, and_assoc]

end Scheduler

/-! ## Events -/

/-- What a task, an interrupt or the trap does with the scheduler. -/
inductive Event (β : Type) where
  | spawn (body : β) (argument size : UInt64) (name : Option String)
  | pass (trigger : Trigger)
  /-- The current task goes to sleep, and the pass that follows in the same critical section. -/
  | sleep (ticks : UInt16)
  /-- The current task is done. -/
  | exit
  /-- The trap, which finds the current task at this stack pointer. -/
  | commit (sp : Address)

/-- A call of the kernel, which leaves the current task current. -/
def Event.isCall : Event β → Prop
  | .commit _ => False
  | _ => True

namespace Scheduler

/-- The state after an event.  A call that is refused changes nothing. -/
def after (s : Scheduler β) : Event β → Scheduler β
  | .spawn body argument size name =>
    match s.spawn body argument size name with
    | .ok (_, s') => s'
    | .error _ => s
  | .pass trigger => (s.pass trigger).scheduler
  | .sleep ticks => (Kernel.sleep s ticks).scheduler
  | .exit => s.exit s.current
  | .commit sp => (s.commit sp).2

/-- The words that are written to memory in an event. -/
def stores (s : Scheduler β) : Event β → List Store
  | .pass trigger => (s.pass trigger).stores
  | .sleep ticks => (Kernel.sleep s ticks).stores
  | _ => []

/-- Only a task that runs can sleep or be done, and the idle task does neither. -/
def allows (s : Scheduler β) : Event β → Prop
  | .sleep _ | .exit => s.current ≠ idleTask ∧ s.currentTask.status = .running
  | _ => True

instance decidableAllows (s : Scheduler β) : (e : Event β) → Decidable (s.allows e)
  | .sleep _ | .exit => inferInstanceAs (Decidable (_ ∧ _))
  | .spawn .. | .pass _ | .commit _ => inferInstanceAs (Decidable True)

/-- The requests that an event is made of. -/
def requests (s : Scheduler β) : Event β → List (Request β)
  | .spawn body argument size name => [.spawn body argument size name]
  | .pass trigger => [.pass trigger]
  | .sleep ticks => [.sleepCurrent ticks, .pass .call]
  | .exit => [.exit s.current]
  | .commit sp => [.commit sp]

theorem after_eq_serveAll (s : Scheduler β) (e : Event β) : s.after e = s.serveAll (s.requests e) := by
  cases e <;> rfl

theorem permitsAll_requests {s : Scheduler β} {e : Event β} (h : s.allows e) :
    s.permitsAll (s.requests e) := by
  cases e with
  | sleep ticks => exact ⟨h, trivial, trivial⟩
  | exit => exact ⟨⟨rfl, h⟩, trivial⟩
  | spawn | pass | commit => exact ⟨trivial, trivial⟩

end Scheduler

/-- The states that events lead to after a restart that worked. -/
inductive Reachable : Scheduler β → Prop
  | restart {s : Scheduler β} {arena : Arena} {entryPoints : EntryPoints} {idle : β}
      {idleSize : UInt64} {id : TaskId} :
      (s.restart arena entryPoints idle idleSize).1 = .ok id →
      Reachable (s.restart arena entryPoints idle idleSize).2
  | step {s : Scheduler β} {e : Event β} : Reachable s → s.allows e → Reachable (s.after e)

/-- The states that events lead to when the first task may also be launched. -/
inductive Underway : Scheduler β → Prop
  | restart {s : Scheduler β} {arena : Arena} {entryPoints : EntryPoints} {idle : β}
      {idleSize : UInt64} {id : TaskId} :
      (s.restart arena entryPoints idle idleSize).1 = .ok id →
      Underway (s.restart arena entryPoints idle idleSize).2
  | launch {s : Scheduler β} : Underway s → Underway s.launch.2.1
  | step {s : Scheduler β} {e : Event β} : Underway s → s.allows e → Underway (s.after e)

theorem Reachable.underway {s : Scheduler β} (h : Reachable s) : Underway s := by
  induction h with
  | restart hr => exact .restart hr
  | step _ ha ih => exact ih.step ha

namespace Scheduler

/-! ## Events one after another -/

/-- The state after events, first to last. -/
def afterAll (s : Scheduler β) (es : List (Event β)) : Scheduler β := es.foldl after s

/-- Each of the events is allowed when it comes. -/
def allowsAll : Scheduler β → List (Event β) → Prop
  | _, [] => True
  | s, e :: es => s.allows e ∧ (s.after e).allowsAll es

@[simp] theorem afterAll_nil (s : Scheduler β) : s.afterAll [] = s := rfl

@[simp] theorem afterAll_cons (s : Scheduler β) (e : Event β) (es : List (Event β)) :
    s.afterAll (e :: es) = (s.after e).afterAll es := rfl

theorem afterAll_append (s : Scheduler β) (a b : List (Event β)) :
    s.afterAll (a ++ b) = (s.afterAll a).afterAll b := List.foldl_append

theorem allowsAll_append {s : Scheduler β} {a b : List (Event β)} :
    s.allowsAll (a ++ b) ↔ s.allowsAll a ∧ (s.afterAll a).allowsAll b := by
  induction a generalizing s with
  | nil => simp [allowsAll]
  | cons e a ih => simp [allowsAll, ih, and_assoc]

theorem underway_afterAll {s : Scheduler β} (h : Underway s) {es : List (Event β)}
    (hes : s.allowsAll es) : Underway (s.afterAll es) := by
  induction es generalizing s with
  | nil => exact h
  | cons e es ih => exact ih (h.step hes.1) hes.2

/-! ## Making tasks -/

/-- After a request for a task there is the state with that task, or nothing has happened. -/
theorem serve_spawn_of {P : Scheduler β → Prop} {s : Scheduler β} {body : β}
    {argument size : UInt64} {name : Option String} (h : P s)
    (hmade : ∀ id made, s.spawn body argument size name = .ok (id, made) → P made) :
    P (s.serve (.spawn body argument size name)) := by
  unfold serve
  cases hs : s.spawn body argument size name with
  | error => simp only [hs]; exact h
  | ok made => simp only [hs]; exact hmade _ _ hs

theorem serve_spawn {s made : Scheduler β} {id : TaskId} {body : β} {argument size : UInt64}
    {name : Option String} (h : s.spawn body argument size name = .ok (id, made)) :
    s.serve (.spawn body argument size name) = made := by
  rw [serve, h]

/-- A task that is made gets the next entry of the table, and a stack from the arena. -/
theorem spawn_eq_ok {s s' : Scheduler β} {body : β} {argument size : UInt64} {name : Option String}
    {id : TaskId} (h : s.spawn body argument size name = .ok (id, s')) :
    id.val = s.count ∧ minStackSize ≤ size ∧ ∃ region arena, s.arena.cut size = .ok (region, arena) ∧
      s' = { s.update id fun _ => Record.fresh id body argument region.top region.size
              ((name.map Name.ofString).getD (Name.numbered id)) with
        count := s.count + 1
        arena := arena } := by
  unfold spawn at h
  split_ifs at h with hs hc
  cases hcut : s.arena.cut size with
  | error e => simp [hcut] at h
  | ok r =>
    simp only [hcut, Except.ok.injEq, Prod.mk.injEq] at h
    obtain ⟨rfl, rfl⟩ := h
    exact ⟨rfl, UInt64.not_lt.1 hs, r.1, r.2, rfl, rfl⟩

/-- Besides the table, it changes how many tasks there are and what is left of the arena. -/
theorem after_spawn_rest (s : Scheduler β) (body : β) (argument size : UInt64)
    (name : Option String) :
    let s' := s.after (.spawn body argument size name)
    s' = { s with tasks := s'.tasks, count := s'.count, arena := s'.arena } := by
  refine serve_spawn_of (P := fun s' => s' = { s with
    tasks := s'.tasks, count := s'.count, arena := s'.arena }) rfl fun id made hs => ?_
  obtain ⟨-, -, region, arena, -, rfl⟩ := spawn_eq_ok hs
  rfl

/-- A restart that works leaves the idle task, on a stack from the arena, and nothing else. -/
theorem restart_eq_ok {s : Scheduler β} {arena : Arena} {entryPoints : EntryPoints} {idle : β}
    {idleSize : UInt64} {id : TaskId}
    (h : (s.restart arena entryPoints idle idleSize).1 = .ok id) :
    minStackSize ≤ idleSize ∧ ∃ region rest, arena.cut idleSize = .ok (region, rest) ∧
      (s.restart arena entryPoints idle idleSize).2 =
        { blank.update idleTask fun _ =>
            Record.fresh 0 idle 0 region.top region.size (.ofString "idle") with
          count := 1
          arena := rest
          entryPoints := entryPoints } := by
  unfold restart at h ⊢
  dsimp only at h ⊢
  cases hs : ({ blank with current := s.current, arena := arena, entryPoints := entryPoints } :
      Scheduler β).spawn idle 0 idleSize (some "idle") with
  | error e => simp [hs] at h
  | ok r =>
    obtain ⟨id', s'⟩ := r
    obtain ⟨hid, hmin, region, rest, hcut, rfl⟩ := spawn_eq_ok hs
    have h0 : id' = idleTask := Fin.ext hid
    subst h0
    exact ⟨hmin, region, rest, hcut, rfl⟩

/-- Then only the idle task has an entry. -/
theorem task_restart {s : Scheduler β} {arena rest : Arena} {entryPoints : EntryPoints} {idle : β}
    {idleSize : UInt64} {id : TaskId} {region : Region}
    (h : (s.restart arena entryPoints idle idleSize).1 = .ok id)
    (hcut : arena.cut idleSize = .ok (region, rest)) (i : TaskId) :
    (s.restart arena entryPoints idle idleSize).2.task i =
      if idleTask = i then Record.fresh 0 idle 0 region.top region.size (.ofString "idle")
      else .vacant := by
  obtain ⟨-, region', rest', hcut', he⟩ := restart_eq_ok h
  rw [hcut] at hcut'
  obtain ⟨rfl, rfl⟩ := Prod.mk.inj (Except.ok.inj hcut')
  rw [he]
  show ((blank : Scheduler β).update idleTask fun _ => _).task i = _
  rw [task_update, blank, task, Table.get_replicate]

/-! ## The current task alone -/

theorem task_sleepCurrent_of_ne {s : Scheduler β} {ticks : UInt16} {j : TaskId}
    (h : j ≠ s.current) : (s.sleepCurrent ticks).task j = s.task j :=
  task_update_of_ne _ _ (Ne.symm h)

/-- A task that is marked as done is not made by that. -/
theorem task_exit (s : Scheduler β) (id : Nat) (j : TaskId) :
    (s.exit id).task j =
      if id = j ∧ (s.task j).status ≠ .vacant then { s.task j with status := .exited }
      else s.task j := by
  unfold exit
  split_ifs with h hj hj
  · obtain ⟨rfl, hv⟩ := hj
    rw [task_update_self, if_neg hv]
  · rw [task_update]
    split_ifs with he hv
    · rw [he]
    · exact absurd ⟨congrArg Fin.val he, he ▸ hv⟩ hj
    · rfl
  · exact absurd (hj.1 ▸ j.isLt) h
  · rfl

theorem exit_rest (s : Scheduler β) (id : Nat) : s.exit id = { s with tasks := (s.exit id).tasks } := by
  unfold exit; split_ifs <;> rfl

theorem task_exit_of_ne {s : Scheduler β} {j : TaskId} (h : j ≠ s.current) :
    (s.exit s.current).task j = s.task j := by
  rw [task_exit, if_neg fun he => h (Fin.ext he.1.symm)]

theorem current_after (s : Scheduler β) {e : Event β} (he : e.isCall) :
    (s.after e).current = s.current := by
  cases e with
  | spawn body argument size name => rw [after_spawn_rest]
  | pass trigger => exact current_pass s trigger
  | sleep ticks => exact current_pass (s.sleepCurrent ticks) .call
  | exit => unfold after; rw [exit_rest]
  | commit => exact he.elim

/-! ## The switch -/

/-- Besides the table, a switch changes who is current and pending: the pending task gets the
    processor, and without one the current task keeps it. -/
theorem commit_rest (s : Scheduler β) (sp : Address) :
    (s.commit sp).2 =
      { s with
        tasks := (s.commit sp).2.tasks
        current := s.pending.getD s.current
        pending := none } := by
  unfold commit
  cases h : s.pending <;> simp [h, update]

/-- An entry after a switch: parked if it was current, running if it was pending. -/
theorem task_commit (s : Scheduler β) (sp : Address) (j : TaskId) :
    (s.commit sp).2.task j =
      let r := if s.current = j then (s.task j).park sp tracksDepth else s.task j
      if s.pending = some j then { r with status := .running } else r := by
  have hpark : (s.update s.current (·.park sp tracksDepth)).task j =
      if s.current = j then (s.task j).park sp tracksDepth else s.task j := by
    rw [task_update]; split_ifs with h
    · rw [h]
    · rfl
  rw [← hpark]
  unfold commit
  have hp : (s.update s.current (·.park sp tracksDepth)).pending = s.pending := rfl
  generalize s.update s.current (·.park sp tracksDepth) = s' at hp
  cases h : s.pending with
  | none => simp [hp, h]
  | some p =>
    simp only [hp, h, Option.some.injEq]
    rw [task_setPending, task_update s' p]
    split_ifs with hj
    · rw [hj]
    · rfl

theorem status_commit (s : Scheduler β) (sp : Address) (j : TaskId) :
    ((s.commit sp).2.task j).status =
      if s.pending = some j then .running else (s.task j).status := by
  rw [task_commit]
  dsimp only
  split_ifs <;> rfl

/-! ## The launch -/

/-- A launch picks a task like a pass, and gives it the processor at once. -/
theorem launch_eq (s : Scheduler β) :
    s.launch.2.1 =
      let first := s.candidate.getD s.current
      { ((s.reclaimAll s.skipped).update first
          ({ · with sp := Frame.bottom ((s.reclaimAll s.skipped).task first).top })).update first
            ({ · with status := .running }) with
        current := first
        pending := none } := by
  unfold Scheduler.launch
  rw [scan_eq]
  rfl

theorem count_launch (s : Scheduler β) : s.launch.2.1.count = s.count := by
  rw [launch_eq]; rfl

/-- An entry after a launch. -/
theorem task_launch (s : Scheduler β) (i : TaskId) :
    s.launch.2.1.task i =
      let r := (s.reclaimAll s.skipped).task i
      if s.candidate.getD s.current = i then
        { r with sp := Frame.bottom r.top, status := .running }
      else r := by
  rw [launch_eq]
  dsimp only
  rw [task_setPending, task_update]
  split_ifs with h
  · rw [task_update_self, ← h]
  · rw [task_update_of_ne _ _ h]

theorem status_launch (s : Scheduler β) (i : TaskId) :
    (s.launch.2.1.task i).status =
      if s.candidate.getD s.current = i then .running
      else if i ∈ s.skipped ∧ (s.task i).status = .exited then .vacant
      else (s.task i).status := by
  rw [task_launch]
  dsimp only
  split_ifs with hf hx
  · rfl
  · rw [task_reclaimAll, if_pos hx.1, strike, if_pos hx.2]
  · rw [task_reclaimAll]
    by_cases hi : i ∈ s.skipped
    · rw [if_pos hi, strike, if_neg fun he => hx ⟨hi, he⟩]
    · rw [if_neg hi]

end Scheduler

end Carousel
