/-
  Carousel — the processor is only handed to tasks that may run.

  * `Safe`: the idle task may run, and so may the pending task, which is not the current one;
  * `Safe.serve`: every request keeps this, in whatever order traps, passes and calls come;
  * `handover`: so the processor never goes to a task that sleeps, is done or does not exist.
-/
import Carousel.Proofs.Scheduler.Run

namespace Carousel.Scheduler

open Stack

variable {β : Type}

/-- The idle task may run, and so may the pending task, which is not the current one. -/
structure Safe (s : Scheduler β) : Prop where
  idle : (s.task idleTask).status.runnable
  pending : ∀ p, s.pending = some p → p ≠ s.current ∧ (s.task p).status.runnable

/-! ## One request -/

theorem runnable_pass {s : Scheduler β} (trigger : Trigger) {j : TaskId}
    (h : (s.task j).status.runnable) : ((s.pass trigger).scheduler.task j).status.runnable := by
  have hr := runnable_chargeOne trigger h
  rw [task_pass]
  dsimp only
  split_ifs
  · exact hr
  · exact hr
  · rw [runnable_strike]; exact hr
  · exact hr

/-- What a pass picks is not current, and may run. -/
theorem pick_eq_some {s : Scheduler β} {trigger : Trigger} {p : TaskId}
    (h : (s.pass trigger).pick = some p) :
    p ≠ s.current ∧ ((s.pass trigger).scheduler.task p).status.runnable := by
  have hc := candidate_eq_some ((pick_pass s trigger).symm.trans h)
  rw [task_charge] at hc
  refine ⟨hc.1, ?_⟩
  rw [task_pass]
  dsimp only
  rw [if_pos h]
  split_ifs
  · exact hc.2
  · exact hc.2

theorem pick_ne_none {s : Scheduler β} (trigger : Trigger) {p : TaskId} (hp : p ≠ s.current)
    (h : (s.task p).status.runnable) : (s.pass trigger).pick ≠ none := by
  rw [pick_pass]
  refine candidate_ne_none hp ?_
  rw [task_charge]; exact runnable_chargeOne trigger h

theorem Safe.pass {s : Scheduler β} (h : s.Safe) (trigger : Trigger) :
    (s.pass trigger).scheduler.Safe where
  idle := runnable_pass trigger h.idle
  pending p hp := by
    rw [current_pass]
    rw [pending_pass, Option.or_eq_some_iff] at hp
    rcases hp with hp | ⟨-, hp⟩
    · exact pick_eq_some hp
    · exact ⟨(h.pending p hp).1, runnable_pass trigger (h.pending p hp).2⟩

/-- What the current task does to its own entry is of no account, unless it is the idle task. -/
theorem Safe.of_current {s s' : Scheduler β} (h : s.Safe) (hi : s.current ≠ idleTask)
    (hc : s'.current = s.current) (hp : s'.pending = s.pending)
    (ht : ∀ j, j ≠ s.current → s'.task j = s.task j) : s'.Safe where
  idle := by rw [ht _ hi.symm]; exact h.idle
  pending p hp' := by
    have := h.pending p (hp ▸ hp')
    rw [hc, ht p this.1]; exact this

theorem Safe.sleepCurrent {s : Scheduler β} (h : s.Safe) (hi : s.current ≠ idleTask)
    (ticks : UInt16) : (s.sleepCurrent ticks).Safe :=
  h.of_current hi rfl rfl fun _ => task_sleepCurrent_of_ne

theorem Safe.exit {s : Scheduler β} (h : s.Safe) (hi : s.current ≠ idleTask) :
    (s.exit s.current).Safe := by
  refine h.of_current hi ?_ ?_ fun _ => task_exit_of_ne
  · rw [exit_rest]
  · rw [exit_rest]

theorem Safe.spawn {s s' : Scheduler β} (h : s.Safe) {body : β} {argument size : UInt64}
    {name : Option String} {id : TaskId}
    (hs : s.spawn body argument size name = .ok (id, s')) : s'.Safe := by
  obtain ⟨-, -, region, arena, -, rfl⟩ := spawn_eq_ok hs
  -- a task that is made may run, whatever was in its place
  have ht : ∀ (r : Record β) (j : TaskId), r.status = .created → (s.task j).status.runnable →
      ((s.update id fun _ => r).task j).status.runnable := by
    intro r j hr hj
    rw [task_update]
    split_ifs
    · rw [hr]; rfl
    · exact hj
  exact ⟨ht _ _ rfl h.idle, fun p hp => ⟨(h.pending p hp).1, ht _ _ rfl (h.pending p hp).2⟩⟩

theorem Safe.commit {s : Scheduler β} (h : s.Safe) (sp : Address) : (s.commit sp).2.Safe where
  idle := by
    rw [task_commit]
    dsimp only
    split_ifs
    · rfl
    · rfl
    · exact h.idle
    · exact h.idle
  pending p hp := by
    rw [commit_rest] at hp; simp at hp

/-- The task that is launched may run, and no other task is changed but to strike it off. -/
theorem Safe.launch {s : Scheduler β} (h : s.Safe) : s.launch.2.1.Safe where
  idle := by
    rw [task_launch]
    dsimp only
    split_ifs
    · rfl
    · rw [task_reclaimAll_skipped h.idle]; exact h.idle
  pending p hp := by
    rw [launch_eq] at hp; cases hp

/-- **Every request keeps a scheduler safe.** -/
theorem Safe.serve {s : Scheduler β} {r : Request β} (h : s.Safe) (ha : s.permits r) :
    (s.serve r).Safe := by
  cases r with
  | spawn => exact serve_spawn_of h fun _ _ hs => h.spawn hs
  | pass trigger => exact h.pass trigger
  | commit sp => exact h.commit sp
  | sleepCurrent ticks => exact h.sleepCurrent ha.1 ticks
  | exit id =>
    obtain ⟨rfl, hi, -⟩ := ha
    exact h.exit hi
  | launch => exact h.launch

/-! ## All runs -/

theorem Safe.serveAll {s : Scheduler β} {rs : List (Request β)} (h : s.Safe)
    (ha : s.permitsAll rs) : (s.serveAll rs).Safe := by
  induction rs generalizing s with
  | nil => exact h
  | cons r rs ih => exact ih (h.serve ha.1) ha.2

theorem Safe.after {s : Scheduler β} {e : Event β} (h : s.Safe) (ha : s.allows e) :
    (s.after e).Safe := by
  rw [after_eq_serveAll]; exact h.serveAll (permitsAll_requests ha)

theorem safe_of_underway {s : Scheduler β} (h : Underway s) : s.Safe := by
  induction h with
  | restart hr =>
    obtain ⟨-, region, rest, -, he⟩ := restart_eq_ok hr
    rw [he]
    exact ⟨rfl, fun p hp => by simp [blank, update] at hp⟩
  | launch _ ih => exact ih.launch
  | step _ ha ih => exact ih.after ha

theorem safe_of_reachable {s : Scheduler β} (h : Reachable s) : s.Safe :=
  safe_of_underway h.underway

/-- While the current task is asleep or done, or another one is pending, some task besides the
    current one may run. -/
theorem Safe.exists_other {s : Scheduler β} (h : s.Safe)
    (hc : ¬ s.currentTask.status.runnable ∨ s.pending ≠ none) :
    ∃ p, p ≠ s.current ∧ (s.task p).status.runnable := by
  rcases hc with hc | hc
  · refine ⟨idleTask, ?_, h.idle⟩
    intro he
    rw [currentTask, ← he] at hc
    exact hc h.idle
  · obtain ⟨p, hp⟩ := Option.ne_none_iff_exists'.1 hc
    exact ⟨p, h.pending p hp⟩

/-- A launch finds a task that may run. -/
theorem Safe.first {s : Scheduler β} (h : s.Safe) :
    (s.task (s.candidate.getD s.current)).status.runnable := by
  cases hp : s.candidate with
  | some p => exact (candidate_eq_some hp).2
  | none =>
    by_contra hc
    obtain ⟨p, hne, hr⟩ := h.exists_other (Or.inl hc)
    exact candidate_ne_none hne hr hp

/-- **The processor goes to tasks that may run, and to no others.**  Passes, late and repeated
    traps, sleeps, ends and new tasks may come in any order after the scheduler is set up.  The
    idle task may always run; so may the pending task, which is never the current one; a pass
    picks a task whenever the current one cannot go on or another one is pending; and a switch to
    another task is a switch to one that was made and not yet run, or runs. -/
theorem handover {s : Scheduler β} (h : Reachable s) :
    s.current.val < maxTasks ∧
    ((s.task idleTask).status = .created ∨ (s.task idleTask).status = .running) ∧
    (∀ p, s.pending = some p →
      p ≠ s.current ∧ ((s.task p).status = .created ∨ (s.task p).status = .running)) ∧
    (∀ trigger, s.currentTask.status = .waiting ∨ s.currentTask.status = .exited ∨
      s.pending ≠ none → (s.pass trigger).pick ≠ none) ∧
    (∀ ticks, s.allows (.sleep ticks) → (Kernel.sleep s ticks).pick ≠ none) ∧
    ∀ sp, (s.commit sp).2.current ≠ s.current →
      ((s.task (s.commit sp).2.current).status = .created ∨
        (s.task (s.commit sp).2.current).status = .running) := by
  have hs := safe_of_reachable h
  refine ⟨s.current.isLt, runnable_iff.1 hs.idle, fun p hp => ?_, fun trigger hc => ?_,
    fun ticks ha => ?_, fun sp hne => ?_⟩
  · exact ⟨(hs.pending p hp).1, runnable_iff.1 (hs.pending p hp).2⟩
  · have hc' : ¬ s.currentTask.status.runnable ∨ s.pending ≠ none := by
      rcases hc with e | e | e
      · exact Or.inl (by rw [e]; decide)
      · exact Or.inl (by rw [e]; decide)
      · exact Or.inr e
    obtain ⟨p, hp, hr⟩ := hs.exists_other hc'
    exact pick_ne_none trigger hp hr
  · have hsl := hs.sleepCurrent ha.1 ticks
    exact pick_ne_none .call (p := idleTask) (Ne.symm ha.1) hsl.idle
  · rw [commit_rest] at hne ⊢
    cases hp : s.pending with
    | none => simp [hp] at hne
    | some p => exact runnable_iff.1 (hs.pending p hp).2

/-- Task 1 goes to sleep for a tick.  The tick comes before the trap, so that the trap finds it
    awake again. -/
def wokenBeforeTrap : Scheduler Unit :=
  let s := (blank.restart (.spanning 0x20000400 poolSize) .none () idleStackSize).2
  let s := (s.after (.spawn () 0 256 none)).after (.pass .clock)
  ((s.after (.commit 0x20003200)).after (.sleep 1)).after (.pass .clock)

theorem handover_wokenBeforeTrap :
    wokenBeforeTrap.current = 1 ∧ wokenBeforeTrap.pending = some idleTask ∧
      (wokenBeforeTrap.pass .call).pick ≠ none ∧
      (wokenBeforeTrap.commit 0x20003180).2.current ≠ wokenBeforeTrap.current ∧
      (wokenBeforeTrap.task (wokenBeforeTrap.commit 0x20003180).2.current).status = .created := by
  have h₀ : (blank.restart (.spanning 0x20000400 poolSize) .none () idleStackSize).1 =
      .ok idleTask := by decide +kernel
  have h₁ := ((Reachable.restart h₀).step (e := .spawn () 0 256 none) trivial).step
    (e := .pass .clock) trivial
  have h₂ := h₁.step (e := .commit 0x20003200) trivial
  have h : Reachable wokenBeforeTrap :=
    (h₂.step (e := .sleep 1) (by decide +kernel)).step (e := .pass .clock) trivial
  have hp : wokenBeforeTrap.pending = some idleTask := by decide +kernel
  have hc : (wokenBeforeTrap.commit 0x20003180).2.current ≠ wokenBeforeTrap.current := by
    decide +kernel
  obtain ⟨-, -, -, hpass, -, hcommit⟩ := handover h
  refine ⟨by decide +kernel, hp, hpass .call (Or.inr (Or.inr (by simp [hp]))), hc, ?_⟩
  rcases hcommit _ hc with e | e
  · exact e
  · exact absurd e (by decide +kernel)

end Carousel.Scheduler
