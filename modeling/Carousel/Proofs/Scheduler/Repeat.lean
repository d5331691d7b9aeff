/-
  Carousel — a pass that is made twice.

  A task asks for a pass, and before the trap comes an interrupt may ask for another one.

  * `candidate_congr` and `skipped_congr`: what a walk finds depends only on who is current and on
    who may run;
  * `task_pass_call`: what a task's own pass leaves of an entry;
  * `pass_call_again`: so a second pass finds what the first one found, and leaves what it left;
  * `pass_repeats`: all of this, with what the passes write to memory.
-/
import Carousel.Proofs.Memory
import Carousel.Proofs.Scheduler.Pass

namespace Carousel

open Stack

variable {β : Type}

attribute [ext] Pass

namespace Scheduler

section
variable {s s' : Scheduler β}

/-! ## What a walk depends on -/

theorem candidate_congr (hc : s'.current = s.current)
    (hr : ∀ i, (s'.task i).status.runnable = (s.task i).status.runnable) :
    s'.candidate = s.candidate := by
  simp only [candidate, hc, hr]

theorem skipped_congr (hc : s'.current = s.current)
    (hr : ∀ i, (s'.task i).status.runnable = (s.task i).status.runnable) :
    s'.skipped = s.skipped := by
  simp only [skipped, hc, hr]

end

section
variable (s : Scheduler β)

/-! ## A task's own pass -/

theorem chargeOne_call (r : Record β) : chargeOne .call r = r := rfl

/-- Only the clock charges sleeping tasks. -/
theorem charge_call : s.charge .call = s := by rw [charge_eq, if_neg (by decide)]

theorem pick_pass_call : (s.pass .call).pick = s.candidate := by rw [pick_pass, charge_call]

/-- An entry after a pass that charges nobody. -/
theorem task_pass_call (i : TaskId) :
    (s.pass .call).scheduler.task i =
      if s.candidate = some i then
        if (s.task i).status = .created then
          { s.task i with sp := Frame.bottom (s.task i).top }
        else s.task i
      else if i ∈ s.skipped then strike (s.task i) else s.task i := by
  rw [task_pass, pick_pass_call, charge_call, chargeOne_call]

/-- The words of a pass that charges nobody. -/
theorem stores_pass_call :
    (s.pass .call).stores =
      match s.candidate with
      | none => []
      | some p =>
        if (s.task p).status = .created then Frame.stores p s.entryPoints (s.task p).top else [] := by
  rw [stores_pass_eq, pick_pass_call]
  rfl

/-- A pass that charges nobody wakes nobody, and strikes off nobody who may run. -/
theorem runnable_pass_call (i : TaskId) :
    ((s.pass .call).scheduler.task i).status.runnable = (s.task i).status.runnable := by
  rw [task_pass_call]
  split_ifs
  · rfl
  · rfl
  · exact runnable_strike _
  · rfl

/-! ## The second pass -/

theorem candidate_pass_call : (s.pass .call).scheduler.candidate = s.candidate :=
  candidate_congr (current_pass s .call) (runnable_pass_call s)

theorem skipped_pass_call : (s.pass .call).scheduler.skipped = s.skipped :=
  skipped_congr (current_pass s .call) (runnable_pass_call s)

/-- Who is struck off is not there to be struck off again, and a first context that is laid out
    once more starts where it started before. -/
theorem task_pass_call_again (i : TaskId) :
    ((s.pass .call).scheduler.pass .call).scheduler.task i = (s.pass .call).scheduler.task i := by
  rw [task_pass_call, candidate_pass_call, skipped_pass_call, task_pass_call s i]
  by_cases hp : s.candidate = some i
  · by_cases hc : (s.task i).status = .created <;> simp [hp, hc]
  · by_cases hi : i ∈ s.skipped <;> simp [hp, hi, strike_strike]

/-- The task that is picked has still not run, so that its first context is laid out again. -/
theorem stores_pass_call_again :
    ((s.pass .call).scheduler.pass .call).stores = (s.pass .call).stores := by
  have hentry : (s.pass .call).scheduler.entryPoints = s.entryPoints := by rw [pass_rest]
  rw [stores_pass_call, candidate_pass_call, stores_pass_call s, hentry]
  cases hp : s.candidate with
  | none => rfl
  | some p =>
    simp only [task_pass_call, hp, if_true]
    by_cases hc : (s.task p).status = .created <;> simp [hc]

/-- **A pass made a second time comes to what it came to the first time.** -/
theorem pass_call_again : (s.pass .call).scheduler.pass .call = s.pass .call := by
  have hpick : ((s.pass .call).scheduler.pass .call).pick = (s.pass .call).pick := by
    rw [pick_pass_call, candidate_pass_call, pick_pass_call]
  refine Pass.ext hpick (ext_task ?_ (task_pass_call_again s)) (stores_pass_call_again s)
  rw [pass_rest ((s.pass .call).scheduler), hpick, pass_rest s]
  cases (s.pass .call).pick <;> rfl

end

/-- **A task's own pass can be made twice.**  Whatever the state and whatever memory holds, the
    second of two passes in a row picks what the first one picked, leaves the scheduler as that one
    left it, and writes the same words to the same places, so that memory holds what it held after
    one pass.  This is so when no task is picked, when the task that is picked has run before, and
    when it has not: then both passes lay out its first context. -/
theorem pass_repeats (s : Scheduler β) (m : Memory) :
    let first := s.pass .call
    let again := first.scheduler.pass .call
    again.pick = first.pick ∧ again.scheduler = first.scheduler ∧ again.stores = first.stores ∧
    (∀ c, ((m.storeAll first.stores).storeAll again.stores).byte c =
      (m.storeAll first.stores).byte c) ∧
    (first.pick = none ∧ first.stores = [] ∨
      ∃ p, first.pick = some p ∧
        ((s.task p).status = .running ∧ first.stores = [] ∨
          (s.task p).status = .created ∧
            first.stores = Frame.stores p s.entryPoints (s.task p).top)) := by
  intro first again
  have heq : again = first := pass_call_again s
  rw [heq]
  refine ⟨rfl, rfl, rfl, Memory.byte_storeAll_again m first.stores, ?_⟩
  have hpick : first.pick = s.candidate := pick_pass_call s
  have hstores := stores_pass_call s
  cases hp : s.candidate with
  | none =>
    rw [hp] at hpick hstores
    exact Or.inl ⟨hpick, hstores⟩
  | some p =>
    simp only [hp] at hpick hstores
    refine Or.inr ⟨p, hpick, ?_⟩
    rcases runnable_iff.1 (candidate_eq_some hp).2 with hc | hc
    · exact Or.inr ⟨hc, by rw [hstores, if_pos hc]⟩
    · exact Or.inl ⟨hc, by rw [hstores, if_neg (by rw [hc]; decide)]⟩

end Scheduler

end Carousel
