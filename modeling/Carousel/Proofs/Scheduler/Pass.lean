/-
  Carousel — what a scheduling pass does.

  * `candidate`: the task that a pass picks, and `skipped`: those that it goes past;
  * `walk_eq` and `pass_eq`: a pass in closed form;
  * `pick_pass`, `pending_pass`, `task_pass`, `status_pass`, `stores_pass`: its pick, and what it
    leaves behind.
-/
import Carousel.Scheduler.Switch
import Mathlib.Data.List.TakeWhile
import Mathlib.Order.Fin.Basic
import Mathlib.Tactic.SplitIfs

namespace Carousel.Scheduler

open Stack

variable {β : Type}

theorem runnable_iff {st : Status} : st.runnable ↔ st = .created ∨ st = .running := by
  cases st <;> simp [Status.runnable]

/-- States that differ in the table at most are the same if their entries are. -/
theorem ext_task {s s' : Scheduler β} (hr : s' = { s with tasks := s'.tasks })
    (ht : ∀ i, s.task i = s'.task i) : s = s' := by
  have h : s.tasks = s'.tasks := Vector.ext fun i hi => ht ⟨i, hi⟩
  rw [hr, ← h]

theorem task_setPending (s : Scheduler β) (c : TaskId) (q : Option TaskId) (i : TaskId) :
    ({ s with current := c, pending := q } : Scheduler β).task i = s.task i := rfl

theorem task_layOut (s : Scheduler β) (i j : TaskId) :
    (s.layOut i).1.task j =
      if i = j then { s.task i with sp := Frame.bottom (s.task i).top } else s.task j :=
  task_update _ _ _ _

/-! ## Sleep -/

/-- What a pass for `trigger` makes of an entry before it looks for a task. -/
def chargeOne (trigger : Trigger) (r : Record β) : Record β :=
  if trigger = .clock then expireOne r else r

/-- The state in which a pass looks for a task. -/
def charge (s : Scheduler β) (trigger : Trigger) : Scheduler β :=
  { s with tasks := s.tasks.map (chargeOne trigger) }

@[simp] theorem task_charge (s : Scheduler β) (trigger : Trigger) (i : TaskId) :
    (s.charge trigger).task i = chargeOne trigger (s.task i) := by
  simp [charge, task]

theorem charge_eq (s : Scheduler β) (trigger : Trigger) :
    s.charge trigger = if trigger = .clock then s.expire else s := by
  cases trigger with
  | clock => rfl
  | call => exact (ext_task rfl fun i => (task_charge s .call i).symm).symm

/-- A hardware tick changes the status of sleeping tasks only, and it wakes them. -/
theorem status_chargeOne (trigger : Trigger) (r : Record β) :
    (chargeOne trigger r).status = r.status ∨
      r.status = .waiting ∧ (chargeOne trigger r).status = .running := by
  cases trigger with
  | call => exact Or.inl rfl
  | clock =>
    by_cases h : r.status = .waiting
    · simp only [chargeOne, expireOne, h, if_true]
      split_ifs <;> simp
    · simp [chargeOne, expireOne, h]

theorem chargeOne_rest (trigger : Trigger) (r : Record β) :
    chargeOne trigger r =
      { r with
        status := (chargeOne trigger r).status
        ticks := (chargeOne trigger r).ticks } := by
  unfold chargeOne expireOne; split_ifs <;> rfl

theorem runnable_chargeOne (trigger : Trigger) {r : Record β} (h : r.status.runnable) :
    (chargeOne trigger r).status.runnable := by
  rcases status_chargeOne trigger r with e | ⟨-, e⟩
  · rw [e]; exact h
  · rw [e]; rfl

/-! ## The pick -/

/-- Every other position, and only those. -/
theorem mem_others (i j : TaskId) : j ∈ others i ↔ j ≠ i := by
  revert i j; decide

/-- The first task after the current one that may run. -/
def candidate (s : Scheduler β) : Option TaskId :=
  (others s.current).find? fun i => (s.task i).status.runnable

/-- The positions that come before it. -/
def skipped (s : Scheduler β) : List TaskId :=
  (others s.current).takeWhile fun i => !(s.task i).status.runnable

theorem candidate_eq_some {s : Scheduler β} {p : TaskId} (h : s.candidate = some p) :
    p ≠ s.current ∧ (s.task p).status.runnable :=
  ⟨(mem_others _ _).1 (List.mem_of_find?_eq_some h),
    List.find?_some (p := fun i => (s.task i).status.runnable) h⟩

/-- A pass finds a task if one besides the current task may run. -/
theorem candidate_ne_none {s : Scheduler β} {p : TaskId} (hp : p ≠ s.current)
    (hr : (s.task p).status.runnable) : s.candidate ≠ none := by
  intro h
  exact (List.find?_eq_none.1 h) p ((mem_others _ _).2 hp) hr

theorem not_runnable_of_mem_skipped {s : Scheduler β} {i : TaskId} (h : i ∈ s.skipped) :
    ¬ (s.task i).status.runnable := by
  simpa using List.mem_takeWhile_imp h

/-! ## Striking off -/

/-- What is left of an entry that is gone past. -/
def strike (r : Record β) : Record β :=
  if r.status = .exited then { r with status := .vacant } else r

theorem runnable_strike (r : Record β) : (strike r).status.runnable = r.status.runnable := by
  unfold strike
  split_ifs with h
  · rw [h]; rfl
  · rfl

theorem strike_rest (r : Record β) : strike r = { r with status := (strike r).status } := by
  unfold strike; split_ifs <;> rfl

theorem strike_strike (r : Record β) : strike (strike r) = strike r := by
  unfold strike; split_ifs <;> simp_all

/-- Exited tasks among `ids` are struck off the books. -/
def reclaimAll (s : Scheduler β) (ids : List TaskId) : Scheduler β :=
  { s with tasks := .ofFn fun j => if j ∈ ids then strike (s.task j) else s.task j }

@[simp] theorem task_reclaimAll (s : Scheduler β) (ids : List TaskId) (j : TaskId) :
    (s.reclaimAll ids).task j = if j ∈ ids then strike (s.task j) else s.task j :=
  Vector.getElem_ofFn _

theorem task_reclaimAll_rest (s : Scheduler β) (ids : List TaskId) (j : TaskId) :
    (s.reclaimAll ids).task j =
      { s.task j with status := ((s.reclaimAll ids).task j).status } := by
  rw [task_reclaimAll]
  split_ifs
  · exact strike_rest (s.task j)
  · rfl

theorem task_reclaim (s : Scheduler β) (i j : TaskId) :
    (s.reclaim i).task j = if i = j then strike (s.task j) else s.task j := by
  unfold reclaim strike
  by_cases hij : i = j
  · subst hij
    rw [if_pos rfl]
    split_ifs with h
    · exact task_update_self _ _ _
    · rfl
  · rw [if_neg hij]
    split_ifs
    · exact task_update_of_ne _ _ hij
    · rfl

theorem reclaim_rest (s : Scheduler β) (i : TaskId) :
    s.reclaim i = { s with tasks := (s.reclaim i).tasks } := by
  unfold reclaim; split_ifs <;> rfl

theorem reclaimAll_nil (s : Scheduler β) : s.reclaimAll [] = s :=
  ext_task rfl fun i => by simp

theorem reclaimAll_cons (s : Scheduler β) (i : TaskId) (ids : List TaskId) :
    s.reclaimAll (i :: ids) = (s.reclaim i).reclaimAll ids := by
  refine ext_task (by rw [reclaim_rest]; rfl) fun j => ?_
  simp only [task_reclaimAll, task_reclaim, List.mem_cons, eq_comm (a := j)]
  by_cases hij : i = j <;> by_cases hj : j ∈ ids <;> simp [hij, hj, strike_strike]

/-! ## The pass -/

/-- A walk ends at the first task that may run, and strikes off what it goes past. -/
theorem walk_eq (s : Scheduler β) (ids : List TaskId) :
    s.walk ids =
      ((ids.find? fun i => (s.task i).status.runnable).getD s.current,
        s.reclaimAll (ids.takeWhile fun i => !(s.task i).status.runnable)) := by
  induction ids generalizing s with
  | nil => simp [walk, reclaimAll_nil]
  | cons i ids ih =>
    by_cases h : (s.task i).status.runnable
    · simp [walk, h, reclaimAll_nil]
    · have hr : ∀ j, ((s.reclaim i).task j).status.runnable = (s.task j).status.runnable := by
        intro j
        rw [task_reclaim]
        split_ifs
        · exact runnable_strike _
        · rfl
      have hc : (s.reclaim i).current = s.current := by rw [reclaim_rest]
      simp [walk, h, ih, hr, hc, ← reclaimAll_cons]

theorem scan_eq (s : Scheduler β) :
    s.scan = (s.candidate.getD s.current, s.reclaimAll s.skipped) :=
  walk_eq _ _

theorem task_reclaimAll_skipped {s : Scheduler β} {p : TaskId} (h : (s.task p).status.runnable) :
    (s.reclaimAll s.skipped).task p = s.task p := by
  rw [task_reclaimAll, if_neg fun hp => not_runnable_of_mem_skipped hp h]

/-- A pass in closed form. -/
theorem pass_eq (s : Scheduler β) (trigger : Trigger) :
    s.pass trigger =
      let c := s.charge trigger
      let r := c.reclaimAll c.skipped
      match c.candidate with
      | none => ⟨none, r, []⟩
      | some p =>
        if (c.task p).status = .created then
          ⟨some p, { (r.layOut p).1 with pending := some p }, (r.layOut p).2⟩
        else ⟨some p, { r with pending := some p }, []⟩ := by
  unfold pass
  rw [← charge_eq]
  generalize s.charge trigger = c
  dsimp only
  rw [scan_eq]
  dsimp only
  have hc : (c.reclaimAll c.skipped).current = c.current := rfl
  cases hp : c.candidate with
  | none => simp [hc]
  | some p =>
    obtain ⟨hne, hr⟩ := candidate_eq_some hp
    simp only [Option.getD_some, hc, hne, if_false, task_reclaimAll_skipped hr]
    rcases runnable_iff.1 hr with e | e <;> simp [e]

section
variable (s : Scheduler β) (trigger : Trigger)

/-- A pass picks the first task after the current one that may run once the tick is charged. -/
theorem pick_pass : (s.pass trigger).pick = (s.charge trigger).candidate := by
  rw [pass_eq]
  cases h : (s.charge trigger).candidate with
  | none => simp only [h]
  | some p => simp only [h]; split_ifs <;> rfl

/-- Besides the table, a pass changes at most what is pending: without a pick it stays. -/
theorem pass_rest :
    (s.pass trigger).scheduler =
      { s with
        tasks := (s.pass trigger).scheduler.tasks
        pending := (s.pass trigger).pick.or s.pending } := by
  rw [pick_pass, pass_eq]
  cases h : (s.charge trigger).candidate with
  | none => simp only [h]; rfl
  | some p => simp only [h]; split_ifs <;> rfl

@[simp] theorem current_pass : (s.pass trigger).scheduler.current = s.current := by
  rw [pass_rest]

@[simp] theorem count_pass : (s.pass trigger).scheduler.count = s.count := by
  rw [pass_rest]

@[simp] theorem arena_pass : (s.pass trigger).scheduler.arena = s.arena := by
  rw [pass_rest]

theorem pending_pass :
    (s.pass trigger).scheduler.pending = (s.pass trigger).pick.or s.pending := by
  rw [pass_rest]

/-- An entry after a pass: charged, struck off if the pass went past it, and with a first context
    if it was picked without having run. -/
theorem task_pass (j : TaskId) :
    (s.pass trigger).scheduler.task j =
      let r := chargeOne trigger (s.task j)
      if (s.pass trigger).pick = some j then
        if r.status = .created then { r with sp := Frame.bottom r.top } else r
      else if j ∈ (s.charge trigger).skipped then strike r else r := by
  rw [pick_pass, pass_eq]
  cases h : (s.charge trigger).candidate with
  | none => simp [h]
  | some p =>
    have hr := (candidate_eq_some h).2
    have hs : p ∉ (s.charge trigger).skipped := fun hp => not_runnable_of_mem_skipped hp hr
    by_cases hj : p = j
    · subst hj
      simp only [h, task_charge, if_true]
      split_ifs <;>
        simp only [task_setPending, task_layOut, task_reclaimAll, task_charge, hs, if_true, if_false]
    · simp only [h, Option.some.injEq, hj, if_false]
      -- whether or not `p` gets a context, `j` is what the walk left of it
      split_ifs <;>
        simp only [task_setPending, task_layOut, task_reclaimAll, task_charge, *, if_true, if_false]

/-- The status of a task after a pass: charged, and struck off if it is done and was gone past. -/
theorem status_pass (j : TaskId) :
    ((s.pass trigger).scheduler.task j).status =
      if j ∈ (s.charge trigger).skipped ∧ (chargeOne trigger (s.task j)).status = .exited then .vacant
      else (chargeOne trigger (s.task j)).status := by
  rw [task_pass]
  dsimp only
  by_cases hp : (s.pass trigger).pick = some j
  · have hr := (candidate_eq_some ((pick_pass s trigger).symm.trans hp)).2
    have hs : j ∉ (s.charge trigger).skipped := fun hj => not_runnable_of_mem_skipped hj hr
    simp only [hp, hs, if_true, false_and, if_false]
    split_ifs <;> rfl
  · rw [if_neg hp]
    by_cases hj : j ∈ (s.charge trigger).skipped
    · simp only [hj, if_true, true_and, strike]
      split_ifs <;> rfl
    · simp [hj]

end

/-- Words are written for a task that is picked and has never run, those of its first context. -/
theorem stores_pass_eq (s : Scheduler β) (trigger : Trigger) :
    (s.pass trigger).stores =
      match (s.pass trigger).pick with
      | none => []
      | some p =>
        if (chargeOne trigger (s.task p)).status = .created then
          Frame.stores p s.entryPoints (s.task p).top
        else [] := by
  rw [pick_pass, pass_eq]
  cases h : (s.charge trigger).candidate with
  | none => simp only [h]
  | some p =>
    simp only [h, task_charge]
    split_ifs with hc
    · have hr := (candidate_eq_some h).2
      simp only [layOut, task_reclaimAll_skipped hr, task_charge]
      rw [chargeOne_rest]; rfl
    · rfl

/-- Only for such a task are words written. -/
theorem stores_pass (s : Scheduler β) (trigger : Trigger) :
    (s.pass trigger).stores = [] ∨ ∃ p, (s.pass trigger).pick = some p ∧
      (chargeOne trigger (s.task p)).status = .created ∧
      (s.pass trigger).stores = Frame.stores p s.entryPoints (s.task p).top := by
  rw [stores_pass_eq]
  cases h : (s.pass trigger).pick with
  | none => exact Or.inl rfl
  | some p =>
    dsimp only
    split_ifs with hc
    · exact Or.inr ⟨p, rfl, hc, rfl⟩
    · exact Or.inl rfl

end Carousel.Scheduler
