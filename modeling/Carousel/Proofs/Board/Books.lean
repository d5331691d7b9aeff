/-
  Carousel — the books about tasks that come and go.

  The code that every task starts in finds the number of its task in R0, looks up what that task
  runs, calls it, marks the task as done, and lets others run for ever.

  * `Place`: where a task is in this code, and `Mark`: what is written down of a run;
  * `Books`: tasks are in the table as what they were made as, and the table says which are done;
  * `Books.asks`, `Books.preempted`, `Books.exit`: every call and every exception keep this;
  * `Orderly`: every mark is in its place among those before it;
  * `Place.Proper`: what is written down of a task at a place, and what is not.
-/
import Carousel.Proofs.Board.Untouched
import Carousel.Proofs.Scheduler.Handover

namespace Carousel

open Stack

variable {β : Type}

/-! ## Places -/

/-- Where a task is in the code that every task starts in. -/
inductive Place (β : Type) where
  /-- The task has come in, and was told that it has this number. -/
  | entered (n : Nat)
  /-- About to call what task `n` runs. -/
  | given (n : Nat) (body : β) (argument : UInt64)
  | inBody (n : Nat)
  /-- The body is done, or there is none. -/
  | back (n : Nat)
  | parked

/-- What is written down of a run. -/
inductive Mark (β : Type) where
  | made (i : TaskId) (body : β) (argument : UInt64)
  /-- With task `i` current, the code that goes by number `n` calls a body. -/
  | began (i : TaskId) (n : Nat) (body : β) (argument : UInt64)
  | returned (i : TaskId) (n : Nat)
  /-- Task `n` is marked as done. -/
  | ended (i : TaskId) (n : Nat)

/-- What thread code asks of the kernel: to make a task, to let others run, or to sleep, which the
    idle task does not. -/
def Scheduler.asks (s : Scheduler β) : Event β → Prop
  | .spawn .. | .pass _ => True
  | .sleep _ => s.current ≠ idleTask
  | .exit | .commit _ => False

def Scheduler.makes (s : Scheduler β) : Event β → List (Mark β)
  | .spawn body argument size name =>
    match s.spawn body argument size name with
    | .ok (i, _) => [.made i body argument]
    | .error _ => []
  | _ => []

/-- What exceptions make of the scheduler: the tick makes a pass, and the trap may follow. -/
def Scheduler.Preempted (s s' : Scheduler β) : Prop :=
  ∃ s₁, (s₁ = s ∨ s₁ = (s.pass .clock).scheduler) ∧ (s' = s₁ ∨ ∃ sp, s' = (s₁.commit sp).2)

/-- Where a look at the entry of task `n` leads to. -/
def Place.found (n : Nat) : Option (β × UInt64) → Place β
  | none => .back n
  | some (body, argument) => .given n body argument

/-! ## The books of the scheduler -/

/-- The task is done, on the books or not. -/
def Status.gone : Status → Bool
  | .exited | .vacant => true
  | _ => false

theorem not_gone_of_runnable {st : Status} (h : st.runnable) : st.gone = false := by
  cases st <;> first | rfl | cases h

theorem Event.isCall_of_asks {s : Scheduler β} {e : Event β} (h : s.asks e) : e.isCall := by
  cases e with
  | spawn | pass | sleep | exit => trivial
  | commit => exact h

/-- Tasks are on the books as what they were made as, and those that have ended are gone. -/
structure Books (s : Scheduler β) (ms : List (Mark β)) : Prop where
  safe : s.Safe
  stacked : ∃ limit, s.Stacked limit
  made : ∀ {i : TaskId} {body : β} {argument : UInt64}, .made i body argument ∈ ms →
    i.val < s.count ∧ s.entryOf i = some (body, argument)
  named : ∀ {i : TaskId}, i.val < s.count → ∃ body argument, .made i body argument ∈ ms
  ended : ∀ {i : TaskId} {n : Nat}, .ended i n ∈ ms → i.val < s.count
  gone : ∀ {i : TaskId}, i.val < s.count →
    ((s.task i).status.gone = true ↔ ∃ n, .ended i n ∈ ms)

namespace Scheduler

variable {s : Scheduler β} {i : TaskId}

theorem gone_pass (s : Scheduler β) (trigger : Trigger) (i : TaskId) :
    ((s.pass trigger).scheduler.task i).status.gone = (s.task i).status.gone := by
  have hcharge : (chargeOne trigger (s.task i)).status.gone = (s.task i).status.gone := by
    rcases status_chargeOne trigger (s.task i) with e | ⟨hw, e⟩
    · rw [e]
    · rw [e, hw]; rfl
  rw [status_pass, ← hcharge]
  split_ifs with hx
  · rw [hx.2]; rfl
  · rfl

theorem gone_commit (h : s.Safe) (sp : Address) (i : TaskId) :
    ((s.commit sp).2.task i).status.gone = (s.task i).status.gone := by
  rw [status_commit]
  split_ifs with hp
  · rw [not_gone_of_runnable (h.pending i hp).2]; rfl
  · rfl

theorem gone_sleepCurrent (h : s.currentTask.status.gone = false) (ticks : UInt16) (i : TaskId) :
    ((s.sleepCurrent ticks).task i).status.gone = (s.task i).status.gone := by
  by_cases hi : i = s.current
  · subst hi
    rw [sleepCurrent, task_update_self]
    exact h.symm
  · rw [task_sleepCurrent_of_ne hi]

/-- Only a call that makes a task adds one to those that are made. -/
theorem spawn_of_made {e : Event β} (hn : s.count ≤ i.val) (hi : i.val < (s.after e).count) :
    ∃ body argument size name s', e = .spawn body argument size name ∧
      s.spawn body argument size name = .ok (i, s') := by
  cases e with
  | pass trigger => exact absurd (count_pass s trigger ▸ hi) (Nat.not_lt.2 hn)
  | sleep ticks => exact absurd (count_pass (s.sleepCurrent ticks) .call ▸ hi) (Nat.not_lt.2 hn)
  | exit =>
    rw [after, exit_rest] at hi
    exact absurd hi (Nat.not_lt.2 hn)
  | commit sp =>
    rw [after, commit_rest] at hi
    exact absurd hi (Nat.not_lt.2 hn)
  | spawn body argument size name =>
    unfold after at hi
    cases hs : s.spawn body argument size name with
    | error =>
      simp only [hs] at hi
      exact absurd hi (Nat.not_lt.2 hn)
    | ok r =>
      obtain ⟨id, s'⟩ := r
      obtain ⟨hid, -, region, arena, -, he⟩ := spawn_eq_ok hs
      have hcount : s'.count = s.count + 1 := by rw [he]
      simp only [hs, hcount] at hi
      obtain rfl : id = i := Fin.ext (by omega)
      exact ⟨body, argument, size, name, s', rfl, hs⟩

theorem gone_launch (h : s.Safe) (i : TaskId) :
    (s.launch.2.1.task i).status.gone = (s.task i).status.gone := by
  rw [status_launch]
  split_ifs with hf hx
  · subst hf
    exact (not_gone_of_runnable h.first).symm
  · rw [hx.2]; rfl
  · rfl

theorem entryPoints_after (s : Scheduler β) (e : Event β) :
    (s.after e).entryPoints = s.entryPoints := by
  cases e with
  | pass trigger => rw [after, pass_rest]
  | sleep ticks => rw [after, Kernel.sleep, pass_rest]; rfl
  | exit => rw [after, exit_rest]
  | commit sp => rw [after, commit_rest]
  | spawn body argument size name => rw [after_spawn_rest]

/-- An exception is made of passes and switches. -/
theorem Preempted.induct {P : Scheduler β → Prop} {s' : Scheduler β} (h : s.Preempted s') (h₀ : P s)
    (hpass : ∀ s, P s → P (s.pass .clock).scheduler)
    (hcommit : ∀ s sp, P s → P (s.commit sp).2) : P s' := by
  obtain ⟨s₁, hs₁, hs'⟩ := h
  have h₁ : P s₁ := by
    rcases hs₁ with rfl | rfl
    · exact h₀
    · exact hpass s h₀
  rcases hs' with rfl | ⟨sp, rfl⟩
  · exact h₁
  · exact hcommit s₁ sp h₁

/-- What no event changes, no exception changes. -/
theorem Preempted.rest {s' : Scheduler β} (h : s.Preempted s') :
    s'.count = s.count ∧ s'.entryPoints = s.entryPoints ∧
      ∀ i, (s'.task i).stack = (s.task i).stack := by
  refine h.induct (P := fun s' => s'.count = s.count ∧ s'.entryPoints = s.entryPoints ∧
    ∀ i, (s'.task i).stack = (s.task i).stack) ⟨rfl, rfl, fun _ => rfl⟩ ?_ ?_
  · rintro s₁ ⟨hn, he, hst⟩
    exact ⟨(count_pass s₁ .clock).trans hn, (entryPoints_after s₁ (.pass .clock)).trans he,
      fun i => (stack_pass s₁ .clock i).trans (hst i)⟩
  · rintro s₁ sp ⟨hn, he, hst⟩
    refine ⟨?_, (entryPoints_after s₁ (.commit sp)).trans he,
      fun i => (stack_commit s₁ sp i).trans (hst i)⟩
    rw [commit_rest]; exact hn

end Scheduler

namespace Books

variable {s s' : Scheduler β} {ms : List (Mark β)} {i : TaskId}

theorem current_lt (h : Books s ms) : s.current.val < s.count := by
  obtain ⟨limit, hst⟩ := h.stacked
  exact hst.current

theorem of_same (h : Books s ms) (hsafe : s'.Safe) (hst : ∃ limit, s'.Stacked limit)
    (hs : s.SameTasks s') (ho : ∀ i, (s'.task i).status.gone = (s.task i).status.gone) :
    Books s' ms := by
  refine ⟨hsafe, hst, fun hm => ?_, fun hi => ?_, fun hm => ?_, fun hi => ?_⟩
  · obtain ⟨hi, he⟩ := h.made hm
    exact ⟨by rw [hs.count]; exact hi, (hs.entryOf hi).trans he⟩
  · rw [hs.count] at hi; exact h.named hi
  · rw [hs.count]; exact h.ended hm
  · rw [hs.count] at hi
    rw [ho]; exact h.gone hi

theorem pass (h : Books s ms) (trigger : Trigger) : Books (s.pass trigger).scheduler ms := by
  obtain ⟨limit, hst⟩ := h.stacked
  exact h.of_same (h.safe.pass trigger) ⟨limit, hst.pass trigger⟩
    (.after s (e := .pass trigger) (Scheduler.count_pass s trigger)) (Scheduler.gone_pass s trigger)

theorem commit (h : Books s ms) (sp : Address) : Books (s.commit sp).2 ms := by
  obtain ⟨limit, hst⟩ := h.stacked
  exact h.of_same (h.safe.commit sp) ⟨limit, hst.commit sp⟩ (.commit s sp)
    (Scheduler.gone_commit h.safe sp)

theorem launch (h : Books s ms) : Books s.launch.2.1 ms := by
  obtain ⟨limit, hst⟩ := h.stacked
  exact h.of_same h.safe.launch ⟨limit, hst.launch.1⟩ (.launch s) (Scheduler.gone_launch h.safe)

theorem not_gone (h : Books s ms) (hi : i.val < s.count) (hn : ∀ n, .ended i n ∉ ms) :
    (s.task i).status.gone = false := by
  refine Bool.eq_false_iff.2 fun hg => ?_
  obtain ⟨n, hm⟩ := (h.gone hi).1 hg
  exact hn n hm

theorem sleepCurrent (h : Books s ms) (hc : s.current ≠ idleTask)
    (hn : ∀ n, .ended s.current n ∉ ms) (ticks : UInt16) : Books (s.sleepCurrent ticks) ms := by
  obtain ⟨limit, hst⟩ := h.stacked
  exact h.of_same (h.safe.sleepCurrent hc ticks) ⟨limit, hst.sleepCurrent ticks⟩
    ⟨rfl, fun i _ => Scheduler.origin_sleepCurrent s ticks i⟩
    (Scheduler.gone_sleepCurrent (h.not_gone h.current_lt hn) ticks)

/-- A task that is made gets the next number, which nobody had. -/
theorem spawn (h : Books s ms) {body : β} {argument size : UInt64} {name : Option String}
    {id : TaskId} (hs : s.spawn body argument size name = .ok (id, s')) :
    Books s' (.made id body argument :: ms) := by
  obtain ⟨limit, hst⟩ := h.stacked
  obtain ⟨hid, -, region, arena, -, he⟩ := Scheduler.spawn_eq_ok hs
  have hcount : s'.count = s.count + 1 := by rw [he]
  have hafter : s.after (.spawn body argument size name) = s' := by rw [Scheduler.after, hs]
  have hold : ∀ {i : TaskId}, i.val < s.count → s'.task i = s.task i := fun hi => by
    rw [← hafter]; exact (Scheduler.made_serve_spawn hi body argument size name).2
  have hself := Scheduler.task_spawn_self hs
  have hcases : ∀ {i : TaskId}, i.val < s'.count → i = id ∨ i.val < s.count := fun {i} hi => by
    rw [hcount] at hi
    rcases Nat.lt_succ_iff_lt_or_eq.1 hi with hi | hi
    · exact Or.inr hi
    · exact Or.inl (Fin.ext (hi.trans hid.symm))
  have hended : ∀ {i : TaskId} {n : Nat}, .ended i n ∈ Mark.made id body argument :: ms →
      .ended i n ∈ ms := fun hm => by
    cases hm with
    | tail _ hm => exact hm
  refine ⟨h.safe.spawn hs, ⟨limit, hst.spawn hs⟩, fun hm => ?_, fun hi => ?_, fun hm => ?_,
    fun hi => ?_⟩
  · rcases List.mem_cons.1 hm with hm | hm
    · cases hm
      refine ⟨by omega, ?_⟩
      rw [Scheduler.entryOf, dif_pos id.isLt, hself]; rfl
    · obtain ⟨hi, hentry⟩ := h.made hm
      refine ⟨by omega, ?_⟩
      rw [← hentry, Scheduler.entryOf, Scheduler.entryOf, dif_pos (Fin.isLt _),
        dif_pos (Fin.isLt _), hold hi]
  · rcases hcases hi with rfl | hi
    · exact ⟨body, argument, .head _⟩
    · obtain ⟨b, a, hm⟩ := h.named hi
      exact ⟨b, a, .tail _ hm⟩
  · have := h.ended (hended hm)
    omega
  · rcases hcases hi with rfl | hi
    · rw [hself]
      refine iff_of_false Bool.false_ne_true ?_
      rintro ⟨n, hm⟩
      have := h.ended (hended hm)
      omega
    · rw [hold hi, h.gone hi]
      exact exists_congr fun n => ⟨.tail _, hended⟩

/-- **A call of the kernel.** -/
theorem asks (h : Books s ms) {e : Event β} (he : s.asks e) (hn : ∀ n, .ended s.current n ∉ ms) :
    Books (s.after e) (s.makes e ++ ms) := by
  cases e with
  | spawn body argument size name =>
    unfold Scheduler.after Scheduler.makes
    cases hs : s.spawn body argument size name with
    | error => simp only [hs]; exact h
    | ok r => simp only [hs]; exact h.spawn hs
  | pass trigger => exact h.pass trigger
  | sleep ticks => exact (h.sleepCurrent he hn ticks).pass .call
  | exit | commit => exact he.elim

/-- The body of a task begins or returns. -/
theorem mark (h : Books s ms) {m : Mark β} (hm : ∀ i body argument, m ≠ .made i body argument)
    (hn : ∀ i n, m ≠ .ended i n) : Books s (m :: ms) := by
  have hended : ∀ {i : TaskId} {n : Nat}, .ended i n ∈ m :: ms → .ended i n ∈ ms := fun hmem =>
    (List.mem_cons.1 hmem).resolve_left (hn _ _).symm
  refine ⟨h.safe, h.stacked, fun hmem => ?_, fun hi => ?_, fun hmem => h.ended (hended hmem),
    fun hi => (h.gone hi).trans (exists_congr fun n => ⟨.tail _, hended⟩)⟩
  · exact h.made ((List.mem_cons.1 hmem).resolve_left (hm _ _ _).symm)
  · obtain ⟨body, argument, hmem⟩ := h.named hi
    exact ⟨body, argument, .tail _ hmem⟩

/-- The current task ends. -/
theorem exit (h : Books s ms) (hc : s.current ≠ idleTask) (n : Nat) :
    Books (s.exit s.current) (.ended s.current n :: ms) := by
  obtain ⟨limit, hst⟩ := h.stacked
  have hcount : (s.exit s.current).count = s.count := by rw [Scheduler.exit_rest]
  have hsame : s.SameTasks (s.exit s.current) :=
    ⟨hcount, fun i _ => Scheduler.origin_exit s _ i⟩
  have hother : ∀ {i : TaskId} {n' : Nat}, i ≠ s.current →
      .ended i n' ∈ Mark.ended s.current n :: ms → .ended i n' ∈ ms := fun hi hm =>
    (List.mem_cons.1 hm).resolve_left fun he => hi (by cases he; rfl)
  refine ⟨h.safe.exit hc, ⟨limit, hst.exit _⟩, fun hm => ?_, fun hi => ?_, fun {i n'} hm => ?_,
    fun {i} hi => ?_⟩
  · obtain ⟨hi, he⟩ := h.made ((List.mem_cons.1 hm).resolve_left nofun)
    exact ⟨by rw [hcount]; exact hi, (hsame.entryOf hi).trans he⟩
  · obtain ⟨body, argument, hm⟩ := h.named (hcount ▸ hi)
    exact ⟨body, argument, .tail _ hm⟩
  · rw [hcount]
    by_cases hi : i = s.current
    · subst hi; exact h.current_lt
    · exact h.ended (hother hi hm)
  · rw [hcount] at hi
    by_cases hi' : i = s.current
    · subst hi'
      refine iff_of_true ?_ ⟨n, .head _⟩
      rw [Scheduler.task_exit]
      split_ifs with hv
      · rfl
      · rw [Classical.not_not.1 fun hne => hv ⟨rfl, hne⟩]; rfl
    · rw [Scheduler.task_exit_of_ne hi', h.gone hi]
      exact exists_congr fun n' => ⟨.tail _, hother hi'⟩

theorem preempted (h : Books s ms) (hs : s.Preempted s') : Books s' ms :=
  hs.induct (P := fun s' => Books s' ms) h (fun _ h => h.pass .clock) fun _ sp h => h.commit sp

/-- A task that has ended is not picked any more. -/
theorem ne_current (h : Books s ms) {n : Nat} (hn : .ended i n ∈ ms) (hi : i ≠ s.current)
    (hs : s.Preempted s') : i ≠ s'.current := by
  refine (hs.induct (P := fun s' => Books s' ms ∧ i ≠ s'.current) ⟨h, hi⟩ ?_ ?_).2
  · rintro s₁ ⟨h₁, hi₁⟩
    exact ⟨h₁.pass .clock, by rw [Scheduler.current_pass]; exact hi₁⟩
  · rintro s₁ sp ⟨h₁, hi₁⟩
    refine ⟨h₁.commit sp, ?_⟩
    rw [Scheduler.commit_rest]
    dsimp only
    cases hq : s₁.pending with
    | none => exact hi₁
    | some p =>
      rintro rfl
      have hgone := (h₁.gone (h₁.ended hn)).2 ⟨n, hn⟩
      rw [not_gone_of_runnable (h₁.safe.pending _ hq).2] at hgone
      cases hgone

end Books

/-! ## What marks say -/

/-- A mark is in its place after these: a number is given to one task, a body that is called is the
    one that the current task was made with, and neither a body nor the end of it comes twice. -/
def Mark.Follows (before : List (Mark β)) : Mark β → Prop
  | .made i _ _ => ∀ body argument, .made i body argument ∉ before
  | .began i n body argument =>
    n = i ∧ .made i body argument ∈ before ∧ ∀ n b a, .began i n b a ∉ before
  | .returned i n => n = i ∧ ∃ body argument, .began i n body argument ∈ before
  | .ended i n => n = i ∧ i ≠ idleTask ∧ .returned i n ∈ before ∧ ∀ n, .ended i n ∉ before

/-- All marks are in their places. -/
def Orderly : List (Mark β) → Prop
  | [] => True
  | m :: before => m.Follows before ∧ Orderly before

theorem Orderly.before {later before : List (Mark β)} (h : Orderly (later ++ before)) :
    Orderly before := by
  induction later with
  | nil => exact h
  | cons _ _ ih => exact ih h.2

/-- What a call makes has a new number. -/
theorem Books.makes {s : Scheduler β} {ms : List (Mark β)} (h : Books s ms) (e : Event β)
    {m : Mark β} (hm : m ∈ s.makes e) :
    (∃ i body argument, m = .made i body argument) ∧ s.makes e = [m] ∧ m.Follows ms := by
  cases e with
  | pass | sleep | exit | commit => cases hm
  | spawn body argument size name =>
    unfold Scheduler.makes at hm ⊢
    cases hs : s.spawn body argument size name with
    | error => simp only [hs] at hm; cases hm
    | ok r =>
      simp only [hs] at hm ⊢
      obtain rfl := List.mem_singleton.1 hm
      refine ⟨⟨_, _, _, rfl⟩, rfl, fun b a hmem => ?_⟩
      have hid := (Scheduler.spawn_eq_ok hs).1
      exact absurd (h.made hmem).1 (by omega)

theorem Orderly.makes {s : Scheduler β} {ms : List (Mark β)} (h : Orderly ms) (hb : Books s ms)
    (e : Event β) : Orderly (s.makes e ++ ms) := by
  cases hm : s.makes e with
  | nil => exact h
  | cons m rest =>
    obtain ⟨-, hone, hf⟩ := hb.makes e (hm ▸ List.mem_cons_self)
    obtain ⟨-, rfl⟩ := List.cons.inj (hm.symm.trans hone)
    exact ⟨hf, h⟩

theorem Orderly.began_of_returned {ms : List (Mark β)} {i : TaskId} {n : Nat} (h : Orderly ms)
    (hm : .returned i n ∈ ms) : ∃ body argument, .began i n body argument ∈ ms := by
  obtain ⟨later, before, rfl⟩ := List.append_of_mem hm
  obtain ⟨-, body, argument, hbegan⟩ := h.before.1
  exact ⟨body, argument, List.mem_append_right _ (.tail _ hbegan)⟩

theorem Orderly.made_of_began {ms : List (Mark β)} {i : TaskId} {n : Nat} {body : β}
    {argument : UInt64} (h : Orderly ms) (hm : .began i n body argument ∈ ms) :
    .made i body argument ∈ ms := by
  obtain ⟨later, before, rfl⟩ := List.append_of_mem hm
  obtain ⟨-, hmade, -⟩ := h.before.1
  exact List.mem_append_right _ (.tail _ hmade)

/-! ## What places say -/

/-- A task at this place goes by its own number, and of what it does there all and nothing else is
    written down. -/
def Place.Proper (ms : List (Mark β)) (i : TaskId) : Place β → Prop
  | .entered n => n = i ∧ (∀ n b a, .began i n b a ∉ ms) ∧ ∀ n, .ended i n ∉ ms
  | .given n body argument =>
    n = i ∧ .made i body argument ∈ ms ∧ (∀ n b a, .began i n b a ∉ ms) ∧ ∀ n, .ended i n ∉ ms
  | .inBody n => n = i ∧ (∃ body argument, .began i n body argument ∈ ms) ∧ ∀ n, .ended i n ∉ ms
  | .back n => n = i ∧ i ≠ idleTask ∧ .returned i n ∈ ms ∧ ∀ n, .ended i n ∉ ms
  | .parked => .ended i i ∈ ms

/-- The mark is about what task `i` does. -/
def Mark.By (i : TaskId) : Mark β → Prop
  | .made .. => False
  | .began j .. | .returned j _ | .ended j _ => j = i

namespace Place.Proper

variable {ms ms' : List (Mark β)} {i : TaskId} {p : Place β}

/-- What is written down about others is of no account. -/
theorem append (h : p.Proper ms i) (hms : ∀ m ∈ ms', ¬ m.By i) : p.Proper (ms' ++ ms) i := by
  have hold : ∀ {m : Mark β}, m.By i → m ∈ ms' ++ ms → m ∈ ms := fun hby hm =>
    (List.mem_append.1 hm).resolve_left fun hm => hms _ hm hby
  have hnew : ms ⊆ ms' ++ ms := List.subset_append_right _ _
  cases p with
  | entered n =>
    obtain ⟨hn, hbegan, hended⟩ := h
    exact ⟨hn, fun n b a hm => hbegan n b a (hold rfl hm), fun n hm => hended n (hold rfl hm)⟩
  | given n body argument =>
    obtain ⟨hn, hmade, hbegan, hended⟩ := h
    exact ⟨hn, hnew hmade, fun n b a hm => hbegan n b a (hold rfl hm),
      fun n hm => hended n (hold rfl hm)⟩
  | inBody n =>
    obtain ⟨hn, ⟨body, argument, hbegan⟩, hended⟩ := h
    exact ⟨hn, ⟨body, argument, hnew hbegan⟩, fun n hm => hended n (hold rfl hm)⟩
  | back n =>
    obtain ⟨hn, hidle, hreturned, hended⟩ := h
    exact ⟨hn, hidle, hnew hreturned, fun n hm => hended n (hold rfl hm)⟩
  | parked => exact hnew h

/-- A task that is not parked has not ended. -/
theorem not_ended (h : p.Proper ms i) (hp : p ≠ .parked) (n : Nat) : .ended i n ∉ ms := by
  cases p with
  | entered => exact h.2.2 n
  | given => exact h.2.2.2 n
  | inBody => exact h.2.2 n
  | back => exact h.2.2.2 n
  | parked => exact absurd rfl hp

end Place.Proper

end Carousel
