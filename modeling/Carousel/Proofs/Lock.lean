/-
  Carousel — tasks that share a lock.

  * `Shared`: the scheduler, a lock, and where each task is in its calls of the lock;
  * `Shared.move`: the next critical section of the current task, or something else that happens to
    the scheduler, and the `Deed` that was done with the lock;
  * `Shared.allows`: a task makes one call at a time, and none once it is done;
  * `holders`: the tasks that took the lock and did not give it back;
  * `Guarded`: a task that is about to take the lock out of use has it, or it is out of use;
  * `Hands`: how the lock changes hands, and `Guarded.hands` and `Guarded.move`: every move changes
    it like this, and keeps it guarded;
  * `Shares`: the threads of a rig go through the lock in such moves;
  * `mutual_exclusion`: what all tasks can rely on.
-/
import Carousel.Lock
import Carousel.Proofs.Scheduler.Sleep
import Carousel.Script.Rig
import Mathlib.Logic.Function.Basic

namespace Carousel

variable {β : Type}

/-! ## The protocol -/

/-- A call of a lock. -/
inductive LockCall where
  | tryLock
  | lock
  | unlock
  /-- Take the lock out of use. -/
  | retire
  deriving DecidableEq

/-- Where a task is in its calls of a lock. -/
inductive LockUse where
  | outside
  /-- About to try to take the lock, only to take it out of use if `retire`. -/
  | attempt (retire : Bool)
  /-- About to let others run and to try again. -/
  | again (retire : Bool)
  /-- About to take the lock out of use; `own` if it could be taken before. -/
  | invalidate (own : Bool)
  /-- The task is done. -/
  | finished
  deriving DecidableEq

/-- What a critical section came to. -/
inductive Deed where
  | take (o : Except Fault Unit)
  | give (o : Except Fault Unit)
  | retire

/-- What a call that ends with it gives back. -/
def Deed.outcome : Deed → Option (Except Fault Unit)
  | take o | give o => some o
  | retire => none

/-- Tasks that share a lock. -/
structure Shared (β : Type) where
  scheduler : Scheduler β
  lock : Lock
  uses : TaskId → LockUse

/-- Something that happens. -/
inductive Move (β : Type) where
  /-- To the scheduler: an interrupt, the trap, or another call of the current task. -/
  | event (e : Event β)
  | launch
  /-- The current task begins a call. -/
  | call (c : LockCall)
  /-- The current task goes on with its call. -/
  | goOn

namespace Shared

/-- The lock is free, and no task is in a call. -/
def start (s : Scheduler β) : Shared β := ⟨s, .free, fun _ => .outside⟩

/-- The task that has the processor. -/
def me (x : Shared β) : TaskId := x.scheduler.current

/-- The current task goes on to another point. -/
def goTo (x : Shared β) (u : LockUse) : Shared β :=
  { x with uses := Function.update x.uses x.me u }

/-- Change the lock, inside one critical section. -/
def change (x : Shared β) (f : Lock → Except Fault Lock) : Except Fault Unit × Shared β :=
  match f x.lock with
  | .ok l => (.ok (), { x with lock := l })
  | .error e => (.error e, x)

/-- Try to take the lock, for the current task. -/
def take (x : Shared β) : Except Fault Unit × Shared β := x.change (Lock.acquire x.me)

/-- Give the lock back. -/
def give (x : Shared β) : Except Fault Unit × Shared β := x.change (Lock.release x.me)

/-- Where an attempt leads to. -/
def afterAttempt (retire : Bool) : Except Fault Unit → LockUse
  | .error .busy => .again retire
  | o => if retire then .invalidate o.isOk else .outside

/-- The current task goes on with its call. -/
def goOn (x : Shared β) : Shared β × Option Deed :=
  match x.uses x.me with
  | .attempt retire => (x.take.2.goTo (afterAttempt retire x.take.1), some (.take x.take.1))
  | .again retire =>
    ({ x.goTo (.attempt retire) with scheduler := (Kernel.yield x.scheduler).scheduler }, none)
  | .invalidate _ => ({ x with lock := x.lock.invalidate }.goTo .outside, some .retire)
  | .outside | .finished => (x, none)

/-- Where tasks are after something that happened to the scheduler: a task that is made begins
    outside, whoever had its number before. -/
def usesAfter (x : Shared β) : Event β → TaskId → LockUse
  | .spawn body argument size name =>
    match x.scheduler.spawn body argument size name with
    | .ok (i, _) => Function.update x.uses i .outside
    | .error _ => x.uses
  | .exit => Function.update x.uses x.me .finished
  | _ => x.uses

/-- The state after a move, and what was done with the lock. -/
def move (x : Shared β) : Move β → Shared β × Option Deed
  | .event e => ({ x with scheduler := x.scheduler.after e, uses := x.usesAfter e }, none)
  | .launch => ({ x with scheduler := x.scheduler.launch.2.1 }, none)
  | .call .tryLock => (x.take.2, some (.take x.take.1))
  | .call .unlock => (x.give.2, some (.give x.give.1))
  | .call .lock => (x.goTo (.attempt false), none)
  | .call .retire => (x.goTo (.attempt true), none)
  | .goOn => x.goOn

/-- The current task sleeps, ends and begins a call only when it is in no other call. -/
def allows (x : Shared β) : Move β → Prop
  | .event e => x.scheduler.allows e ∧
    match e with
    | .sleep _ | .exit => x.uses x.me = .outside
    | _ => True
  | .launch | .call _ => x.uses x.me = .outside
  | .goOn => True

/-- The state after moves, first to last. -/
def afterAll (x : Shared β) (ms : List (Move β)) : Shared β := ms.foldl (fun x m => (x.move m).1) x

/-- Each of the moves is allowed when it comes. -/
def allowsAll : Shared β → List (Move β) → Prop
  | _, [] => True
  | x, m :: ms => x.allows m ∧ (x.move m).1.allowsAll ms

/-- What a call of the current task gives back that ends with a move. -/
def returned (x : Shared β) (m : Move β) : Option (Except Fault Unit) :=
  if (x.move m).1.uses x.me = .outside then (x.move m).2.bind Deed.outcome else none

/-- Who has the lock after a deed of task `i`, if `hs` had it before. -/
def heldAfter (i : TaskId) (hs : List TaskId) : Option Deed → List TaskId
  | some (.take (.ok ())) => i :: hs
  | some (.give (.ok ())) | some .retire => hs.erase i
  | _ => hs

/-- The tasks that took the lock in some moves, or before, and did not give it back. -/
def holders : Shared β → List TaskId → List (Move β) → List TaskId
  | _, hs, [] => hs
  | x, hs, m :: ms => (x.move m).1.holders (heldAfter x.me hs (x.move m).2) ms

variable {x : Shared β} {m : Move β}

/-! ## One critical section -/

theorem take_cases (x : Shared β) :
    x.lock = .free ∧ x.take = (.ok (), { x with lock := .held x.me }) ∨
      (∃ t, x.lock = .held t) ∧ x.take = (.error .busy, x) ∨
      x.lock = .invalid ∧ x.take = (.error .parameter, x) := by
  unfold take change
  cases h : x.lock <;> simp [Lock.acquire]

theorem give_cases (x : Shared β) :
    x.lock = .held x.me ∧ x.give = (.ok (), { x with lock := .free }) ∨
      x.lock ≠ .held x.me ∧ x.lock ≠ .invalid ∧ x.give = (.error .notOwner, x) ∨
      x.lock = .invalid ∧ x.give = (.error .parameter, x) := by
  unfold give change
  cases h : x.lock with
  | held t =>
    by_cases ht : t = x.me
    · simp [Lock.release, ht]
    · simp [Lock.release, ht]
  | _ => simp [Lock.release]

theorem take_of_invalid (h : x.lock = .invalid) :
    x.take = (.error .parameter, x) ∧ x.give = (.error .parameter, x) := by
  unfold take give change
  simp [h, Lock.acquire, Lock.release]

/-! ## Changing hands -/

/-- A task that is about to take the lock out of use has it, or it is out of use. -/
structure Guarded (x : Shared β) : Prop where
  underway : Underway x.scheduler
  held : ∀ t, x.lock = .held t → t.val < x.scheduler.count
  retiring : ∀ t own, x.uses t = .invalidate own → x.lock = if own then .held t else .invalid

/-- How the lock changes hands in a move. -/
inductive Hands (x : Shared β) (m : Move β) : Prop
  /-- Nothing changes; a lock that is out of use may be taken out of use once more. -/
  | same : (x.move m).1.lock = x.lock → (x.move m).2 ≠ some (.take (.ok ())) →
      (x.move m).2 ≠ some (.give (.ok ())) → ((x.move m).2 = some .retire → x.lock = .invalid) →
      Hands x m
  | taken : x.lock = .free → (x.move m).1.lock = .held x.me →
      (x.move m).2 = some (.take (.ok ())) → Hands x m
  | given : x.lock = .held x.me → (x.move m).1.lock = .free → m = .call .unlock →
      (x.move m).2 = some (.give (.ok ())) → Hands x m
  | retired : x.lock = .held x.me → (x.move m).1.lock = .invalid → m = .goOn →
      x.uses x.me = .invalidate true → (x.move m).2 = some .retire → Hands x m

/-- **A free lock is taken by an attempt.  The holder gives it back or, if that is what it took it
    for, takes it out of use.  Nothing else changes it.** -/
theorem Guarded.hands (h : x.Guarded) (m : Move β) : x.Hands m := by
  have hquiet : ∀ m, (x.move m).1.lock = x.lock → (x.move m).2 = none → x.Hands m := by
    intro m hl hd
    refine .same hl ?_ ?_ ?_
    · rw [hd]; nofun
    · rw [hd]; nofun
    · rw [hd]; nofun
  cases m with
  | event e => exact hquiet _ rfl rfl
  | launch => exact hquiet _ rfl rfl
  | call c =>
    cases c with
    | tryLock =>
      rcases take_cases x with ⟨hf, ht⟩ | ⟨-, ht⟩ | ⟨-, ht⟩
      · exact .taken hf (by simp [move, ht]) (by simp [move, ht])
      · refine .same ?_ ?_ ?_ ?_ <;> simp [move, ht]
      · refine .same ?_ ?_ ?_ ?_ <;> simp [move, ht]
    | unlock =>
      rcases give_cases x with ⟨hh, ht⟩ | ⟨-, -, ht⟩ | ⟨-, ht⟩
      · exact .given hh (by simp [move, ht]) rfl (by simp [move, ht])
      · refine .same ?_ ?_ ?_ ?_ <;> simp [move, ht]
      · refine .same ?_ ?_ ?_ ?_ <;> simp [move, ht]
    | lock => exact hquiet _ rfl rfl
    | retire => exact hquiet _ rfl rfl
  | goOn =>
    cases hu : x.uses x.me with
    | outside => exact hquiet _ (by simp [move, goOn, hu]) (by simp [move, goOn, hu])
    | finished => exact hquiet _ (by simp [move, goOn, hu]) (by simp [move, goOn, hu])
    | again retire => exact hquiet _ (by simp [move, goOn, hu, goTo]) (by simp [move, goOn, hu])
    | attempt retire =>
      rcases take_cases x with ⟨hf, ht⟩ | ⟨-, ht⟩ | ⟨-, ht⟩
      · exact .taken hf (by simp [move, goOn, hu, ht, goTo]) (by simp [move, goOn, hu, ht])
      · refine .same ?_ ?_ ?_ ?_ <;> simp [move, goOn, hu, ht, goTo]
      · refine .same ?_ ?_ ?_ ?_ <;> simp [move, goOn, hu, ht, goTo]
    | invalidate own =>
      have hl := h.retiring _ _ hu
      have hafter : (x.move .goOn).1.lock = .invalid := by simp [move, goOn, hu, goTo, Lock.invalidate]
      have hdeed : (x.move .goOn).2 = some .retire := by simp [move, goOn, hu]
      cases own with
      | true => exact .retired hl hafter rfl hu hdeed
      | false =>
        have hl : x.lock = .invalid := hl
        refine .same (by rw [hafter, hl]) ?_ ?_ fun _ => hl
        · rw [hdeed]; nofun
        · rw [hdeed]; nofun

/-! ## What moves keep -/

theorem scheduler_change (x : Shared β) (f : Lock → Except Fault Lock) :
    (x.change f).2.scheduler = x.scheduler := by
  unfold change
  cases f x.lock <;> rfl

theorem uses_change (x : Shared β) (f : Lock → Except Fault Lock) :
    (x.change f).2.uses = x.uses := by
  unfold change
  cases f x.lock <;> rfl

/-- Where the current task is once it went on. -/
def next (x : Shared β) : LockUse :=
  match x.uses x.me with
  | .attempt retire => afterAttempt retire x.take.1
  | .again retire => .attempt retire
  | .invalidate _ => .outside
  | u => u

theorem uses_goOn (x : Shared β) : x.goOn.1.uses = Function.update x.uses x.me x.next := by
  have hme : x.take.2.me = x.me := by rw [me, take, scheduler_change, ← me]
  unfold goOn next
  cases hu : x.uses x.me with
  | attempt retire => simp only [goTo, hme]; rw [take, uses_change]
  | outside | finished => simp [← hu]
  | _ => rfl

theorem underway_move (h : Underway x.scheduler) (ha : x.allows m) :
    Underway (x.move m).1.scheduler := by
  cases m with
  | event e => exact h.step ha.1
  | launch => exact h.launch
  | call c =>
    cases c with
    | tryLock => rw [move, take, scheduler_change]; exact h
    | unlock => rw [move, give, scheduler_change]; exact h
    | lock | retire => exact h
  | goOn =>
    rw [move, goOn]
    cases x.uses x.me with
    | again retire => exact h.step (e := .pass .call) trivial
    | attempt retire => exact (scheduler_change x _).symm ▸ h
    | _ => exact h

theorem made_move {t : TaskId} (ht : t.val < x.scheduler.count) (m : Move β) :
    t.val < (x.move m).1.scheduler.count := by
  cases m with
  | event e => exact (Scheduler.origin_after ht e).1
  | launch => exact (Scheduler.count_launch x.scheduler).symm ▸ ht
  | call c =>
    cases c with
    | tryLock => rw [move, take, scheduler_change]; exact ht
    | unlock => rw [move, give, scheduler_change]; exact ht
    | lock | retire => exact ht
  | goOn =>
    rw [move, goOn]
    cases x.uses x.me with
    | again retire => exact (Scheduler.origin_after ht (.pass .call)).1
    | attempt retire => exact (scheduler_change x _).symm ▸ ht
    | _ => exact ht

theorem afterAttempt_false (o : Except Fault Unit) (own : Bool) :
    afterAttempt false o ≠ .invalidate own := by
  unfold afterAttempt
  split <;> simp

/-- A task comes to the point where it takes the lock out of use only by an attempt of its own. -/
theorem uses_move {t : TaskId} {own : Bool} (hu : (x.move m).1.uses t = .invalidate own) :
    x.uses t = .invalidate own ∧ (m = .goOn → t ≠ x.me) ∨
      t = x.me ∧ (x.move m).1.lock = if own then .held t else .invalid := by
  cases m with
  | event e =>
    refine Or.inl ⟨?_, nofun⟩
    cases e with
    | spawn body argument size name =>
      simp only [move, usesAfter] at hu
      cases hs : x.scheduler.spawn body argument size name with
      | error => simp only [hs] at hu; exact hu
      | ok r =>
        simp only [hs, Function.update_apply] at hu
        split_ifs at hu
        exact hu
    | exit =>
      simp only [move, usesAfter, Function.update_apply] at hu
      split_ifs at hu
      exact hu
    | _ => exact hu
  | launch => exact Or.inl ⟨hu, nofun⟩
  | call c =>
    refine Or.inl ⟨?_, nofun⟩
    cases c with
    | tryLock => rw [move, take, uses_change] at hu; exact hu
    | unlock => rw [move, give, uses_change] at hu; exact hu
    | lock | retire =>
      simp only [move, goTo, Function.update_apply] at hu
      split_ifs at hu
      exact hu
  | goOn =>
    rw [move, uses_goOn, Function.update_apply] at hu
    split_ifs at hu with ht
    · right
      refine ⟨ht, ?_⟩
      subst ht
      unfold next at hu
      cases hme : x.uses x.me with
      | attempt retire =>
        simp only [hme] at hu
        -- an attempt that is over leads here only if it was made for this
        cases retire with
        | false => exact absurd hu (afterAttempt_false _ _)
        | true =>
          have hlock : (x.move .goOn).1.lock = x.take.2.lock := by simp [move, goOn, hme, goTo]
          rw [hlock]
          rcases take_cases x with ⟨-, ht⟩ | ⟨-, ht⟩ | ⟨hl, ht⟩
          · rw [ht] at hu ⊢; cases hu; rfl
          · rw [ht] at hu; cases hu
          · rw [ht] at hu ⊢; cases hu; exact hl
      | outside | finished | again | invalidate => simp only [hme] at hu; cases hu
    · exact Or.inl ⟨hu, fun _ => ht⟩

/-- **Every move keeps the lock guarded.** -/
theorem Guarded.move (h : x.Guarded) (ha : x.allows m) : (x.move m).1.Guarded where
  underway := underway_move h.underway ha
  held t ht := by
    refine made_move ?_ m
    cases h.hands m with
    | same hl => rw [hl] at ht; exact h.held t ht
    | taken _ hl =>
      rw [hl] at ht
      obtain rfl := Lock.held.inj ht
      obtain ⟨limit, hst⟩ := Scheduler.exists_stacked h.underway
      exact hst.current
    | given _ hl => rw [hl] at ht; cases ht
    | retired _ hl => rw [hl] at ht; cases ht
  retiring t own hu := by
    rcases uses_move hu with ⟨hx, hgo⟩ | ⟨-, hl⟩
    · have hlock := h.retiring t own hx
      cases h.hands m with
      | same hl => rw [hl]; exact hlock
      | taken hf => rw [hf] at hlock; cases own <;> cases hlock
      | given hh _ hm =>
        rw [hh] at hlock
        cases own with
        | false => cases hlock
        | true =>
          -- whoever gives the lock back does not take it out of use
          obtain rfl := Lock.held.inj hlock
          subst hm
          rw [show x.uses x.me = .outside from ha] at hx; cases hx
      | retired hh _ hm =>
        rw [hh] at hlock
        cases own with
        | false => cases hlock
        | true => exact absurd (Lock.held.inj hlock).symm (hgo hm)
    · exact hl

/-! ## Runs -/

theorem afterAll_cons (x : Shared β) (m : Move β) (ms : List (Move β)) :
    x.afterAll (m :: ms) = (x.move m).1.afterAll ms := rfl

theorem afterAll_append (x : Shared β) (ms ms' : List (Move β)) :
    x.afterAll (ms ++ ms') = (x.afterAll ms).afterAll ms' := List.foldl_append

theorem allowsAll_append {ms ms' : List (Move β)} :
    x.allowsAll (ms ++ ms') ↔ x.allowsAll ms ∧ (x.afterAll ms).allowsAll ms' := by
  induction ms generalizing x with
  | nil => simp [allowsAll, afterAll]
  | cons m ms ih => simp [allowsAll, ih, afterAll, and_assoc]

theorem guarded_start {s : Scheduler β} (h : Underway s) : (start s).Guarded where
  underway := h
  held _ ht := by cases ht
  retiring _ _ hu := by cases hu

theorem Guarded.afterAll (h : x.Guarded) {ms : List (Move β)} (ha : x.allowsAll ms) :
    (x.afterAll ms).Guarded := by
  induction ms generalizing x with
  | nil => exact h
  | cons m ms ih => exact ih (h.move ha.1) ha.2

/-- The one who has the lock is the one that it names. -/
theorem heldAfter_move (h : x.Guarded) (m : Move β) :
    heldAfter x.me x.lock.owner.toList (x.move m).2 = (x.move m).1.lock.owner.toList := by
  cases h.hands m with
  | same hl ht hg hr =>
    rw [hl]
    generalize (x.move m).2 = d at ht hg hr
    cases d with
    | none => rfl
    | some d =>
      cases d with
      | take o =>
        cases o with
        | error e => rfl
        | ok => exact absurd rfl ht
      | give o =>
        cases o with
        | error e => rfl
        | ok => exact absurd rfl hg
      | retire => rw [hr rfl]; rfl
  | taken hf hl hd => rw [hf, hl, hd]; rfl
  | given hh hl _ hd => rw [hh, hl, hd]; simp [heldAfter, Lock.owner]
  | retired hh hl _ _ hd => rw [hh, hl, hd]; simp [heldAfter, Lock.owner]

theorem holders_eq (h : x.Guarded) {ms : List (Move β)} (ha : x.allowsAll ms) :
    x.holders x.lock.owner.toList ms = (x.afterAll ms).lock.owner.toList := by
  induction ms generalizing x with
  | nil => rfl
  | cons m ms ih =>
    rw [holders, heldAfter_move h]
    exact ih (h.move ha.1) ha.2

/-- Nobody takes a lock that is held. -/
theorem busy_of_held {t : TaskId} {o : Except Fault Unit} (hl : x.lock = .held t)
    (hd : (x.move m).2 = some (.take o)) : o = .error .busy := by
  have htake : x.take = (.error .busy, x) := by
    rcases take_cases x with ⟨hf, -⟩ | ⟨-, ht⟩ | ⟨hv, -⟩
    · rw [hl] at hf; cases hf
    · exact ht
    · rw [hl] at hv; cases hv
  cases m with
  | event | launch => cases hd
  | call c =>
    cases c with
    | tryLock => rw [move, htake] at hd; cases hd; rfl
    | unlock | lock | retire => cases hd
  | goOn =>
    rw [move, goOn] at hd
    cases hu : x.uses x.me with
    | attempt retire => rw [hu, htake] at hd; cases hd; rfl
    | _ => rw [hu] at hd; cases hd

/-- A lock that is out of use stays so. -/
theorem invalid_afterAll (h : x.Guarded) {ms : List (Move β)} (ha : x.allowsAll ms)
    (hl : x.lock = .invalid) : (x.afterAll ms).lock = .invalid := by
  induction ms generalizing x with
  | nil => exact hl
  | cons m ms ih =>
    refine ih (h.move ha.1) ha.2 ?_
    cases h.hands m with
    | same hs => rw [hs, hl]
    | taken hf => rw [hl] at hf; cases hf
    | given hh => rw [hl] at hh; cases hh
    | retired hh => rw [hl] at hh; cases hh

/-- The task is done, and it has the lock. -/
def Stuck (x : Shared β) (t : TaskId) : Prop := x.lock = .held t ∧ x.uses t = .finished

theorem over_move {t : TaskId} (ha : x.allows m) (ht : t.val < x.scheduler.count)
    (hu : x.uses t = .finished) : (x.move m).1.uses t = .finished := by
  have hme : x.uses x.me = .outside → t ≠ x.me := by
    rintro ho rfl
    rw [hu] at ho; cases ho
  cases m with
  | event e =>
    cases e with
    | spawn body argument size name =>
      simp only [move, usesAfter]
      cases hs : x.scheduler.spawn body argument size name with
      | error => exact hu
      | ok r =>
        -- its number is not given to another task
        have hne : t ≠ r.1 := by
          rintro rfl
          rw [(Scheduler.spawn_eq_ok hs).1] at ht
          exact lt_irrefl _ ht
        simp only [Function.update_of_ne hne]; exact hu
    | exit =>
      simp only [move, usesAfter, Function.update_apply]
      split_ifs
      · rfl
      · exact hu
    | _ => exact hu
  | launch => exact hu
  | call c =>
    have hne := hme ha
    cases c with
    | tryLock => rw [move, take, uses_change]; exact hu
    | unlock => rw [move, give, uses_change]; exact hu
    | lock | retire => simp only [move, goTo, Function.update_of_ne hne]; exact hu
  | goOn =>
    rw [move, uses_goOn, Function.update_apply]
    split_ifs with he
    · subst he
      simp only [next, hu]
    · exact hu

theorem stuck_afterAll {t : TaskId} (h : x.Guarded) {ms : List (Move β)} (ha : x.allowsAll ms)
    (hs : x.Stuck t) : (x.afterAll ms).Stuck t := by
  induction ms generalizing x with
  | nil => exact hs
  | cons m ms ih =>
    obtain ⟨hlock, hu⟩ := hs
    refine ih (h.move ha.1) ha.2 ⟨?_, over_move ha.1 (h.held t hlock) hu⟩
    cases h.hands m with
    | same hl => rw [hl, hlock]
    | taken hf => rw [hlock] at hf; cases hf
    | given hh _ hm =>
      rw [hlock] at hh
      obtain rfl := Lock.held.inj hh
      subst hm
      rw [show x.uses x.me = .outside from ha.1] at hu; cases hu
    | retired hh _ _ hr =>
      rw [hlock] at hh
      obtain rfl := Lock.held.inj hh
      rw [hr] at hu; cases hu

/-! ## Scripts -/

end Shared

open Script

/-- The tasks of a rig share lock `m` of it, in this state. -/
structure Script.Rig.Shares (r : Rig) (m : Nat) (x : Shared Body) : Prop where
  scheduler : r.scheduler = x.scheduler
  lock : r.locks[m]? = some x.lock

namespace Script.Rig.Shares

variable {r : Rig} {m : Nat} {x : Shared Body}

theorem set (h : r.Shares m x) (l : Lock) :
    { r with locks := r.locks.setIfInBounds m l }.Shares m { x with lock := l } where
  scheduler := h.scheduler
  lock := by
    obtain ⟨hlt, -⟩ := Array.getElem?_eq_some_iff.1 h.lock
    simp [hlt]

theorem withLock (h : r.Shares m x) (site : Site) (f : Lock → Except Fault Lock) :
    (r.withLock site m f).1.Shares m (x.change f).2 ∧
      (r.withLock site m f).2 = [.report site (.of (fun _ => .nothing) (x.change f).1)] := by
  unfold Rig.withLock Shared.change
  simp only [h.lock]
  cases hf : f x.lock with
  | ok l => exact ⟨h.set l, rfl⟩
  | error e => exact ⟨h, rfl⟩

theorem current (h : r.Shares m x) : r.scheduler.current = x.me := by rw [h.scheduler]; rfl

theorem tryLock (h : r.Shares m x) (site : Site) :
    (r.step (.perform site (.tryLock m))).1.Shares m (x.move (.call .tryLock)).1 ∧
      (r.step (.perform site (.tryLock m))).2 =
        [.report site (.of (fun _ => .nothing) x.take.1)] := by
  rw [Rig.step, Rig.perform, h.current]
  exact h.withLock site _

theorem unlock (h : r.Shares m x) (site : Site) :
    (r.step (.perform site (.unlock m))).1.Shares m (x.move (.call .unlock)).1 ∧
      (r.step (.perform site (.unlock m))).2 =
        [.report site (.of (fun _ => .nothing) x.give.1)] := by
  rw [Rig.step, Rig.perform, h.current]
  exact h.withLock site _

/-- One attempt of a rig to take the lock is an attempt, with the pass and the trap that follow if
    the lock is busy. -/
theorem attempt (h : r.Shares m x) {retire : Bool} (hu : x.uses x.me = .attempt retire)
    (again : Work) (next : Except Fault Unit → Work) :
    ∃ ms, x.allowsAll ms ∧ (r.attempt m again next).1.Shares m (x.afterAll ms) ∧
      ((r.attempt m again next).2 = [again] ∧ (x.afterAll ms).uses x.me = .attempt retire ∨
        ∃ o, (r.attempt m again next).2 = [next o] ∧
          (x.afterAll ms).uses x.me = if retire then .invalidate o.isOk else .outside) := by
  have hgo : (x.move .goOn).1 = x.take.2.goTo (Shared.afterAttempt retire x.take.1) := by
    simp [Shared.move, Shared.goOn, hu]
  unfold Rig.attempt
  rw [h.lock, h.current, Option.getD_some]
  rcases x.take_cases with ⟨hl, ht⟩ | ⟨⟨t, hl⟩, ht⟩ | ⟨hl, ht⟩
  · rw [ht] at hgo
    refine ⟨[.goOn], ⟨trivial, trivial⟩, ?_, Or.inr ⟨.ok (), ?_, ?_⟩⟩
    · rw [hl, Shared.afterAll_cons, hgo]
      exact ⟨h.scheduler, (h.set _).lock⟩
    · rw [hl]; rfl
    · rw [Shared.afterAll_cons, hgo]; exact Function.update_self _ _ _
  · -- the failed attempt, the pass and, if it picks a task, the trap
    rw [ht] at hgo
    let y := (x.goTo (.again retire)).goTo (.attempt retire)
    let p := Kernel.yield x.scheduler
    have hagain : ((x.goTo (.again retire)).move .goOn).1 = { y with scheduler := p.scheduler } := by
      simp [Shared.move, Shared.goOn, Shared.goTo, Shared.me, y, p]
    have hpass : (x.afterAll [.goOn, .goOn]) = { y with scheduler := p.scheduler } := by
      rw [Shared.afterAll_cons, hgo]; exact hagain
    have huse : y.uses x.me = .attempt retire := Function.update_self _ _ _
    have hswitch : (r.switchBy Kernel.yield).scheduler =
        if p.pick.isSome then Kernel.switchNow p.scheduler else p.scheduler := by
      rw [Rig.switchBy, h.scheduler]
    rw [hl]
    by_cases hp : p.pick.isSome
    · refine ⟨[.goOn, .goOn] ++ [.event (.commit p.scheduler.currentTask.sp)], ?_, ?_, Or.inl ⟨rfl, ?_⟩⟩
      · exact Shared.allowsAll_append.2 ⟨⟨trivial, trivial, trivial⟩, ⟨trivial, trivial⟩, trivial⟩
      · rw [Shared.afterAll_append, hpass]
        exact ⟨hswitch.trans (if_pos hp), h.lock⟩
      · rw [Shared.afterAll_append, hpass]; exact huse
    · refine ⟨[.goOn, .goOn], ⟨trivial, trivial, trivial⟩, ?_, Or.inl ⟨rfl, ?_⟩⟩
      · rw [hpass]
        exact ⟨hswitch.trans (if_neg hp), h.lock⟩
      · rw [hpass]; exact huse
  · rw [ht] at hgo
    refine ⟨[.goOn], ⟨trivial, trivial⟩, ?_, Or.inr ⟨.error .parameter, ?_, ?_⟩⟩
    · rw [hl, Shared.afterAll_cons, hgo]
      exact ⟨h.scheduler, h.lock⟩
    · rw [hl]; rfl
    · rw [Shared.afterAll_cons, hgo]; exact Function.update_self _ _ _

theorem invalidate (h : r.Shares m x) {own : Bool} (hu : x.uses x.me = .invalidate own)
    (site : Site) :
    (r.step (.invalidate site m)).1.Shares m (x.move .goOn).1 ∧
      (x.move .goOn).1.uses x.me = .outside := by
  have hgo : (x.move .goOn).1 = { x with lock := x.lock.invalidate }.goTo .outside := by
    simp [Shared.move, Shared.goOn, hu]
  rw [hgo]
  refine ⟨⟨h.scheduler, ?_⟩, Function.update_self _ _ _⟩
  show (r.locks.modify m Lock.invalidate)[m]? = _
  rw [Array.getElem?_modify, if_pos rfl, h.lock]; rfl

end Script.Rig.Shares

namespace Shared

/-- **Mutual exclusion.**  Tasks share a lock that is free at first.  They try to take it, wait for
    it, give it back and take it out of use, one call at a time; between any two critical sections
    of these calls other tasks may get the processor, tick interrupts and traps may come, and tasks
    may sleep, end or be made.  At any time the tasks that took the lock and did not give it back
    are the one that the lock names, or none.  While it is held no attempt works, and whoever is not
    its owner fails to give it back and changes nothing.  It leaves its owner only when the owner
    gives it back, or takes it out of use in a call for which it took it; no task takes it out of
    use under another one.  A task that ends with the lock has it for ever.  Out of use, the lock
    stays so and every call is refused. -/
theorem mutual_exclusion {s : Scheduler β} (hs : Underway s) (ms : List (Move β))
    (hms : (start s).allowsAll ms) :
    let now := (start s).afterAll ms
    (start s).holders [] ms = now.lock.owner.toList ∧
    (∀ t m o, now.lock = .held t → (now.move m).2 = some (.take o) → o = .error .busy) ∧
    (now.lock ≠ .held now.me → now.move (.call .unlock) =
      (now, some (.give (.error (if now.lock = .invalid then .parameter else .notOwner))))) ∧
    (∀ t m, now.lock = .held t → now.allows m → (now.move m).1.lock ≠ .held t →
      now.me = t ∧ (m = .call .unlock ∧ (now.move m).1.lock = .free ∨
        m = .goOn ∧ now.uses t = .invalidate true ∧ (now.move m).1.lock = .invalid)) ∧
    (∀ own, now.uses now.me = .invalidate own →
      now.lock = if own then .held now.me else .invalid) ∧
    (∀ before later t, ms = before ++ .event .exit :: later →
      ((start s).afterAll before).me = t → ((start s).afterAll before).lock = .held t →
      now.lock = .held t) ∧
    (∀ before later, ms = before ++ later →
      ((start s).afterAll before).lock = .invalid → now.lock = .invalid) ∧
    (now.lock = .invalid →
      (now.uses now.me = .outside →
        now.returned (.call .tryLock) = some (.error .parameter) ∧
        now.returned (.call .unlock) = some (.error .parameter)) ∧
      (now.uses now.me = .attempt false → now.returned .goOn = some (.error .parameter))) := by
  intro now
  have hstart := guarded_start hs
  have hnow : now.Guarded := hstart.afterAll hms
  refine ⟨holders_eq hstart hms, ?_, ?_, ?_, fun own => hnow.retiring _ own, ?_, ?_, ?_⟩
  · intro t m o hl hd
    exact busy_of_held hl hd
  · intro hne
    rcases give_cases now with ⟨hh, -⟩ | ⟨-, hv, hg⟩ | ⟨hv, hg⟩
    · exact absurd hh hne
    · simp [move, hg, hv]
    · simp [move, hg, hv]
  · intro t m hl ha hne
    cases hnow.hands m with
    | same hs => exact absurd (hs.trans hl) hne
    | taken hf => rw [hl] at hf; cases hf
    | given hh hf hm =>
      obtain rfl := Lock.held.inj (hl.symm.trans hh)
      exact ⟨rfl, Or.inl ⟨hm, hf⟩⟩
    | retired hh hv hm hu =>
      obtain rfl := Lock.held.inj (hl.symm.trans hh)
      exact ⟨rfl, Or.inr ⟨hm, hu, hv⟩⟩
  · rintro before later t rfl rfl hl
    obtain ⟨hbefore, ha, hlater⟩ := allowsAll_append.1 hms
    have hg := (hstart.afterAll hbefore).move ha
    have hstuck : (((start s).afterAll before).move (.event .exit)).1.Stuck
        ((start s).afterAll before).me := ⟨hl, Function.update_self _ _ _⟩
    have := (stuck_afterAll hg hlater hstuck).1
    rwa [← afterAll_cons, ← afterAll_append] at this
  · rintro before later rfl hl
    obtain ⟨hbefore, hlater⟩ := allowsAll_append.1 hms
    have := invalid_afterAll (hstart.afterAll hbefore) hlater hl
    rwa [← afterAll_append] at this
  · intro hv
    obtain ⟨ht, hg⟩ := take_of_invalid hv
    refine ⟨fun hu => ⟨?_, ?_⟩, fun hu => ?_⟩
    · simp [returned, move, ht, hu, Deed.outcome]
    · simp [returned, move, hg, hu, Deed.outcome]
    · simp [returned, move, goOn, goTo, ht, hu, afterAttempt, Deed.outcome]

/-- Task 1 takes the lock, and the idle task tries to give it back. -/
theorem mutual_exclusion_twoTasks :
    let ms := [.call .tryLock, .event (.pass .clock), .event (.commit 0x20003180)]
    let now := (start Scheduler.oneRunning).afterAll ms
    (start Scheduler.oneRunning).holders [] ms = [1] ∧
      now.move (.call .unlock) = (now, some (.give (.error .notOwner))) := by
  intro ms now
  have hms : (start Scheduler.oneRunning).allowsAll ms :=
    ⟨rfl, ⟨trivial, trivial⟩, ⟨trivial, trivial⟩, trivial⟩
  obtain ⟨hholders, -, hunlock, -⟩ := mutual_exclusion Scheduler.underway_oneRunning ms hms
  have hlock : now.lock = .held 1 := by decide +kernel
  have hme : now.me = 0 := by decide +kernel
  refine ⟨?_, ?_⟩
  · rw [hholders, hlock]; rfl
  · rw [hunlock (by rw [hlock, hme]; decide), if_neg (by rw [hlock]; decide)]

end Shared

end Carousel
