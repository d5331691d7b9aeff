/-
  Carousel — how long a task sleeps.

  * `hardwareTicks`: the hardware ticks among events;
  * `Asleep`: a task sleeps, and the hardware ticks that it has still to sleep;
  * `Asleep.after`, `Asleep.tick` and `Asleep.wakes`: nothing but a hardware tick takes one of
    them off, and the last one wakes the task;
  * `sleep_exact`: so a sleep takes the ticks that were asked for, and at least one.
-/
import Carousel.Proofs.Scheduler.Handover
import Carousel.Proofs.Scheduler.Stacks

namespace Carousel

variable {β : Type}

/-- The event is a hardware tick. -/
def Event.isTick : Event β → Bool
  | .pass .clock => true
  | _ => false

/-- The hardware ticks among events. -/
def hardwareTicks (es : List (Event β)) : Nat := es.countP Event.isTick

theorem Event.eq_of_isTick {e : Event β} (h : e.isTick) : e = .pass .clock := by
  rcases e with _ | (_ | _) | _ | _ | _
  · cases h
  · rfl
  all_goals cases h

namespace Scheduler

variable {s : Scheduler β} {t : TaskId} {left limit : Nat}

/-! ## One pass -/

/-- A pass charges a task that neither waits for its first run nor is done, and no more. -/
theorem task_pass_of_charged {trigger : Trigger}
    (hc : (chargeOne trigger (s.task t)).status ≠ .created)
    (hx : (chargeOne trigger (s.task t)).status ≠ .exited) :
    (s.pass trigger).scheduler.task t = chargeOne trigger (s.task t) := by
  rw [task_pass]
  dsimp only
  split_ifs
  · rfl
  · rw [strike, if_neg hx]
  · rfl

theorem ticks_expireOne {r : Record β} (h : r.status = .waiting) :
    (expireOne r).ticks.toNat = r.ticks.toNat - 1 ∧
      (expireOne r).status = if r.ticks.toNat ≤ 1 then .running else .waiting := by
  have hz : (0 : UInt16).toNat = 0 := rfl
  have hone : (1 : UInt16).toNat = 1 := rfl
  rw [expireOne, if_pos h]
  dsimp only
  by_cases h0 : r.ticks = 0
  · simp [h0]
  · have hpos : 0 < r.ticks.toNat := Nat.pos_of_ne_zero fun he => h0 (UInt16.toNat_inj.1 he)
    have hsub : (r.ticks - 1).toNat = r.ticks.toNat - 1 :=
      UInt16.toNat_sub_of_le _ _ (by rw [UInt16.le_iff_toNat_le]; omega)
    rw [if_neg h0]
    refine ⟨hsub, if_congr ?_ rfl rfl⟩
    rw [← UInt16.toNat_inj, hsub, hz]
    omega

/-! ## A sleeping task -/

/-- The task sleeps, and has `left` hardware ticks to go. -/
structure Asleep (s : Scheduler β) (t : TaskId) (left : Nat) : Prop where
  status : (s.task t).status = .waiting
  left : max (s.task t).ticks.toNat 1 = left

namespace Asleep

theorem of_same {s' : Scheduler β} (h : s.Asleep t left)
    (hs : (s'.task t).status = (s.task t).status) (ht : (s'.task t).ticks = (s.task t).ticks) :
    s'.Asleep t left :=
  ⟨hs.trans h.status, by rw [ht]; exact h.left⟩

theorem not_runnable (h : s.Asleep t left) : ¬ (s.task t).status.runnable := by
  rw [h.status]; decide

/-- What is pending may run, so a sleeping task is not. -/
theorem not_pending (h : s.Asleep t left) (hs : s.Safe) : s.pending ≠ some t :=
  fun hp => h.not_runnable (hs.pending t hp).2

theorem made (h : s.Asleep t left) (hs : s.Stacked limit) : t.val < s.count := by
  by_contra hn
  have := hs.vacant t (by omega)
  rw [h.status] at this; cases this

/-- Only a task that runs makes calls. -/
theorem ne_current (h : s.Asleep t left) (hr : s.currentTask.status = .running) :
    t ≠ s.current := by
  rintro rfl
  rw [currentTask, h.status] at hr; cases hr

theorem sleepCurrent (s : Scheduler β) (ticks : UInt16) :
    (s.sleepCurrent ticks).Asleep s.current (max ticks.toNat 1) := by
  constructor <;> rw [Scheduler.sleepCurrent, task_update_self]

theorem call (h : s.Asleep t left) : (s.pass .call).scheduler.Asleep t left := by
  have hc : chargeOne .call (s.task t) = s.task t := rfl
  have ht : (s.pass .call).scheduler.task t = chargeOne .call (s.task t) :=
    task_pass_of_charged (by rw [hc, h.status]; nofun) (by rw [hc, h.status]; nofun)
  exact h.of_same (by rw [ht, hc]) (by rw [ht, hc])

theorem task_clock (h : s.Asleep t left) :
    (s.pass .clock).scheduler.task t = expireOne (s.task t) := by
  have hc : chargeOne .clock (s.task t) = expireOne (s.task t) := rfl
  have hst := (ticks_expireOne h.status).2
  refine task_pass_of_charged ?_ ?_ <;> rw [hc, hst] <;> split_ifs <;> nofun

/-- A hardware tick before the last one leaves the task asleep, with one tick less to go. -/
theorem tick (h : s.Asleep t (left + 2)) : (s.pass .clock).scheduler.Asleep t (left + 1) := by
  obtain ⟨ht, hst⟩ := ticks_expireOne h.status
  have := h.left
  constructor
  · rw [h.task_clock, hst, if_neg (by omega)]
  · rw [h.task_clock, ht]; omega

/-- The last one wakes it. -/
theorem wakes (h : s.Asleep t 1) : ((s.pass .clock).scheduler.task t).status = .running := by
  have := h.left
  rw [h.task_clock, (ticks_expireOne h.status).2, if_pos (by omega)]

/-- Nothing but a hardware tick is of account to a sleeping task. -/
theorem after (h : s.Asleep t left) (hs : s.Safe) (hk : s.Stacked limit) {e : Event β}
    (ha : s.allows e) (he : e.isTick = false) : (s.after e).Asleep t left := by
  cases e with
  | spawn body argument size name =>
    have ht : (s.after (.spawn body argument size name)).task t = s.task t :=
      (made_serve_spawn (h.made hk) body argument size name).2
    exact h.of_same (by rw [ht]) (by rw [ht])
  | pass trigger =>
    cases trigger with
    | clock => cases he
    | call => exact h.call
  | sleep ticks =>
    have ht : (s.sleepCurrent ticks).task t = s.task t :=
      task_sleepCurrent_of_ne (h.ne_current ha.2)
    exact (h.of_same (by rw [ht]) (by rw [ht])).call
  | exit =>
    have ht : (s.exit s.current).task t = s.task t := task_exit_of_ne (h.ne_current ha.2)
    exact h.of_same (by rw [Scheduler.after, ht]) (by rw [Scheduler.after, ht])
  | commit sp =>
    -- the trap parks the current task, which may be the sleeper itself
    have ht := task_commit s sp t
    dsimp only at ht
    rw [if_neg (h.not_pending hs)] at ht
    refine h.of_same ?_ ?_ <;> rw [Scheduler.after, ht] <;> split_ifs <;> rfl

/-- A sleeping task that has left the processor does not get it back. -/
theorem away (h : s.Asleep t left) (hs : s.Safe) (hc : s.current ≠ t) (e : Event β) :
    (s.after e).current ≠ t := by
  cases e with
  | commit sp =>
    rw [Scheduler.after, commit_rest]
    intro ht
    cases hp : s.pending with
    | none => simp [hp] at ht; exact hc ht
    | some p => simp [hp] at ht; exact h.not_pending hs (ht ▸ hp)
  | spawn body argument size name => rw [current_after s (e := .spawn ..) trivial]; exact hc
  | pass trigger => rw [current_after s (e := .pass trigger) trivial]; exact hc
  | sleep ticks => rw [current_after s (e := .sleep ticks) trivial]; exact hc
  | exit => rw [current_after s (e := .exit) trivial]; exact hc

/-! ## All runs -/

/-- **Before its last tick a task sleeps on, whatever else happens, and is not given the
    processor once it has left it.** -/
theorem afterAll (h : s.Asleep t left) (hu : Underway s) {es : List (Event β)}
    (hes : s.allowsAll es) (hlt : hardwareTicks es < left) :
    (s.afterAll es).Asleep t (left - hardwareTicks es) ∧
      (s.current ≠ t → (s.afterAll es).current ≠ t) := by
  induction es generalizing s left with
  | nil => exact ⟨h, id⟩
  | cons e es ih =>
    have hs := safe_of_underway hu
    obtain ⟨limit, hk⟩ := exists_stacked hu
    have hu' := hu.step hes.1
    have haway := fun hc => h.away hs hc e
    cases he : e.isTick with
    | true =>
      have hn : hardwareTicks (e :: es) = hardwareTicks es + 1 := List.countP_cons_of_pos he
      rw [hn] at hlt ⊢
      obtain rfl := Event.eq_of_isTick he
      obtain ⟨k, rfl⟩ : ∃ k, left = k + 2 := ⟨left - 2, by omega⟩
      obtain ⟨h₁, h₂⟩ := ih h.tick hu' hes.2 (by omega)
      rw [show k + 2 - (hardwareTicks es + 1) = k + 1 - hardwareTicks es by omega]
      exact ⟨h₁, fun hc => h₂ (haway hc)⟩
    | false =>
      have hn : hardwareTicks (e :: es) = hardwareTicks es :=
        List.countP_cons_of_neg (by simp [he])
      rw [hn] at hlt ⊢
      obtain ⟨h₁, h₂⟩ := ih (h.after hs hk hes.1 he) hu' hes.2 hlt
      exact ⟨h₁, fun hc => h₂ (haway hc)⟩

end Asleep

/-- **A sleep takes exactly the ticks that were asked for, and at least one.**  A task goes to
    sleep.  Afterwards passes of both kinds, traps, new tasks and calls of other tasks come in any
    order.  The task sleeps as long as fewer hardware ticks have come than it asked for, or none if
    it asked for none; the next one after that wakes it.  Once it has left the processor it does
    not get it back before. -/
theorem sleep_exact (h : Underway s) {ticks : UInt16} (ha : s.allows (.sleep ticks))
    {es : List (Event β)} (hes : (s.after (.sleep ticks)).allowsAll es) :
    let asleep := s.after (.sleep ticks)
    (hardwareTicks es < max ticks.toNat 1 →
      ((asleep.afterAll es).task s.current).status = .waiting) ∧
    (hardwareTicks es + 1 = max ticks.toNat 1 →
      (((asleep.afterAll es).after (.pass .clock)).task s.current).status = .running) ∧
    ∀ before later, es = before ++ later → (asleep.afterAll before).current ≠ s.current →
      hardwareTicks es < max ticks.toNat 1 → (asleep.afterAll es).current ≠ s.current := by
  intro asleep
  have hu : Underway asleep := h.step ha
  have hsleep : asleep.Asleep s.current (max ticks.toNat 1) := (Asleep.sleepCurrent s ticks).call
  refine ⟨fun hlt => (hsleep.afterAll hu hes hlt).1.status, fun hn => ?_, ?_⟩
  · have hlast := (hsleep.afterAll hu hes (by omega)).1
    rw [show max ticks.toNat 1 - hardwareTicks es = 1 by omega] at hlast
    exact hlast.wakes
  · rintro before later rfl hc hlt
    rw [hardwareTicks, List.countP_append] at hlt
    obtain ⟨hbefore, hlater⟩ := allowsAll_append.1 hes
    have hmid := (hsleep.afterAll hu hbefore (by rw [hardwareTicks]; omega)).1
    rw [afterAll_append]
    refine (hmid.afterAll (underway_afterAll hu hbefore) hlater ?_).2 hc
    simp only [hardwareTicks]; omega

/-- Task 1, which runs beside the idle task. -/
def oneRunning : Scheduler Unit :=
  let s := (blank.restart (.spanning 0x20000400 poolSize) .none () idleStackSize).2
  ((s.after (.spawn () 0 256 none)).after (.pass .call)).after (.commit 0x20003200)

theorem underway_oneRunning : Underway oneRunning := by
  have h₀ : (blank.restart (.spanning 0x20000400 poolSize) .none () idleStackSize).1 =
      .ok idleTask := by decide +kernel
  have h₁ := (Underway.restart h₀).step (e := .spawn () 0 256 none) trivial
  exact (h₁.step (e := .pass .call) trivial).step (e := .commit 0x20003200) trivial

/-- It sleeps for two ticks.  The first one comes before its trap. -/
theorem sleep_exact_oneRunning :
    let asleep := oneRunning.after (.sleep 2)
    let es := [.pass .clock, .commit 0x20003180, .pass .call]
    ((asleep.afterAll es).task 1).status = .waiting ∧
      (((asleep.afterAll es).after (.pass .clock)).task 1).status = .running ∧
      (asleep.afterAll [.pass .clock, .commit 0x20003180]).current ≠ 1 ∧
      (asleep.afterAll es).current ≠ 1 := by
  intro asleep es
  have ha : oneRunning.allows (.sleep 2) := by decide +kernel
  have hes : asleep.allowsAll es := ⟨trivial, trivial, trivial, trivial⟩
  obtain ⟨hwaits, hwakes, haway⟩ := sleep_exact underway_oneRunning ha hes
  have hc : oneRunning.current = 1 := by decide +kernel
  rw [hc] at hwaits hwakes haway
  have hleft : (asleep.afterAll [.pass .clock, .commit 0x20003180]).current ≠ 1 := by
    decide +kernel
  exact ⟨hwaits (by decide), hwakes (by decide), hleft, haway _ [.pass .call] rfl hleft (by decide)⟩

end Scheduler

end Carousel
