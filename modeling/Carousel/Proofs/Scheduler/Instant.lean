/-
  Carousel — when a sleeping task wakes, by the clock.

  * `Timed` and `Timely`: events at instants, where hardware tick `k` comes `k` periods after the
    start and everything else comes at any instant in between;
  * `runnableAt`: the instant at which a task is able to run again;
  * `toNat_ticksFor`: milliseconds are rounded up to whole ticks;
  * `Asleep.runnableAt_eq`: a task that sleeps for some ticks wakes at the last one of them;
  * `long_enough_iff`: the ticks are counted from the last one before the call, so a sleep of some
    milliseconds lasts that long only if what the call comes later than that tick is made up for
    by rounding up.
-/
import Mathlib.Data.Real.Basic
import Mathlib.Tactic.Linarith
import Mathlib.Tactic.NormNum
import Mathlib.Tactic.Ring
import Carousel.Proofs.Scheduler.Sleep

namespace Carousel

variable {β : Type}

/-! ## Instants -/

/-- An event, and the instant at which it comes, in milliseconds. -/
structure Timed (β : Type) where
  instant : ℝ
  event : Event β

/-- The instant of hardware tick `k`. -/
noncomputable def tickInstant (k : ℕ) : ℝ := k * (tickPeriodMs.toNat : ℝ)

/-- The events come one after another from the instant `now` on, when `k` hardware ticks have
    come.  The next tick comes at its own instant, and nothing is put off beyond that. -/
def Timely : ℕ → ℝ → List (Timed β) → Prop
  | _, _, [] => True
  | k, now, e :: es =>
    now ≤ e.instant ∧
      if e.event.isTick then e.instant = tickInstant (k + 1) ∧ Timely (k + 1) e.instant es
      else e.instant ≤ tickInstant (k + 1) ∧ Timely k e.instant es

theorem tickInstant_add (k n : ℕ) :
    tickInstant (k + n) = tickInstant k + n * (tickPeriodMs.toNat : ℝ) := by
  unfold tickInstant
  push_cast
  ring

/-- What comes after some events finds the ticks among them counted. -/
theorem Timely.drop {k : ℕ} {now : ℝ} {a b : List (Timed β)} (h : Timely k now (a ++ b)) :
    ∃ now', Timely (k + hardwareTicks (a.map (·.event))) now' b ∧
      (tickInstant k ≤ now → tickInstant (k + hardwareTicks (a.map (·.event))) ≤ now') := by
  induction a generalizing k now with
  | nil => exact ⟨now, h, id⟩
  | cons e a ih =>
    obtain ⟨hle, h⟩ := h
    cases he : e.event.isTick with
    | true =>
      rw [he, if_pos rfl] at h
      obtain ⟨now', htimely, hnow⟩ := ih h.2
      have hn : hardwareTicks ((e :: a).map (·.event)) = hardwareTicks (a.map (·.event)) + 1 :=
        List.countP_cons_of_pos he
      rw [hn, show ∀ n, k + (n + 1) = k + 1 + n by omega]
      exact ⟨now', htimely, fun _ => hnow h.1.ge⟩
    | false =>
      rw [he, if_neg nofun] at h
      obtain ⟨now', htimely, hnow⟩ := ih h.2
      have hn : hardwareTicks ((e :: a).map (·.event)) = hardwareTicks (a.map (·.event)) :=
        List.countP_cons_of_neg (by simp [he])
      rw [hn]
      exact ⟨now', htimely, fun hk => hnow (hk.trans hle)⟩

/-! ## Milliseconds in ticks -/

/-- The ticks of a sleep: the milliseconds in ticks, rounded up, and at least one. -/
theorem toNat_ticksFor (ms : UInt16) :
    (Clock.ticksFor ms).toNat =
      max ((ms.toNat + (tickPeriodMs.toNat - 1)) / tickPeriodMs.toNat) 1 := by
  have hperiod : tickPeriodMs.toNat = 10 := by decide
  have hlt : ms.toNat < 65536 := ms.toNat_lt
  rw [hperiod]
  unfold Clock.ticksFor
  -- the rounded quotient, as a number
  have hround : (ms.toUInt32 / tickPeriodMs +
      if ms.toUInt32 % tickPeriodMs = 0 then 0 else 1).toNat = (ms.toNat + 9) / 10 := by
    have hrest : ms.toUInt32 % tickPeriodMs = 0 ↔ ms.toNat % 10 = 0 := by
      rw [← UInt32.toNat_inj, UInt32.toNat_mod, UInt16.toNat_toUInt32, hperiod]; rfl
    rw [UInt32.toNat_add, UInt32.toNat_div, UInt16.toNat_toUInt32, hperiod, if_congr hrest rfl rfl]
    split_ifs
    · rw [show (0 : UInt32).toNat = 0 from rfl]; omega
    · rw [show (1 : UInt32).toNat = 1 from rfl]; omega
  generalize ms.toUInt32 / tickPeriodMs +
    (if ms.toUInt32 % tickPeriodMs = 0 then 0 else 1) = ticks at hround
  dsimp only
  split_ifs with h₀ hbig
  · rw [h₀] at hround
    rw [show (1 : UInt16).toNat = 1 from rfl, ← hround]; rfl
  · rw [UInt32.lt_iff_toNat_lt, hround] at hbig
    change 65535 < _ at hbig
    omega
  · have hne : ticks.toNat ≠ 0 := fun he => h₀ (UInt32.toNat_inj.1 he)
    rw [UInt32.toNat_toUInt16, hround]
    omega

namespace Scheduler

variable {s : Scheduler β} {t : TaskId}

/-- The instant of the first event after which the task is able to run. -/
def runnableAt (t : TaskId) : Scheduler β → List (Timed β) → Option ℝ
  | _, [] => none
  | s, e :: es =>
    if ((s.after e.event).task t).status.runnable then some e.instant
    else runnableAt t (s.after e.event) es

/-- A task that sleeps for some ticks wakes at the last one of them, and not before. -/
theorem Asleep.runnableAt_eq {left k : ℕ} {now : ℝ} {es : List (Timed β)}
    (h : s.Asleep t left) (hu : Underway s) (ha : s.allowsAll (es.map (·.event)))
    (hes : Timely k now es) :
    runnableAt t s es =
      if left ≤ hardwareTicks (es.map (·.event)) then some (tickInstant (k + left)) else none := by
  have hpos : 1 ≤ left := h.left ▸ le_max_right _ _
  induction es generalizing s left k now with
  | nil => rw [if_neg (by simp [hardwareTicks]; omega), runnableAt]
  | cons e es ih =>
    obtain ⟨-, hes⟩ := hes
    have hu' := hu.step ha.1
    cases he : e.event.isTick with
    | true =>
      rw [he, if_pos rfl] at hes
      have hn : hardwareTicks ((e :: es).map (·.event)) = hardwareTicks (es.map (·.event)) + 1 :=
        List.countP_cons_of_pos he
      have hclock := Event.eq_of_isTick he
      rw [hn, runnableAt]
      obtain rfl | ⟨n, rfl⟩ : left = 1 ∨ ∃ n, left = n + 2 := by
        rcases left with _ | _ | n
        · omega
        · exact .inl rfl
        · exact .inr ⟨n, rfl⟩
      · have hwakes : ((s.after e.event).task t).status = .running := by
          rw [hclock]; exact h.wakes
        rw [if_pos (by rw [hwakes]; rfl), if_pos (by omega), hes.1]
      · have hmore : (s.after e.event).Asleep t (n + 1) := by rw [hclock]; exact h.tick
        rw [if_neg hmore.not_runnable, ih hmore hu' ha.2 hes.2 (by omega)]
        rw [show k + 1 + (n + 1) = k + (n + 2) by omega]
        exact if_congr (by omega) rfl rfl
    | false =>
      rw [he, if_neg Bool.false_ne_true] at hes
      have hn : hardwareTicks ((e :: es).map (·.event)) = hardwareTicks (es.map (·.event)) :=
        List.countP_cons_of_neg (by simp [he])
      obtain ⟨limit, hk⟩ := exists_stacked hu
      have hsame := h.after (safe_of_underway hu) hk ha.1 he
      rw [hn, runnableAt, if_neg hsame.not_runnable, ih hsame hu' ha.2 hes.2 hpos]

/-- **A sleep of some milliseconds is long enough only if rounding up makes up for its late
    start.**  Hardware tick `k` comes `k` periods after the start.  In any run the current task,
    which is not the idle one, asks at the instant `call` to sleep for `ms` milliseconds.  The
    ticks of its sleep are counted from the last tick before the call, and not from the call: the
    task is able to run again exactly when that many have come.  This is not before `call + ms`
    exactly if the call comes no later after that last tick than rounding up has added.  It is
    never more than one period too soon. -/
theorem long_enough_iff (h : Underway s) {before later : List (Timed β)} {ms : UInt16} {call : ℝ}
    (hr : Timely 0 0 (before ++ ⟨call, .sleep (Clock.ticksFor ms)⟩ :: later))
    (ha : s.allowsAll
      ((before ++ ⟨call, .sleep (Clock.ticksFor ms)⟩ :: later).map (·.event))) :
    let caller := s.afterAll (before.map (·.event))
    let asleep := (Kernel.sleepMs caller ms).scheduler
    let period := tickPeriodMs.toNat
    let ticks := max ((ms.toNat + (period - 1)) / period) 1
    let last := tickInstant (hardwareTicks (before.map (·.event)))
    runnableAt caller.current asleep later =
        (if ticks ≤ hardwareTicks (later.map (·.event)) then some (last + ticks * period)
         else none) ∧
      ∀ wake, runnableAt caller.current asleep later = some wake →
        (call + ms.toNat ≤ wake ↔ call - last ≤ ticks * period - ms.toNat) ∧
          call + ms.toNat ≤ wake + period := by
  intro caller asleep period ticks last
  simp only [List.map_append, List.map_cons] at ha
  obtain ⟨hbefore, hcall, hlater⟩ := allowsAll_append.1 ha
  obtain ⟨now, ⟨hnow, hcut⟩, hlast⟩ := hr.drop
  rw [if_neg nofun, Nat.zero_add] at hcut
  rw [Nat.zero_add] at hlast
  have hu : Underway caller := underway_afterAll h hbefore
  have hsleeps : asleep.Asleep caller.current ticks := by
    have := (Asleep.sleepCurrent caller (Clock.ticksFor ms)).call
    rwa [toNat_ticksFor, max_assoc, max_self] at this
  have hwake := hsleeps.runnableAt_eq (hu.step hcall) hlater hcut.2
  rw [tickInstant_add] at hwake
  refine ⟨hwake, fun wake hw => ?_⟩
  rw [hwake] at hw
  split_ifs at hw
  obtain rfl := Option.some.inj hw
  have hnext : call ≤ last + period := by
    have := hcut.1
    rwa [tickInstant_add, Nat.cast_one, one_mul] at this
  -- rounding up does not lose milliseconds
  have hup : (ms.toNat : ℝ) ≤ ticks * period := by
    have hperiod : period = 10 := by decide
    have : ms.toNat ≤ ticks * period := by
      rw [hperiod]
      have : ticks = max ((ms.toNat + (10 - 1)) / 10) 1 := by rw [← hperiod]
      omega
    exact_mod_cast this
  constructor
  · constructor <;> intro <;> linarith
  · linarith

/-- Task 1 asks for 13 milliseconds at instant 5 and gets two ticks, the second one at 20. -/
theorem long_enough_iff_roundedUp :
    let later : List (Timed Unit) :=
      [⟨6, .commit 0x20003180⟩, ⟨10, .pass .clock⟩, ⟨12, .pass .call⟩, ⟨20, .pass .clock⟩]
    let run := ⟨5, .sleep (Clock.ticksFor 13)⟩ :: later
    Timely 0 0 run ∧ oneRunning.allowsAll (run.map (·.event)) ∧
      runnableAt 1 (Kernel.sleepMs oneRunning 13).scheduler later = some 20 ∧
        (5 : ℝ) + (13 : UInt16).toNat ≤ 20 := by
  intro later run
  have hperiod : tickPeriodMs.toNat = 10 := by decide
  have hr : Timely 0 0 ([] ++ run) := by
    simp only [List.nil_append, run, later, Timely, Event.isTick, tickInstant, hperiod]
    norm_num
  have ha : oneRunning.allowsAll (([] ++ run).map Timed.event) :=
    ⟨by decide +kernel, trivial, trivial, trivial, trivial, trivial⟩
  obtain ⟨hwake, hlong⟩ := long_enough_iff underway_oneRunning hr ha
  have hcaller : (oneRunning.afterAll (([] : List (Timed Unit)).map (·.event))).current = 1 := by
    decide +kernel
  have hlast : tickInstant (hardwareTicks (([] : List (Timed Unit)).map (·.event))) = 0 := by
    simp [tickInstant, hardwareTicks]
  have hticks :
      max (((13 : UInt16).toNat + (tickPeriodMs.toNat - 1)) / tickPeriodMs.toNat) 1 = 2 := by
    decide
  rw [hcaller, hlast, hticks, hperiod, if_pos (by decide)] at hwake
  rw [hcaller, hlast, hticks, hperiod, show (13 : UInt16).toNat = 13 from rfl] at hlong
  have hphase : (5 : ℝ) - 0 ≤ (2 : ℕ) * (10 : ℕ) - (13 : ℕ) := by norm_num
  have hwake' : (0 : ℝ) + (2 : ℕ) * (10 : ℕ) = 20 := by norm_num
  rw [hwake'] at hwake
  exact ⟨hr, ha, hwake, ((hlong 20 hwake).1).2 hphase⟩

/-- **A task can wake too soon.**  Task 1 asks for 10 milliseconds at instant 5.  It gets one tick,
    the one at instant 10. -/
theorem woken_too_soon :
    let later : List (Timed Unit) := [⟨5, .commit 0x20003180⟩, ⟨10, .pass .clock⟩]
    let run := ⟨5, .sleep (Clock.ticksFor 10)⟩ :: later
    Underway oneRunning ∧ Timely 0 0 run ∧ oneRunning.allowsAll (run.map (·.event)) ∧
      runnableAt 1 (Kernel.sleepMs oneRunning 10).scheduler later = some 10 ∧
        (10 : ℝ) < 5 + (10 : UInt16).toNat := by
  intro later run
  have hperiod : tickPeriodMs.toNat = 10 := by decide
  refine ⟨underway_oneRunning, ?_, ⟨by decide +kernel, trivial, trivial, trivial⟩, ?_, ?_⟩
  · simp only [run, later, Timely, Event.isTick, tickInstant, hperiod]
    norm_num
  · rw [runnableAt, if_neg (by decide +kernel), runnableAt, if_pos (by decide +kernel)]
  · rw [show (10 : UInt16).toNat = 10 from rfl]
    norm_num

end Scheduler

end Carousel
