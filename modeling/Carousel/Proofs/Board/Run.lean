/-
  Carousel — tasks find their registers again.

  * `Step`: code of the current task, its kernel calls, and exceptions between its instructions;
  * `Running`: a sound board in the code of a task, which every step keeps;
  * `Interrupt.hasContext`, `Step.hasContext`: what a step does to the contexts of all tasks;
  * `Running.run_yield`, `Running.run_sleep`, `run_create`: the kernel's calls are made of steps;
  * `context_preserved`: a task that is switched out goes on just where it was.
-/
import Carousel.Proofs.Board.Launch
import Mathlib.Logic.Relation

namespace Carousel.Board

open Cpu Stack Relation

variable {β κ : Type}

/-! ## Steps -/

/-- What code of the current task may do: anything but change the scheduler, choose another stack,
    or write on the stack of another task. -/
structure OwnCode (b b' : Board β κ) : Prop where
  scheduler : b'.scheduler = b.scheduler
  msp : b'.cpu.msp = b.cpu.msp
  control : b'.cpu.control = b.cpu.control
  handling : b'.cpu.handling = b.cpu.handling
  memory : ∀ i : TaskId, i.val < b.scheduler.count → i ≠ b.scheduler.current →
    b'.memory.AgreeOn b.memory (b.scheduler.task i).floor (b.scheduler.task i).top.toNat

/-- Exceptions are let through. -/
def Interruptible (b : Board β κ) : Prop := b.cpu.primask &&& 1 = 0

instance (b : Board β κ) : Decidable b.Interruptible := inferInstanceAs (Decidable (_ = _))

/-- An exception that interrupts the current task, with all that is done before a task goes on. -/
inductive Interrupt : Board β κ → Board β κ → Prop
  | tick {b : Board β κ} : b.Interruptible → b.Room → Interrupt b b.sysTick
  | trap {b : Board β κ} : b.Interruptible → b.Room → Interrupt b b.enter.takeTrap

/-- One step of a board on which tasks run. -/
inductive Step : Board β κ → Board β κ → Prop
  | code {b b' : Board β κ} : b.OwnCode b' → Step b b'
  | call {b : Board β κ} {e : Carousel.Event β} : e.isCall → Step b (b.call e)
  | interrupt {b b' : Board β κ} : Interrupt b b' → Step b b'

/-- Steps that leave the processor with tasks other than `i`. -/
def StepAway (i : TaskId) (b b' : Board β κ) : Prop := Step b b' ∧ b'.scheduler.current ≠ i

/-! ## What steps keep -/

/-- A sound board in the code of a task. -/
structure Running (b : Board β κ) : Prop where
  sound : b.Sound
  thread : b.cpu.handling = false

section
variable {b b' : Board β κ} {C : Context} {i : TaskId}

theorem cpu_call (b : Board β κ) (e : Carousel.Event β) : (b.call e).cpu = b.cpu := rfl

theorem scheduler_call (b : Board β κ) (e : Carousel.Event β) :
    (b.call e).scheduler = b.scheduler.after e := rfl

theorem Running.onTaskStack (h : b.Running) : b.cpu.onTaskStack = true :=
  onTaskStack_of h.thread h.sound.control

theorem Interrupt.room (h : Interrupt b b') : b.Room := by
  cases h with
  | tick _ hr => exact hr
  | trap _ hr => exact hr

theorem cpu_switchBy (h : b.cpu.handling = true) (pass : Scheduler β → Pass β) :
    (b.switchBy pass).cpu = b.cpu := by
  obtain ⟨events, hb⟩ := switchBy_of_handling h pass
  rw [hb]

/-- An exception ends in the code of a task, and with the main stack as it was. -/
theorem Interrupt.running (hi : Interrupt b b') (h : b.Running) :
    b'.Running ∧ b'.cpu.special = b.cpu.special := by
  have he := h.sound.enter h.thread hi.room
  have hb : b.enter.cpu.special = b.cpu.special := by rw [enter_eq h.onTaskStack]; rfl
  cases hi with
  | tick =>
    obtain ⟨hs, hh, hspecial⟩ := he.tick.finish
    rw [cpu_switchBy he.entered.handling] at hspecial
    exact ⟨⟨hs, hh⟩, hspecial.trans hb⟩
  | trap =>
    obtain ⟨hs, hh, hspecial⟩ := he.takeTrap
    exact ⟨⟨hs, hh⟩, hspecial.trans hb⟩

/-- What the trap makes of the scheduler, and where it leaves the stack pointer. -/
theorem Running.trap (h : b.Running) (hr : b.Room) :
    let r := b.scheduler.commit (b.cpu.psp - 64).toUInt64
    b.enter.takeTrap.scheduler = r.2 ∧ b.enter.takeTrap.cpu.psp = r.1.toUInt32 + 64 ∧
      b.enter.takeTrap.cpu.special = b.cpu.special := by
  obtain ⟨-, hs, hspecial, -, hpsp, -⟩ := takeTrap_spec (h.sound.enter h.thread hr).entered
  rw [enter_eq h.onTaskStack, psp_sub_sub] at hs hpsp
  rw [enter_eq h.onTaskStack] at hspecial ⊢
  exact ⟨hs, hpsp, hspecial⟩

/-- It gives the processor to the task that a pass has picked. -/
theorem Running.current_trap (h : b.Running) (hr : b.Room) :
    b.enter.takeTrap.scheduler.current = b.scheduler.pending.getD b.scheduler.current := by
  rw [(h.trap hr).1, Scheduler.commit_rest]

/-- **An exception costs no task its context**, not the one that it interrupts, not the one that
    goes on, and no other. -/
theorem Interrupt.hasContext (hi : Interrupt b b') (h : b.Running)
    (hc : b.HasContext b.cpu.context i C) : b'.HasContext b'.cpu.context i C := by
  have he := h.sound.enter h.thread hi.room
  have hc' := hc.enter h.sound h.thread hi.room
  cases hi with
  | tick => exact (hc'.tick he).finish he.tick
  | trap => exact hc'.takeTrap he

theorem Step.running (hs : Step b b') (h : b.Running) : b'.Running := by
  cases hs with
  | code ho =>
    refine ⟨⟨?_, ?_, ?_⟩, ?_⟩
    · rw [ho.control]; exact h.sound.control
    · rw [ho.scheduler, stackLimit_eq ho.msp]; exact h.sound.stacked
    · rw [ho.scheduler]; exact h.sound.current
    · rw [ho.handling]; exact h.thread
  | call he => exact ⟨h.sound.event he rfl rfl, h.thread⟩
  | interrupt hi => exact (hi.running h).1

/-- A step costs no task its context but the one that has the processor. -/
theorem Step.hasContext (hs : Step b b') (h : b.Running) (hi : i ≠ b.scheduler.current)
    (hc : b.HasContext b.cpu.context i C) : b'.HasContext b'.cpu.context i C := by
  cases hs with
  | code ho =>
    have hh := hc.other hi
    rw [← ho.scheduler] at hi
    refine ⟨fun he => absurd he hi, fun _ => ?_⟩
    rw [ho.scheduler] at hi ⊢
    exact hh.of_agreeOn h.sound.stacked stackLimit_le (ho.memory i hh.made hi)
  | @call e he =>
    have hne : i ≠ (b.scheduler.after e).current := by
      rw [Scheduler.current_after _ he]; exact hi
    exact ⟨fun e => absurd e hne, (hc.event h.sound he rfl rfl).other⟩
  | interrupt hint => exact hint.hasContext h hc

/-- Only an exception takes the processor from a task. -/
theorem Step.interrupt_of_ne (hs : Step b b')
    (hne : b'.scheduler.current ≠ b.scheduler.current) : Interrupt b b' := by
  cases hs with
  | code ho => exact absurd (congrArg Scheduler.current ho.scheduler) hne
  | call he => exact absurd (Scheduler.current_after _ he) hne
  | interrupt hi => exact hi

/-! ## The calls of the kernel -/

/-- What a task does to registers of the board and to the record of events is its own affair. -/
theorem step_note (b : Board β κ) (registers : Registers) (events : Array Event) :
    Step b { b with registers := registers, events := events } :=
  .code ⟨rfl, rfl, rfl, rfl, fun _ _ _ => Memory.AgreeOn.refl _ _ _⟩

theorem Room.call (hr : b.Room) (h : b.Running) {e : Carousel.Event β} (he : e.isCall) :
    (b.call e).Room := by
  have hst : (b.call e).scheduler.currentTask.stack = b.scheduler.currentTask.stack := by
    show ((b.scheduler.after e).task (b.scheduler.after e).current).stack = _
    rw [Scheduler.current_after _ he]
    exact Scheduler.stack_after h.sound.current.made _
  refine ⟨?_, ?_⟩
  · rw [Record.floor_eq hst]; exact hr.low
  · rw [Record.top_eq hst]; exact hr.high

/-- A task that asks for the trap has it at once, unless exceptions wait. -/
theorem run_requestTrap (hr : b.Interruptible → b.Room) :
    ReflTransGen Step b b.requestTrap := by
  obtain ⟨events, hb⟩ := drive_requestTrap b
  have hstep := step_note b { b.registers with trapPending := true } events
  unfold requestTrap
  dsimp only
  rw [hb]
  split_ifs with hc
  · have hint : b.Interruptible := by
      rw [Bool.and_eq_true, beq_iff_eq] at hc; exact hc.2
    have hroom := hr hint
    exact (ReflTransGen.single hstep).tail (.interrupt (.trap hint ⟨hroom.low, hroom.high⟩))
  · exact ReflTransGen.single hstep

/-- A pass that a task asks for, with the trap if it picks a task, is a run. -/
theorem Running.run_switchBy (h : b.Running) (hr : b.Interruptible → b.Room)
    {e : Carousel.Event β} (he : e.isCall) {pass : Scheduler β → Pass β}
    (hs : (pass b.scheduler).scheduler = b.scheduler.after e)
    (hm : (pass b.scheduler).stores = b.scheduler.stores e) :
    ReflTransGen Step b (b.switchBy pass) := by
  have hcall : ({ b with
      scheduler := (pass b.scheduler).scheduler
      memory := b.memory.storeAll (pass b.scheduler).stores } : Board β κ) = b.call e := by
    rw [hs, hm]; rfl
  unfold switchBy
  dsimp only
  rw [hcall]
  split_ifs
  · exact ReflTransGen.head (.call he) (run_requestTrap fun hint => (hr hint).call h he)
  · exact ReflTransGen.single (.call he)

theorem Running.run_yield (h : b.Running) (hr : b.Interruptible → b.Room) :
    ReflTransGen Step b (b.switchBy Kernel.yield) :=
  h.run_switchBy hr (e := .pass .call) trivial rfl rfl

theorem Running.run_sleep (h : b.Running) (hr : b.Interruptible → b.Room) (ticks : UInt16) :
    ReflTransGen Step b (b.switchBy (Kernel.sleep · ticks)) :=
  h.run_switchBy hr (e := .sleep ticks) trivial rfl rfl

/-- So is the call that makes a task, refused or not. -/
theorem run_create (b : Board β κ) (body : β) (argument size : UInt64) (name : Option String) :
    ReflTransGen Step b (b.create body argument size name).2 := by
  have hs := scheduler_create b body argument size name
  have hcpu : (b.create body argument size name).2.cpu = b.cpu := rfl
  have hm : (b.create body argument size name).2.memory = b.memory := rfl
  have hcall : Step b (b.call (.spawn body argument size name)) := .call trivial
  refine (ReflTransGen.single hcall).tail (.code ⟨hs, ?_, ?_, ?_, ?_⟩)
  · rw [hcpu]; rfl
  · rw [hcpu]; rfl
  · rw [hcpu]; rfl
  · rw [hm]; exact fun _ _ _ => Memory.AgreeOn.refl _ _ _

/-! ## All runs -/

theorem running_of_run {image : Kernel.Image} {b₀ : Board β κ} (hp : b₀.Prepared image)
    (hr : ReflTransGen Step b₀.start b) : b.Running := by
  induction hr with
  | refl =>
    obtain ⟨hs, hh⟩ := hp.start
    exact ⟨hs, hh⟩
  | tail _ hs ih => exact hs.running ih

/-- While others run, a task keeps the context with which it was switched out. -/
theorem hasContext_of_away (hr : ReflTransGen (StepAway i) b b') (h : b.Running)
    (hi : b.scheduler.current ≠ i) (hc : b.HasContext b.cpu.context i C) :
    b'.Running ∧ b'.scheduler.current ≠ i ∧ b'.HasContext b'.cpu.context i C := by
  induction hr with
  | refl => exact ⟨h, hi, hc⟩
  | tail _ hs ih =>
    obtain ⟨h, hi, hc⟩ := ih
    exact ⟨hs.1.running h, hs.2, hs.1.hasContext h hi.symm hc⟩

theorem hasContext_self (b : Board β κ) :
    b.HasContext b.cpu.context b.scheduler.current b.cpu.context :=
  ⟨fun _ => rfl, fun h => absurd rfl h⟩

end

/-- **A task that is switched out goes on just where it was.**  The board was set up, any number of
    tasks were made, and the first one was launched.  Since then code of tasks, kernel calls,
    ticks and traps have come in any order.  Whenever a step takes the processor from a task, and
    other tasks have it for any number of steps, the task has all its registers again, its stack
    pointer among them, as soon as it has the processor.  No exception changes the main stack
    pointer, nor the registers of a task that keeps the processor; and a trap with nothing pending
    leaves the processor with the task that had it. -/
theorem context_preserved {image : Kernel.Image} {b₀ b : Board β κ} (hp : b₀.Prepared image)
    (hr : ReflTransGen Step b₀.start b) :
    (∀ b₁ b₂ b₃, Step b b₁ → b₁.scheduler.current ≠ b.scheduler.current →
      ReflTransGen (StepAway b.scheduler.current) b₁ b₂ → Step b₂ b₃ →
      b₃.scheduler.current = b.scheduler.current →
      b₃.cpu.onTaskStack = true ∧ b₃.cpu.context = b.cpu.context) ∧
    (∀ b', Interrupt b b' → b'.cpu.msp = b.cpu.msp ∧
      (b'.scheduler.current = b.scheduler.current → b'.cpu.context = b.cpu.context)) ∧
    (b.Interruptible → b.Room → b.scheduler.pending = none →
      b.enter.takeTrap.scheduler.current = b.scheduler.current ∧
        b.enter.takeTrap.cpu.context = b.cpu.context) := by
  have h := running_of_run hp hr
  have hkept : ∀ b', Interrupt b b' → b'.scheduler.current = b.scheduler.current →
      b'.cpu.context = b.cpu.context := fun b' hi hcur =>
    ((hi.hasContext h (hasContext_self b)).current hcur.symm).symm
  refine ⟨?_, fun b' hi => ⟨msp_eq (hi.running h).2, hkept b' hi⟩, ?_⟩
  · intro b₁ b₂ b₃ hout hne haway hin hcur
    have hc₁ := (hout.interrupt_of_ne hne).hasContext h (hasContext_self b)
    obtain ⟨h₂, hne₂, hc₂⟩ := hasContext_of_away haway (hout.running h) hne hc₁
    have hback := hin.interrupt_of_ne fun he => hne₂ (he.symm.trans hcur)
    refine ⟨(hin.running h₂).onTaskStack, ?_⟩
    exact ((hback.hasContext h₂ hc₂).current hcur.symm).symm
  · intro hint hroom hpend
    have hcur : b.enter.takeTrap.scheduler.current = b.scheduler.current := by
      rw [h.current_trap hroom, hpend]; rfl
    exact ⟨hcur, hkept _ (.trap hint hroom) hcur⟩

/-! ### Two tasks -/

/-- A board with a task besides the idle one, about to be launched. -/
def twoTasks : Board Unit Unit :=
  ((powerOn (Registers.powerOn ⟨some 0, some 0, some 0⟩ []) 0).setUp .board ()).call
    (.spawn () 0 256 none)

theorem twoTasks_prepared : twoTasks.Prepared .board :=
  .call (.setUp () ⟨rfl, by decide⟩) trivial

/-- The task has asked for a pass, and the trap is due. -/
def yielding : Board Unit Unit := twoTasks.start.call (.pass .call)

theorem run_yielding : ReflTransGen Step twoTasks.start yielding :=
  ReflTransGen.single (.call trivial)

theorem yielding_running : yielding.Running := running_of_run twoTasks_prepared run_yielding

theorem yielding_room : yielding.Room := ⟨by decide, by decide⟩

theorem trap_yielding : Interrupt yielding yielding.enter.takeTrap :=
  .trap (by decide) yielding_room

/-- The idle task has the processor, and has asked for a pass. -/
def idling : Board Unit Unit := yielding.enter.takeTrap.call (.pass .call)

theorem idling_running : idling.Running :=
  Step.running (.call trivial) (trap_yielding.running yielding_running).1

theorem trap_idling : Interrupt idling idling.enter.takeTrap := by
  obtain ⟨h, hspecial⟩ := trap_yielding.running yielding_running
  obtain ⟨hs, hpsp, -⟩ := yielding_running.trap yielding_room
  refine .trap ?_ (Room.call ⟨?_, ?_⟩ h trivial)
  · rw [idling, Interruptible, cpu_call, primask_eq hspecial]; decide
  · rw [hs, hpsp]; decide
  · rw [hs, hpsp]; decide

theorem current_idling : idling.scheduler.current = idleTask := by
  obtain ⟨hs, -⟩ := yielding_running.trap yielding_room
  rw [idling, scheduler_call, hs]; decide

theorem pending_idling : idling.scheduler.pending = some yielding.scheduler.current := by
  obtain ⟨hs, -⟩ := yielding_running.trap yielding_room
  rw [idling, scheduler_call, hs]; decide

/-- The task yields to the idle task, which has the processor until it yields to the task, and that
    finds its registers again.  It also keeps them if the trap comes when nothing is pending. -/
theorem context_preserved_yield :
    yielding.scheduler.current = 1 ∧ yielding.enter.takeTrap.scheduler.current = idleTask ∧
      idling.scheduler.current = idleTask ∧ idling.enter.takeTrap.scheduler.current = 1 ∧
      idling.enter.takeTrap.cpu.context = yielding.cpu.context ∧
      yielding.enter.takeTrap.cpu.msp = yielding.cpu.msp ∧
      twoTasks.start.enter.takeTrap.cpu.context = twoTasks.start.cpu.context := by
  have hone : yielding.scheduler.current = 1 := by decide
  have hne : yielding.scheduler.current ≠ idleTask := by
    rw [hone]; decide
  have haway : StepAway yielding.scheduler.current yielding.enter.takeTrap idling := by
    refine ⟨.call trivial, ?_⟩
    rw [current_idling]; exact hne.symm
  have hidle : yielding.enter.takeTrap.scheduler.current = idleTask := by
    rw [yielding_running.current_trap yielding_room]; decide
  have hout : yielding.enter.takeTrap.scheduler.current ≠ yielding.scheduler.current := by
    rw [hidle]; exact hne.symm
  have hback : idling.enter.takeTrap.scheduler.current = yielding.scheduler.current := by
    rw [idling_running.current_trap trap_idling.room, pending_idling]; rfl
  obtain ⟨hagain, hmain, -⟩ := context_preserved twoTasks_prepared run_yielding
  obtain ⟨-, -, hquiet⟩ := context_preserved twoTasks_prepared .refl
  refine ⟨hone, hidle, current_idling, hback.trans hone, ?_, (hmain _ trap_yielding).1, ?_⟩
  · exact (hagain _ _ _ (.interrupt trap_yielding) hout (ReflTransGen.single haway)
      (.interrupt trap_idling) hback).2
  · exact (hquiet (by decide) ⟨by decide, by decide⟩
      (by decide)).2

end Carousel.Board
