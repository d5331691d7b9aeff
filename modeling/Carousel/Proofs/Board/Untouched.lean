/-
  Carousel — tasks that leave their registers alone.

  Code that is only followed from one kernel call to the next is not followed in its registers.
  Then every task keeps the context in which it began.

  * `SameTasks`: no task was made, and all keep what they were made with;
  * `AllBegin`: every task has its number, and nothing on its stack;
  * `Untouched`: so it is on a board that runs, and `Untouched.call`, `Untouched.requestTrap`,
    `Untouched.sysTick` and `Untouched.finish_of_same`: kernel calls and exceptions keep it so;
  * `Untouched.scheduler_finish` and `Untouched.scheduler_sysTick`: what exceptions make of the
    scheduler there;
  * `Prepared.untouched`: so it is when the first task is launched.
-/
import Carousel.Proofs.Board.Run

namespace Carousel

open Stack

variable {β κ : Type}

namespace Scheduler

/-- No task was made in between, and all keep what they were made with. -/
structure SameTasks (s s' : Scheduler β) : Prop where
  count : s'.count = s.count
  origin : ∀ i : TaskId, i.val < s.count → (s'.task i).origin = (s.task i).origin

namespace SameTasks

variable {s s' s'' : Scheduler β}

theorem refl (s : Scheduler β) : s.SameTasks s := ⟨rfl, fun _ _ => rfl⟩

theorem trans (h : s.SameTasks s') (h' : s'.SameTasks s'') : s.SameTasks s'' :=
  ⟨h'.count.trans h.count,
    fun i hi => (h'.origin i (by rw [h.count]; exact hi)).trans (h.origin i hi)⟩

theorem after (s : Scheduler β) {e : Event β} (hn : (s.after e).count = s.count) :
    s.SameTasks (s.after e) :=
  ⟨hn, fun _ hi => (origin_after hi e).2⟩

theorem commit (s : Scheduler β) (sp : Address) : s.SameTasks (s.commit sp).2 :=
  .after s (e := .commit sp) (by rw [Scheduler.after, commit_rest])

theorem launch (s : Scheduler β) : s.SameTasks s.launch.2.1 :=
  ⟨count_launch s, fun i _ => origin_launch s i⟩

theorem entryOf (h : s.SameTasks s') {i : TaskId} (hi : i.val < s.count) :
    s'.entryOf i = s.entryOf i := by
  have ho := h.origin i hi
  rw [Scheduler.entryOf, Scheduler.entryOf, dif_pos i.isLt, dif_pos i.isLt]
  show (s'.task i).origin.body.map (·, (s'.task i).origin.argument) = _
  rw [ho]; rfl

end SameTasks

end Scheduler

namespace Board

open Cpu

/-! ## All tasks at once -/

/-- Every task has its number, and nothing on its stack, if the current one has context `C₀`. -/
def AllBegin (b : Board β κ) (C₀ : Context) : Prop :=
  ∀ i : TaskId, i.val < b.scheduler.count →
    ∃ C, b.HasContext C₀ i C ∧ C.Begins i (b.scheduler.task i).top

/-- The board runs, and every task has its number and nothing on its stack. -/
structure Untouched (b : Board β κ) : Prop where
  running : b.Running
  begins : b.AllBegin b.cpu.context

section
variable {b b' : Board β κ} {C₀ C₁ : Context}

theorem AllBegin.of_hasContext (h : b.AllBegin C₀) (hs : b.scheduler.SameTasks b'.scheduler)
    (hc : ∀ i C, b.HasContext C₀ i C → b'.HasContext C₁ i C) : b'.AllBegin C₁ := by
  intro i hi
  rw [hs.count] at hi
  obtain ⟨C, hC, hbegins⟩ := h i hi
  rw [Record.top_eq (Record.stack_eq (hs.origin i hi))]
  exact ⟨C, hc i C hC, hbegins⟩

theorem AllBegin.of_same (h : b.AllBegin C₀) (hs : b'.scheduler = b.scheduler)
    (hm : b'.memory = b.memory) : b'.AllBegin C₀ := by
  refine h.of_hasContext (by rw [hs]; exact .refl _) fun i C hC => ⟨?_, ?_⟩
  · rw [hs]; exact hC.current
  · rw [hs, hm]; exact hC.other

theorem Sound.of_same (h : b.Sound) (hc : b'.cpu = b.cpu) (hs : b'.scheduler = b.scheduler) :
    b'.Sound := by
  refine ⟨?_, ?_, ?_⟩
  · rw [hc]; exact h.control
  · rw [hs, stackLimit_eq (congrArg Cpu.msp hc)]; exact h.stacked
  · rw [hs]; exact h.current

namespace Untouched

theorem current (h : b.Untouched) :
    b.cpu.context.Begins b.scheduler.current b.scheduler.currentTask.top := by
  obtain ⟨C, hC, hbegins⟩ := h.begins _ h.running.sound.current.made
  rw [← hC.current rfl]; exact hbegins

/-- R0 holds the number of the task. -/
theorem number (h : b.Untouched) : (b.cpu.get .r0).toNat = b.scheduler.current := by
  have hr0 : b.cpu.get .r0 = UInt32.ofNat b.scheduler.current := h.current.number
  rw [hr0, Context.toNat_number]

theorem room (h : b.Untouched) : b.Room := by
  have hroom := h.running.sound.stacked.room h.running.sound.current.made
  have hpsp : b.cpu.psp.toNat = b.scheduler.currentTask.top.toNat := by
    rw [← h.current.stack, UInt32.toNat_toUInt64]; rfl
  refine ⟨?_, hpsp.le⟩
  rw [hpsp]; exact hroom

/-- What happens to anything else is of no account. -/
theorem of_same (h : b.Untouched) (hc : b'.cpu = b.cpu) (hs : b'.scheduler = b.scheduler)
    (hm : b'.memory = b.memory) : b'.Untouched := by
  refine ⟨⟨h.running.sound.of_same hc hs, ?_⟩, ?_⟩
  · rw [hc]; exact h.running.thread
  · rw [hc]; exact h.begins.of_same hs hm

/-- **The task's own code**, if it leaves R0 alone, and its stack empty. -/
theorem ownCode (h : b.Untouched) (ho : b.OwnCode b') (h0 : b'.cpu.get .r0 = b.cpu.get .r0)
    (hp : b'.cpu.psp = b.cpu.psp) : b'.Untouched := by
  refine ⟨Step.running (.code ho) h.running, fun i hi => ?_⟩
  rw [ho.scheduler] at hi ⊢
  by_cases hcur : i = b.scheduler.current
  · subst hcur
    refine ⟨_, ⟨fun _ => rfl, fun hne => absurd (congrArg Scheduler.current ho.scheduler).symm hne⟩,
      h0.trans h.current.number, ?_⟩
    show b'.cpu.psp.toUInt64 = _
    rw [hp]; exact h.current.stack
  · obtain ⟨C, hC, hbegins⟩ := h.begins i hi
    exact ⟨C, Step.hasContext (.code ho) h.running hcur hC, hbegins⟩

/-- **A kernel call** that makes no task. -/
theorem call (h : b.Untouched) {e : Carousel.Event β} (he : e.isCall)
    (hn : (b.scheduler.after e).count = b.scheduler.count) : (b.call e).Untouched :=
  ⟨Step.running (.call he) h.running,
    h.begins.of_hasContext (.after _ hn) fun _ _ hC => hC.event h.running.sound he rfl rfl⟩

end Untouched

/-! ## Exceptions -/

theorem Handler.sameTasks_finish (h : b.Handler C₀) :
    b.scheduler.SameTasks b.finish.scheduler := by
  rw [h.entered.scheduler_finish]
  split_ifs
  · exact .commit _ _
  · exact .refl _

theorem Untouched.sameTasks_takeTrap (h : b.Untouched) :
    b.scheduler.SameTasks b.enter.takeTrap.scheduler := by
  rw [(h.running.trap h.room).1]; exact .commit _ _

theorem Untouched.takeTrap (h : b.Untouched) : b.enter.takeTrap.Untouched := by
  have he := h.running.sound.enter h.running.thread h.room
  obtain ⟨hsound, hthread, -⟩ := he.takeTrap
  refine ⟨⟨hsound, hthread⟩, h.begins.of_hasContext h.sameTasks_takeTrap fun _ _ hC => ?_⟩
  exact (hC.enter h.running.sound h.running.thread h.room).takeTrap he

/-- **The trap that a task asks for**, at once or later. -/
theorem Untouched.requestTrap (h : b.Untouched) :
    b.requestTrap.Untouched ∧ b.scheduler.SameTasks b.requestTrap.scheduler := by
  obtain ⟨events, hb⟩ := drive_requestTrap b
  unfold Board.requestTrap
  dsimp only
  rw [hb]
  have h₁ : ({ b with registers.trapPending := true, events := events } : Board β κ).Untouched :=
    h.of_same rfl rfl rfl
  split_ifs
  · exact ⟨h₁.takeTrap, h₁.sameTasks_takeTrap⟩
  · exact ⟨h₁, .refl _⟩

/-- **The end of an exception**, whatever its handler has done. -/
theorem Handler.untouched_finish (h : b.Handler C₀) (hb : b.AllBegin C₀) : b.finish.Untouched :=
  ⟨⟨h.finish.1, h.finish.2.1⟩,
    hb.of_hasContext h.sameTasks_finish fun _ _ hC => hC.finish h⟩

theorem scheduler_enter (h : b.Running) : b.enter.scheduler = b.scheduler := by
  rw [enter_eq h.onTaskStack]

/-- The beginning of one. -/
theorem Untouched.enter (h : b.Untouched) :
    b.enter.Handler b.cpu.context ∧ b.enter.AllBegin b.cpu.context := by
  refine ⟨h.running.sound.enter h.running.thread h.room, ?_⟩
  refine h.begins.of_hasContext (by rw [scheduler_enter h.running]; exact .refl _) fun _ _ hC => ?_
  exact hC.enter h.running.sound h.running.thread h.room

/-- The tick. -/
theorem Untouched.sysTick (h : b.Untouched) :
    b.sysTick.Untouched ∧ b.scheduler.SameTasks b.sysTick.scheduler := by
  obtain ⟨hh, hb⟩ := h.enter
  have hs : b.enter.scheduler.SameTasks (b.enter.switchBy Kernel.tick).scheduler := by
    obtain ⟨events, hb'⟩ := switchBy_of_handling hh.entered.handling Kernel.tick
    rw [hb']
    exact .after b.enter.scheduler (e := .pass .clock) (by rw [Scheduler.after, Scheduler.count_pass])
  refine ⟨hh.tick.untouched_finish (hb.of_hasContext hs fun _ _ hC => hC.tick hh), ?_⟩
  rw [scheduler_enter h.running] at hs
  exact hs.trans hh.tick.sameTasks_finish

theorem Handler.of_same (h : b.Handler C₀) (hc : b'.cpu = b.cpu) (hs : b'.scheduler = b.scheduler)
    (hm : b'.memory = b.memory) : b'.Handler C₀ := by
  refine ⟨h.sound.of_same hc hs, ⟨?_, ?_, ?_, ?_, ?_, ?_⟩, ?_, ?_⟩
  · rw [hc]; exact h.entered.handling
  · rw [hc]; exact h.entered.control
  · rw [hc]; exact h.entered.lr
  · rw [hc]; exact h.entered.software
  · rw [hc, hm]; exact h.entered.hardware
  · rw [hc]; exact h.entered.psp
  · rw [hc, hs]; exact h.low
  · rw [hc, hs]; exact h.high

/-- An interrupt with a handler that leaves processor, memory and scheduler alone. -/
theorem Untouched.finish_of_same (h : b.Untouched) (hc : b'.cpu = b.enter.cpu)
    (hs : b'.scheduler = b.enter.scheduler) (hm : b'.memory = b.enter.memory) :
    b'.finish.Untouched ∧ b.scheduler.SameTasks b'.finish.scheduler := by
  obtain ⟨hh, hb⟩ := h.enter
  have hh' := hh.of_same hc hs hm
  refine ⟨hh'.untouched_finish (hb.of_same hs hm), ?_⟩
  rw [← scheduler_enter h.running, ← hs]
  exact hh'.sameTasks_finish

/-! ## What exceptions make of the scheduler -/

theorem Untouched.psp_enter (h : b.Untouched) : b.enter.cpu.psp - 32 = b.cpu.psp - 64 := by
  rw [enter_eq h.running.onTaskStack]; exact psp_sub_sub _

theorem Untouched.scheduler_finish (h : b.Untouched) (hc : b'.cpu = b.enter.cpu)
    (hs : b'.scheduler = b.enter.scheduler) (hm : b'.memory = b.enter.memory) :
    b'.finish.scheduler =
      if b'.registers.trapPending then (b.scheduler.commit (b.cpu.psp - 64).toUInt64).2
      else b.scheduler := by
  rw [(h.enter.1.of_same hc hs hm).entered.scheduler_finish, hc, hs, h.psp_enter, scheduler_enter h.running]

theorem Untouched.scheduler_sysTick (h : b.Untouched) :
    b.sysTick.scheduler =
      if b.registers.trapPending || (Kernel.tick b.scheduler).pick.isSome then
        ((Kernel.tick b.scheduler).scheduler.commit (b.cpu.psp - 64).toUInt64).2
      else (Kernel.tick b.scheduler).scheduler := by
  obtain ⟨he, -⟩ := h.enter
  refine he.tick.entered.scheduler_finish.trans ?_
  obtain ⟨events, hb⟩ := switchBy_of_handling he.entered.handling Kernel.tick
  have hregisters : b.enter.registers = b.registers := rfl
  rw [hb]
  dsimp only
  rw [h.psp_enter, scheduler_enter h.running, hregisters]

/-- The stack pointer says nothing more. -/
theorem Untouched.psp_eq (h : b.Untouched) (h' : b'.Untouched) (hs : b'.scheduler = b.scheduler) :
    b'.cpu.psp = b.cpu.psp := by
  have htop : b'.cpu.psp.toUInt64 = b.cpu.psp.toUInt64 := by
    refine h'.current.stack.trans ?_
    rw [hs]; exact h.current.stack.symm
  exact UInt32.toUInt64_inj.1 htop

end

/-! ## The launch -/

/-- The launch code takes R0 and the stack pointer from where R0 points to. -/
theorem launchCode_spec {b : Board β κ} (h : b.cpu.handling = false) {C : Context}
    (hC : C.SavedAt b.memory b.cpu.r0) :
    let b' := b.executeAll launchCode
    b'.cpu.context.reg .r0 = C.reg .r0 ∧ b'.cpu.context.psp = C.psp := by
  have hr0 : b.memory.word (b.cpu.r0 + 32).toUInt64 = C.reg .r0 := (List.cons.inj hC.hardware).1
  rw [← hr0, ← hC.psp]
  simp [executeAll, launchCode, execute, Cpu.setAll, Cpu.set, Cpu.get, Cpu.sp, Cpu.setSp,
    Cpu.onTaskStack, scratchRegs, h, Memory.words, UInt32.add_assoc, Cpu.context]

/-- What the launch leaves of the kernel, and the registers of the task that it chooses. -/
theorem Prepared.start_spec {image : Kernel.Image} {b : Board β κ} (h : b.Prepared image) :
    let s := b.scheduler.launch.2.1
    b.start.scheduler = s ∧ b.start.cpu.context.Begins s.current (s.task s.current).top := by
  intro s
  obtain ⟨hmain, hst⟩ := h.stacked
  obtain ⟨b', hs, hm, hh, -, he⟩ := start_eq b
  generalize hb : ({ b' with cpu := b'.cpu.set b.scheduler.launch.1.toUInt32 .r0 } :
    Board β κ) = b₁ at he
  have hh₁ : b₁.cpu.handling = false := by
    rw [← hb]; exact (handling_set _ _ _).trans (hh.trans hmain.handling)
  have hs₁ : b₁.scheduler = s := by
    rw [← hb]; exact hs
  obtain ⟨hsched, -⟩ := execute_launchCode hh₁
  rw [he]
  refine ⟨hsched.trans hs₁, ?_⟩
  -- the context of the task lies where R0 points to
  have hlt : s.current.val < b.scheduler.count := by
    rw [← Scheduler.count_launch]; exact hst.launch.2.made
  have hroom := hst.room hlt
  have hbelow := hst.below _ hlt
  have hlim := hmain.limit_lt
  have hhi : (b.scheduler.task s.current).top.toNat < 2 ^ 32 := by omega
  have hsp := Scheduler.launch_fst b.scheduler
  have hstores := Scheduler.stores_launch b.scheduler
  have hC : (Context.first s.current b.scheduler.entryPoints (b.scheduler.task s.current).top).SavedAt
      b₁.memory b₁.cpu.r0 := by
    have hr0 : b₁.cpu.r0 = b.scheduler.launch.1.toUInt32 := by
      rw [← hb]; rfl
    have hm₁ : b₁.memory = b.memory.storeAll b.scheduler.launch.2.2 := by
      rw [← hb]; exact hm
    rw [hr0, hm₁, hsp, hstores]
    exact Context.savedAt_first _ _ _ (by omega) hhi
  obtain ⟨hnumber, hpsp⟩ := launchCode_spec hh₁ hC
  have hbegins := Context.begins_first s.current b.scheduler.entryPoints hhi
  rw [Record.top_eq (Scheduler.stack_launch b.scheduler s.current)]
  exact ⟨hnumber.trans hbegins.number, (congrArg UInt32.toUInt64 hpsp).trans hbegins.stack⟩

/-- The launch leaves all tasks but the first one as they were made. -/
theorem Prepared.created_start {image : Kernel.Image} {b : Board β κ} (h : b.Prepared image)
    {i : TaskId} (hf : (b.scheduler.task i).status = .created)
    (hi : i ≠ b.start.scheduler.current) :
    (b.start.scheduler.task i).status = .created ∧ b.start.scheduler.pending ≠ some i := by
  rw [h.start_spec.1, Scheduler.launch_eq] at hi
  rw [h.start_spec.1, Scheduler.status_launch, if_neg (Ne.symm hi), if_neg (by rw [hf]; nofun),
    Scheduler.launch_eq]
  exact ⟨hf, nofun⟩

/-- **At the launch** of the first task, when none has run before. -/
theorem Prepared.untouched {image : Kernel.Image} {b : Board β κ} (h : b.Prepared image)
    (hfresh : ∀ i : TaskId, i.val < b.scheduler.count → (b.scheduler.task i).status = .created) :
    b.start.Untouched ∧ b.scheduler.SameTasks b.start.scheduler := by
  obtain ⟨hs, hh⟩ := h.start
  obtain ⟨hsched, hbegins⟩ := h.start_spec
  have hsame := Scheduler.SameTasks.launch b.scheduler
  rw [← hsched] at hbegins hsame
  refine ⟨⟨⟨hs, hh⟩, fun i hi => ?_⟩, hsame⟩
  by_cases hcur : i = b.start.scheduler.current
  · subst hcur
    exact ⟨_, hasContext_self _, hbegins⟩
  · obtain ⟨hcreated, hpend⟩ := h.created_start (hfresh i (by rw [← hsame.count]; exact hi)) hcur
    have hbelow := hs.stacked.below i hi
    have hlim := stackLimit_lt (b := b.start)
    exact ⟨_, ⟨fun he => absurd he hcur, fun _ => Scheduler.holds_first _ hi hcreated hpend⟩,
      Context.begins_first _ _ (by omega)⟩

end Board

end Carousel
