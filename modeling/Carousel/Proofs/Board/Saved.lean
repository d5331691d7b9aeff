/-
  Carousel — the contexts of tasks that do not have the processor.

  * `Lies`: a context lies on the stack of a task, where its entry in the table says;
  * `Holds`: it is the context of a task that does not have the processor, and that may not have
    run yet;
  * `Holds.event`: it stays so whatever the current task calls;
  * `HasContext`: the context of any task, the current one among them;
  * `Handler.takeTrap`, `Handler.leave`: however an exception ends, every task has the context
    that it had when the exception began.
-/
import Carousel.Proofs.Board.First
import Carousel.Proofs.Scheduler.Stacks

namespace Carousel

open Stack

variable {β κ : Type}

theorem Context.SavedAt.congr {C : Context} {m m' : Memory} {sp : Word} {lo hi : Nat}
    (h : C.SavedAt m sp) (hlo : lo ≤ sp.toNat) (hhi : sp.toNat + 64 ≤ hi) (hlim : hi ≤ 2 ^ 32)
    (hm : m'.AgreeOn m lo hi) : C.SavedAt m' sp := by
  have h32 : (sp + 32).toNat = sp.toNat + 32 := by
    have : (32 : Word).toNat = 32 := rfl
    rw [UInt32.toNat_add]; omega
  refine ⟨(hm.words ?_ ?_ ?_).trans h.software, (hm.words ?_ ?_ ?_).trans h.hardware, h.psp⟩
  · rw [UInt32.toNat_toUInt64]; exact hlo
  · rw [UInt32.toNat_toUInt64]; omega
  · omega
  · rw [UInt32.toNat_toUInt64]; omega
  · rw [UInt32.toNat_toUInt64]; omega
  · omega

namespace Scheduler

/-! ## Contexts on stacks -/

/-- A context lies on the stack of a task, where its entry says. -/
def Lies (s : Scheduler β) (m : Memory) (i : TaskId) (C : Context) : Prop :=
  ∃ sp : Word, (s.task i).sp = sp.toUInt64 ∧ (s.task i).floor ≤ sp.toNat ∧
    sp.toNat + 64 ≤ (s.task i).top.toNat ∧ C.SavedAt m sp

/-- A task that does not have the processor has this context: the one with which it was switched
    out, or the first one if it has not run.  That is laid out only when the task is picked. -/
structure Holds (s : Scheduler β) (m : Memory) (i : TaskId) (C : Context) : Prop where
  made : i.val < s.count
  first : (s.task i).status = .created → C = .first i s.entryPoints (s.task i).top
  saved : (s.task i).status ≠ .created ∨ s.pending = some i → s.Lies m i C

section
variable {limit : Nat} {s : Scheduler β} {m m' : Memory} {i : TaskId} {C : Context}

theorem Lies.of_agreeOn (h : s.Lies m i C) (hi : i.val < s.count) (hs : s.Stacked limit)
    (hl : limit ≤ 2 ^ 32) (hm : m'.AgreeOn m (s.task i).floor (s.task i).top.toNat) :
    s.Lies m' i C := by
  obtain ⟨sp, hsp, hlo, hhi, hC⟩ := h
  have := hs.below i hi
  exact ⟨sp, hsp, hlo, hhi, hC.congr hlo hhi (by omega) hm⟩

theorem Lies.of_task {s' : Scheduler β} (h : s.Lies m i C)
    (hst : (s'.task i).stack = (s.task i).stack) (hsp : (s'.task i).sp = (s.task i).sp) :
    s'.Lies m i C := by
  obtain ⟨sp, he, hlo, hhi, hC⟩ := h
  refine ⟨sp, hsp.trans he, ?_, ?_, hC⟩
  · rw [Record.floor_eq hst]; exact hlo
  · rw [Record.top_eq hst]; exact hhi

theorem lies_first {s' : Scheduler β} (hs : s.Stacked limit) (hl : limit < 2 ^ 32)
    (hi : i.val < s.count) (hst : (s'.task i).stack = (s.task i).stack)
    (hsp : (s'.task i).sp = Frame.bottom (s.task i).top) (m : Memory) (e : EntryPoints) :
    s'.Lies (m.storeAll (Frame.stores i e (s.task i).top)) i (.first i e (s.task i).top) := by
  have hroom := hs.room hi
  have hbelow := hs.below i hi
  have hlo : 64 ≤ (s.task i).top.toNat := by omega
  have hhi : (s.task i).top.toNat < 2 ^ 32 := by omega
  have hbot : (Frame.bottom (s.task i).top).toNat = (s.task i).top.toNat - 64 :=
    Frame.toNat_bottom hlo
  have hsp' : (Frame.bottom (s.task i).top).toUInt32.toNat = (s.task i).top.toNat - 64 := by
    rw [Context.toNat_toUInt32 (by omega), hbot]
  refine ⟨(Frame.bottom (s.task i).top).toUInt32, ?_, ?_, ?_, Context.savedAt_first m i e hlo hhi⟩
  · rw [hsp, Context.toUInt64_toUInt32 (by omega)]
  · rw [Record.floor_eq hst, hsp']; omega
  · rw [Record.top_eq hst, hsp']; omega

/-- A task that has not run, and is not picked, need not have anything on its stack. -/
theorem holds_first (m : Memory) (hi : i.val < s.count) (hc : (s.task i).status = .created)
    (hp : s.pending ≠ some i) : s.Holds m i (.first i s.entryPoints (s.task i).top) :=
  ⟨hi, fun _ => rfl, fun hr => (hr.elim (absurd hc) hp).elim⟩

theorem Holds.of_agreeOn (h : s.Holds m i C) (hs : s.Stacked limit) (hl : limit ≤ 2 ^ 32)
    (hm : m'.AgreeOn m (s.task i).floor (s.task i).top.toNat) : s.Holds m' i C :=
  ⟨h.made, h.first, fun hr => (h.saved hr).of_agreeOn h.made hs hl hm⟩

/-- What happens to other entries is of no account. -/
theorem Holds.of_task {s' : Scheduler β} (h : s.Holds m i C) (hn : i.val < s'.count)
    (he : s'.entryPoints = s.entryPoints) (hp : s'.pending = some i → s.pending = some i)
    (ht : s'.task i = s.task i) : s'.Holds m i C := by
  refine ⟨hn, ?_, ?_⟩
  · rw [ht, he]; exact h.first
  · rw [ht]
    exact fun hr => (h.saved (hr.imp_right hp)).of_task (by rw [ht]) (by rw [ht])

/-- Words on the stack of one task are beside that of any other. -/
theorem Stacked.agreeOn_list (hs : s.Stacked limit) (hl : limit ≤ 2 ^ 32) {j : TaskId} (hij : i ≠ j)
    (hi : i.val < s.count) (hj : j.val < s.count) {a : Address} {ws : List Word}
    (hlo : (s.task j).floor ≤ a.toNat) (hhi : a.toNat + 4 * ws.length ≤ (s.task j).top.toNat) :
    (m.storeAll (Store.list a ws)).AgreeOn m (s.task i).floor (s.task i).top.toNat := by
  have := hs.below j hj
  refine Memory.agreeOn_storeAll m ?_ (by omega)
  rcases hs.disjoint hij hi hj with h | h
  · exact Or.inr (by omega)
  · exact Or.inl (by omega)

/-- So is the first context of another task. -/
theorem Stacked.agreeOn_frame (hs : s.Stacked limit) (hl : limit ≤ 2 ^ 32) {p : TaskId} (hip : i ≠ p)
    (hi : i.val < s.count) (hp : p.val < s.count) (e : EntryPoints) :
    (m.storeAll (Frame.stores p e (s.task p).top)).AgreeOn m (s.task i).floor
      (s.task i).top.toNat := by
  have hroom := hs.room hp
  have hbot : (Frame.bottom (s.task p).top).toNat = (s.task p).top.toNat - 64 :=
    Frame.toNat_bottom (by omega)
  rw [Frame.stores]
  refine hs.agreeOn_list hl hip hi hp ?_ ?_
  · rw [hbot]; omega
  · have : (Frame.words p e).length = 16 := rfl
    rw [hbot]; omega

/-- A pass lays out the first context of the task that it picks, if that has not run, and costs no
    task its own. -/
theorem Holds.pass (h : s.Holds m i C) (hs : s.Stacked limit) (hl : limit < 2 ^ 32)
    (trigger : Trigger) :
    (s.pass trigger).scheduler.Holds (m.storeAll (s.pass trigger).stores) i C := by
  have hst := stack_pass s trigger i
  have hentry : (s.pass trigger).scheduler.entryPoints = s.entryPoints := by rw [pass_rest]
  refine ⟨by rw [count_pass]; exact h.made, fun hc => ?_, fun hrun => ?_⟩
  · rw [hentry, Record.top_eq hst]
    exact h.first (created_pass.1 hc)
  by_cases hfresh : (s.pass trigger).pick = some i ∧ (chargeOne trigger (s.task i)).status = .created
  · have hsp : ((s.pass trigger).scheduler.task i).sp = Frame.bottom (s.task i).top := by
      rw [task_pass]
      dsimp only
      rw [if_pos hfresh.1, if_pos hfresh.2, chargeOne_rest]
    rw [stores_pass_eq, hfresh.1, h.first (chargeOne_created.1 hfresh.2)]
    dsimp only
    rw [if_pos hfresh.2]
    exact lies_first hs hl h.made hst hsp m s.entryPoints
  · -- it had its context before, and what is written is for another task
    have hbefore : (s.task i).status ≠ .created ∨ s.pending = some i := by
      by_cases hc : (s.task i).status = .created
      · rcases hrun with hr | hr
        · exact absurd (created_pass.2 hc) hr
        · rw [pending_pass, Option.or_eq_some_iff] at hr
          rcases hr with hp | ⟨-, hp⟩
          · exact absurd ⟨hp, chargeOne_created.2 hc⟩ hfresh
          · exact Or.inr hp
      · exact Or.inl hc
    refine ((h.saved hbefore).of_agreeOn h.made hs hl.le ?_).of_task hst (sp_pass_of hfresh)
    rcases stores_pass s trigger with hw | ⟨p, hp, hc, hw⟩
    · rw [hw]; exact Memory.AgreeOn.refl m _ _
    · have hip : i ≠ p := by
        rintro rfl; exact hfresh ⟨hp, hc⟩
      have hpmade := hs.made_of_runnable (i := p) (by rw [chargeOne_created.1 hc]; rfl)
      rw [hw]; exact hs.agreeOn_frame hl.le hip h.made hpmade _

/-- **A kernel call costs no task its context** but the one that makes it. -/
theorem Holds.event (h : s.Holds m i C) (hs : s.Stacked limit) (hl : limit < 2 ^ 32)
    (hi : i ≠ s.current) {e : Event β} (he : e.isCall) :
    (s.after e).Holds (m.storeAll (s.stores e)) i C := by
  cases e with
  | commit => exact he.elim
  | pass trigger => exact h.pass hs hl trigger
  | sleep ticks =>
    refine Holds.pass (s := s.sleepCurrent ticks) ?_ (hs.sleepCurrent ticks) hl .call
    exact h.of_task h.made rfl id (task_sleepCurrent_of_ne hi)
  | exit =>
    rw [Scheduler.after]
    refine h.of_task ?_ ?_ ?_ (task_exit_of_ne hi)
    · rw [exit_rest]; exact h.made
    · rw [exit_rest]
    · rw [exit_rest]; exact id
  | spawn body argument size name =>
    obtain ⟨hmade, htask⟩ := made_serve_spawn h.made body argument size name
    refine h.of_task hmade ?_ ?_ htask
    · rw [after_spawn_rest]
    · rw [after_spawn_rest]; exact id

/-- What an event writes is beside the stacks of all tasks that have run. -/
theorem Stacked.agreeOn_stores (hs : s.Stacked limit) (hl : limit ≤ 2 ^ 32) (hi : s.Started i)
    (e : Event β) :
    (m.storeAll (s.stores e)).AgreeOn m (s.task i).floor (s.task i).top.toNat := by
  rcases stores_after s e with he | ⟨p, hc, he⟩
  · rw [he]; exact Memory.AgreeOn.refl m _ _
  · have hp : p.val < s.count := hs.made_of_runnable (by rw [hc]; rfl)
    have hne : i ≠ p := by
      rintro rfl; exact hi.run hc
    rw [he]
    exact hs.agreeOn_frame hl hne hi.made hp _

end

end Scheduler

namespace Board

open Cpu

/-! ## Tasks on a board -/

/-- How far up the stacks of tasks may reach: the trap puts two words on the main stack. -/
def stackLimit (b : Board β κ) : Nat := b.cpu.msp.toNat - 8

theorem stackLimit_lt {b : Board β κ} : b.stackLimit < 2 ^ 32 :=
  (Nat.sub_le _ _).trans_lt b.cpu.msp.toNat_lt

theorem stackLimit_le {b : Board β κ} : b.stackLimit ≤ 2 ^ 32 := stackLimit_lt.le

theorem stackLimit_eq {b b' : Board β κ} (h : b'.cpu.msp = b.cpu.msp) :
    b'.stackLimit = b.stackLimit := by
  rw [stackLimit, stackLimit, h]

/-- Tasks run on their stacks, which are apart, and the main stack is above them. -/
structure Sound (b : Board β κ) : Prop where
  control : b.cpu.control = 2
  stacked : b.scheduler.Stacked b.stackLimit
  current : b.scheduler.Started b.scheduler.current

/-- Below the stack pointer of the current task there is room on its stack for a context. -/
structure Room (b : Board β κ) : Prop where
  low : b.scheduler.currentTask.floor + 64 ≤ b.cpu.psp.toNat
  high : b.cpu.psp.toNat ≤ b.scheduler.currentTask.top.toNat

/-- An exception is handled that interrupted the current task in context `C`. -/
structure Handler (b : Board β κ) (C : Context) : Prop where
  sound : b.Sound
  entered : b.Entered C
  low : b.scheduler.currentTask.floor + 32 ≤ b.cpu.psp.toNat
  high : b.cpu.psp.toNat + 32 ≤ b.scheduler.currentTask.top.toNat

/-- Task `i` has context `C`, if the current task has context `C₀`. -/
structure HasContext (b : Board β κ) (C₀ : Context) (i : TaskId) (C : Context) : Prop where
  current : i = b.scheduler.current → C = C₀
  other : i ≠ b.scheduler.current → b.scheduler.Holds b.memory i C

section
variable {b b' : Board β κ} {C₀ C : Context} {i : TaskId}

/-- A kernel call, wherever it is made, costs no task its context. -/
theorem HasContext.event (h : b.HasContext C₀ i C) (hs : b.Sound) {e : Carousel.Event β} (he : e.isCall)
    (hsch : b'.scheduler = b.scheduler.after e)
    (hmem : b'.memory = b.memory.storeAll (b.scheduler.stores e)) : b'.HasContext C₀ i C := by
  have hcur : b'.scheduler.current = b.scheduler.current := by
    rw [hsch, Scheduler.current_after _ he]
  refine ⟨fun hi => h.current (hi.trans hcur), fun hi => ?_⟩
  rw [hcur] at hi
  rw [hsch, hmem]
  exact (h.other hi).event hs.stacked stackLimit_lt hi he

/-- Where stacks are, there is room for two words on the main stack. -/
theorem Sound.msp (h : b.Sound) : b.stackLimit + 8 = b.cpu.msp.toNat := by
  have hroom := h.stacked.room h.current.made
  have hbelow := h.stacked.below _ h.current.made
  rw [stackLimit] at hbelow ⊢
  omega

theorem Sound.event (h : b.Sound) {e : Carousel.Event β} (he : e.isCall)
    (hcpu : b'.cpu = b.cpu) (hsch : b'.scheduler = b.scheduler.after e) : b'.Sound where
  control := by rw [hcpu]; exact h.control
  stacked := by
    rw [hsch, stackLimit_eq (congrArg Cpu.msp hcpu)]; exact h.stacked.after e
  current := by
    rw [hsch, Scheduler.current_after _ he]; exact h.current.after e

/-! ## Exceptions -/

/-- A stack pointer moved down, as a number. -/
theorem toNat_sub_word {v n : Word} (h : n.toNat ≤ v.toNat) :
    (v - n).toNat = v.toNat - n.toNat :=
  UInt32.toNat_sub_of_le _ _ (UInt32.le_iff_toNat_le.2 h)

/-- An exception takes the one half of a context from it, and the trap the other. -/
theorem psp_sub_sub (v : Word) : v - 32 - 32 = v - 64 := by
  rw [UInt32.sub_eq_add_neg, UInt32.sub_eq_add_neg, UInt32.add_assoc, UInt32.sub_eq_add_neg]
  rfl

theorem Room.psp_sub (hr : b.Room) : (b.cpu.psp - 32).toNat = b.cpu.psp.toNat - 32 :=
  toNat_sub_word (n := 32) (by show 32 ≤ _; have := hr.low; omega)

/-- **Entry.**  The task that is interrupted has its registers in the handler and on its stack. -/
theorem Sound.enter (h : b.Sound) (hh : b.cpu.handling = false) (hr : b.Room) :
    b.enter.Handler b.cpu.context := by
  have he := enter_entered hh h.control
  rw [enter_eq (onTaskStack_of hh h.control)] at he ⊢
  refine ⟨⟨h.control, h.stacked, h.current⟩, he, ?_, ?_⟩
  · show b.scheduler.currentTask.floor + 32 ≤ (b.cpu.psp - 32).toNat
    have := hr.low
    rw [hr.psp_sub]; omega
  · show (b.cpu.psp - 32).toNat + 32 ≤ b.scheduler.currentTask.top.toNat
    have := hr.low
    have := hr.high
    rw [hr.psp_sub]; omega

/-- What it stores is on the stack of the task that is interrupted. -/
theorem HasContext.enter (hc : b.HasContext b.cpu.context i C) (h : b.Sound)
    (hh : b.cpu.handling = false) (hr : b.Room) : b.enter.HasContext b.cpu.context i C := by
  rw [enter_eq (onTaskStack_of hh h.control)]
  refine ⟨hc.current, fun hi => ?_⟩
  have hi' := hc.other hi
  refine hi'.of_agreeOn h.stacked stackLimit_le ?_
  have hlow := hr.low
  have hhigh := hr.high
  refine h.stacked.agreeOn_list stackLimit_le hi hi'.made h.current.made ?_ ?_
  · show b.scheduler.currentTask.floor ≤ (b.cpu.psp - 32).toUInt64.toNat
    rw [UInt32.toNat_toUInt64, hr.psp_sub]; omega
  · show (b.cpu.psp - 32).toUInt64.toNat + 32 ≤ b.scheduler.currentTask.top.toNat
    rw [UInt32.toNat_toUInt64, hr.psp_sub]; omega

/-- A pass in a handler is a call, and the trap waits. -/
theorem switchBy_of_handling (h : b.cpu.handling = true) (pass : Scheduler β → Pass β) :
    ∃ events, b.switchBy pass =
      { b with
        scheduler := (pass b.scheduler).scheduler
        memory := b.memory.storeAll (pass b.scheduler).stores
        registers.trapPending := b.registers.trapPending || (pass b.scheduler).pick.isSome
        events := events } := by
  unfold switchBy
  dsimp only
  split_ifs with hpick
  · rw [hpick, Bool.or_true]
    unfold requestTrap
    dsimp only
    rw [if_neg ?_]
    · exact ⟨_, rfl⟩
    · simp [drive, Peripheral.requestTrap, Bus.Program.put, note, h]
  · rw [Bool.eq_false_iff.2 hpick, Bool.or_false]
    exact ⟨_, rfl⟩

/-- The tick's pass costs no task its context, nor the handler its own. -/
theorem Handler.tick (h : b.Handler C₀) : (b.switchBy Kernel.tick).Handler C₀ := by
  obtain ⟨events, hb⟩ := switchBy_of_handling h.entered.handling Kernel.tick
  have hcpu : (b.switchBy Kernel.tick).cpu = b.cpu := by rw [hb]
  have hsch : (b.switchBy Kernel.tick).scheduler = b.scheduler.after (.pass .clock) := by
    rw [hb]; rfl
  have hmem : (b.switchBy Kernel.tick).memory =
      b.memory.storeAll (b.scheduler.stores (.pass .clock)) := by rw [hb]; rfl
  have hst : (b.switchBy Kernel.tick).scheduler.currentTask.stack = b.scheduler.currentTask.stack := by
    rw [hsch, Scheduler.currentTask, Scheduler.current_after _ (e := .pass .clock) trivial]
    exact Scheduler.stack_after h.sound.current.made _
  refine ⟨h.sound.event (e := .pass .clock) trivial hcpu hsch, ?_, ?_, ?_⟩
  · have hhigh := h.high
    have hlow := h.low
    have hlim := h.sound.stacked.below _ h.sound.current.made
    have hagree := h.sound.stacked.agreeOn_stores (m := b.memory) stackLimit_le h.sound.current
      (.pass .clock)
    obtain ⟨hh, hctl, hlr, hsoft, hhard, hpsp⟩ := h.entered
    refine ⟨?_, ?_, ?_, ?_, ?_, ?_⟩
    · rw [hcpu]; exact hh
    · rw [hcpu]; exact hctl
    · rw [hcpu]; exact hlr
    · rw [hcpu]; exact hsoft
    · rw [hcpu, hmem]
      refine (hagree.words ?_ ?_ ?_).trans hhard
      · rw [UInt32.toNat_toUInt64]; exact Nat.le_of_add_right_le hlow
      · rw [UInt32.toNat_toUInt64]; exact hhigh
      · exact hlim.trans (stackLimit_le.trans (by decide))
    · rw [hcpu]; exact hpsp
  · rw [Record.floor_eq hst, hcpu]; exact h.low
  · rw [Record.top_eq hst, hcpu]; exact h.high

theorem HasContext.tick (hc : b.HasContext C₀ i C) (h : b.Handler C₀) :
    (b.switchBy Kernel.tick).HasContext C₀ i C := by
  obtain ⟨events, hb⟩ := switchBy_of_handling h.entered.handling Kernel.tick
  exact hc.event h.sound (e := .pass .clock) trivial (by rw [hb]; rfl) (by rw [hb]; rfl)

/-- What called routines overwrite is on the stack. -/
theorem Handler.clobber (h : b.Handler C₀) : (b.clobber scratchRegs).Handler C₀ := by
  have hpsp : (b.clobber scratchRegs).cpu.psp = b.cpu.psp := psp_setAll _ _ _
  have hspecial : (b.clobber scratchRegs).cpu.special = b.cpu.special := special_setAll _ _ _
  refine ⟨⟨?_, ?_, h.sound.current⟩, h.entered.clobber, ?_, ?_⟩
  · exact (control_eq hspecial).trans h.sound.control
  · rw [stackLimit_eq (msp_eq hspecial)]; exact h.sound.stacked
  · rw [hpsp]; exact h.low
  · rw [hpsp]; exact h.high

/-- **Return.**  Without the trap the task that was interrupted goes on. -/
theorem Handler.leave (h : b.Handler C₀) :
    (b.leave b.cpu.lr).Sound ∧ (b.leave b.cpu.lr).cpu.handling = false ∧
      (b.leave b.cpu.lr).cpu.special = b.cpu.special := by
  rw [h.entered.lr]
  obtain ⟨-, hs, hspecial, hh, -⟩ := leave_rest h.entered.control
  refine ⟨⟨(control_eq hspecial).trans h.entered.control, ?_, ?_⟩, hh, hspecial⟩
  · rw [hs, stackLimit_eq (msp_eq hspecial)]; exact h.sound.stacked
  · rw [hs]; exact h.sound.current

theorem HasContext.leave (hc : b.HasContext C₀ i C) (h : b.Handler C₀) :
    (b.leave b.cpu.lr).HasContext (b.leave b.cpu.lr).cpu.context i C := by
  have hctx : (b.leave returnToTask).cpu.context = C₀ :=
    context_leave h.entered.control h.entered.software h.entered.hardware h.entered.psp
  obtain ⟨hm, hs, -⟩ := leave_rest h.entered.control
  rw [h.entered.lr, hctx]
  refine ⟨fun hi => hc.current (by rw [← hs]; exact hi), fun hi => ?_⟩
  rw [hs] at hi
  rw [hs, hm]; exact hc.other hi

theorem Handler.psp_sub (h : b.Handler C₀) :
    (b.cpu.psp - 32).toNat = b.cpu.psp.toNat - 32 :=
  toNat_sub_word (n := 32) (by show 32 ≤ _; have := h.low; omega)

/-- Two words on the main stack are above all stacks of tasks. -/
theorem Sound.agreeOn_main (h : b.Sound) (m : Memory) (v w : Word) (lo : Nat) {hi : Nat}
    (hhi : hi ≤ b.stackLimit) :
    (m.storeAll (Store.list (b.cpu.msp - 8).toUInt64 [v, w])).AgreeOn m lo hi := by
  have hmsp := h.msp
  have := b.cpu.msp.toNat_lt
  have hmsp' : (b.cpu.msp - 8).toNat = b.cpu.msp.toNat - 8 :=
    toNat_sub_word (n := 8) (by show 8 ≤ _; omega)
  refine Memory.agreeOn_storeAll m (Or.inr ?_) ?_
  · rw [UInt32.toNat_toUInt64, hmsp']; omega
  · rw [UInt32.toNat_toUInt64, hmsp', List.length_cons, List.length_singleton]; omega

/-- The trap's stores are on the stack of the task that was interrupted and on the main stack. -/
theorem Handler.agreeOn_trap (h : b.Handler C₀) (hi : i ≠ b.scheduler.current)
    (hmade : i.val < b.scheduler.count) :
    b.trapMemory.AgreeOn b.memory (b.scheduler.task i).floor (b.scheduler.task i).top.toNat := by
  have hlow := h.low
  have hhigh := h.high
  rw [trapMemory_eq]
  refine Memory.AgreeOn.trans (h.sound.agreeOn_main _ _ _ _ (h.sound.stacked.below i hmade))
    (h.sound.stacked.agreeOn_list stackLimit_le hi hmade h.sound.current.made ?_ ?_)
  · rw [UInt32.toNat_toUInt64, h.psp_sub]
    exact Nat.le_sub_of_add_le hlow
  · rw [UInt32.toNat_toUInt64, h.psp_sub, length_savedRegs_map]
    have : b.scheduler.currentTask.top = (b.scheduler.task b.scheduler.current).top := rfl
    rw [← this]; omega

/-- After them the context that was interrupted is complete. -/
theorem Handler.savedAt_trap (h : b.Handler C₀) : C₀.SavedAt b.trapMemory (b.cpu.psp - 32) := by
  have hlow := h.low
  have hhigh := h.high
  have hlim : b.scheduler.currentTask.top.toNat ≤ b.stackLimit :=
    h.sound.stacked.below _ h.sound.current.made
  have hmax := stackLimit_le (b := b)
  have hsp : (b.cpu.psp - 32).toUInt64.toNat = b.cpu.psp.toNat - 32 := by
    rw [UInt32.toNat_toUInt64, h.psp_sub]
  have hmain : b.trapMemory.AgreeOn
      (b.memory.storeAll (Store.list (b.cpu.psp - 32).toUInt64 (savedRegs.map b.cpu.get)))
      (b.cpu.psp.toNat - 32) (b.cpu.psp.toNat + 32) := by
    rw [trapMemory_eq]
    exact h.sound.agreeOn_main _ _ _ _ (by omega)
  refine ⟨?_, ?_, ?_⟩
  · refine (hmain.words ?_ ?_ ?_).trans ?_
    · rw [hsp]
    · rw [hsp]; omega
    · omega
    · rw [← h.entered.software]
      exact Memory.words_storeAll_list b.memory _ (savedRegs.map b.cpu.get)
        (by rw [length_savedRegs_map]; decide)
  · rw [UInt32.sub_add_cancel]
    have hbelow : (b.memory.storeAll (Store.list (b.cpu.psp - 32).toUInt64
        (savedRegs.map b.cpu.get))).AgreeOn b.memory b.cpu.psp.toNat (b.cpu.psp.toNat + 32) := by
      refine Memory.agreeOn_storeAll b.memory (Or.inl ?_) ?_
      · rw [hsp, length_savedRegs_map]; omega
      · rw [hsp, length_savedRegs_map]; omega
    have hpsp : b.cpu.psp.toUInt64.toNat = b.cpu.psp.toNat := UInt32.toNat_toUInt64 _
    refine (hmain.words ?_ ?_ ?_).trans ((hbelow.words ?_ ?_ ?_).trans h.entered.hardware)
    · rw [hpsp]; omega
    · rw [hpsp]
    · omega
    · rw [hpsp]
    · rw [hpsp]
    · omega
  · have h64 : (64 : Word) = 32 + 32 := rfl
    rw [h64, ← UInt32.add_assoc, UInt32.sub_add_cancel]; exact h.entered.psp

/-- Once the kernel has made its choice, every task has its context on its stack. -/
theorem Handler.holds_commit (h : b.Handler C₀) (hc : b.HasContext C₀ i C) :
    (b.scheduler.commit (b.cpu.psp - 32).toUInt64).2.Holds b.trapMemory i C := by
  by_cases hcur : i = b.scheduler.current
  · rw [hc.current hcur]
    subst hcur
    have hst := Scheduler.stack_commit b.scheduler (b.cpu.psp - 32).toUInt64 b.scheduler.current
    have hlow := h.low
    have hhigh := h.high
    have hrun := h.sound.current.commit (b.cpu.psp - 32).toUInt64
    refine ⟨hrun.made, fun hc => absurd hc hrun.run, fun _ => ?_⟩
    refine ⟨b.cpu.psp - 32, ?_, ?_, ?_, h.savedAt_trap⟩
    · rw [Scheduler.task_commit, if_pos rfl]
      dsimp only
      split_ifs <;> rfl
    · rw [Record.floor_eq hst, h.psp_sub]
      exact Nat.le_sub_of_add_le hlow
    · rw [Record.top_eq hst, h.psp_sub]
      have : b.scheduler.currentTask.top = (b.scheduler.task b.scheduler.current).top := rfl
      rw [← this]; omega
  · have hother := hc.other hcur
    have hst := Scheduler.stack_commit b.scheduler (b.cpu.psp - 32).toUInt64 i
    refine ⟨?_, fun hf => ?_, fun hr => ?_⟩
    · rw [Scheduler.commit_rest]; exact hother.made
    · rw [Scheduler.status_commit] at hf
      split_ifs at hf
      rw [Record.top_eq hst, Scheduler.commit_rest]
      exact hother.first hf
    · have hbefore : (b.scheduler.task i).status ≠ .created ∨ b.scheduler.pending = some i := by
        rw [Scheduler.status_commit, Scheduler.commit_rest] at hr
        by_contra hn
        rw [not_or, not_not] at hn
        rcases hr with hr | hr
        · rw [if_neg hn.2] at hr; exact hr hn.1
        · cases hr
      have hm := h.agreeOn_trap hcur hother.made
      exact ((hother.saved hbefore).of_agreeOn hother.made h.sound.stacked stackLimit_le hm).of_task hst
        (Scheduler.sp_commit_of_ne hcur _)

theorem Handler.takeTrap (h : b.Handler C₀) :
    b.takeTrap.Sound ∧ b.takeTrap.cpu.handling = false ∧
      b.takeTrap.cpu.special = b.cpu.special := by
  obtain ⟨-, hs, hspecial, hh, -⟩ := takeTrap_spec h.entered
  refine ⟨⟨(control_eq hspecial).trans h.entered.control, ?_, ?_⟩, hh, hspecial⟩
  · rw [hs, stackLimit_eq (msp_eq hspecial)]; exact h.sound.stacked.commit _
  · rw [hs]; exact h.sound.current.commit_current h.sound.stacked _

/-- The task that goes on has the context that lies on its stack. -/
theorem Handler.context_takeTrap (h : b.Handler C₀)
    (hC : (b.scheduler.commit (b.cpu.psp - 32).toUInt64).2.Lies b.trapMemory
      (b.scheduler.commit (b.cpu.psp - 32).toUInt64).2.current C) :
    b.takeTrap.cpu.context = C := by
  obtain ⟨-, -, -, -, -, hctx⟩ := takeTrap_spec h.entered
  obtain ⟨sp, hsp, -, -, hC⟩ := hC
  -- the kernel says where the stack of the new current task is
  have hfst : (b.scheduler.commit (b.cpu.psp - 32).toUInt64).1 = sp.toUInt64 := by
    rw [← hsp]; rfl
  refine hctx C ?_
  rw [hfst, UInt32.toUInt32_toUInt64]; exact hC

/-- **The trap.**  The task that goes on has its context in the registers, and all others have
    theirs on their stacks. -/
theorem HasContext.takeTrap (hc : b.HasContext C₀ i C) (h : b.Handler C₀) :
    b.takeTrap.HasContext b.takeTrap.cpu.context i C := by
  obtain ⟨hm, hs, -⟩ := takeTrap_spec h.entered
  have hholds := h.holds_commit hc
  refine ⟨fun hcur => ?_, fun _ => by rw [hs, hm]; exact hholds⟩
  subst hcur
  rw [hs] at hholds
  have hrun := h.sound.current.commit_current h.sound.stacked (b.cpu.psp - 32).toUInt64
  exact (h.context_takeTrap (hholds.saved (Or.inl hrun.run))).symm

/-! ## Whole exceptions -/

theorem HasContext.clobber (hc : b.HasContext C₀ i C) : (b.clobber scratchRegs).HasContext C₀ i C :=
  ⟨hc.current, hc.other⟩

theorem Handler.finish (h : b.Handler C₀) :
    b.finish.Sound ∧ b.finish.cpu.handling = false ∧ b.finish.cpu.special = b.cpu.special := by
  have hspecial : (b.clobber scratchRegs).cpu.special = b.cpu.special := special_setAll _ _ _
  unfold Board.finish
  dsimp only
  rw [← hspecial]
  split_ifs
  · exact h.clobber.takeTrap
  · exact h.clobber.leave

theorem HasContext.finish (hc : b.HasContext C₀ i C) (h : b.Handler C₀) :
    b.finish.HasContext b.finish.cpu.context i C := by
  unfold Board.finish
  dsimp only
  split_ifs
  · exact hc.clobber.takeTrap h.clobber
  · exact hc.clobber.leave h.clobber

end

end Board

end Carousel
