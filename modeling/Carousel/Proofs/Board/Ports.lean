/-
  Carousel — on a host machine and on the board tasks are scheduled alike.

  * `Kernel.Call`: what is asked of the kernel, and `Call.pass` what becomes of it before the trap;
  * `Call.onHost`: a host machine, where the trap is a call and nothing has to be saved;
  * `Board.serve`: the board, where the trap saves the registers of the task at the stack pointer
    that it really has;
  * `Board.Ready` and `Ready.serve`: a task runs and can be interrupted, and how a call leaves it;
  * `ports_agree`: so both go through the same states, but for the stack pointers on record.
-/
import Carousel.Proofs.Board.Run
import Carousel.Proofs.Scheduler.Blind
import Carousel.Script.Rig

namespace Carousel

variable {β κ : Type}

namespace Kernel

/-! ## What is asked -/

/-- A call of the kernel, by a task or by the tick interrupt. -/
inductive Call (β : Type) where
  | create (body : β) (argument size : UInt64) (name : Option String)
  | yield
  | sleep (ticks : UInt16)
  | exit (id : Nat)
  | tick

/-- What the kernel makes of a call before the trap. -/
def Call.pass (s : Scheduler β) : Call β → Pass β
  | .create body argument size name => ⟨none, (Kernel.create s body argument size name).2.1, []⟩
  | .yield => Kernel.yield s
  | .sleep ticks => Kernel.sleep s ticks
  | .exit id => ⟨none, s.exit id, []⟩
  | .tick => Kernel.tick s

def Call.requests : Call β → List (Request β)
  | .create body argument size name => [.spawn body argument size name]
  | .yield => [.pass .call]
  | .sleep ticks => [.sleepCurrent ticks, .pass .call]
  | .exit id => [.exit id]
  | .tick => [.pass .clock]

theorem Call.scheduler_pass (s : Scheduler β) (c : Call β) :
    (c.pass s).scheduler = s.serveAll c.requests := by
  cases c with
  | create body argument size name =>
    show (Kernel.create s body argument size name).2.1 = s.serve (.spawn body argument size name)
    unfold Kernel.create Scheduler.serve
    dsimp only
    cases s.spawn body argument size name <;> rfl
  | yield | sleep | exit | tick => rfl

/-- Stack pointers are of no account to it. -/
theorem Call.pass_congr {s s' : Scheduler β} (h : s.blind = s'.blind) (c : Call β) :
    (c.pass s).pick = (c.pass s').pick ∧
      (c.pass s).scheduler.blind = (c.pass s').scheduler.blind := by
  have hpick : ∀ {s s' : Scheduler β} (trigger : Trigger), s.blind = s'.blind →
      (s.pass trigger).pick = (s'.pass trigger).pick := by
    intro s s' trigger h
    rw [← Scheduler.pick_blind s, h, Scheduler.pick_blind]
  constructor
  · cases c with
    | create | exit => rfl
    | yield => exact hpick .call h
    | sleep ticks =>
      refine hpick .call ?_
      rw [← Scheduler.blind_sleepCurrent, h, Scheduler.blind_sleepCurrent]
    | tick => exact hpick .clock h
  · rw [scheduler_pass, scheduler_pass]
    exact Scheduler.serveAll_congr h rfl

/-- What is seen of a call. -/
structure Seen (β : Type) where
  pick : Option TaskId
  /-- The scheduler before the trap. -/
  asked : Scheduler β
  /-- The scheduler when a task goes on. -/
  left : Scheduler β

/-- The same, less what is known of stack pointers. -/
def Seen.blind (x : Seen β) : Seen β := ⟨x.pick, x.asked.blind, x.left.blind⟩

/-! ## On a host machine -/

/-- A call, with the trap at once if it picks a task. -/
def Call.onHost (s : Scheduler β) (c : Call β) : Scheduler β :=
  if (c.pass s).pick.isSome then switchNow (c.pass s).scheduler else (c.pass s).scheduler

/-- What is seen of calls, first to last. -/
def hostHistory (s : Scheduler β) : List (Call β) → List (Seen β)
  | [] => []
  | c :: cs => ⟨(c.pass s).pick, (c.pass s).scheduler, c.onHost s⟩ :: hostHistory (c.onHost s) cs

end Kernel

open Kernel

theorem Script.Rig.scheduler_perform (r : Script.Rig) (site : Script.Site) :
    (∀ argument size name, (r.perform site (.create argument size name)).1.scheduler =
      (Call.create .script argument size name).onHost r.scheduler) ∧
    (r.perform site .yield).1.scheduler = Call.yield.onHost r.scheduler ∧
    (∀ ticks, (r.perform site (.sleep ticks)).1.scheduler = (Call.sleep ticks).onHost r.scheduler) ∧
    (∀ id, (r.perform site (.exit id)).1.scheduler = (Call.exit id).onHost r.scheduler) ∧
    (r.perform site .hardwareTick).1.scheduler = Call.tick.onHost r.scheduler :=
  ⟨fun _ _ _ => rfl, rfl, fun _ => rfl, fun _ => rfl, rfl⟩

namespace Board

open Cpu

/-! ## On the board -/

/-- A call on the board. -/
def serve (b : Board β κ) : Call β → Board β κ
  | .create body argument size name => (b.create body argument size name).2
  | .yield => b.switchBy Kernel.yield
  | .sleep ticks => b.switchBy (Kernel.sleep · ticks)
  | .exit id => { b with scheduler := b.scheduler.exit id }
  | .tick => b.sysTick

/-- A task runs on its stack, exceptions are let through, and the trap is not due. -/
structure Ready (b : Board β κ) : Prop where
  handling : b.cpu.handling = false
  control : b.cpu.control = 2
  primask : b.cpu.primask &&& 1 = 0
  quiet : b.registers.trapPending = false

/-- The stack pointer with which the trap leaves the task that it interrupts: below the registers
    that are saved. -/
def trapSp (b : Board β κ) : Address := (b.cpu.psp - 64).toUInt64

section
variable {b b' : Board β κ}

theorem registers_execute (b : Board β κ) (x : Instr) : (b.execute x).registers = b.registers := by
  cases x with
  | bx n => unfold execute; dsimp only; split_ifs <;> rfl
  | _ => rfl

theorem registers_executeAll (b : Board β κ) (code : List Instr) :
    (b.executeAll code).registers = b.registers := by
  induction code generalizing b with
  | nil => rfl
  | cons x code ih => exact (ih _).trans (registers_execute b x)

theorem stored_takeTrap (b : Board β κ) : b.takeTrap.registers.stored = b.registers.stored :=
  (congrArg Registers.stored
    (registers_executeAll { b with registers.trapPending := false } Cpu.switchCode)).trans rfl

/-- The tick leaves alone what was written to the registers. -/
theorem stored_sysTick (b : Board β κ) : b.sysTick.registers.stored = b.registers.stored := by
  have hfinish : ∀ b : Board β κ, b.finish.registers.stored = b.registers.stored := by
    intro b
    unfold Board.finish
    dsimp only
    split_ifs
    · exact stored_takeTrap _
    · rfl
  have hrequest : ∀ b : Board β κ, b.requestTrap.registers.stored = b.registers.stored := by
    intro b
    unfold requestTrap
    dsimp only
    split_ifs
    · exact stored_takeTrap _
    · rfl
  refine (hfinish _).trans ?_
  unfold Board.switchBy
  dsimp only
  split_ifs
  · exact hrequest _
  · rfl

/-- **The trap**, whatever lies on the stack of the task. -/
theorem takeTrap_ready (hh : b.cpu.handling = true) (hc : b.cpu.control = 2)
    (hlr : b.cpu.lr = returnToTask) (hp : b.cpu.primask &&& 1 = 0) :
    b.takeTrap.Ready ∧
      b.takeTrap.scheduler = (b.scheduler.commit (b.cpu.psp - 32).toUInt64).2 := by
  obtain ⟨C, hC⟩ := exists_entered hh hc hlr
  obtain ⟨-, hs, hspecial, hh', -⟩ := takeTrap_spec hC
  refine ⟨⟨hh', (control_eq hspecial).trans hc, ?_, ?_⟩, hs⟩
  · rw [primask_eq hspecial]; exact hp
  · exact congrArg Registers.trapPending (registers_executeAll _ _)

/-- A task that asks for a pass is interrupted at once if that picks a task. -/
theorem Ready.switchBy (h : b.Ready) (pass : Scheduler β → Pass β) :
    (b.switchBy pass).Ready ∧
      (b.switchBy pass).scheduler =
        if (pass b.scheduler).pick.isSome then ((pass b.scheduler).scheduler.commit b.trapSp).2
        else (pass b.scheduler).scheduler := by
  unfold Board.switchBy
  dsimp only
  split_ifs with hpick
  · obtain ⟨events, hb⟩ := drive_requestTrap { b with
      scheduler := (pass b.scheduler).scheduler
      memory := b.memory.storeAll (pass b.scheduler).stores }
    unfold requestTrap
    rw [hb]
    generalize hb₁ : ({ b with
      scheduler := (pass b.scheduler).scheduler
      memory := b.memory.storeAll (pass b.scheduler).stores
      registers.trapPending := true
      events := events } : Board β κ) = b₁
    have hcpu : b₁.cpu = b.cpu := by rw [← hb₁]
    have htrap : b₁.registers.trapPending = true := by rw [← hb₁]
    have hsched : b₁.scheduler = (pass b.scheduler).scheduler := by rw [← hb₁]
    dsimp only
    rw [if_pos (by rw [htrap, hcpu, h.handling, h.primask]; rfl)]
    have henter := enter_eq (b := b₁) (by rw [hcpu]; exact onTaskStack_of h.handling h.control)
    obtain ⟨hready, hs⟩ := takeTrap_ready (b := b₁.enter) (by rw [henter])
      (by rw [henter, hcpu]; exact h.control) (by rw [henter])
      (by rw [henter, hcpu]; exact h.primask)
    refine ⟨hready, hs.trans ?_⟩
    rw [henter, hsched, hcpu, psp_sub_sub]; rfl
  · exact ⟨⟨h.handling, h.control, h.primask, h.quiet⟩, rfl⟩

theorem finish_ready (hh : b.cpu.handling = true) (hc : b.cpu.control = 2)
    (hlr : b.cpu.lr = returnToTask) (hp : b.cpu.primask &&& 1 = 0) :
    b.finish.Ready ∧
      b.finish.scheduler =
        if b.registers.trapPending then (b.scheduler.commit (b.cpu.psp - 32).toUInt64).2
        else b.scheduler := by
  obtain ⟨C, hentered⟩ := exists_entered hh hc hlr
  refine ⟨?_, hentered.scheduler_finish⟩
  obtain ⟨hh', hc', hlr', -⟩ := hentered.clobber
  have hspecial : (b.clobber scratchRegs).cpu.special = b.cpu.special := special_setAll _ _ _
  have hp' : (b.clobber scratchRegs).cpu.primask &&& 1 = 0 := by
    rw [primask_eq hspecial]; exact hp
  unfold Board.finish
  dsimp only
  split_ifs with ht
  · exact (takeTrap_ready hh' hc' hlr' hp').1
  · rw [hlr']
    obtain ⟨-, -, hspecial', hhandling, -⟩ := leave_rest hc'
    refine ⟨hhandling, (control_eq hspecial').trans hc', ?_, Bool.eq_false_iff.2 ht⟩
    rw [primask_eq hspecial']; exact hp'

/-- A task that the tick interrupts goes on, or is left like one that has asked. -/
theorem Ready.sysTick (h : b.Ready) :
    b.sysTick.Ready ∧
      b.sysTick.scheduler =
        if (Kernel.tick b.scheduler).pick.isSome then
          ((Kernel.tick b.scheduler).scheduler.commit b.trapSp).2
        else (Kernel.tick b.scheduler).scheduler := by
  have henter := enter_eq (onTaskStack_of h.handling h.control)
  have hsched : b.enter.scheduler = b.scheduler := by rw [henter]
  have hpsp : b.enter.cpu.psp - 32 = b.cpu.psp - 64 := by rw [henter]; exact psp_sub_sub _
  obtain ⟨events, hb⟩ := switchBy_of_handling (b := b.enter) (by rw [henter]) Kernel.tick
  have hcpu : (b.enter.switchBy Kernel.tick).cpu = b.enter.cpu := by rw [hb]
  have hs : (b.enter.switchBy Kernel.tick).scheduler = (Kernel.tick b.enter.scheduler).scheduler := by
    rw [hb]
  have htrap : (b.enter.switchBy Kernel.tick).registers.trapPending =
      (Kernel.tick b.enter.scheduler).pick.isSome := by
    rw [hb, henter, h.quiet]; exact Bool.false_or _
  obtain ⟨hready, hfinish⟩ := finish_ready (b := b.enter.switchBy Kernel.tick)
    (by rw [hcpu, henter]) (by rw [hcpu, henter]; exact h.control) (by rw [hcpu, henter])
    (by rw [hcpu, henter]; exact h.primask)
  refine ⟨hready, hfinish.trans ?_⟩
  rw [hs, htrap, hcpu, hpsp, hsched]; rfl

/-- **A call on the board.**  The trap comes when the pass of the call picks a task, and it finds
    the stack pointer that the task really has. -/
theorem Ready.serve (h : b.Ready) (c : Call β) :
    (b.serve c).Ready ∧
      (b.serve c).scheduler =
        if (c.pass b.scheduler).pick.isSome then ((c.pass b.scheduler).scheduler.commit b.trapSp).2
        else (c.pass b.scheduler).scheduler := by
  cases c with
  | create body argument size name => exact ⟨⟨h.handling, h.control, h.primask, h.quiet⟩, rfl⟩
  | yield => exact h.switchBy Kernel.yield
  | sleep ticks => exact h.switchBy (Kernel.sleep · ticks)
  | exit id => exact ⟨⟨h.handling, h.control, h.primask, h.quiet⟩, rfl⟩
  | tick => exact h.sysTick

end

/-! ## Both -/

/-- Calls on the board, one after another, with what is seen of them.  Between them code of tasks
    does anything that leaves the scheduler alone. -/
inductive Serves : Board β κ → List (Call β) → List (Seen β) → Prop
  | nil {b : Board β κ} : Serves b [] []
  | code {b b' : Board β κ} {cs : List (Call β)} {seen : List (Seen β)} :
      b'.scheduler = b.scheduler → b'.Ready → Serves b' cs seen → Serves b cs seen
  | call {b : Board β κ} {c : Call β} {cs : List (Call β)} {seen : List (Seen β)} :
      Serves (b.serve c) cs seen →
      Serves b (c :: cs)
        (⟨(c.pass b.scheduler).pick, (c.pass b.scheduler).scheduler, (b.serve c).scheduler⟩ :: seen)

/-- Wherever the trap finds the task, the same is left. -/
theorem serve_onHost {b : Board β κ} {s : Scheduler β} (h : b.Ready)
    (hs : b.scheduler.blind = s.blind) (c : Call β) :
    (b.serve c).scheduler.blind = (c.onHost s).blind := by
  obtain ⟨hpick, hasked⟩ := c.pass_congr hs
  rw [(h.serve c).2, Call.onHost, hpick]
  split_ifs
  · rw [Kernel.switchNow, ← Scheduler.blind_commit _ _ 0, hasked, Scheduler.blind_commit]
  · exact hasked

theorem Serves.seen_eq {b : Board β κ} {cs : List (Call β)} {seen : List (Seen β)}
    (hr : b.Serves cs seen) {s : Scheduler β} (h : b.Ready) (hs : b.scheduler.blind = s.blind) :
    seen.map Seen.blind = (hostHistory s cs).map Seen.blind := by
  induction hr generalizing s with
  | nil => rfl
  | code hsame hready _ ih => exact ih hready ((congrArg Scheduler.blind hsame).trans hs)
  | @call b c cs seen _ ih =>
    obtain ⟨hpick, hasked⟩ := c.pass_congr hs
    have hleft := serve_onHost h hs c
    rw [hostHistory, List.map_cons, List.map_cons, ih (h.serve c).1 hleft]
    simp only [Seen.blind, hpick, hasked, hleft]

/-- **Tasks are scheduled alike on a host machine and on the board.**  No decision looks at a stack
    pointer: runs of requests of all kinds that differ only in the stack pointers that the traps
    bring give the same answers, write the same words and go through the same states, but for the
    stack pointers in the table and those that the traps return; and what can be asked about a task
    differs in the depth of its stack at most.  So from the same state the same calls are seen
    alike on a host machine, where the trap is made at once with the stack pointer on record, and
    on the board, where it interrupts the task wherever its code has brought its stack pointer:
    they pick the same tasks and leave the same states, before each trap and after it. -/
theorem ports_agree :
    (∀ {s s' : Scheduler β} {rs rs' : List (Request β)}, s.blind = s'.blind →
      rs.map Request.blind = rs'.map Request.blind →
      (s.history rs).map Scheduler.Served.blind = (s'.history rs').map Scheduler.Served.blind ∧
        ∀ id, ((s.serveAll rs).info id).map Info.blind = ((s'.serveAll rs').info id).map Info.blind ∧
          (s.serveAll rs).entryOf id = (s'.serveAll rs').entryOf id) ∧
    ∀ {b : Board β κ} {s : Scheduler β} {cs : List (Call β)} {seen : List (Seen β)},
      b.Ready → b.scheduler.blind = s.blind → b.Serves cs seen →
      seen.map Seen.blind = (hostHistory s cs).map Seen.blind := by
  constructor
  · intro s s' rs rs' hs hr
    refine ⟨Scheduler.history_eq_of_blind hs hr, fun id => ?_⟩
    have hnow := Scheduler.serveAll_congr hs hr
    constructor
    · rw [← Scheduler.info_blind, hnow, Scheduler.info_blind]
    · rw [← Scheduler.entryOf_blind, hnow, Scheduler.entryOf_blind]
  · intro b s cs seen h hs hr
    exact hr.seen_eq h hs

theorem twoTasks_ready : twoTasks.start.Ready := by
  obtain ⟨h, hh⟩ := twoTasks_prepared.start
  exact ⟨hh, h.control, by decide, by decide⟩

/-- A task sleeps for two ticks. -/
theorem ports_agree_sleep :
    let s := twoTasks.start.scheduler
    (s.history [.pass .call, .commit 0x20003180]).map Scheduler.Served.blind =
        (s.history [.pass .call, .commit 0]).map Scheduler.Served.blind ∧
      ∃ seen, twoTasks.start.Serves [.sleep 2, .tick, .tick] seen ∧
        seen.map Seen.pick = [some 0, none, some 1] := by
  intro s
  obtain ⟨hruns, hports⟩ := ports_agree (β := Unit) (κ := Unit)
  have hr : [Request.pass .call, .commit 0x20003180].map (Request.blind (β := Unit)) =
      [Request.pass .call, .commit 0].map Request.blind := rfl
  have hsame : s.blind = s.blind := rfl
  have hserves : ∃ seen, twoTasks.start.Serves [.sleep 2, .tick, .tick] seen :=
    ⟨_, .call (.call (.call .nil))⟩
  obtain ⟨seen, hserves⟩ := hserves
  refine ⟨(hruns hsame hr).1, seen, hserves, ?_⟩
  have hpick : ∀ x : List (Seen Unit), x.map Seen.pick = (x.map Seen.blind).map Seen.pick := by
    intro x
    rw [List.map_map]; rfl
  rw [hpick, hports twoTasks_ready rfl hserves, ← hpick]
  decide +kernel

end Board

end Carousel
