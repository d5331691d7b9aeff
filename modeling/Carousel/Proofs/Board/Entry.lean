/-
  Carousel — the two ways into a task that has not run.

  * `AtEntry`: a task is about to execute its first instruction;
  * `launchCode_atEntry`: the launch comes there, by popping the first context by hand;
  * `takeTrap_atEntry`: so does the trap, by loading half of it and returning from the exception;
  * `loads_launchCode`, `loads_switchCode`: what both of them load;
  * `entries_agree`: the two ways come to the same, and touch nothing of the stack but 64 bytes.
-/
import Carousel.Proofs.Board.Loads
import Carousel.Proofs.Board.Untouched
import Carousel.Proofs.Word

namespace Carousel.Board

open Cpu Stack Memory

variable {β κ : Type}

/-- Task `id` is about to begin, with all of its stack below `top`. -/
structure AtEntry (b : Board β κ) (id : Nat) (e : EntryPoints) (top : Word) : Prop where
  pc : b.cpu.pc = e.trampoline &&& ~~~1
  thumb : b.cpu.xpsr &&& thumbBit = thumbBit
  number : b.cpu.r0.toNat = id
  zero : b.cpu.r1 = 0 ∧ b.cpu.r2 = 0 ∧ b.cpu.r3 = 0 ∧ b.cpu.r12 = 0
  lr : b.cpu.lr = e.exit
  psp : b.cpu.psp = top
  interruptible : b.cpu.primask &&& 1 = 0
  onTaskStack : b.cpu.onTaskStack = true

/-- The first context of task `id` lies below `top`. -/
def LaidOut (m : Memory) (id : Nat) (e : EntryPoints) (top : Word) : Prop :=
  m.AgreeOn ((Memory.filled 0).storeAll (Frame.stores id e top.toUInt64)) (top.toNat - 64) top.toNat

/-- The word is one of the sixteen below `top`. -/
def InFrame (top : Word) (a : Address) : Prop :=
  top.toNat ≤ a.toNat + 64 ∧ a.toNat + 4 ≤ top.toNat

/-- What the trap saves lies elsewhere: the registers of the task that it interrupts, and the two
    that it keeps on the main stack. -/
structure Elsewhere (b : Board β κ) (top : Word) : Prop where
  registers : (b.cpu.psp - 32).toNat + 96 ≤ top.toNat ∨ top.toNat ≤ (b.cpu.psp - 32).toNat
  main : (b.cpu.msp - 8).toNat + 72 ≤ top.toNat ∨ top.toNat ≤ (b.cpu.msp - 8).toNat

section
variable {b : Board β κ} {id : Nat} {e : EntryPoints} {top : Word}

theorem toNat_bottom_word (h : 64 ≤ top.toNat) :
    (Frame.bottom top.toUInt64).toUInt32.toNat = top.toNat - 64 := by
  have hlt := top.toNat_lt
  have hbot : (Frame.bottom top.toUInt64).toNat = top.toNat - 64 := Frame.toNat_bottom h
  rw [Context.toNat_toUInt32 (by omega), hbot]

theorem toUInt64_add {a n : Word} (h : a.toNat + n.toNat < 2 ^ 32) :
    (a + n).toUInt64 = a.toUInt64 + n.toUInt64 := by
  have ha := a.toNat_lt
  have hn := n.toNat_lt
  rw [← UInt64.toNat_inj, UInt32.toNat_toUInt64, UInt32.toNat_add, UInt64.toNat_add,
    UInt32.toNat_toUInt64, UInt32.toNat_toUInt64]
  omega

theorem LaidOut.savedAt {m : Memory} (h : LaidOut m id e top) (htop : 64 ≤ top.toNat) :
    (Context.first id e top.toUInt64).SavedAt m (Frame.bottom top.toUInt64).toUInt32 := by
  have hlt := top.toNat_lt
  have hbot := toNat_bottom_word htop
  have hsaved : (Context.first id e top.toUInt64).SavedAt
      ((Memory.filled 0).storeAll (Frame.stores id e top.toUInt64))
      (Frame.bottom top.toUInt64).toUInt32 := Context.savedAt_first _ id e htop hlt
  exact hsaved.congr hbot.ge (by omega) hlt.le h

theorem inFrame_of_mem {a w : Address} {n : Nat} (hlo : top.toNat ≤ a.toNat + 64)
    (hhi : a.toNat + 4 * n ≤ top.toNat) (hw : w ∈ wordsFrom a n) : InFrame top w := by
  have hlt := top.toNat_lt
  have := mem_wordsFrom (by omega) hw
  exact ⟨by omega, by omega⟩

/-! ## The launch -/

/-- The launch code in closed form: three times it pops, and then it branches. -/
theorem cpu_launchCode (hh : b.cpu.handling = false) {a : Word} (ha : b.cpu.r0 + 32 = a) :
    (b.executeAll launchCode).cpu = { b.cpu with
      r0 := b.memory.word a.toUInt64
      r1 := b.memory.word (a.toUInt64 + 4)
      r2 := b.memory.word (a.toUInt64 + 4 + 4)
      r3 := b.memory.word (a.toUInt64 + 4 + 4 + 4)
      r4 := b.memory.word (a + 20).toUInt64
      r5 := b.memory.word ((a + 20).toUInt64 + 4) ||| 1
      r6 := b.memory.word (a + 20 + 8).toUInt64
      r12 := b.memory.word (a.toUInt64 + 4 + 4 + 4 + 4)
      lr := b.memory.word (a + 20).toUInt64
      pc := b.memory.word ((a + 20).toUInt64 + 4) &&& ~~~1
      xpsr := b.cpu.xpsr ||| thumbBit
      psp := a + 20 + 8 + 4
      control := 2
      primask := 0 } := by
  subst ha
  simp [executeAll, launchCode, execute, Cpu.setAll, Cpu.set, Cpu.get, Cpu.sp, Cpu.setSp,
    Cpu.onTaskStack, scratchRegs, hh, Memory.words, Word.or_and_self, Word.or_and_not]

/-- **The launch** comes to the entry of the task whose first context lies where R0 points to. -/
theorem launchCode_atEntry (hid : id < 2 ^ 32) (htop : 64 ≤ top.toNat)
    (hh : b.cpu.handling = false) (hr0 : b.cpu.r0 = (Frame.bottom top.toUInt64).toUInt32)
    (hm : LaidOut b.memory id e top) : (b.executeAll launchCode).AtEntry id e top := by
  have hlt := top.toNat_lt
  generalize ha : b.cpu.r0 + 32 = a
  have hnat : a.toNat = top.toNat - 32 := by
    rw [← ha, UInt32.toNat_add, hr0, toNat_bottom_word htop, show (32 : Word).toNat = 32 from rfl]
    omega
  -- the second pop goes on where the first one stopped
  have hnext : (a + 20).toUInt64 = a.toUInt64 + 4 + 4 + 4 + 4 + 4 := by
    rw [toUInt64_add (by rw [hnat, show (20 : Word).toNat = 20 from rfl]; omega)]
    simp [UInt64.add_assoc]
  have hpsp : a + 20 + 8 + 4 = top := by
    have h32 : a + 20 + 8 + 4 = a + 32 := by simp [UInt32.add_assoc]
    rw [h32, ← UInt32.toNat_inj, UInt32.toNat_add, hnat, show (32 : Word).toNat = 32 from rfl]
    omega
  have hwords := (hm.savedAt htop).hardware
  rw [← hr0, ha] at hwords
  simp only [Memory.words, Context.hardware, stackedRegs, scratchRegs, List.map, List.cons_append,
    List.nil_append, List.cons.injEq, and_true] at hwords
  obtain ⟨h0, h1, h2, h3, h12, hlr, hpc, -⟩ := hwords
  have hcpu := cpu_launchCode hh ha
  rw [hnext, h0, h1, h2, h3, h12, hlr, hpc, hpsp] at hcpu
  refine ⟨?_, ?_, ?_, ?_, ?_, ?_, ?_, ?_⟩ <;> rw [hcpu]
  · show (e.trampoline &&& ~~~1) &&& ~~~1 = _
    rw [UInt32.and_assoc, UInt32.and_self]
  · exact Word.or_and_self _ _
  · show (UInt32.ofNat id).toNat = id
    rw [UInt32.toNat_ofNat', Nat.mod_eq_of_lt hid]
  · exact ⟨rfl, rfl, rfl, rfl⟩
  · rfl
  · show (0 : Word) &&& 1 = 0
    decide
  · exact onTaskStack_of hh rfl

theorem loadsAll_launchCode (hh : b.cpu.handling = false) {a : Word} (ha : b.cpu.r0 + 32 = a) :
    b.loadsAll launchCode =
      wordsFrom a.toUInt64 5 ++ (wordsFrom (a + 20).toUInt64 2 ++
        wordsFrom (a + 20 + 8).toUInt64 1) := by
  subst ha
  simp [loadsAll, loads, execute, launchCode, Cpu.setAll, Cpu.set, Cpu.get, Cpu.sp, Cpu.setSp,
    Cpu.onTaskStack, scratchRegs, hh, Memory.words]

theorem loads_launchCode (htop : 64 ≤ top.toNat) (hh : b.cpu.handling = false)
    (hr0 : b.cpu.r0 = (Frame.bottom top.toUInt64).toUInt32) {w : Address}
    (hw : w ∈ b.loadsAll launchCode) : InFrame top w := by
  have hlt := top.toNat_lt
  generalize ha : b.cpu.r0 + 32 = a
  have hnat : a.toNat = top.toNat - 32 := by
    rw [← ha, UInt32.toNat_add, hr0, toNat_bottom_word htop, show (32 : Word).toNat = 32 from rfl]
    omega
  have hadd : ∀ k : Word, k.toNat ≤ 32 → (a + k).toUInt64.toNat = top.toNat - 32 + k.toNat := by
    intro k hk
    rw [UInt32.toNat_toUInt64, UInt32.toNat_add, hnat]
    omega
  have h20 := hadd 20 (by decide)
  have h28 := hadd 28 (by decide)
  rw [loadsAll_launchCode hh ha, List.mem_append, List.mem_append, UInt32.add_assoc] at hw
  rcases hw with hw | hw | hw
  · refine inFrame_of_mem ?_ ?_ hw
    · rw [UInt32.toNat_toUInt64, hnat]; omega
    · rw [UInt32.toNat_toUInt64, hnat]; omega
  · refine inFrame_of_mem ?_ ?_ hw
    · rw [h20]; omega
    · rw [h20, show (20 : Word).toNat = 20 from rfl]; omega
  · refine inFrame_of_mem ?_ ?_ hw
    · show _ ≤ (a + 28).toUInt64.toNat + 64
      rw [h28]; omega
    · show (a + 28).toUInt64.toNat + 4 * 1 ≤ _
      rw [h28, show (28 : Word).toNat = 28 from rfl]; omega

/-- So the first task begins: its first context is laid out just before the launch. -/
theorem start_atEntry (hh : b.cpu.handling = false) {first : TaskId}
    (hfirst : b.scheduler.launch.2.1.current = first)
    (htop : 64 ≤ (b.scheduler.task first).top.toNat)
    (hlim : (b.scheduler.task first).top.toNat < 2 ^ 32) :
    b.start.AtEntry first b.scheduler.entryPoints (b.scheduler.task first).top.toUInt32 := by
  obtain ⟨b', -, hm, hh', -, hstart⟩ := start_eq b
  have hsp := Scheduler.launch_fst b.scheduler
  have hstores := Scheduler.stores_launch b.scheduler
  have hword := Context.toUInt64_toUInt32 hlim
  have hid : first.val < 2 ^ 32 := first.isLt.trans (by decide)
  have hnat : 64 ≤ (b.scheduler.task first).top.toUInt32.toNat := by
    rwa [Context.toNat_toUInt32 hlim]
  rw [hfirst] at hsp hstores
  rw [hstart]
  refine launchCode_atEntry hid hnat ?_ ?_ ?_
  · exact (handling_set _ _ _).trans (hh'.trans hh)
  · show b.scheduler.launch.1.toUInt32 = _
    rw [hsp, hword]
  · show LaidOut b'.memory _ _ _
    rw [hm, hstores, LaidOut, hword]
    exact fun c hlo hhi => Frame.byte_storeAll_stores_congr _ _ _ _ htop
      (Nat.sub_le_iff_le_add.1 (by rwa [Context.toNat_toUInt32 hlim] at hlo))
      (by rwa [Context.toNat_toUInt32 hlim] at hhi)

/-! ## The trap -/

theorem Elsewhere.agreeOn (h : b.Elsewhere top) :
    b.trapMemory.AgreeOn b.memory (top.toNat - 64) top.toNat := by
  have hregs := h.registers
  have hmain := h.main
  have hlt := (b.cpu.psp - 32).toNat_lt
  have hlt' := (b.cpu.msp - 8).toNat_lt
  rw [trapMemory_eq]
  refine (agreeOn_storeAll _ ?_ ?_).trans (agreeOn_storeAll _ ?_ ?_)
  · rw [UInt32.toNat_toUInt64]
    show _ + 4 * 2 ≤ _ ∨ _
    omega
  · rw [UInt32.toNat_toUInt64]
    show _ + 4 * 2 ≤ _
    omega
  · rw [UInt32.toNat_toUInt64, length_savedRegs_map]
    omega
  · rw [UInt32.toNat_toUInt64, length_savedRegs_map]
    omega

/-- **The trap** comes to the entry of the task whose first context lies where the stack pointer on
    record for it points to. -/
theorem takeTrap_atEntry (hid : id < 2 ^ 32) (htop : 64 ≤ top.toNat)
    (hh : b.cpu.handling = true) (hc : b.cpu.control = 2) (hlr : b.cpu.lr = returnToTask)
    (hmask : b.cpu.primask &&& 1 = 0) (hout : b.Elsewhere top) {p : TaskId}
    (hp : b.scheduler.pending = some p) (hne : p ≠ b.scheduler.current)
    (hsp : (b.scheduler.task p).sp = Frame.bottom top.toUInt64) (hm : LaidOut b.memory id e top) :
    b.takeTrap.AtEntry id e top := by
  obtain ⟨C, hentered⟩ := exists_entered hh hc hlr
  obtain ⟨-, -, hspecial, hhandling, -, hctx⟩ := takeTrap_spec hentered
  rw [(Scheduler.commit_pending hp hne _).2, hsp] at hctx
  have hlaid : LaidOut b.trapMemory id e top := hout.agreeOn.trans hm
  have hcontext := hctx _ (hlaid.savedAt htop)
  have hreg := congrFun (congrArg Context.reg hcontext)
  refine ⟨congrArg Context.pc hcontext, ?_, ?_, ?_, hreg .lr, ?_, ?_, ?_⟩
  · rw [show b.takeTrap.cpu.xpsr = Frame.initialStatus from congrArg Context.xpsr hcontext]
    decide
  · rw [show b.takeTrap.cpu.r0 = UInt32.ofNat id from hreg .r0, UInt32.toNat_ofNat',
      Nat.mod_eq_of_lt hid]
  · exact ⟨hreg .r1, hreg .r2, hreg .r3, hreg .r12⟩
  · exact (congrArg Context.psp hcontext).trans (UInt32.toUInt32_toUInt64 top)
  · rw [primask_eq hspecial]; exact hmask
  · exact onTaskStack_of hhandling ((control_eq hspecial).trans hc)

theorem loads_call (hh : b.cpu.handling = true) :
    b.loadsAll [.push [.r3, .lr], .blSwitch, .pop [.r3, .lr]] =
      wordsFrom (b.cpu.msp - 8).toUInt64 2 := by
  obtain ⟨-, -, -, hspecial, hh'⟩ := execute_blSwitch (b.execute (.push [.r3, .lr]))
  rw [execute_push hh] at hspecial hh'
  show wordsFrom ((b.execute (.push [.r3, .lr])).execute .blSwitch).cpu.sp.toUInt64 2 ++ [] = _
  rw [execute_push hh, List.append_nil, sp_of_handling (hh'.trans hh), msp_eq hspecial]
  rfl

theorem returnSp_returnToTask (b : Board β κ) : b.returnSp returnToTask = b.cpu.psp := by
  refine sp_of_onTaskStack ?_
  show (!false && (b.cpu.control ||| 2) &&& 2 != 0) = true
  rw [Word.or_and_self]
  decide

theorem loads_bx_lr (hh : b.cpu.handling = true) (hlr : b.cpu.lr = returnToTask) :
    b.loads (.bx .lr) = wordsFrom b.cpu.psp.toUInt64 8 := by
  simp [loads, Cpu.get, hh, hlr, returnSp_returnToTask]

theorem loads_restore (hh : b.cpu.handling = true) (hlr : b.cpu.lr = returnToTask) :
    b.loadsAll [.ldmia .r0 savedRegs, .msrPsp .r0, .isb, .bx .lr] =
      wordsFrom b.cpu.r0.toUInt64 8 ++ wordsFrom (b.cpu.r0 + 32).toUInt64 8 := by
  generalize hc : (b.cpu.setAll savedRegs (b.memory.words b.cpu.r0.toUInt64 8)).set
    (b.cpu.r0 + 32) .r0 = c
  have hload : b.execute (.ldmia .r0 savedRegs) = { b with cpu := c } := by rw [← hc]; rfl
  have hr0 : c.get .r0 = b.cpu.r0 + 32 := by rw [← hc, get_set, if_pos rfl]
  have hlr' : c.get .lr = returnToTask := by
    rw [← hc, get_set, if_neg (by decide), get_setAll_of_notMem _ _ _ (by decide)]
    exact hlr
  have hh' : c.handling = true := by rw [← hc, handling_set, handling_setAll, hh]
  -- the stack pointer of the task moves past what was loaded, and there the return finds the rest
  have hreturn := loads_bx_lr (b := { b with cpu := { c with psp := c.get .r0 } }) hh' hlr'
  rw [loadsAll, hload]
  show wordsFrom b.cpu.r0.toUInt64 8 ++
    (({ b with cpu := { c with psp := c.get .r0 } } : Board β κ).loads (.bx .lr) ++ []) = _
  rw [hreturn, List.append_nil, hr0]

theorem loadsAll_switchCode (hh : b.cpu.handling = true) (hlr : b.cpu.lr = returnToTask) :
    let sp := (b.scheduler.commit (b.cpu.psp - 32).toUInt64).1.toUInt32
    b.loadsAll switchCode =
      wordsFrom (b.cpu.msp - 8).toUInt64 2 ++
        (wordsFrom sp.toUInt64 8 ++ wordsFrom (sp + 32).toUInt64 8) := by
  intro sp
  -- the first part of the trap loads nothing
  let b₁ : Board β κ := { b with
    memory := b.stackBelow b.cpu.psp (savedRegs.map b.cpu.get)
    cpu := b.cpu.set (b.cpu.psp - 32) .r0 }
  have hh₁ : b₁.cpu.handling = true := (handling_set _ _ _).trans hh
  have hfirst : b.loadsAll switchCode =
      b₁.loadsAll ([.push [.r3, .lr], .blSwitch, .pop [.r3, .lr]] ++
        [.ldmia .r0 savedRegs, .msrPsp .r0, .isb, .bx .lr]) := rfl
  obtain ⟨-, -, h0, hlr₂, -, hh₂⟩ := execute_call hh₁
  rw [hfirst, loadsAll_append]
  generalize b₁.executeAll [.push [.r3, .lr], .blSwitch, .pop [.r3, .lr]] = b₂ at h0 hlr₂ hh₂ ⊢
  congr 1
  · exact loads_call hh₁
  · rw [loads_restore hh₂ (hlr₂.trans hlr), show b₂.cpu.r0 = sp from h0]

/-- What it loads is all of that, and what it has just put on the main stack. -/
theorem loads_switchCode (htop : 64 ≤ top.toNat) (hh : b.cpu.handling = true)
    (hlr : b.cpu.lr = returnToTask)
    (hfst : (b.scheduler.commit (b.cpu.psp - 32).toUInt64).1 = Frame.bottom top.toUInt64)
    {w : Address} (hw : w ∈ b.loadsAll switchCode) :
    InFrame top w ∨ w ∈ wordsFrom (b.cpu.msp - 8).toUInt64 2 := by
  have hbot := toNat_bottom_word htop
  rw [loadsAll_switchCode hh hlr, hfst, List.mem_append, List.mem_append] at hw
  rcases hw with hw | hw | hw
  · exact Or.inr hw
  · refine Or.inl (inFrame_of_mem ?_ ?_ hw)
    · rw [UInt32.toNat_toUInt64, hbot]; omega
    · rw [UInt32.toNat_toUInt64, hbot]; omega
  · have hlt := top.toNat_lt
    have h32 : ((Frame.bottom top.toUInt64).toUInt32 + 32).toNat = top.toNat - 32 := by
      rw [UInt32.toNat_add, hbot, show (32 : Word).toNat = 32 from rfl]
      omega
    refine Or.inl (inFrame_of_mem ?_ ?_ hw)
    · rw [UInt32.toNat_toUInt64, h32]; omega
    · rw [UInt32.toNat_toUInt64, h32]; omega

end

/-! ## Both -/

/-- **The two ways into a task agree.**  Laying a first context out below `top` sets the 64 bytes
    there, whatever memory held, and no others.  Where a first context lies, the launch code, with
    R0 at the context and all other registers as they may be, and the trap, when the pending task
    has it on record and what the trap itself saves lies elsewhere, both come to the entry of the
    task.  From its stack the launch loads words among those 64 bytes only, and so does the trap,
    which loads besides what it has just put on the main stack. -/
theorem entries_agree {id : Nat} (hid : id < 2 ^ 32) (e : EntryPoints) {top : Word}
    (htop : 64 ≤ top.toNat) :
    (∀ m : Memory, LaidOut (m.storeAll (Frame.stores id e top.toUInt64)) id e top ∧
      ∀ c : Address, c.toNat + 64 < top.toNat ∨ top.toNat ≤ c.toNat →
        (m.storeAll (Frame.stores id e top.toUInt64)).byte c = m.byte c) ∧
    (∀ b : Board β κ, LaidOut b.memory id e top → b.cpu.handling = false →
      b.cpu.r0 = (Frame.bottom top.toUInt64).toUInt32 →
      (b.executeAll launchCode).AtEntry id e top ∧ ∀ w ∈ b.loadsAll launchCode, InFrame top w) ∧
    ∀ (b : Board β κ) (p : TaskId), LaidOut b.memory id e top → b.cpu.handling = true →
      b.cpu.control = 2 → b.cpu.lr = returnToTask → b.cpu.primask &&& 1 = 0 → b.Elsewhere top →
      b.scheduler.pending = some p → p ≠ b.scheduler.current →
      (b.scheduler.task p).sp = Frame.bottom top.toUInt64 →
      b.takeTrap.AtEntry id e top ∧
        ∀ w ∈ ({ b with registers.trapPending := false } : Board β κ).loadsAll switchCode,
          InFrame top w ∨ w ∈ wordsFrom (b.cpu.msp - 8).toUInt64 2 := by
  have htop' : 64 ≤ top.toUInt64.toNat := htop
  refine ⟨fun m => ⟨fun c hlo hhi => ?_, fun c hc => ?_⟩, ?_, ?_⟩
  · exact Frame.byte_storeAll_stores_congr m _ id e htop' (Nat.sub_le_iff_le_add.1 hlo) hhi
  · exact Frame.byte_storeAll_stores m id e htop' hc
  · intro b hm hh hr0
    exact ⟨launchCode_atEntry hid htop hh hr0 hm, fun w => loads_launchCode htop hh hr0⟩
  · intro b p hm hh hc hlr hmask hout hp hne hsp
    refine ⟨takeTrap_atEntry hid htop hh hc hlr hmask hout hp hne hsp hm, fun w => ?_⟩
    exact loads_switchCode (b := { b with registers.trapPending := false }) htop hh hlr
      ((Scheduler.commit_pending hp hne _).2.trans hsp)

/-- The idle task begins: at a launch that finds numbers in registers and in memory, and when the
    trap comes for a task that has yielded to it. -/
theorem entries_agree_idle :
    let e := Kernel.Image.board.entryPoints
    let m := (Memory.filled 0xa5).storeAll (Frame.stores idleTask e 0x20003400)
    let launching : Board Unit Unit :=
      { twoTasks with memory := m, cpu := { Cpu.reset with r0 := 0x200033c0, r7 := 7 } }
    let trapped : Board Unit Unit := { yielding.enter with memory := m }
    (launching.executeAll launchCode).AtEntry idleTask e 0x20003400 ∧
      trapped.takeTrap.AtEntry idleTask e 0x20003400 := by
  intro e m launching trapped
  obtain ⟨hlaid, hlaunch, htrap⟩ := entries_agree (β := Unit) (κ := Unit)
    (show idleTask.val < 2 ^ 32 by decide) e (show 64 ≤ (0x20003400 : Word).toNat by decide)
  have hm : LaidOut m idleTask e 0x20003400 := (hlaid (.filled 0xa5)).1
  have hout : trapped.Elsewhere 0x20003400 := ⟨by decide, by decide⟩
  refine ⟨(hlaunch launching hm rfl (by decide)).1, ?_⟩
  exact (htrap trapped idleTask hm (by decide) (by decide) (by decide) (by decide) hout (by decide)
    (by decide) (by decide)).1

end Carousel.Board
