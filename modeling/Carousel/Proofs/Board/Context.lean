/-
  Carousel — the context of a task, in the registers and on its stack.

  * `Context`: the registers that a task must find again, its stack pointer among them;
  * `Context.SavedAt`: where its sixteen words are on the stack;
  * `Entered`: an exception is handled, and it interrupted this context;
  * `enter_entered`, `context_leave`: from the context into a handler and straight back;
  * `takeTrap_spec`: the trap stores one context and loads another one;
  * `Entered.scheduler_finish`: whether it comes at the end of an exception.
-/
import Carousel.Board.Machine
import Carousel.Proofs.Memory

namespace Carousel

/-- What a task must find again. -/
structure Context where
  reg : Reg → Word
  pc : Word
  xpsr : Word
  psp : Word

namespace Cpu

/-- The context in the registers. -/
def context (c : Cpu) : Context := ⟨c.get, c.pc, c.xpsr, c.psp⟩

/-- What belongs to no task: the main stack pointer, which stack is in use, and the mask. -/
def special (c : Cpu) : Word × Word × Word := (c.msp, c.control, c.primask)

/-! ## Registers -/

section
variable {c c' : Cpu}

theorem msp_eq (h : c'.special = c.special) : c'.msp = c.msp := congrArg Prod.fst h

theorem control_eq (h : c'.special = c.special) : c'.control = c.control :=
  congrArg (Prod.fst ∘ Prod.snd) h

theorem primask_eq (h : c'.special = c.special) : c'.primask = c.primask :=
  congrArg (Prod.snd ∘ Prod.snd) h

end

section
variable (c : Cpu) (v : Word) (d : Reg) (ds : List Reg) (vs : List Word)

@[simp] theorem psp_set : (c.set v d).psp = c.psp := by cases d <;> rfl

@[simp] theorem special_set : (c.set v d).special = c.special := by cases d <;> rfl

@[simp] theorem handling_set : (c.set v d).handling = c.handling := by cases d <;> rfl

/-- Loading registers leaves the rest of the processor alone. -/
theorem setAll_rest :
    (c.setAll ds vs).psp = c.psp ∧ (c.setAll ds vs).special = c.special ∧
      (c.setAll ds vs).handling = c.handling := by
  induction ds generalizing c vs with
  | nil => exact ⟨rfl, rfl, rfl⟩
  | cons d ds ih =>
    cases vs with
    | nil => exact ⟨rfl, rfl, rfl⟩
    | cons v vs => simpa [setAll] using ih (c.set v d) vs

@[simp] theorem psp_setAll : (c.setAll ds vs).psp = c.psp := (setAll_rest c ds vs).1

@[simp] theorem special_setAll : (c.setAll ds vs).special = c.special := (setAll_rest c ds vs).2.1

@[simp] theorem handling_setAll : (c.setAll ds vs).handling = c.handling :=
  (setAll_rest c ds vs).2.2

theorem get_setAll_of_notMem {n : Reg} (hn : n ∉ ds) : (c.setAll ds vs).get n = c.get n := by
  induction ds generalizing c vs with
  | nil => rfl
  | cons d ds ih =>
    rw [List.mem_cons, not_or] at hn
    cases vs with
    | nil => rfl
    | cons v vs => rw [setAll, ih _ _ hn.2, get_set, if_neg (Ne.symm hn.1)]

theorem get_setAll_map (f : Reg → Word) (n : Reg) :
    (c.setAll ds (ds.map f)).get n = if n ∈ ds then f n else c.get n := by
  induction ds generalizing c with
  | nil => rfl
  | cons d ds ih =>
    rw [List.map_cons, setAll, ih, get_set]
    by_cases hd : n = d
    · subst hd; simp
    · simp [hd, Ne.symm hd]

end

end Cpu

namespace Context

open Cpu Board

/-- The words that the processor stacks by itself. -/
def hardware (C : Context) : List Word := stackedRegs.map C.reg ++ [C.pc, C.xpsr]

/-- The words that the trap stores below them. -/
def software (C : Context) : List Word := savedRegs.map C.reg

@[simp] theorem length_hardware (C : Context) : C.hardware.length = 8 := rfl

/-- All words of the context lie at the stack pointer, and it is theirs. -/
structure SavedAt (C : Context) (m : Memory) (sp : Word) : Prop where
  software : m.words sp.toUInt64 8 = C.software
  hardware : m.words (sp + 32).toUInt64 8 = C.hardware
  psp : sp + 64 = C.psp

end Context

namespace Board

open Cpu

variable {β κ : Type}

/-- An exception is handled that interrupted the context `C` of a task. -/
structure Entered (b : Board β κ) (C : Context) : Prop where
  handling : b.cpu.handling = true
  control : b.cpu.control = 2
  lr : b.cpu.lr = returnToTask
  software : savedRegs.map b.cpu.get = C.software
  hardware : b.memory.words b.cpu.psp.toUInt64 8 = C.hardware
  psp : b.cpu.psp + 32 = C.psp

/-! ## Entry and return -/

theorem words_eight (m : Memory) (a : Address) :
    m.words a 8 = m.words a 6 ++ [m.word (a + 24), m.word (a + 28)] := by
  simp [Memory.words, UInt64.add_assoc]

theorem stacked_or_saved (n : Reg) : n ∈ stackedRegs ∨ n ∈ savedRegs := by
  cases n <;> decide

/-- What a return loads besides, no instruction can name. -/
theorem get_frame (c : Cpu) (psp pc xpsr : Word) :
    ({ c with psp := psp, pc := pc, xpsr := xpsr } : Cpu).get = c.get := by
  funext n; cases n <;> rfl

theorem sp_of_onTaskStack {c : Cpu} (h : c.onTaskStack = true) : c.sp = c.psp := if_pos h

theorem setSp_of_onTaskStack {c : Cpu} (h : c.onTaskStack = true) (v : Word) :
    c.setSp v = { c with psp := v } := if_pos h

theorem get_psp (c : Cpu) (psp : Word) (n : Reg) :
    ({ c with psp := psp } : Cpu).get n = c.get n := by
  cases n <;> rfl

theorem sp_of_handling {c : Cpu} (h : c.handling = true) : c.sp = c.msp := by
  simp [Cpu.sp, Cpu.onTaskStack, h]

theorem setSp_of_handling {c : Cpu} (h : c.handling = true) (v : Word) :
    c.setSp v = { c with msp := v } := by
  simp [Cpu.setSp, Cpu.onTaskStack, h]

theorem onTaskStack_of {c : Cpu} (hh : c.handling = false) (hc : c.control = 2) :
    c.onTaskStack = true := by
  rw [Cpu.onTaskStack, hh, hc]; decide

/-- Entry in closed form, from the code of a task. -/
theorem enter_eq {b : Board β κ} (h : b.cpu.onTaskStack = true) :
    b.enter =
      { b with
        memory := b.stackBelow b.cpu.psp b.cpu.context.hardware
        cpu := { b.cpu with psp := b.cpu.psp - 32, lr := returnToTask, handling := true } } := by
  simp only [enter, Cpu.sp, Cpu.setSp, h, if_true]
  rfl

theorem enter_entered {b : Board β κ} (hh : b.cpu.handling = false) (hc : b.cpu.control = 2) :
    b.enter.Entered b.cpu.context := by
  rw [enter_eq (onTaskStack_of hh hc)]
  refine ⟨rfl, hc, rfl, rfl, ?_, UInt32.sub_add_cancel _ _⟩
  exact Memory.words_storeAll_list b.memory _ b.cpu.context.hardware (by simp)

/-- Return in closed form, to the code of a task. -/
theorem leave_eq {b : Board β κ} (hc : b.cpu.control = 2) :
    b.leave returnToTask =
      { b with
        cpu := { ({ b.cpu with handling := false }).setAll stackedRegs
            (b.memory.words b.cpu.psp.toUInt64 6) with
          psp := b.cpu.psp + 32
          pc := b.memory.word (b.cpu.psp.toUInt64 + 24)
          xpsr := b.memory.word (b.cpu.psp.toUInt64 + 28) } } := by
  have h2 : b.cpu.control ||| 2 = b.cpu.control := by rw [hc]; rfl
  unfold leave
  simp only [if_true, h2]
  generalize hb : ({ b.cpu with handling := false } : Cpu) = c
  have hh : c.handling = false := by rw [← hb]
  have hc : c.control = 2 := by rw [← hb]; exact hc
  have hp : c.psp = b.cpu.psp := by rw [← hb]
  rw [sp_of_onTaskStack (onTaskStack_of hh hc), hp]
  have ht : (c.setAll stackedRegs (b.memory.words b.cpu.psp.toUInt64 6)).onTaskStack = true :=
    onTaskStack_of (by rw [handling_setAll, hh]) ((control_eq (special_setAll _ _ _)).trans hc)
  rw [setSp_of_onTaskStack ht, sp_of_onTaskStack ht, psp_setAll, hp]

theorem leave_rest {b : Board β κ} (hc : b.cpu.control = 2) :
    let b' := b.leave returnToTask
    b'.memory = b.memory ∧ b'.scheduler = b.scheduler ∧ b'.cpu.special = b.cpu.special ∧
      b'.cpu.handling = false ∧ b'.cpu.psp = b.cpu.psp + 32 := by
  rw [leave_eq hc]
  have hspecial := special_setAll { b.cpu with handling := false } stackedRegs
    (b.memory.words b.cpu.psp.toUInt64 6)
  have hh := handling_setAll { b.cpu with handling := false } stackedRegs
    (b.memory.words b.cpu.psp.toUInt64 6)
  generalize ({ b.cpu with handling := false } : Cpu).setAll stackedRegs
    (b.memory.words b.cpu.psp.toUInt64 6) = c at hspecial hh ⊢
  exact ⟨rfl, rfl, hspecial, hh, rfl⟩

/-- What a task finds again: the registers that the trap restores are still there when the others
    come from the stack. -/
theorem context_leave {b : Board β κ} {C : Context} (hc : b.cpu.control = 2)
    (hs : savedRegs.map b.cpu.get = C.software)
    (hm : b.memory.words b.cpu.psp.toUInt64 8 = C.hardware) (hp : b.cpu.psp + 32 = C.psp) :
    (b.leave returnToTask).cpu.context = C := by
  rw [words_eight] at hm
  obtain ⟨hregs, hrest⟩ := List.append_inj hm rfl
  simp only [List.cons.injEq, and_true] at hrest
  rw [leave_eq hc, hregs, hrest.1, hrest.2, hp]
  have hget : ∀ n, (({ b.cpu with handling := false } : Cpu).setAll stackedRegs
      (stackedRegs.map C.reg)).get n = C.reg n := by
    intro n
    rw [get_setAll_map]
    split_ifs with hn
    · rfl
    · have hn : n ∈ savedRegs := (stacked_or_saved n).resolve_left hn
      have hf : ({ b.cpu with handling := false } : Cpu).get n = b.cpu.get n := by cases n <;> rfl
      rw [hf]; exact List.map_inj_left.1 hs n hn
  rw [context, get_frame]
  exact congrArg (Context.mk · C.pc C.xpsr C.psp) (funext hget)

/-! ## The trap -/

/-- Memory once the trap has stored all it stores: the rest of the context of the task that was
    interrupted, and below the main stack pointer what it keeps there across the call. -/
def trapMemory (b : Board β κ) : Memory :=
  ({ b with memory := b.stackBelow b.cpu.psp (savedRegs.map b.cpu.get) } : Board β κ).stackBelow
    b.cpu.msp [b.cpu.r3, b.cpu.lr]

theorem trapMemory_eq (b : Board β κ) :
    b.trapMemory =
      (b.memory.storeAll (Store.list (b.cpu.psp - 32).toUInt64 (savedRegs.map b.cpu.get))).storeAll
        (Store.list (b.cpu.msp - 8).toUInt64 [b.cpu.r3, b.cpu.lr]) := rfl

theorem length_savedRegs_map (f : Reg → Word) : (savedRegs.map f).length = 8 := rfl

theorem execute_push {b : Board β κ} (h : b.cpu.handling = true) (list : List Reg) :
    b.execute (.push list) =
      { b with
        memory := b.stackBelow b.cpu.msp (list.map b.cpu.get)
        cpu := { b.cpu with msp := b.cpu.msp - UInt32.ofNat (4 * list.length) } } := by
  rw [execute, sp_of_handling h, setSp_of_handling h]

theorem execute_pop {b : Board β κ} (h : b.cpu.handling = true) (list : List Reg) {ws : List Word}
    (hw : b.memory.words b.cpu.msp.toUInt64 list.length = ws) :
    b.execute (.pop list) =
      { b with
        cpu := { b.cpu.setAll list ws with
          msp := b.cpu.msp + UInt32.ofNat (4 * list.length) } } := by
  have hh : (b.cpu.setAll list ws).handling = true := by rw [handling_setAll, h]
  rw [execute, sp_of_handling h, hw]
  dsimp only
  rw [sp_of_handling hh, setSp_of_handling hh, msp_eq (special_setAll _ _ _)]

/-- The call hands R0 to the kernel, and what the kernel says is in R0 afterwards. -/
theorem execute_blSwitch (b : Board β κ) :
    let r := b.scheduler.commit (b.cpu.get .r0).toUInt64
    let b' := b.execute .blSwitch
    b'.memory = b.memory ∧ b'.scheduler = r.2 ∧ b'.cpu.get .r0 = r.1.toUInt32 ∧
      b'.cpu.special = b.cpu.special ∧ b'.cpu.handling = b.cpu.handling := by
  simp only [execute, clobber, get_set, special_set, special_setAll, handling_set, handling_setAll,
    if_true, and_self]

/-- The second part of the trap is the call, for which R3 and LR are kept on the main stack. -/
theorem execute_call {b : Board β κ} (h : b.cpu.handling = true) :
    let r := b.scheduler.commit (b.cpu.get .r0).toUInt64
    let b' := b.executeAll [.push [.r3, .lr], .blSwitch, .pop [.r3, .lr]]
    b'.memory = b.stackBelow b.cpu.msp [b.cpu.r3, b.cpu.lr] ∧ b'.scheduler = r.2 ∧
      b'.cpu.get .r0 = r.1.toUInt32 ∧ b'.cpu.lr = b.cpu.lr ∧ b'.cpu.special = b.cpu.special ∧
      b'.cpu.handling = true := by
  intro r b'
  let b₁ : Board β κ := { b with
    memory := b.stackBelow b.cpu.msp [b.cpu.r3, b.cpu.lr]
    cpu := { b.cpu with msp := b.cpu.msp - 8 } }
  have h₁ : b.execute (.push [.r3, .lr]) = b₁ := execute_push h _
  obtain ⟨hm, hs, h0, hsp, hh⟩ := execute_blSwitch b₁
  have hw : (b₁.execute .blSwitch).memory.words (b₁.execute .blSwitch).cpu.msp.toUInt64 2 =
      [b.cpu.r3, b.cpu.lr] := by
    rw [hm, msp_eq hsp]
    exact Memory.words_storeAll_list b.memory _ [b.cpu.r3, b.cpu.lr] (by simp)
  have h₃ : b' = (b₁.execute .blSwitch).execute (.pop [.r3, .lr]) := by
    show ((b.execute (.push [.r3, .lr])).execute .blSwitch).execute (.pop [.r3, .lr]) = _
    rw [h₁]
  have hmsp : (b₁.execute .blSwitch).cpu.msp + 8 = b.cpu.msp := by
    rw [msp_eq hsp]; exact UInt32.sub_add_cancel _ _
  rw [h₃, execute_pop (hh.trans h) [.r3, .lr] hw]
  refine ⟨hm, hs, h0, rfl, ?_, ?_⟩
  · show ((b₁.execute .blSwitch).cpu.msp + 8, (b₁.execute .blSwitch).cpu.control,
      (b₁.execute .blSwitch).cpu.primask) = b.cpu.special
    rw [hmsp, control_eq hsp, primask_eq hsp]
    rfl
  · exact (handling_setAll _ _ _).trans (hh.trans h)

theorem execute_bx_lr {b : Board β κ} (h : b.cpu.handling = true) (hlr : b.cpu.lr = returnToTask) :
    b.execute (.bx .lr) = b.leave returnToTask := by
  simp [execute, Cpu.get, h, hlr]

/-- The third part restores the registers from where the call said, and returns. -/
theorem execute_restore {b : Board β κ} (h : b.cpu.handling = true) (hlr : b.cpu.lr = returnToTask) :
    b.executeAll [.ldmia .r0 savedRegs, .msrPsp .r0, .isb, .bx .lr] =
      ({ b with
        cpu := { (b.cpu.setAll savedRegs (b.memory.words b.cpu.r0.toUInt64 8)).set
            (b.cpu.r0 + 32) .r0 with psp := b.cpu.r0 + 32 } } : Board β κ).leave returnToTask := by
  have h₁ : b.execute (.ldmia .r0 savedRegs) =
      { b with
        cpu := (b.cpu.setAll savedRegs (b.memory.words b.cpu.r0.toUInt64 8)).set
          (b.cpu.r0 + 32) .r0 } := rfl
  simp only [executeAll, List.foldl_cons, List.foldl_nil, h₁]
  have hr0 := get_set (b.cpu.setAll savedRegs (b.memory.words b.cpu.r0.toUInt64 8))
    (b.cpu.r0 + 32) .r0 .r0
  have hc := get_set (b.cpu.setAll savedRegs (b.memory.words b.cpu.r0.toUInt64 8))
    (b.cpu.r0 + 32) .r0 .lr
  have hh := handling_set (b.cpu.setAll savedRegs (b.memory.words b.cpu.r0.toUInt64 8))
    (b.cpu.r0 + 32) .r0
  rw [if_pos rfl] at hr0
  rw [if_neg (by decide), get_setAll_of_notMem _ _ _ (by decide)] at hc
  rw [handling_setAll, h] at hh
  generalize (b.cpu.setAll savedRegs (b.memory.words b.cpu.r0.toUInt64 8)).set (b.cpu.r0 + 32) .r0
    = c at hr0 hc hh
  have h₂ : ({ b with cpu := c } : Board β κ).execute (.msrPsp .r0) =
      { b with cpu := { c with psp := b.cpu.r0 + 32 } } := by
    rw [execute, hr0]
  rw [h₂, execute, execute_bx_lr hh (hc.trans hlr)]

/-- So the context that is found again is the one that lies where R0 points to. -/
theorem restore_spec {b : Board β κ} (h : b.cpu.handling = true) (hlr : b.cpu.lr = returnToTask)
    (hc : b.cpu.control = 2) :
    let b' := b.executeAll [.ldmia .r0 savedRegs, .msrPsp .r0, .isb, .bx .lr]
    b'.memory = b.memory ∧ b'.scheduler = b.scheduler ∧ b'.cpu.special = b.cpu.special ∧
      b'.cpu.handling = false ∧ b'.cpu.psp = b.cpu.r0 + 64 ∧
      ∀ D : Context, D.SavedAt b.memory b.cpu.r0 → b'.cpu.context = D := by
  intro b'
  have hb' : b' = _ := execute_restore h hlr
  generalize hd : (b.cpu.setAll savedRegs (b.memory.words b.cpu.r0.toUInt64 8)).set
    (b.cpu.r0 + 32) .r0 = c at hb'
  have hsp : c.special = b.cpu.special := by rw [← hd, special_set, special_setAll]
  have hctl : c.control = 2 := (control_eq hsp).trans hc
  obtain ⟨hm₁, hs₁, hsp₁, hh₁, hpsp₁⟩ := leave_rest
    (b := { b with cpu := { c with psp := b.cpu.r0 + 32 } }) hctl
  have h64 : b.cpu.r0 + 32 + 32 = b.cpu.r0 + 64 := UInt32.add_assoc _ _ _
  rw [hb']
  refine ⟨hm₁, hs₁, hsp₁.trans hsp, hh₁, hpsp₁.trans h64, fun D hD => ?_⟩
  refine context_leave hctl ?_ hD.hardware (h64.trans hD.psp)
  refine List.map_inj_left.2 fun n hn => ?_
  have h0 : Reg.r0 ≠ n := by
    rintro rfl; revert hn; decide
  have hw : b.memory.words b.cpu.r0.toUInt64 8 = savedRegs.map D.reg := hD.software
  rw [get_psp, ← hd, get_set, if_neg h0, hw, get_setAll_map, if_pos hn]

/-- Any exception that came on the stack of a task interrupted some context: the one that lies there
    and in the registers. -/
theorem exists_entered {b : Board β κ} (hh : b.cpu.handling = true) (hc : b.cpu.control = 2)
    (hlr : b.cpu.lr = returnToTask) : ∃ C, b.Entered C := by
  let stacked := b.cpu.setAll stackedRegs (b.memory.words b.cpu.psp.toUInt64 6)
  refine ⟨⟨stacked.get, b.memory.word (b.cpu.psp.toUInt64 + 24),
    b.memory.word (b.cpu.psp.toUInt64 + 28), b.cpu.psp + 32⟩, hh, hc, hlr, ?_, ?_, rfl⟩
  · refine List.map_inj_left.2 fun n hn => (get_setAll_of_notMem _ _ _ fun hs => ?_).symm
    revert hn hs
    cases n <;> decide
  · rw [words_eight]; rfl

/-- **The trap.**  It stores what is missing of the context that was interrupted, tells the kernel
    where, and leaves with the context that lies where the kernel says. -/
theorem takeTrap_spec {b : Board β κ} {C : Context} (h : b.Entered C) :
    let r := b.scheduler.commit (b.cpu.psp - 32).toUInt64
    let b' := b.takeTrap
    b'.memory = b.trapMemory ∧ b'.scheduler = r.2 ∧ b'.cpu.special = b.cpu.special ∧
      b'.cpu.handling = false ∧ b'.cpu.psp = r.1.toUInt32 + 64 ∧
      ∀ D : Context, D.SavedAt b.trapMemory r.1.toUInt32 → b'.cpu.context = D := by
  intro r b'
  -- the first part of the trap stores the registers
  let b₁ : Board β κ := { b with
    registers.trapPending := false
    memory := b.stackBelow b.cpu.psp (savedRegs.map b.cpu.get)
    cpu := b.cpu.set (b.cpu.psp - 32) .r0 }
  obtain ⟨hm, hs, h0, hlr, hsp, hh⟩ :=
    execute_call (b := b₁) ((handling_set _ _ _).trans h.handling)
  generalize hb₂ : b₁.executeAll [.push [.r3, .lr], .blSwitch, .pop [.r3, .lr]] = b₂ at *
  have hb : b' = b₂.executeAll [.ldmia .r0 savedRegs, .msrPsp .r0, .isb, .bx .lr] := by
    rw [← hb₂]; rfl
  have hsp' : b₂.cpu.special = b.cpu.special := hsp.trans (special_set _ _ _)
  obtain ⟨hm₂, hs₂, hsp₂, hh₂, hpsp₂, hctx⟩ :=
    restore_spec hh (hlr.trans h.lr) ((control_eq hsp').trans h.control)
  have hm' : b₂.memory = b.trapMemory := hm
  have h0' : b₂.cpu.r0 = r.1.toUInt32 := h0
  rw [hb, ← hm', ← h0']
  exact ⟨hm₂, hs₂.trans hs, hsp₂.trans hsp', hh₂, hpsp₂, hctx⟩

/-! ## The end of an exception -/

/-- What a handler may overwrite is on the stack already. -/
theorem Entered.clobber {b : Board β κ} {C : Context} (h : b.Entered C) :
    (b.clobber scratchRegs).Entered C := by
  have hget : ∀ n, n ∉ scratchRegs → (b.clobber scratchRegs).cpu.get n = b.cpu.get n :=
    fun n hn => get_setAll_of_notMem _ _ _ hn
  have hpsp : (b.clobber scratchRegs).cpu.psp = b.cpu.psp := psp_setAll _ _ _
  have hspecial : (b.clobber scratchRegs).cpu.special = b.cpu.special := special_setAll _ _ _
  refine ⟨?_, ?_, ?_, ?_, ?_, ?_⟩
  · exact (handling_setAll _ _ _).trans h.handling
  · exact (control_eq hspecial).trans h.control
  · exact (hget .lr (by decide)).trans h.lr
  · rw [← h.software]
    refine List.map_inj_left.2 fun n hn => hget n ?_
    revert hn; revert n; decide
  · rw [hpsp]; exact h.hardware
  · rw [hpsp]; exact h.psp

/-- The trap comes if it is pending, and nothing happens to the scheduler otherwise. -/
theorem Entered.scheduler_finish {b : Board β κ} {C : Context} (h : b.Entered C) :
    b.finish.scheduler =
      if b.registers.trapPending then (b.scheduler.commit (b.cpu.psp - 32).toUInt64).2
      else b.scheduler := by
  have hpsp : (b.clobber scratchRegs).cpu.psp = b.cpu.psp := psp_setAll _ _ _
  have hregisters : (b.clobber scratchRegs).registers = b.registers := rfl
  unfold Board.finish
  dsimp only
  rw [hregisters]
  split_ifs
  · obtain ⟨-, hs, -⟩ := takeTrap_spec h.clobber
    rw [← hpsp]; exact hs
  · rw [h.clobber.lr]
    obtain ⟨-, hs, -⟩ := leave_rest h.clobber.control
    exact hs

end Board

end Carousel
