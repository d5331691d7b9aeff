/-
  Carousel — from a reset to the first task.

  * `OnMain`: boards in thread code on the main stack, above the memory that an image keeps for
    stacks, and `Prepared`: those on which the kernel is set up from the image and no task runs yet;
  * `drive_rest`: programs of register accesses change nothing but registers and the mask;
  * `execute_plain`: most instructions leave the kernel and the main stack alone;
  * `Prepared.start`: the launch leaves a sound board in the code of a task.
-/
import Carousel.Proofs.Board.Saved

namespace Carousel

/-- The instruction neither calls the kernel nor chooses a stack. -/
def Instr.plain : Instr → Bool
  | .blSwitch | .msrControl _ => false
  | _ => true

/-- Where the memory for stacks ends. -/
def Kernel.Image.limit (image : Kernel.Image) : Nat := image.pool.toNat + poolSize.toNat

namespace Board

open Cpu Stack

variable {α β κ : Type}

/-! ## Before the launch -/

/-- A kernel call made in thread code, less the trap that it may ask for. -/
def call (b : Board β κ) (e : Carousel.Event β) : Board β κ :=
  { b with
    scheduler := b.scheduler.after e
    memory := b.memory.storeAll (b.scheduler.stores e) }

variable {image : Kernel.Image}

/-- Thread code runs, and the main stack is above the memory for the stacks of tasks. -/
structure OnMain (b : Board β κ) (image : Kernel.Image) : Prop where
  handling : b.cpu.handling = false
  above : image.limit ≤ b.stackLimit

/-- The kernel is set up, and tasks may have been made.  Main code may do anything else besides,
    as long as it leaves the scheduler alone. -/
inductive Prepared (image : Kernel.Image) : Board β κ → Prop
  | setUp {b : Board β κ} (idle : β) : b.OnMain image → (b.setUp image idle).Prepared image
  | call {b : Board β κ} {e : Carousel.Event β} : b.Prepared image → e.isCall →
      (b.call e).Prepared image
  | main {b b' : Board β κ} : b.Prepared image → b'.scheduler = b.scheduler → b'.OnMain image →
      b'.Prepared image

theorem OnMain.limit_lt {b : Board β κ} (h : b.OnMain image) : image.limit < 2 ^ 32 :=
  h.above.trans_lt stackLimit_lt

/-- The memory for stacks does not wrap around. -/
theorem OnMain.spanning {b : Board β κ} (h : b.OnMain image) :
    image.pool.toNat + poolSize.toNat < 2 ^ 64 :=
  h.limit_lt.trans (by decide)

/-- There is room for the idle task. -/
theorem OnMain.restart_setUp {b : Board β κ} (h : b.OnMain image) (s : Scheduler β) (idle : β) :
    (s.restart (Arena.spanning image.pool poolSize) image.entryPoints idle idleStackSize).1 =
      .ok idleTask := by
  obtain ⟨r, hcut⟩ : ∃ r, (Arena.spanning image.pool poolSize).cut idleStackSize = .ok r := by
    cases hc : (Arena.spanning image.pool poolSize).cut idleStackSize with
    | ok r => exact ⟨r, rfl⟩
    | error e =>
      obtain ⟨h0, -⟩ | ⟨-, hlt, -⟩ := Arena.cut_eq_error_iff.1 hc
      · cases h0
      · have htop := Arena.toNat_top_spanning_eq h.spanning
        have hsize : poolSize.toNat = 12288 := rfl
        have hbase : (Arena.spanning image.pool poolSize).base = image.pool := rfl
        have hidle : idleStackSize.toNat = 512 := rfl
        have hle : image.pool ≤ (Arena.spanning image.pool poolSize).top := by
          rw [UInt64.le_iff_toNat_le]; omega
        rw [Arena.remaining, hbase, if_pos hle, UInt64.toNat_sub_of_le _ _ hle] at hlt
        omega
  simp only [Scheduler.restart, Scheduler.spawn]
  rw [if_neg (by decide), dif_pos (by show 0 < maxTasks; decide), hcut]
  rfl

theorem scheduler_setUp (b : Board β κ) (image : Kernel.Image) (idle : β) :
    (b.setUp image idle).scheduler = (b.scheduler.restart (Arena.spanning image.pool poolSize)
      image.entryPoints idle idleStackSize).2 := by
  unfold setUp Kernel.setUp
  cases b.scheduler.restart (Arena.spanning image.pool poolSize) image.entryPoints idle
    idleStackSize with
  | mk id s => cases id <;> rfl

theorem cpu_setUp (b : Board β κ) (image : Kernel.Image) (idle : β) :
    (b.setUp image idle).cpu = b.cpu := by
  unfold setUp
  cases Kernel.setUp image idle b.scheduler with
  | mk s line => rfl

theorem Prepared.stacked {b : Board β κ} (h : b.Prepared image) :
    b.OnMain image ∧ b.scheduler.Stacked image.limit := by
  induction h with
  | @setUp b idle hb =>
    refine ⟨⟨?_, ?_⟩, ?_⟩
    · rw [cpu_setUp]; exact hb.handling
    · rw [stackLimit_eq (congrArg Cpu.msp (cpu_setUp b image idle))]; exact hb.above
    rw [scheduler_setUp]
    exact Scheduler.Stacked.restart (Arena.toNat_top_spanning hb.spanning).2
      (hb.restart_setUp _ idle)
  | call _ he ih => exact ⟨⟨ih.1.handling, ih.1.above⟩, ih.2.after _⟩
  | main _ hs hb ih => exact ⟨hb, by rw [hs]; exact ih.2⟩

/-! ## The launch -/

/-- A program of register accesses changes nothing but registers and the mask. -/
theorem drive_rest (p : Bus.Program α) (b : Board β κ) :
    (drive p b).2 =
      { b with
        cpu := { b.cpu with primask := (drive p b).2.cpu.primask }
        registers := (drive p b).2.registers
        events := (drive p b).2.events } := by
  induction p generalizing b with
  | done => rfl
  | read r next ih => exact ih _ _
  | write r v next ih => exact ih _
  | writeByte r v next ih => exact ih _
  | mask next ih => exact ih _ _
  | setMask v next ih => exact ih _

theorem drive_kept (p : Bus.Program α) (b : Board β κ) :
    (drive p b).2.scheduler = b.scheduler ∧ (drive p b).2.memory = b.memory ∧
      (drive p b).2.cpu.handling = b.cpu.handling ∧ (drive p b).2.cpu.msp = b.cpu.msp := by
  rw [drive_rest]; exact ⟨rfl, rfl, rfl, rfl⟩

theorem drive_requestTrap (b : Board β κ) :
    ∃ events, (drive Peripheral.requestTrap b).2 =
      { b with registers.trapPending := true, events := events } := ⟨_, rfl⟩

theorem OnMain.drive {b : Board β κ} (h : b.OnMain image) (p : Bus.Program α) :
    (drive p b).2.OnMain image := by
  obtain ⟨-, -, hh, hm⟩ := drive_kept p b
  refine ⟨?_, ?_⟩
  · rw [hh]; exact h.handling
  · rw [stackLimit_eq hm]; exact h.above

theorem scheduler_create (b : Board β κ) (body : β) (argument size : UInt64)
    (name : Option String) :
    (b.create body argument size name).2.scheduler =
      b.scheduler.after (.spawn body argument size name) := by
  unfold create Kernel.create Scheduler.after
  dsimp only
  cases b.scheduler.spawn body argument size name with
  | error => rfl
  | ok r => rfl

theorem Prepared.create {b : Board β κ} (h : b.Prepared image) (body : β) (argument size : UInt64)
    (name : Option String) : (b.create body argument size name).2.Prepared image :=
  .main (h.call (e := .spawn body argument size name) trivial) (scheduler_create b ..)
    ⟨h.stacked.1.handling, h.stacked.1.above⟩

theorem OnMain.timerSetUp {b : Board β κ} (h : b.OnMain image) : b.timerSetUp.2.OnMain image := by
  have hmain : ({ b with timers := b.timers.clear } : Board β κ).OnMain image :=
    ⟨h.handling, h.above⟩
  exact hmain.drive _

/-- The launch and the trap are made of plain instructions but for one each. -/
theorem execute_plain {b : Board β κ} (hh : b.cpu.handling = false) (hc : b.cpu.control = 2)
    {x : Instr} (hx : x.plain) :
    (b.execute x).scheduler = b.scheduler ∧ (b.execute x).cpu.handling = false ∧
      (b.execute x).cpu.control = 2 ∧ (b.execute x).cpu.msp = b.cpu.msp := by
  have ht := onTaskStack_of hh hc
  have hset : ∀ (v : Word) (d : Reg), (b.cpu.set v d).handling = false ∧
      (b.cpu.set v d).control = 2 ∧ (b.cpu.set v d).msp = b.cpu.msp := fun v d =>
    ⟨(handling_set _ _ _).trans hh, (control_eq (special_set _ _ _)).trans hc,
      msp_eq (special_set _ _ _)⟩
  have hall : ∀ (ds : List Reg) (vs : List Word), (b.cpu.setAll ds vs).handling = false ∧
      (b.cpu.setAll ds vs).control = 2 ∧ (b.cpu.setAll ds vs).msp = b.cpu.msp := fun ds vs =>
    ⟨(handling_setAll _ _ _).trans hh, (control_eq (special_setAll _ _ _)).trans hc,
      msp_eq (special_setAll _ _ _)⟩
  cases x with
  | blSwitch => cases hx
  | msrControl n => cases hx
  | adds | movs | orr | mov | mrsPsp | stmdb =>
    exact ⟨rfl, hset _ _⟩
  | msrPsp | isb | cpsie => exact ⟨rfl, hh, hc, rfl⟩
  | push list =>
    rw [execute, setSp_of_onTaskStack ht]
    exact ⟨rfl, hh, hc, rfl⟩
  | pop list =>
    rw [execute]
    obtain ⟨hh', hc', hm'⟩ := hall list (b.memory.words b.cpu.sp.toUInt64 list.length)
    dsimp only
    rw [setSp_of_onTaskStack (onTaskStack_of hh' hc')]
    exact ⟨rfl, hh', hc', hm'⟩
  | ldmia base list =>
    obtain ⟨hh', hc', hm'⟩ := hall list (b.memory.words (b.cpu.get base).toUInt64 list.length)
    exact ⟨rfl, (handling_set _ _ _).trans hh', (control_eq (special_set _ _ _)).trans hc',
      (msp_eq (special_set _ _ _)).trans hm'⟩
  | bx n =>
    rw [execute, hh, Bool.false_and]
    exact ⟨rfl, hh, hc, rfl⟩

theorem executeAll_plain {b : Board β κ} (hh : b.cpu.handling = false) (hc : b.cpu.control = 2)
    {code : List Instr} (hx : code.all Instr.plain) :
    (b.executeAll code).scheduler = b.scheduler ∧ (b.executeAll code).cpu.handling = false ∧
      (b.executeAll code).cpu.control = 2 ∧ (b.executeAll code).cpu.msp = b.cpu.msp := by
  induction code generalizing b with
  | nil => exact ⟨rfl, hh, hc, rfl⟩
  | cons x code ih =>
    rw [List.all_cons, Bool.and_eq_true] at hx
    obtain ⟨hs, hh', hc', hm⟩ := execute_plain hh hc hx.1
    obtain ⟨hs₂, hh₂, hc₂, hm₂⟩ := ih hh' hc' hx.2
    exact ⟨hs₂.trans hs, hh₂, hc₂, hm₂.trans hm⟩

/-- The launch code changes to the stack of the task. -/
theorem execute_launchCode {b : Board β κ} (hh : b.cpu.handling = false) :
    let b' := b.executeAll launchCode
    b'.scheduler = b.scheduler ∧ b'.cpu.handling = false ∧ b'.cpu.control = 2 ∧
      b'.cpu.msp = b.cpu.msp := by
  intro b'
  have hb : b' = (b.executeAll (launchCode.take 4)).executeAll (launchCode.drop 4) := by
    rw [executeAll, executeAll, ← List.foldl_append, List.take_append_drop]; rfl
  have hfirst : (b.executeAll (launchCode.take 4)).scheduler = b.scheduler ∧
      (b.executeAll (launchCode.take 4)).cpu.handling = b.cpu.handling ∧
      (b.executeAll (launchCode.take 4)).cpu.control = 2 ∧
      (b.executeAll (launchCode.take 4)).cpu.msp = b.cpu.msp := ⟨rfl, rfl, rfl, rfl⟩
  have hrest : (launchCode.drop 4).all Instr.plain := by decide
  generalize b.executeAll (launchCode.take 4) = b₁ at hb hfirst
  obtain ⟨hs₁, hh₁, hc₁, hm₁⟩ := hfirst
  obtain ⟨hs, hh', hc, hm⟩ := executeAll_plain (hh₁.trans hh) hc₁ hrest
  rw [hb]
  exact ⟨hs.trans hs₁, hh', hc, hm.trans hm₁⟩

/-- The tick can be programmed, so the launch comes to its code. -/
theorem start_eq (b : Board β κ) :
    ∃ b' : Board β κ, b'.scheduler = b.scheduler.launch.2.1 ∧
      b'.memory = b.memory.storeAll b.scheduler.launch.2.2 ∧
      b'.cpu.handling = b.cpu.handling ∧ b'.cpu.msp = b.cpu.msp ∧
      b.start = ({ b' with cpu := b'.cpu.set b.scheduler.launch.1.toUInt32 .r0 } :
        Board β κ).executeAll launchCode := by
  obtain ⟨hs₁, hm₁, hh₁, hp₁⟩ := drive_kept (Bus.Program.setMask 1 (.done ())) b
  unfold Board.start
  generalize (drive (Bus.Program.setMask 1 (.done ())) b).2 = b₁ at *
  dsimp only
  rw [hs₁, hm₁]
  generalize hb₂ : ({ b₁ with
    scheduler := b.scheduler.launch.2.1
    memory := b.memory.storeAll b.scheduler.launch.2.2 } : Board β κ).note
      (.log (.launching b.scheduler.launch.2.1.current)) = b₂
  have htick : ∃ b₃, drive Peripheral.startTick.run b₂ = (.ok (), b₃) := ⟨_, rfl⟩
  obtain ⟨hs₂, hm₂, hh₂, hp₂⟩ := drive_kept Peripheral.startTick.run b₂
  obtain ⟨b₃, htick⟩ := htick
  rw [htick] at hs₂ hm₂ hh₂ hp₂ ⊢
  obtain ⟨hs, hm, hh, hp⟩ := drive_kept Peripheral.setPriorities b₃
  refine ⟨(drive Peripheral.setPriorities b₃).2, hs.trans (hs₂.trans ?_), hm.trans (hm₂.trans ?_),
    hh.trans (hh₂.trans ?_), hp.trans (hp₂.trans ?_), rfl⟩
  · rw [← hb₂]; rfl
  · rw [← hb₂]; rfl
  · rw [← hb₂, ← hh₁]; rfl
  · rw [← hb₂, ← hp₁]; rfl

/-- **The launch.**  A task runs on its own stack, and none has been switched out. -/
theorem Prepared.start {b : Board β κ} (h : b.Prepared image) :
    b.start.Sound ∧ b.start.cpu.handling = false := by
  obtain ⟨hmain, hst⟩ := h.stacked
  obtain ⟨hlaunch, hcur⟩ := hst.launch
  obtain ⟨b', hs, -, hh, hm, he⟩ := start_eq b
  have hhandling : (b'.cpu.set b.scheduler.launch.1.toUInt32 .r0).handling = false :=
    (handling_set _ _ _).trans (hh.trans hmain.handling)
  have hmsp : (b'.cpu.set b.scheduler.launch.1.toUInt32 .r0).msp = b.cpu.msp :=
    (msp_eq (special_set _ _ _)).trans hm
  obtain ⟨hs', hh', hc', hm'⟩ :=
    execute_launchCode (b := { b' with cpu := b'.cpu.set b.scheduler.launch.1.toUInt32 .r0 })
      hhandling
  rw [he]
  refine ⟨⟨hc', ?_, ?_⟩, hh'⟩
  · rw [stackLimit_eq (hm'.trans hmsp), hs', hs]; exact hlaunch.mono hmain.above
  · rw [hs', hs]; exact hcur

end Board

end Carousel
