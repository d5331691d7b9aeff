/-
  Carousel — where tasks are in the code that they start in.

  * `Code`: that code, as far as registers and stack tell where in it a task is;
  * `Board.Keeps`: what a task has on its stack stays there, and `HasContext.keeps_enter`,
    `HasContext.keeps_takeTrap` and the like: so it does in an exception;
  * `Board.Preempts`: what may come between two instructions of a task, and `Preempts.spec`;
  * `Board.IsAt`: where a task is, or will be when it has the processor again, and `IsAt.preempt`,
    `IsAt.call`, `IsAt.ownCode`: it stays there while others run;
  * `Prepared.isAt_start` and `isAt_spawn`: a task that has not run is at the entry, with its
    number;
  * `Code.straight`: code with one instruction for each place.
-/
import Carousel.Proofs.Board.Books
import Carousel.Proofs.Board.Entry

namespace Carousel

open Stack

variable {β κ : Type}

/-- The lowest address of what a task in this context has on its stack. -/
def Context.low (C : Context) (r : Region) : Nat := max (r.top.toNat - r.size.toNat) C.psp.toNat

/-- The code that every task starts in, and that begins where `e` says.  Where a task is in it can
    be told from its registers and from what it has on its stack.  At the entry it has its number in
    R0. -/
structure Code (β : Type) (e : EntryPoints) where
  place : Context → Memory → Region → Place β
  entry : ∀ C m r, C.pc = e.trampoline &&& ~~~1 → place C m r = .entered (C.reg .r0).toNat
  congr : ∀ C m m' r, m'.AgreeOn m (C.low r) r.top.toNat → place C m' r = place C m r

/-- Where the current task is. -/
def Code.here {e : EntryPoints} (code : Code β e) (b : Board β κ) : Place β :=
  code.place b.cpu.context b.memory b.scheduler.currentTask.stack

namespace Board

open Cpu

/-! ## What tasks have on their stacks -/

/-- What task `i` has on its stack in context `C` stays there. -/
def Keeps (b b' : Board β κ) (i : TaskId) (C : Context) : Prop :=
  b'.memory.AgreeOn b.memory (C.low (b.scheduler.task i).stack) (b.scheduler.task i).top.toNat

section
variable {b b' b'' : Board β κ} {C C₀ : Context} {i : TaskId}

theorem Keeps.of_stack (h : b'.memory.AgreeOn b.memory (b.scheduler.task i).floor
    (b.scheduler.task i).top.toNat) : b.Keeps b' i C :=
  fun c hlo hhi => h c ((le_max_left _ _).trans hlo) hhi

theorem Keeps.of_psp (h : b'.memory.AgreeOn b.memory C.psp.toNat (b.scheduler.task i).top.toNat) :
    b.Keeps b' i C :=
  fun c hlo hhi => h c ((le_max_right _ _).trans hlo) hhi

theorem Keeps.of_memory (h : b'.memory = b.memory) : b.Keeps b' i C := by
  rw [Keeps, h]; exact .refl _ _ _

theorem Keeps.trans (h : b.Keeps b' i C) (h' : b'.Keeps b'' i C)
    (hst : (b'.scheduler.task i).stack = (b.scheduler.task i).stack) : b.Keeps b'' i C := by
  rw [Keeps, hst, Record.top_eq hst] at h'
  exact h'.trans h

theorem HasContext.made (hc : b.HasContext C₀ i C) (h : b.Sound) : i.val < b.scheduler.count := by
  by_cases hi : i = b.scheduler.current
  · subst hi; exact h.current.made
  · exact (hc.other hi).made

/-- A task that has not run has nothing on its stack. -/
theorem HasContext.keeps_of_started (hc : b.HasContext C₀ i C) (h : b.Sound)
    (hs : b.scheduler.Started i → b.Keeps b' i C) : b.Keeps b' i C := by
  by_cases hf : (b.scheduler.task i).status = .created
  · have hi : i ≠ b.scheduler.current := by
      rintro rfl; exact h.current.run hf
    have hmade := hc.made h
    have hbelow := h.stacked.below i hmade
    have hlim := stackLimit_lt (b := b)
    have hpsp : C.psp.toNat = (b.scheduler.task i).top.toNat := by
      rw [(hc.other hi).first hf]
      exact Context.toNat_toUInt32 (hbelow.trans_lt hlim)
    refine .of_psp fun c hlo hhi => ?_
    omega
  · exact hs ⟨hc.made h, hf⟩

/-- A kernel call leaves alone what tasks have on their stacks. -/
theorem HasContext.keeps_event (hc : b.HasContext C₀ i C) (h : b.Sound) {e : Carousel.Event β}
    (hm : b'.memory = b.memory.storeAll (b.scheduler.stores e)) : b.Keeps b' i C := by
  refine hc.keeps_of_started h fun hs => .of_stack ?_
  rw [hm]; exact h.stacked.agreeOn_stores stackLimit_le hs e

/-- **Entry.**  What the processor stores is below what the current task has on its stack. -/
theorem HasContext.keeps_enter (hc : b.HasContext b.cpu.context i C) (h : b.Sound)
    (hh : b.cpu.handling = false) (hr : b.Room) : b.Keeps b.enter i C := by
  have hlow := hr.low
  have hhigh := hr.high
  have hpsp : (b.cpu.psp - 32).toUInt64.toNat = b.cpu.psp.toNat - 32 := by
    rw [UInt32.toNat_toUInt64, hr.psp_sub]
  rw [enter_eq (onTaskStack_of hh h.control)]
  by_cases hi : i = b.scheduler.current
  · rw [hc.current hi]
    refine .of_psp (Memory.agreeOn_storeAll b.memory (Or.inl ?_) ?_)
    · show (b.cpu.psp - 32).toUInt64.toNat + 32 ≤ b.cpu.psp.toNat
      omega
    · show (b.cpu.psp - 32).toUInt64.toNat + 32 ≤ 2 ^ 64
      have := b.cpu.psp.toNat_lt
      omega
  · refine .of_stack (h.stacked.agreeOn_list stackLimit_le hi (hc.made h) h.current.made ?_ ?_)
    · show b.scheduler.currentTask.floor ≤ (b.cpu.psp - 32).toUInt64.toNat
      omega
    · show (b.cpu.psp - 32).toUInt64.toNat + 32 ≤ b.scheduler.currentTask.top.toNat
      omega

/-- **The trap.**  So is what the trap stores, but for two words on the main stack. -/
theorem HasContext.keeps_takeTrap (hc : b.HasContext C₀ i C) (h : b.Handler C₀) :
    b.Keeps b.takeTrap i C := by
  obtain ⟨hm, -⟩ := takeTrap_spec h.entered
  rw [Keeps, hm]
  by_cases hi : i = b.scheduler.current
  · subst hi
    have hlow := h.low
    have hhigh := h.high
    have hpsp : C.psp.toNat = b.cpu.psp.toNat + 32 := by
      have hlim := stackLimit_lt (b := b)
      have hbelow : b.scheduler.currentTask.top.toNat ≤ b.stackLimit :=
        h.sound.stacked.below _ h.sound.current.made
      have h32 : (32 : Word).toNat = 32 := rfl
      rw [hc.current rfl, ← h.entered.psp, UInt32.toNat_add]
      omega
    suffices b.trapMemory.AgreeOn b.memory C.psp.toNat b.scheduler.currentTask.top.toNat from
      fun c hlo hhi => this c ((le_max_right _ _).trans hlo) hhi
    rw [trapMemory_eq]
    refine Memory.AgreeOn.trans (h.sound.agreeOn_main _ _ _ _
      (h.sound.stacked.below _ h.sound.current.made)) (Memory.agreeOn_storeAll _ (Or.inl ?_) ?_)
    · rw [UInt32.toNat_toUInt64, h.psp_sub, length_savedRegs_map]; omega
    · have := b.cpu.psp.toNat_lt
      rw [UInt32.toNat_toUInt64, h.psp_sub, length_savedRegs_map]; omega
  · exact fun c hlo hhi =>
      h.agreeOn_trap hi (hc.made h.sound) c ((le_max_left _ _).trans hlo) hhi

theorem HasContext.keeps_finish (hc : b.HasContext C₀ i C) (h : b.Handler C₀) :
    b.Keeps b.finish i C := by
  unfold Board.finish
  dsimp only
  split_ifs
  · exact hc.clobber.keeps_takeTrap h.clobber
  · rw [h.clobber.entered.lr]
    exact .of_memory (leave_rest h.clobber.entered.control).1

/-! ## Exceptions -/

theorem Handler.finish_cases (h : b.Handler C) :
    b.finish.scheduler = b.scheduler ∨ ∃ sp, b.finish.scheduler = (b.scheduler.commit sp).2 := by
  rw [h.entered.scheduler_finish]
  split_ifs
  · exact Or.inr ⟨_, rfl⟩
  · exact Or.inl rfl

/-- A handler that has cost no task its context comes to its end. -/
theorem Handler.spec_finish (h : b'.Handler b.cpu.context)
    (hst : ∀ i, (b'.scheduler.task i).stack = (b.scheduler.task i).stack)
    (hc : ∀ i C, b.HasContext b.cpu.context i C →
      b'.HasContext b.cpu.context i C ∧ b.Keeps b' i C) :
    b'.finish.Running ∧ ∀ i C, b.HasContext b.cpu.context i C →
      b'.finish.HasContext b'.finish.cpu.context i C ∧ b.Keeps b'.finish i C := by
  obtain ⟨hsound, hthread, -⟩ := h.finish
  refine ⟨⟨hsound, hthread⟩, fun i C hC => ?_⟩
  obtain ⟨hC, hkeeps⟩ := hc i C hC
  exact ⟨hC.finish h, hkeeps.trans (hC.keeps_finish h) (hst i)⟩

/-- What may come between two instructions of a task, with all that is done before a task goes on:
    the tick, an interrupt of a device, which leaves processor, memory and scheduler alone, or the
    trap. -/
inductive Preempts (b : Board β κ) : Board β κ → Prop
  | tick : b.Room → Preempts b b.sysTick
  | device {b' : Board β κ} : b.Room → b'.cpu = b.enter.cpu → b'.memory = b.enter.memory →
      b'.scheduler = b.enter.scheduler → Preempts b b'.finish
  | trap : b.Room → Preempts b b.enter.takeTrap

/-- **An exception** makes a pass at most, and a switch after it, and costs no task its context, nor
    what it has on its stack. -/
theorem Preempts.spec (hp : b.Preempts b') (h : b.Running) :
    b'.Running ∧ b.scheduler.Preempted b'.scheduler ∧
      ∀ i C, b.HasContext b.cpu.context i C →
        b'.HasContext b'.cpu.context i C ∧ b.Keeps b' i C := by
  have henter := scheduler_enter h
  have hroom : b.Room := by
    cases hp with
    | tick hroom | device hroom | trap hroom => exact hroom
  have he := h.sound.enter h.thread hroom
  have hst : ∀ i, (b.enter.scheduler.task i).stack = (b.scheduler.task i).stack := fun i => by
    rw [henter]
  have hc : ∀ i C, b.HasContext b.cpu.context i C →
      b.enter.HasContext b.cpu.context i C ∧ b.Keeps b.enter i C :=
    fun i C hC => ⟨hC.enter h.sound h.thread hroom, hC.keeps_enter h.sound h.thread hroom⟩
  cases hp with
  | tick =>
    obtain ⟨events, hb⟩ := switchBy_of_handling he.entered.handling Kernel.tick
    have hs : (b.enter.switchBy Kernel.tick).scheduler =
        (b.enter.scheduler.pass .clock).scheduler := by
      rw [hb]; rfl
    have hm : (b.enter.switchBy Kernel.tick).memory =
        b.enter.memory.storeAll (b.enter.scheduler.stores (.pass .clock)) := by
      rw [hb]; rfl
    have hstack : ∀ i, ((b.enter.switchBy Kernel.tick).scheduler.task i).stack =
        (b.scheduler.task i).stack := fun i => by
      rw [hs, Scheduler.stack_pass, hst]
    obtain ⟨hrun, hspec⟩ := he.tick.spec_finish hstack fun i C hC => by
      obtain ⟨hC, hkeeps⟩ := hc i C hC
      have hpass : b.enter.Keeps (b.enter.switchBy Kernel.tick) i C := hC.keeps_event he.sound hm
      exact ⟨hC.tick he, hkeeps.trans hpass (hst i)⟩
    exact ⟨hrun, ⟨_, Or.inr (henter ▸ hs), he.tick.finish_cases⟩, hspec⟩
  | @device b₁ _ hcpu hm hs =>
    have hb := he.of_same hcpu hs hm
    obtain ⟨hrun, hspec⟩ := hb.spec_finish (fun i => by rw [hs, henter]) fun i C hC => by
      obtain ⟨hC, hkeeps⟩ := hc i C hC
      have hsame : b.enter.Keeps b₁ i C := .of_memory hm
      refine ⟨⟨?_, ?_⟩, hkeeps.trans hsame (hst i)⟩
      · rw [hs]; exact hC.current
      · rw [hs, hm]; exact hC.other
    exact ⟨hrun, ⟨_, Or.inl (hs.trans henter), hb.finish_cases⟩, hspec⟩
  | trap =>
    obtain ⟨hsound, hthread, -⟩ := he.takeTrap
    refine ⟨⟨hsound, hthread⟩, ⟨_, Or.inl rfl, Or.inr ⟨_, (h.trap hroom).1⟩⟩, fun i C hC => ?_⟩
    obtain ⟨hC, hkeeps⟩ := hc i C hC
    exact ⟨hC.takeTrap he, hkeeps.trans (hC.keeps_takeTrap he) (hst i)⟩

end

/-! ## Where tasks are -/

variable {e : EntryPoints} {code : Code β e}

/-- Task `i` is at this place, or will be when it has the processor again. -/
def IsAt (code : Code β e) (b : Board β κ) (i : TaskId) (p : Place β) : Prop :=
  ∃ C, b.HasContext b.cpu.context i C ∧
    code.place C b.memory (b.scheduler.task i).stack = p

section
variable {b b' : Board β κ} {i : TaskId} {p : Place β}

theorem isAt_here (code : Code β e) (b : Board β κ) :
    b.IsAt code b.scheduler.current (code.here b) :=
  ⟨_, hasContext_self b, rfl⟩

theorem IsAt.eq_here (h : b.IsAt code b.scheduler.current p) : code.here b = p := by
  obtain ⟨C, hC, hp⟩ := h
  rw [← hp, hC.current rfl]; rfl

theorem IsAt.of_keeps (h : b.IsAt code i p)
    (hst : (b'.scheduler.task i).stack = (b.scheduler.task i).stack)
    (hc : ∀ C, b.HasContext b.cpu.context i C →
      b'.HasContext b'.cpu.context i C ∧ b.Keeps b' i C) : b'.IsAt code i p := by
  obtain ⟨C, hC, hp⟩ := h
  obtain ⟨hC', hkeeps⟩ := hc C hC
  refine ⟨C, hC', ?_⟩
  rw [hst, ← hp]
  exact code.congr C _ _ _ hkeeps

/-- Exceptions leave all tasks where they are. -/
theorem IsAt.preempt (h : b.IsAt code i p) (hr : b.Running) (hp : b.Preempts b') :
    b'.IsAt code i p := by
  obtain ⟨-, hs, hc⟩ := hp.spec hr
  exact h.of_keeps (hs.rest.2.2 i) (hc i)

/-- A kernel call leaves all tasks where they are, the one that makes it among them. -/
theorem IsAt.call (h : b.IsAt code i p) (hr : b.Running) (hi : i.val < b.scheduler.count)
    {ev : Carousel.Event β} (he : ev.isCall) : (b.call ev).IsAt code i p :=
  h.of_keeps (Scheduler.stack_after hi ev)
    fun _ hC => ⟨hC.event hr.sound he rfl rfl, hC.keeps_event hr.sound rfl⟩

/-- Code of the current task leaves the others where they are. -/
theorem IsAt.ownCode (h : b.IsAt code i p) (hr : b.Running) (hi : i ≠ b.scheduler.current)
    (ho : b.OwnCode b') : b'.IsAt code i p := by
  refine h.of_keeps (by rw [ho.scheduler]) fun C hC => ⟨Step.hasContext (.code ho) hr hi hC, ?_⟩
  exact .of_stack (ho.memory i (hC.made hr.sound) hi)

theorem IsAt.of_same (h : b.IsAt code i p) (hc : b'.cpu = b.cpu) (hm : b'.memory = b.memory)
    (hs : b'.scheduler = b.scheduler) : b'.IsAt code i p := by
  refine h.of_keeps (by rw [hs]) fun C hC => ⟨⟨?_, ?_⟩, .of_memory hm⟩
  · rw [hs, hc]; exact hC.current
  · rw [hs, hm]; exact hC.other

/-! ## Tasks that have not run -/

/-- Who has its first context is at the entry, with its number. -/
theorem place_first (code : Code β e) (i : TaskId) (top : Address) (m : Memory) (r : Region) :
    code.place (.first i e top) m r = .entered i :=
  (code.entry _ m r rfl).trans (congrArg Place.entered (Context.toNat_number i))

/-- A task that was made, has not run and was not picked is at the entry. -/
theorem isAt_created (he : b.scheduler.entryPoints = e) (hi : i.val < b.scheduler.count)
    (hc : (b.scheduler.task i).status = .created) (hp : b.scheduler.pending ≠ some i)
    (hne : i ≠ b.scheduler.current) : b.IsAt code i (.entered i) := by
  refine ⟨_, ⟨fun h => absurd h hne, fun _ => Scheduler.holds_first b.memory hi hc hp⟩, ?_⟩
  rw [he]
  exact place_first code i _ _ _

/-- **At the launch** of the first task, when none has run before, all tasks are at the entry. -/
theorem Prepared.isAt_start {image : Kernel.Image} (h : b.Prepared image)
    (he : b.scheduler.entryPoints = e)
    (hfresh : ∀ i : TaskId, i.val < b.scheduler.count → (b.scheduler.task i).status = .created)
    (hi : i.val < b.start.scheduler.count) : b.start.IsAt code i (.entered i) := by
  obtain ⟨hmain, hst⟩ := h.stacked
  obtain ⟨hs, -⟩ := h.start_spec
  have hcount : b.start.scheduler.count = b.scheduler.count := by
    rw [hs]; exact Scheduler.count_launch _
  by_cases hcur : i = b.start.scheduler.current
  · subst hcur
    have hlt := hcount ▸ hi
    have hroom := hst.room hlt
    have hbelow := hst.below _ hlt
    have hlim := hmain.limit_lt
    have hentry := start_atEntry hmain.handling (congrArg Scheduler.current hs).symm
      (by omega) (by omega)
    have hhere : code.here b.start = .entered b.start.cpu.r0.toNat :=
      code.entry _ _ _ (he ▸ hentry.pc)
    rw [← hentry.number, ← hhere]
    exact isAt_here code b.start
  · obtain ⟨hcreated, hpend⟩ := h.created_start (hfresh i (hcount ▸ hi)) hcur
    refine isAt_created ?_ hi hcreated hpend hcur
    rw [hs, Scheduler.launch_eq]; exact he

/-- So is a task that has just been made. -/
theorem isAt_spawn (hr : b.Running) (he : b.scheduler.entryPoints = e) {body : β}
    {argument size : UInt64} {name : Option String} {s' : Scheduler β}
    (hs : b.scheduler.spawn body argument size name = .ok (i, s')) :
    (b.call (.spawn body argument size name)).IsAt code i (.entered i) := by
  have hst := hr.sound.stacked
  have hafter : (b.call (.spawn body argument size name)).scheduler = s' := by
    rw [scheduler_call, Scheduler.after, hs]
  obtain ⟨hid, -, region, arena, -, hs'⟩ := Scheduler.spawn_eq_ok hs
  refine isAt_created ?_ ?_ ?_ ?_ ?_ <;> rw [hafter]
  · rw [hs']; exact he
  · have hcount : s'.count = b.scheduler.count + 1 := by rw [hs']
    omega
  · rw [Scheduler.task_spawn_self hs]; rfl
  -- nobody has picked it, and it is not current
  · have hpend : s'.pending = b.scheduler.pending := by
      rw [hs']; rfl
    rw [hpend]
    exact fun hp => absurd (hst.pending i hp) (Nat.not_lt.2 hid.ge)
  · have hcur : s'.current = b.scheduler.current := by
      rw [hs']; rfl
    rw [hcur]
    exact hst.ne_current hid.ge

end

end Board

/-! ## Straight code -/

/-- Where task `n` is when it is so far behind the entry, if the code has one instruction for each
    place, and finds in `entry` what the task runs. -/
def Place.behind (entry : Nat → Option (β × UInt64)) (n : Nat) (k : Word) : Place β :=
  if k = 0 then .entered n
  else if k = 2 then .found n (entry n)
  else if k = 4 then .inBody n
  else if k = 6 then .back n
  else .parked

section
variable {e : EntryPoints} {entry : Nat → Option (β × UInt64)}

/-- Such code.  It leaves the number of its task in R0. -/
def Code.straight (e : EntryPoints) (entry : Nat → Option (β × UInt64)) : Code β e where
  place C _ _ := .behind entry (C.reg .r0).toNat (C.pc - (e.trampoline &&& ~~~1))
  entry C _ _ h := by
    have hk : C.pc - (e.trampoline &&& ~~~1) = 0 := by rw [h]; exact UInt32.sub_self _
    rw [hk]; rfl
  congr _ _ _ _ _ := rfl

/-- The current task goes so far behind the entry. -/
def Board.behind (b : Board β κ) (e : EntryPoints) (k : Word) : Board β κ :=
  { b with cpu.pc := (e.trampoline &&& ~~~1) + k }

theorem Board.ownCode_behind (b : Board β κ) (e : EntryPoints) (k : Word) :
    b.OwnCode (b.behind e k) := ⟨rfl, rfl, rfl, rfl, fun _ _ _ => .refl _ _ _⟩

theorem Code.here_behind (b : Board β κ) (k : Word) :
    (Code.straight e entry).here (b.behind e k) = .behind entry (b.cpu.get .r0).toNat k := by
  have hk : (e.trampoline &&& ~~~1) + k - (e.trampoline &&& ~~~1) = k := by
    rw [UInt32.add_comm, UInt32.add_sub_cancel]
  show Place.behind entry (b.cpu.get .r0).toNat _ = _
  exact congrArg _ hk

/-- Only one instruction of it is the entry. -/
theorem Code.pc_of_entered {b : Board β κ} {n : Nat}
    (h : (Code.straight e entry).here b = .entered n) : b.cpu.pc = e.trampoline &&& ~~~1 := by
  have hk : b.cpu.pc - (e.trampoline &&& ~~~1) = 0 := by
    by_contra hk
    change Place.behind entry (b.cpu.get .r0).toNat (b.cpu.pc - (e.trampoline &&& ~~~1)) = _ at h
    rw [Place.behind, if_neg hk] at h
    split_ifs at h
    cases hf : entry (b.cpu.get .r0).toNat with
    | none => rw [hf] at h; cases h
    | some r => rw [hf] at h; cases h
  rw [← UInt32.sub_add_cancel b.cpu.pc (e.trampoline &&& ~~~1), hk, UInt32.zero_add]

end

end Carousel
