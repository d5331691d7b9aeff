/-
  Carousel — how the demonstration is set up.

  * `Takes`: what a part of setting up makes of the board, if it does not end in a panic;
  * `takes_bind`, `takes_onBoard` and the like: one rule for each way of putting parts together;
  * `made`: the scheduler with all tasks, and `entryOf_made`: what they run;
  * `Stages`: what can be said of the board stage by stage, and `Stages.of_boot`: so it is in the
    end;
  * `launched_of_boot`: the first task is launched, and no task has touched anything yet.
-/
import Carousel.Demo.Firmware
import Carousel.Proofs.Board.Untouched

namespace Carousel.Demo.Firmware

open Stack

/-- No task has touched what they share. -/
structure Unused (f : Firmware) : Prop where
  lock : f.lock = .free
  counter : f.counter = 0
  threads : f.threads = .replicate maxTasks .fresh

theorem Unused.fresh {f : Firmware} (h : f.Unused) (i : TaskId) : f.threads.get i = .fresh := by
  rw [h.threads, Table.get_replicate]

namespace Boot

/-! ## Rules -/

section
variable {α γ : Type} {P Q R : Board Body Alarm → Prop}

/-- If it succeeds it takes boards with `P` to boards with `Q`. -/
def Takes (P Q : Board Body Alarm → Prop) (x : Boot α) : Prop :=
  ∀ f a f', x.run f = (.ok a, f') → f.Unused → P f.board → f'.Unused ∧ Q f'.board

theorem run_bind (x : Boot α) (g : α → Boot γ) (f : Firmware) :
    (x >>= g).run f = match x.run f with
      | (.ok a, f₁) => (g a).run f₁
      | (.error e, f₁) => (.error e, f₁) := by
  show (match x.run f with
    | (a, f₁) => ExceptT.bindCont (m := StateM Firmware) g a f₁) = _
  rcases x.run f with ⟨_ | a, f₁⟩ <;> rfl

theorem takes_bind {x : Boot α} {g : α → Boot γ} (hx : Takes P Q x)
    (hg : ∀ a, Takes Q R (g a)) : Takes P R (x >>= g) := by
  intro f c f' h hu hp
  rw [run_bind] at h
  rcases hf : x.run f with ⟨_ | a, f₁⟩
  · rw [hf] at h; cases h
  · rw [hf] at h
    obtain ⟨hu₁, hq⟩ := hx f a f₁ hf hu hp
    exact hg a f₁ c f' h hu₁ hq

theorem takes_pure (a : α) : Takes P P (pure a) := by
  intro f c f' h hu hp
  cases h
  exact ⟨hu, hp⟩

theorem takes_onBoard {k : Board Body Alarm → α × Board Body Alarm}
    (hk : ∀ b, P b → Q (k b).2) : Takes P Q (onBoard k) := by
  intro f a f' h hu hp
  cases h
  exact ⟨⟨hu.lock, hu.counter, hu.threads⟩, hk _ hp⟩

theorem takes_expect (message : String) (e : Except Fault α) : Takes P P (expect message e) := by
  cases e with
  | ok a => exact takes_pure a
  | error e => intro f a f' h; cases h

theorem takes_get : Takes P P get := by
  intro f a f' h hu hp
  cases h
  exact ⟨hu, hp⟩

theorem takes_modify {k : Firmware → Firmware} (hu : ∀ f, f.Unused → (k f).Unused)
    (hk : ∀ f, P f.board → Q (k f).board) : Takes P Q (modify k) := by
  intro f a f' h hu' hp
  cases h
  exact ⟨hu f hu', hk f hp⟩

theorem takes_discard {x : Boot α} (hx : Takes P Q x) : Takes P Q (discard x) := by
  have h : discard x = x >>= fun _ => pure PUnit.unit := by
    rw [bind_pure_comp]; rfl
  rw [h]
  exact takes_bind hx fun _ => takes_pure _

end

end Boot

/-! ## The tasks -/

/-- The calls that make the tasks. -/
def calls : List (Carousel.Event Body) :=
  [.spawn .counter 1 512 (some "count1"), .spawn .counter 10 512 (some "count10"),
    .spawn .receiver 0 512 (some "rx"), .spawn .greeter 3 256 (some "boot")]

/-- The scheduler with all tasks, before the first one is launched. -/
def made : Scheduler Body :=
  (Scheduler.blank.restart (Arena.spanning Kernel.Image.board.pool poolSize)
    Kernel.Image.board.entryPoints .idle idleStackSize).2.afterAll calls

theorem created_made :
    ∀ i : TaskId, i.val < made.count → (made.task i).status = .created := by decide

/-- What each of them runs. -/
theorem entryOf_made : ∀ i : TaskId, made.entryOf i =
    match i.val with
    | 0 => some (.idle, 0)
    | 1 => some (.counter, 1)
    | 2 => some (.counter, 10)
    | 3 => some (.receiver, 0)
    | 4 => some (.greeter, 3)
    | _ => none := by decide

/-! ## All of it -/

/-- The kernel is not set up yet. -/
def Off (b : Board Body Alarm) : Prop := b.OnMain .board ∧ b.scheduler = .blank

/-- The kernel is set up, and no task runs. -/
def Stage (s : Scheduler Body) (b : Board Body Alarm) : Prop := b.Prepared .board ∧ b.scheduler = s

/-- The tasks run. -/
def Launched (b : Board Body Alarm) : Prop := b.Untouched ∧ made.SameTasks b.scheduler

/-- `S` holds of scheduler and board while tasks are made, and `Q` of the board when they run. -/
structure Stages (S : Scheduler Body → Board Body Alarm → Prop) (Q : Board Body Alarm → Prop) :
    Prop where
  setUp : ∀ {b : Board Body Alarm}, Off b →
    S (Scheduler.blank.restart (Arena.spanning Kernel.Image.board.pool poolSize)
      Kernel.Image.board.entryPoints .idle idleStackSize).2 (b.setUp .board .idle)
  create : ∀ {s : Scheduler Body} {b : Board Body Alarm} (body : Body) (argument size : UInt64)
    (name : Option String), S s b →
      S (s.after (.spawn body argument size name)) (b.create body argument size name).2
  main : ∀ {s : Scheduler Body} {b b' : Board Body Alarm}, S s b → b'.scheduler = b.scheduler →
    (b.OnMain .board → b'.OnMain .board) → S s b'
  start : ∀ {b : Board Body Alarm}, S made b →
    Q (b.start.note (.launched (b.start.cpu.get .r0) b.start.cpu.control b.start.cpu.primask))

namespace Stages

variable {S : Scheduler Body → Board Body Alarm → Prop} {Q : Board Body Alarm → Prop}

theorem takes_make (h : Stages S Q) (s : Scheduler Body) (body : Body) (argument size : UInt64)
    (name : String) :
    Boot.Takes (S s) (S (s.after (.spawn body argument size (some name)))) (do
      let id ← Boot.onBoard (·.create body argument size (some name))
      discard <| Boot.expect ("Failed to create " ++ name) id) :=
  Boot.takes_bind (Boot.takes_onBoard fun _ hb => h.create _ _ _ _ hb)
    fun _ => Boot.takes_discard (Boot.takes_expect _ _)

theorem takes_timerSetUp (h : Stages S Q) (s : Scheduler Body) :
    Boot.Takes (S s) (S s) (Boot.onBoard (·.timerSetUp)) :=
  Boot.takes_onBoard fun _ hb =>
    h.main hb (Board.drive_kept Peripheral.armTimer.run _).1 (·.timerSetUp)

/-- **The way to the first task.** -/
theorem takes_boot (h : Stages S Q) : Boot.Takes Off Q boot := by
  unfold boot
  dsimp only
  -- the clock and the ring
  refine Boot.takes_bind (Boot.takes_onBoard (Q := Off) fun b hb => ⟨hb.1.drive _, ?_⟩) fun _ =>
    Boot.takes_bind (Boot.takes_expect _ _) fun _ => Boot.takes_bind Boot.takes_get fun _ =>
    Boot.takes_bind (Boot.takes_expect _ _) fun _ => Boot.takes_bind
      (Boot.takes_modify (Q := Off) (fun _ hu => ⟨hu.lock, hu.counter, hu.threads⟩) fun _ hb => hb)
      fun _ => ?_
  · exact (Board.drive_kept _ b).1.trans hb.2
  -- the tasks
  refine Boot.takes_bind (Boot.takes_onBoard fun _ hb => h.setUp hb) fun _ =>
    Boot.takes_bind (h.takes_make _ _ _ _ _) fun _ =>
    Boot.takes_bind (h.takes_make _ _ _ _ _) fun _ =>
    Boot.takes_bind (h.takes_make _ _ _ _ _) fun _ =>
    Boot.takes_bind (h.takes_make _ _ _ _ _) fun _ => ?_
  -- the timers
  refine Boot.takes_bind (h.takes_timerSetUp made) fun _ => Boot.takes_bind (Boot.takes_expect _ _)
    fun _ => Boot.takes_bind Boot.takes_get fun _ => Boot.takes_bind (Boot.takes_expect _ _)
    fun _ => Boot.takes_bind
      (Boot.takes_modify (Q := S made) (fun _ hu => ⟨hu.lock, hu.counter, hu.threads⟩)
        fun _ hb => h.main hb rfl fun hon => ⟨hon.handling, hon.above⟩)
      fun _ => Boot.takes_onBoard fun _ hb => h.start hb

end Stages

theorem onMain_powerOn (registers : Board.Registers) (primask : Word) :
    (powerOn registers primask).board.OnMain .board := by
  refine ⟨rfl, ?_⟩
  show Kernel.Image.board.limit ≤ Cpu.mainStackTop.toNat - 8
  decide

/-- Whatever holds when the tasks run. -/
theorem Stages.of_boot {S : Scheduler Body → Board Body Alarm → Prop}
    {Q : Board Body Alarm → Prop} (hs : Stages S Q) {registers : Board.Registers} {primask : Word}
    {f : Firmware} (h : boot.run (powerOn registers primask) = (.ok (), f)) :
    f.Unused ∧ Q f.board :=
  hs.takes_boot _ _ _ h ⟨rfl, rfl, rfl⟩ ⟨onMain_powerOn registers primask, rfl⟩

theorem stages_launched : Stages Stage Launched where
  setUp := fun {b} hb => by
    have hs := Board.scheduler_setUp b .board .idle
    rw [hb.2] at hs
    exact ⟨.setUp Body.idle hb.1, hs⟩
  create := fun {s b} body argument size name hb => by
    refine ⟨hb.1.create .., ?_⟩
    rw [Board.scheduler_create, hb.2]
  main := fun hb hs hmain => ⟨.main hb.1 hs (hmain hb.1.stacked.1), hs.trans hb.2⟩
  start := fun {b} hb => by
    obtain ⟨hstart, hsame⟩ := hb.1.untouched (by rw [hb.2]; exact created_made)
    rw [hb.2] at hsame
    exact ⟨hstart.of_same rfl rfl rfl, hsame⟩

/-- **The first task is launched, and no task has touched anything yet.** -/
theorem launched_of_boot {registers : Board.Registers} {primask : Word} {f : Firmware}
    (h : boot.run (powerOn registers primask) = (.ok (), f)) : f.Unused ∧ Launched f.board :=
  stages_launched.of_boot h

end Carousel.Demo.Firmware
