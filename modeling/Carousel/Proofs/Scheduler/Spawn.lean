/-
  Carousel — when a task is made.

  * `Possible`: the states that calls of any kind and in any order lead to;
  * `spawn_eq_error_iff`: when no task is made, and why;
  * `spawn_exact`: a task is made with all that belongs to it, or nothing happens.
-/
import Carousel.Proofs.Scheduler.LifeCycle

namespace Carousel

open Stack

variable {β : Type}

/-- The states that calls of any kind and in any order lead to, also before the scheduler is set up
    and when that fails. -/
inductive Possible : Scheduler β → Prop
  | blank : Possible .blank
  | restart {s : Scheduler β} (arena : Arena) (entryPoints : EntryPoints) (idle : β)
      (idleSize : UInt64) : Possible s → Possible (s.restart arena entryPoints idle idleSize).2
  | serve {s : Scheduler β} (r : Request β) : Possible s → Possible (s.serve r)

namespace Scheduler

variable {s made : Scheduler β} {body : β} {argument size : UInt64} {name : Option String}

/-! ## Numbers -/

theorem count_spawn {id : TaskId} (h : s.spawn body argument size name = .ok (id, made)) :
    made.count = s.count + 1 ∧ made.count ≤ maxTasks := by
  obtain ⟨hid, -, region, arena, -, he⟩ := spawn_eq_ok h
  have hcount : made.count = s.count + 1 := by rw [he]
  have := id.isLt
  omega

theorem count_restart (s : Scheduler β) (arena : Arena) (entryPoints : EntryPoints) (idle : β)
    (idleSize : UInt64) : (s.restart arena entryPoints idle idleSize).2.count ≤ maxTasks := by
  unfold restart
  dsimp only
  cases hs : ({ blank with current := s.current, arena := arena, entryPoints := entryPoints } :
      Scheduler β).spawn idle 0 idleSize (some "idle") with
  | error e => exact Nat.zero_le _
  | ok made => exact (count_spawn hs).2

/-- No more tasks are made than the table has entries. -/
theorem count_le_of_possible (h : Possible s) : s.count ≤ maxTasks := by
  induction h with
  | blank => exact Nat.zero_le _
  | restart arena entryPoints idle idleSize => exact count_restart _ arena entryPoints idle idleSize
  | @serve s r _ ih =>
    cases r with
    | spawn => exact serve_spawn_of (P := (·.count ≤ maxTasks)) ih fun _ _ hs => (count_spawn hs).2
    | pass | commit | sleepCurrent | exit | launch =>
      rw [(madeBy_eq s _).2]
      exact ih

/-! ## Refusals -/

/-- No task is made on too small a stack, nor without an entry and a stack left for it; and the
    size is looked at first. -/
theorem spawn_eq_error_iff {e : Fault} :
    s.spawn body argument size name = .error e ↔
      size < minStackSize ∧ e = .parameter ∨
        minStackSize ≤ size ∧
          (maxTasks ≤ s.count ∨ s.arena.remaining.toNat < (size.toNat + 7) / 8 * 8) ∧
          e = .exhausted := by
  unfold spawn
  by_cases hmin : size < minStackSize
  · simp [hmin, UInt64.not_le.2 hmin, eq_comm]
  have hle : minStackSize ≤ size := UInt64.not_lt.1 hmin
  simp only [hmin, hle, if_false, false_and, false_or, true_and]
  by_cases hcount : s.count < maxTasks
  · have h0 : size ≠ 0 := by
      rintro rfl
      exact hmin (by decide)
    have hcut : s.arena.cut size = .error e ↔
        s.arena.remaining.toNat < (size.toNat + 7) / 8 * 8 ∧ e = .exhausted := by
      simp [Arena.cut_eq_error_iff, h0]
    rw [dif_pos hcount, or_iff_right (Nat.not_le.2 hcount), ← hcut]
    cases s.arena.cut size with
    | error => simp
    | ok => simp
  · simp [hcount, Nat.not_lt.1 hcount, eq_comm]

/-- What is changed by a task that is made. -/
theorem spawn_spec {id : TaskId} (h : s.spawn body argument size name = .ok (id, made)) :
    id.val = s.count ∧ made.count = s.count + 1 ∧ made.current = s.current ∧
      made.pending = s.pending ∧ made.entryPoints = s.entryPoints ∧
      made.arena.base = s.arena.base ∧
      made.arena.top.toNat + (size.toNat + 7) / 8 * 8 = s.arena.top.toNat ∧
      (∀ i, i ≠ id → made.task i = s.task i) ∧
      (made.task id).size.toNat = (size.toNat + 7) / 8 * 8 ∧
      made.task id = .fresh id body argument s.arena.top (made.task id).size
        ((name.map Name.ofString).getD (Name.numbered id)) := by
  have hcut := cut_spawn h
  have hself := task_spawn_self h
  have hother : ∀ i, i ≠ id → made.task i = s.task i := fun i hi => task_spawn_of_ne h hi
  obtain ⟨hid, -, region, arena, -, he⟩ := spawn_eq_ok h
  obtain ⟨htop, hbase, -, -, hleft⟩ := Arena.cut_eq_ok hcut
  have hbytes := Arena.size_cut_eq hcut
  rw [hbytes] at hleft
  have htop : (made.task id).top = s.arena.top := htop
  rw [htop] at hself
  refine ⟨hid, ?_, ?_, ?_, ?_, hbase, hleft, hother, hbytes, hself⟩
  · rw [he]
  · rw [he]; rfl
  · rw [he]; rfl
  · rw [he]; rfl

/-- **A task is made, or nothing happens.**  Whatever calls came before, a request for a task is
    refused for its size just when that is below the smallest stack, and otherwise for want of
    room just when all numbers were given out or the size, rounded up to whole alignments, is more
    than what is left for stacks; and it is refused for nothing else.  A request that is refused
    leaves everything as it was, the next number and the bytes for stacks too.  One that is not
    gives out the next number and the topmost bytes that are left, fills the entry of that number,
    and changes nothing else. -/
theorem spawn_exact (h : Possible s) (body : β) (argument size : UInt64) (name : Option String) :
    let outcome := s.spawn body argument size name
    let after := s.serve (.spawn body argument size name)
    let bytes := (size.toNat + 7) / 8 * 8
    let full := s.count = maxTasks ∨ s.arena.remaining.toNat < bytes
    (outcome = .error .parameter ↔ size < minStackSize) ∧
    (outcome = .error .exhausted ↔ minStackSize ≤ size ∧ full) ∧
    ((∃ made, outcome = .ok made) ↔ minStackSize ≤ size ∧ ¬ full) ∧
    (∀ e, outcome = .error e →
      after = s ∧ (Kernel.create s body argument size name).2.1 = s) ∧
    ∀ id made, outcome = .ok (id, made) →
      after = made ∧ id.val = s.count ∧ made.count = s.count + 1 ∧ made.current = s.current ∧
      made.pending = s.pending ∧ made.entryPoints = s.entryPoints ∧
      made.arena.base = s.arena.base ∧ made.arena.top.toNat + bytes = s.arena.top.toNat ∧
      (∀ i, i ≠ id → made.task i = s.task i) ∧ (made.task id).size.toNat = bytes ∧
      made.task id = .fresh id body argument s.arena.top (made.task id).size
        ((name.map Name.ofString).getD (Name.numbered id)) := by
  intro outcome after bytes full
  have hfull : full ↔ maxTasks ≤ s.count ∨ s.arena.remaining.toNat < bytes := by
    have := count_le_of_possible h
    omega
  have herror : ∀ e, outcome = .error e ↔ size < minStackSize ∧ e = .parameter ∨
      minStackSize ≤ size ∧ full ∧ e = .exhausted := by
    intro e
    rw [hfull]
    exact spawn_eq_error_iff
  refine ⟨?_, ?_, ?_, ?_, ?_⟩
  · rw [herror]
    simp
  · rw [herror]
    simp
  · rcases hout : outcome with e | made
    · rcases (herror e).1 hout with ⟨hlt, -⟩ | ⟨-, hf, -⟩
      · simp [UInt64.not_le.2 hlt]
      · simp [hf]
    · have hnot : ∀ e, outcome ≠ .error e := by
        intro e he
        rw [hout] at he; cases he
      have hmin : minStackSize ≤ size := by
        by_contra hlt
        exact hnot _ ((herror _).2 (Or.inl ⟨UInt64.not_le.1 hlt, rfl⟩))
      have hroom : ¬ full := by
        intro hf
        exact hnot _ ((herror _).2 (Or.inr ⟨hmin, hf, rfl⟩))
      simp [hmin, hroom]
  · intro e he
    have he : s.spawn body argument size name = .error e := he
    constructor
    · simp only [after, serve, he]
    · simp only [Kernel.create, he]
  · intro id made hmade
    exact ⟨serve_spawn hmade, spawn_spec hmade⟩

/-- The scheduler with the idle task and nothing else. -/
def idleAlone : Scheduler Unit :=
  (blank.restart (.spanning 0x20000401 poolSize) .none () idleStackSize).2

/-- Too small a stack, one so large that rounding it up wraps around, and one that is rounded up. -/
theorem spawn_exact_idleAlone :
    idleAlone.spawn () 0 127 none = .error .parameter ∧
    idleAlone.spawn () 0 0xffffffffffffffff none = .error .exhausted ∧
    idleAlone.serve (.spawn () 0 0xffffffffffffffff none) = idleAlone ∧
    ∃ made, idleAlone.spawn () 7 129 (some "task") = .ok (1, made) ∧
      (made.task 1).size = 136 ∧ made.current = idleTask := by
  have h : Possible idleAlone := Possible.blank.restart _ _ _ _
  have hcount : idleAlone.count = 1 := by decide +kernel
  have hleft : idleAlone.arena.remaining = 11775 := by decide +kernel
  obtain ⟨hsmall, -⟩ := spawn_exact h () 0 127 none
  obtain ⟨-, hlarge, -, hsame, -⟩ := spawn_exact h () 0 0xffffffffffffffff none
  obtain ⟨-, -, hok, -, hmade⟩ := spawn_exact h () 7 129 (some "task")
  have hrefused := hlarge.2 ⟨by decide, Or.inr (by rw [hleft]; decide)⟩
  obtain ⟨⟨id, made⟩, hspawn⟩ := hok.2 ⟨by decide, by rw [hcount, hleft]; decide⟩
  obtain ⟨-, hid, -, hcurrent, -, -, -, -, -, hsize, -⟩ := hmade id made hspawn
  obtain rfl : id = 1 := Fin.ext (hid.trans hcount)
  refine ⟨hsmall.2 (by decide), hrefused, (hsame _ hrefused).1, made, hspawn, ?_, ?_⟩
  · exact UInt64.toNat_inj.1 hsize
  · rw [hcurrent]; rfl

end Scheduler

end Carousel
