/-
  Carousel — the stacks of the tasks.

  * `Record.stack` and `Record.floor`: the stack of a task, and the lowest address of it;
  * `Started`: a task was made and has run, so that no first context is laid out for it again;
  * `Stacked`: the stacks of all tasks lie below a limit and apart from each other;
  * `Stacked.serve`: this stays so.
-/
import Carousel.Proofs.Scheduler.Origin
import Carousel.Proofs.Stack.Arena

namespace Carousel

open Stack

variable {β : Type}

namespace Record

/-- The stack of a task. -/
def stack (r : Record β) : Region := ⟨r.top, r.size⟩

/-- The lowest address of the stack. -/
def floor (r : Record β) : Nat := r.top.toNat - r.size.toNat

theorem stack_eq {r r' : Record β} (h : r.origin = r'.origin) : r.stack = r'.stack := by
  show r.origin.stack = r'.origin.stack
  rw [h]

theorem top_eq {r r' : Record β} (h : r.stack = r'.stack) : r.top = r'.top :=
  congrArg Region.top h

theorem size_eq {r r' : Record β} (h : r.stack = r'.stack) : r.size = r'.size :=
  congrArg Region.size h

theorem floor_eq {r r' : Record β} (h : r.stack = r'.stack) : r.floor = r'.floor := by
  rw [floor, floor, top_eq h, size_eq h]

end Record

namespace Scheduler

/-! ## What events keep -/

section
variable (s : Scheduler β) (trigger : Trigger)

theorem stack_strike (r : Record β) : (strike r).stack = r.stack :=
  Record.stack_eq (origin_strike r)

theorem stack_pass (i : TaskId) :
    ((s.pass trigger).scheduler.task i).stack = (s.task i).stack :=
  Record.stack_eq (origin_pass s trigger i)

theorem stack_sleepCurrent (ticks : UInt16) (i : TaskId) :
    ((s.sleepCurrent ticks).task i).stack = (s.task i).stack :=
  Record.stack_eq (origin_sleepCurrent s ticks i)

theorem stack_exit (id : Nat) (i : TaskId) : ((s.exit id).task i).stack = (s.task i).stack :=
  Record.stack_eq (origin_exit s id i)

theorem stack_commit (sp : Address) (i : TaskId) :
    ((s.commit sp).2.task i).stack = (s.task i).stack :=
  Record.stack_eq (origin_commit s sp i)

theorem stack_launch (i : TaskId) : (s.launch.2.1.task i).stack = (s.task i).stack :=
  Record.stack_eq (origin_launch s i)

/-- A pass leaves entries vacant and makes no entry a fresh one. -/
theorem vacant_pass {i : TaskId} (h : (s.task i).status = .vacant) :
    ((s.pass trigger).scheduler.task i).status = .vacant := by
  have hc : (chargeOne trigger (s.task i)).status = .vacant := by
    rcases status_chargeOne trigger (s.task i) with e | ⟨e, -⟩
    · rw [e, h]
    · rw [h] at e; cases e
  rw [task_pass]
  dsimp only
  split_ifs
  · exact hc
  · exact hc
  · rw [strike, if_neg (by rw [hc]; decide)]; exact hc
  · exact hc

end

/-! ## Tasks that have run -/

/-- The task was made and has run. -/
structure Started (s : Scheduler β) (i : TaskId) : Prop where
  made : i.val < s.count
  run : (s.task i).status ≠ .created

theorem chargeOne_run (trigger : Trigger) {r : Record β} (h : r.status ≠ .created) :
    (chargeOne trigger r).status ≠ .created := by
  rcases status_chargeOne trigger r with e | ⟨-, e⟩
  · rw [e]; exact h
  · rw [e]; decide

theorem chargeOne_created {trigger : Trigger} {r : Record β} :
    (chargeOne trigger r).status = .created ↔ r.status = .created := by
  constructor
  · intro h
    by_contra hr
    exact chargeOne_run trigger hr h
  · intro h
    rcases status_chargeOne trigger r with e | ⟨e, -⟩
    · rw [e, h]
    · rw [h] at e; cases e

/-- A pass picks at most one task to run, and lets none run yet. -/
theorem created_pass {s : Scheduler β} {i : TaskId} {trigger : Trigger} :
    ((s.pass trigger).scheduler.task i).status = .created ↔ (s.task i).status = .created := by
  rw [status_pass]
  split_ifs with hx
  · refine iff_of_false nofun fun hc => ?_
    rw [chargeOne_created.2 hc] at hx
    exact nomatch hx.2
  · exact chargeOne_created

theorem Started.pass {s : Scheduler β} {i : TaskId} (h : s.Started i) (trigger : Trigger) :
    (s.pass trigger).scheduler.Started i where
  made := by rw [count_pass]; exact h.made
  run := fun hc => h.run (created_pass.1 hc)

theorem Started.sleepCurrent {s : Scheduler β} {i : TaskId} (h : s.Started i) (ticks : UInt16) :
    (s.sleepCurrent ticks).Started i where
  made := h.made
  run := by
    by_cases hi : s.current = i
    · subst hi; rw [Scheduler.sleepCurrent, task_update_self]; rintro ⟨⟩
    · rw [task_sleepCurrent_of_ne (Ne.symm hi)]; exact h.run

theorem Started.exit {s : Scheduler β} {i : TaskId} (h : s.Started i) (id : Nat) :
    (s.exit id).Started i where
  made := by rw [exit_rest]; exact h.made
  run := by
    rw [task_exit]
    split_ifs
    · nofun
    · exact h.run

theorem Started.commit {s : Scheduler β} {i : TaskId} (h : s.Started i) (sp : Address) :
    (s.commit sp).2.Started i where
  made := by rw [commit_rest]; exact h.made
  run := by
    rw [task_commit]
    dsimp only
    split_ifs
    · nofun
    · nofun
    · exact h.run
    · exact h.run

theorem Started.launch {s : Scheduler β} {i : TaskId} (h : s.Started i) :
    s.launch.2.1.Started i where
  made := by rw [count_launch]; exact h.made
  run := by
    rw [status_launch]
    split_ifs
    · nofun
    · nofun
    · exact h.run

theorem task_spawn_of_ne {s s' : Scheduler β} {body : β} {argument size : UInt64}
    {name : Option String} {id i : TaskId} (hs : s.spawn body argument size name = .ok (id, s'))
    (hi : i ≠ id) : s'.task i = s.task i := by
  obtain ⟨-, -, region, arena, -, rfl⟩ := spawn_eq_ok hs
  show (s.update id fun _ => _).task i = s.task i
  exact task_update_of_ne _ _ (Ne.symm hi)

theorem task_spawn_self {s s' : Scheduler β} {body : β} {argument size : UInt64}
    {name : Option String} {id : TaskId} (hs : s.spawn body argument size name = .ok (id, s')) :
    s'.task id = Record.fresh id body argument (s'.task id).top (s'.task id).size
      ((name.map Name.ofString).getD (Name.numbered id)) := by
  obtain ⟨-, -, region, arena, -, rfl⟩ := spawn_eq_ok hs
  have hself : ∀ r : Record β, ({ s.update id fun _ => r with
      count := s.count + 1, arena := arena } : Scheduler β).task id = r :=
    fun r => task_update_self s id fun _ => r
  rw [hself]; rfl

/-- A task that is made gets what is cut off the arena for it. -/
theorem cut_spawn {s s' : Scheduler β} {body : β} {argument size : UInt64}
    {name : Option String} {id : TaskId} (hs : s.spawn body argument size name = .ok (id, s')) :
    s.arena.cut size = .ok ((s'.task id).stack, s'.arena) := by
  obtain ⟨-, -, region, arena, hcut, he⟩ := spawn_eq_ok hs
  have hself : (s'.task id).stack = region := by
    rw [he]
    show ((s.update id fun _ => _).task id).stack = region
    rw [task_update_self]; rfl
  rw [hcut, hself, he]

theorem cut_restart {s : Scheduler β} {arena : Arena} {entryPoints : EntryPoints} {idle : β}
    {idleSize : UInt64} {id : TaskId}
    (h : (s.restart arena entryPoints idle idleSize).1 = .ok id) :
    arena.cut idleSize = .ok (((s.restart arena entryPoints idle idleSize).2.task idleTask).stack,
      (s.restart arena entryPoints idle idleSize).2.arena) := by
  obtain ⟨-, region, rest, hcut, he⟩ := restart_eq_ok h
  have hself := congrArg Record.stack (task_restart h hcut idleTask)
  rw [if_pos rfl] at hself
  rw [hcut, hself, he]
  rfl

/-- A task that is made takes nothing from those that were made before. -/
theorem made_serve_spawn {s : Scheduler β} {i : TaskId} (hi : i.val < s.count) (body : β)
    (argument size : UInt64) (name : Option String) :
    let s' := s.serve (.spawn body argument size name)
    i.val < s'.count ∧ s'.task i = s.task i := by
  refine serve_spawn_of (P := fun s' => i.val < s'.count ∧ s'.task i = s.task i) ⟨hi, rfl⟩
    fun id made hs => ?_
  obtain ⟨hid, -, region, arena, -, he⟩ := spawn_eq_ok hs
  have hne : i ≠ id := by
    rintro rfl; omega
  refine ⟨?_, task_spawn_of_ne hs hne⟩
  rw [he]; exact Nat.lt_succ_of_lt hi

/-- A task that was made stays made, and keeps what it was made with. -/
theorem origin_serve {s : Scheduler β} {i : TaskId} (hi : i.val < s.count) (r : Request β) :
    i.val < (s.serve r).count ∧ ((s.serve r).task i).origin = (s.task i).origin := by
  cases r with
  | spawn body argument size name =>
    obtain ⟨hmade, ht⟩ := made_serve_spawn hi body argument size name
    exact ⟨hmade, congrArg Record.origin ht⟩
  | pass trigger => exact ⟨(count_pass s trigger).symm ▸ hi, origin_pass s trigger i⟩
  | commit sp => exact ⟨by rw [serve, commit_rest]; exact hi, origin_commit s sp i⟩
  | sleepCurrent ticks => exact ⟨hi, origin_sleepCurrent s ticks i⟩
  | exit id => exact ⟨by rw [serve, exit_rest]; exact hi, origin_exit s id i⟩
  | launch => exact ⟨(count_launch s).symm ▸ hi, origin_launch s i⟩

theorem origin_serveAll {s : Scheduler β} {i : TaskId} (hi : i.val < s.count)
    (rs : List (Request β)) :
    i.val < (s.serveAll rs).count ∧ ((s.serveAll rs).task i).origin = (s.task i).origin := by
  induction rs generalizing s with
  | nil => exact ⟨hi, rfl⟩
  | cons r rs ih =>
    obtain ⟨hmade, horigin⟩ := origin_serve hi r
    obtain ⟨hmade', horigin'⟩ := ih hmade
    exact ⟨hmade', horigin'.trans horigin⟩

theorem origin_after {s : Scheduler β} {i : TaskId} (hi : i.val < s.count) (e : Event β) :
    i.val < (s.after e).count ∧ ((s.after e).task i).origin = (s.task i).origin := by
  rw [after_eq_serveAll]; exact origin_serveAll hi _

theorem stack_after {s : Scheduler β} {i : TaskId} (hi : i.val < s.count) (e : Event β) :
    ((s.after e).task i).stack = (s.task i).stack :=
  Record.stack_eq (origin_after hi e).2

theorem Started.serve {s : Scheduler β} {i : TaskId} (h : s.Started i) (r : Request β) :
    (s.serve r).Started i := by
  cases r with
  | spawn body argument size name =>
    obtain ⟨hmade, htask⟩ := made_serve_spawn h.made body argument size name
    exact ⟨hmade, by rw [htask]; exact h.run⟩
  | pass trigger => exact h.pass trigger
  | sleepCurrent ticks => exact h.sleepCurrent ticks
  | exit id => exact h.exit id
  | commit sp => exact h.commit sp
  | launch => exact h.launch

theorem Started.serveAll {s : Scheduler β} {i : TaskId} (h : s.Started i) (rs : List (Request β)) :
    (s.serveAll rs).Started i := by
  induction rs generalizing s with
  | nil => exact h
  | cons r rs ih => exact ih (h.serve r)

theorem Started.after {s : Scheduler β} {i : TaskId} (h : s.Started i) (e : Event β) :
    (s.after e).Started i := by
  rw [after_eq_serveAll]; exact h.serveAll _

/-- A pass moves the stack pointer of a task only to lay out its first context. -/
theorem sp_pass_of {s : Scheduler β} {i : TaskId} {trigger : Trigger}
    (h : ¬ ((s.pass trigger).pick = some i ∧ (chargeOne trigger (s.task i)).status = .created)) :
    ((s.pass trigger).scheduler.task i).sp = (s.task i).sp := by
  have hsp : (chargeOne trigger (s.task i)).sp = (s.task i).sp := by rw [chargeOne_rest]
  rw [task_pass]
  dsimp only
  split_ifs with hp hc
  · exact absurd ⟨hp, hc⟩ h
  · exact hsp
  · rw [strike_rest]; exact hsp
  · exact hsp

/-- The trap moves the stack pointer of the current task alone. -/
theorem sp_commit_of_ne {s : Scheduler β} {i : TaskId} (hi : i ≠ s.current) (sp : Address) :
    ((s.commit sp).2.task i).sp = (s.task i).sp := by
  rw [task_commit, if_neg (Ne.symm hi)]
  dsimp only
  split_ifs <;> rfl

/-- A switch to another task goes on with the stack pointer that is on record for it. -/
theorem commit_pending {s : Scheduler β} {p : TaskId} (hp : s.pending = some p)
    (hne : p ≠ s.current) (sp : Address) :
    (s.commit sp).2.current = p ∧ (s.commit sp).1 = (s.task p).sp := by
  have hcurrent : (s.commit sp).2.current = p := by rw [commit_rest, hp]; rfl
  have htold : (s.commit sp).1 = ((s.commit sp).2.task (s.commit sp).2.current).sp := rfl
  refine ⟨hcurrent, ?_⟩
  rw [htold, hcurrent, sp_commit_of_ne hne]

/-- Words are written only for a task that has not run. -/
theorem stores_after (s : Scheduler β) (e : Event β) :
    s.stores e = [] ∨ ∃ p, (s.task p).status = .created ∧
      s.stores e = Frame.stores p s.entryPoints (s.task p).top := by
  have hpass : ∀ (s : Scheduler β) (trigger : Trigger), (s.pass trigger).stores = [] ∨
      ∃ p, (s.task p).status = .created ∧
        (s.pass trigger).stores = Frame.stores p s.entryPoints (s.task p).top := by
    intro s trigger
    rcases stores_pass s trigger with hs | ⟨p, -, hc, hs⟩
    · exact Or.inl hs
    · refine Or.inr ⟨p, ?_, hs⟩
      by_contra h
      exact chargeOne_run trigger h hc
  cases e with
  | pass trigger => exact hpass s trigger
  | sleep ticks =>
    rcases hpass (s.sleepCurrent ticks) .call with hs | ⟨p, hc, hs⟩
    · exact Or.inl hs
    · have hp : p ≠ s.current := by
        rintro rfl
        rw [sleepCurrent, task_update_self] at hc
        cases hc
      rw [task_sleepCurrent_of_ne hp] at hc hs
      exact Or.inr ⟨p, hc, hs⟩
  | spawn | exit | commit => exact Or.inl rfl

/-! ## The launch -/

/-- The launch starts at the bottom of the first context of the task that it chooses. -/
theorem launch_fst (s : Scheduler β) :
    s.launch.1 = Frame.bottom (s.task s.launch.2.1.current).top := by
  have hsp : s.launch.1 = (s.launch.2.1.task s.launch.2.1.current).sp := rfl
  have hcur : s.launch.2.1.current = s.candidate.getD s.current := by rw [launch_eq]
  have htop := Record.top_eq (stack_launch s s.launch.2.1.current)
  rw [task_launch, hcur] at htop
  rw [hsp, hcur, task_launch]
  dsimp only at htop ⊢
  rw [if_pos rfl] at htop ⊢
  exact congrArg Frame.bottom htop

/-- It lays that context out. -/
theorem stores_launch (s : Scheduler β) :
    s.launch.2.2 =
      Frame.stores s.launch.2.1.current s.entryPoints (s.task s.launch.2.1.current).top := by
  have hcur : s.launch.2.1.current = s.candidate.getD s.current := by rw [launch_eq]
  have htop : ((s.reclaimAll s.skipped).task (s.candidate.getD s.current)).top =
      (s.task (s.candidate.getD s.current)).top := by
    rw [task_reclaimAll]
    split_ifs
    · exact Record.top_eq (stack_strike _)
    · rfl
  rw [hcur, ← htop]
  unfold Scheduler.launch
  rw [scan_eq]
  rfl

/-! ## Stacks apart -/

/-- The tasks that were made have stacks below `limit`, large enough for a context and apart from
    each other, and only such tasks are current or pending. -/
structure Stacked (limit : Nat) (s : Scheduler β) : Prop where
  current : s.current.val < s.count
  pending : ∀ p, s.pending = some p → p.val < s.count
  vacant : ∀ i : TaskId, s.count ≤ i.val → (s.task i).status = .vacant
  arena : s.arena.top.toNat ≤ limit
  large : ∀ i : TaskId, i.val < s.count → Frame.byteCount.toNat ≤ (s.task i).size.toNat
  above : ∀ i : TaskId, i.val < s.count →
    s.arena.top.toNat + (s.task i).size.toNat ≤ (s.task i).top.toNat
  below : ∀ i : TaskId, i.val < s.count → (s.task i).top.toNat ≤ limit
  apart : ∀ i j : TaskId, i < j → j.val < s.count → (s.task j).top.toNat ≤ (s.task i).floor

namespace Stacked

variable {limit : Nat} {s s' : Scheduler β}

/-- What happens to anything but the stacks is of no account to them. -/
theorem of_same (h : s.Stacked limit) (hn : s'.count = s.count) (ha : s'.arena = s.arena)
    (hs : ∀ i, (s'.task i).stack = (s.task i).stack) (hc : s'.current.val < s.count)
    (hp : ∀ p, s'.pending = some p → p.val < s.count)
    (hv : ∀ i : TaskId, s.count ≤ i.val → (s'.task i).status = .vacant) : s'.Stacked limit where
  current := by rw [hn]; exact hc
  pending p hp' := by rw [hn]; exact hp p hp'
  vacant i hi := by rw [hn] at hi; exact hv i hi
  arena := by rw [ha]; exact h.arena
  large i hi := by
    rw [hn] at hi
    rw [Record.size_eq (hs i)]; exact h.large i hi
  above i hi := by
    rw [hn] at hi
    rw [ha, Record.size_eq (hs i), Record.top_eq (hs i)]; exact h.above i hi
  below i hi := by
    rw [hn] at hi
    rw [Record.top_eq (hs i)]; exact h.below i hi
  apart i j hij hj := by
    rw [hn] at hj
    rw [Record.top_eq (hs j), Record.floor_eq (hs i)]; exact h.apart i j hij hj

/-- A task that may run was made. -/
theorem made_of_runnable (h : s.Stacked limit) {i : TaskId} (hr : (s.task i).status.runnable) :
    i.val < s.count := by
  by_contra hi
  rw [h.vacant i (Nat.not_lt.1 hi)] at hr
  cases hr

/-- There is room for a context on a stack. -/
theorem room (h : s.Stacked limit) {i : TaskId} (hi : i.val < s.count) :
    (s.task i).floor + 64 ≤ (s.task i).top.toNat := by
  have hlarge := h.large i hi
  have habove := h.above i hi
  have hbytes : Frame.byteCount.toNat = 64 := rfl
  rw [Record.floor]
  omega

theorem disjoint (h : s.Stacked limit) {i j : TaskId} (hij : i ≠ j) (hi : i.val < s.count)
    (hj : j.val < s.count) :
    (s.task i).top.toNat ≤ (s.task j).floor ∨ (s.task j).top.toNat ≤ (s.task i).floor := by
  rcases Fin.lt_or_lt_of_ne hij with hlt | hlt
  · exact Or.inr (h.apart i j hlt hj)
  · exact Or.inl (h.apart j i hlt hi)

theorem pass (h : s.Stacked limit) (trigger : Trigger) :
    (s.pass trigger).scheduler.Stacked limit := by
  refine h.of_same (count_pass s trigger) (arena_pass s trigger) (stack_pass s trigger) ?_ ?_ ?_
  · rw [current_pass]; exact h.current
  · intro p hp
    rw [pending_pass, Option.or_eq_some_iff] at hp
    rcases hp with hp | ⟨-, hp⟩
    · by_contra hi
      have hr := (candidate_eq_some ((pick_pass s trigger).symm.trans hp)).2
      rw [task_charge] at hr
      rcases status_chargeOne trigger (s.task p) with e | ⟨e, -⟩
      · rw [e, h.vacant p (Nat.not_lt.1 hi)] at hr; cases hr
      · rw [h.vacant p (Nat.not_lt.1 hi)] at e; cases e
    · exact h.pending p hp
  · exact fun i hi => vacant_pass s trigger (h.vacant i hi)

theorem ne_current (h : s.Stacked limit) {i : TaskId} (hi : s.count ≤ i.val) : i ≠ s.current := by
  rintro rfl
  have := h.current
  omega

theorem sleepCurrent (h : s.Stacked limit) (ticks : UInt16) :
    (s.sleepCurrent ticks).Stacked limit := by
  refine h.of_same rfl rfl (stack_sleepCurrent s ticks) h.current h.pending fun i hi => ?_
  rw [task_sleepCurrent_of_ne (h.ne_current hi)]; exact h.vacant i hi

theorem exit (h : s.Stacked limit) (id : Nat) : (s.exit id).Stacked limit := by
  refine h.of_same (by rw [exit_rest]) (by rw [exit_rest]) (stack_exit s id) ?_ ?_ fun i hi => ?_
  · rw [exit_rest]; exact h.current
  · rw [exit_rest]; exact h.pending
  · have hv := h.vacant i hi
    rw [task_exit, if_neg fun hx => hx.2 hv]; exact hv

theorem commit (h : s.Stacked limit) (sp : Address) : (s.commit sp).2.Stacked limit := by
  refine h.of_same ?_ ?_ (stack_commit s sp) ?_ ?_ fun i hi => ?_
  · rw [commit_rest]
  · rw [commit_rest]
  · rw [commit_rest]
    cases hp : s.pending with
    | none => exact h.current
    | some p => exact h.pending p hp
  · intro p hp
    rw [commit_rest] at hp; simp at hp
  · have hp : s.pending ≠ some i := fun hp => by
      have := h.pending i hp; omega
    rw [task_commit, if_neg (h.ne_current hi).symm, if_neg hp]
    exact h.vacant i hi

/-- The smallest stack is large enough for a context. -/
theorem byteCount_le_of_min {size n : UInt64} (hmin : minStackSize ≤ size)
    (hn : size.toNat ≤ n.toNat) : Frame.byteCount.toNat ≤ n.toNat := by
  have : Frame.byteCount.toNat ≤ minStackSize.toNat := by decide
  rw [UInt64.le_iff_toNat_le] at hmin
  omega

/-- The next stack is cut from what is left below all others. -/
theorem spawn (h : s.Stacked limit) {body : β} {argument size : UInt64} {name : Option String}
    {id : TaskId} (hs : s.spawn body argument size name = .ok (id, s')) : s'.Stacked limit := by
  obtain ⟨htop, -, hsize, -, hcut⟩ := Arena.cut_eq_ok (cut_spawn hs)
  obtain ⟨hid, hmin, region, arena, -, he⟩ := spawn_eq_ok hs
  have hn : s'.count = s.count + 1 := by rw [he]
  have htop : (s'.task id).top = s.arena.top := htop
  have hcut : s'.arena.top.toNat + (s'.task id).size.toNat = s.arena.top.toNat := hcut
  have hother : ∀ i, i ≠ id → s'.task i = s.task i := fun i hi => task_spawn_of_ne hs hi
  -- the new task, or one that was there before
  have hmade : ∀ i : TaskId, i.val < s'.count → i = id ∨ i ≠ id ∧ i.val < s.count := by
    intro i hi
    by_cases hne : i = id
    · exact Or.inl hne
    · have : i.val ≠ id.val := fun h => hne (Fin.ext h)
      exact Or.inr ⟨hne, by omega⟩
  have harena := h.arena
  constructor
  · rw [he]; exact Nat.lt_succ_of_lt h.current
  · intro p hp
    rw [he] at hp
    rw [hn]; exact Nat.lt_succ_of_lt (h.pending p hp)
  · intro i hi
    have hne : i ≠ id := by
      rintro rfl; omega
    rw [hother i hne]; exact h.vacant i (by omega)
  · omega
  · intro i hi
    rcases hmade i hi with rfl | ⟨hne, hi⟩
    · exact byteCount_le_of_min hmin hsize
    · rw [hother i hne]; exact h.large i hi
  · intro i hi
    rcases hmade i hi with rfl | ⟨hne, hi⟩
    · rw [htop]; omega
    · have := h.above i hi
      rw [hother i hne]; omega
  · intro i hi
    rcases hmade i hi with rfl | ⟨hne, hi⟩
    · rw [htop]; exact harena
    · rw [hother i hne]; exact h.below i hi
  · intro i j hij hj
    rw [Fin.lt_def] at hij
    have hi : i ≠ id := by
      rintro rfl; omega
    rw [hother i hi]
    rcases hmade j hj with rfl | ⟨hne, hj⟩
    · have := h.above i (by omega)
      rw [htop, Record.floor]; omega
    · rw [hother j hne]; exact h.apart i j (Fin.lt_def.2 hij) hj

/-- The limit may as well be higher. -/
theorem mono (h : s.Stacked limit) {limit' : Nat} (hle : limit ≤ limit') : s.Stacked limit' :=
  { h with
    arena := h.arena.trans hle
    below := fun i hi => (h.below i hi).trans hle }

theorem restart {arena : Arena} {entryPoints : EntryPoints} {idle : β} {idleSize : UInt64}
    {id : TaskId} (ha : arena.top.toNat ≤ limit)
    (h : (s.restart arena entryPoints idle idleSize).1 = .ok id) :
    (s.restart arena entryPoints idle idleSize).2.Stacked limit := by
  obtain ⟨hmin, region, rest, hcut, he⟩ := restart_eq_ok h
  have ht := task_restart h hcut
  rw [he] at ht ⊢
  obtain ⟨htop, -, hsize, -, hcut⟩ := Arena.cut_eq_ok hcut
  have hlarge := byteCount_le_of_min hmin hsize
  -- only the idle task was made
  have hmade : ∀ i : TaskId, i.val < 1 → idleTask = i := fun i hi => Fin.ext (by
    have : idleTask.val = 0 := rfl
    omega)
  constructor
  · exact Nat.one_pos
  · intro p hp; cases hp
  · intro i hi
    have hne : idleTask ≠ i := by
      rintro rfl; cases hi
    rw [ht, if_neg hne]; rfl
  · show rest.top.toNat ≤ limit
    omega
  · intro i hi
    rw [ht, if_pos (hmade i hi)]; exact hlarge
  · intro i hi
    rw [ht, if_pos (hmade i hi)]
    show rest.top.toNat + region.size.toNat ≤ region.top.toNat
    rw [htop]; omega
  · intro i hi
    rw [ht, if_pos (hmade i hi)]
    show region.top.toNat ≤ limit
    rw [htop]; exact ha
  · intro i j hij hj
    have hj : j.val < 1 := hj
    rw [Fin.lt_def] at hij
    omega

/-- The first task is one that was made. -/
theorem launch (h : s.Stacked limit) :
    s.launch.2.1.Stacked limit ∧ s.launch.2.1.Started s.launch.2.1.current := by
  have hcur : s.launch.2.1.current = s.candidate.getD s.current := by rw [launch_eq]
  have hmade : (s.candidate.getD s.current).val < s.count := by
    cases hp : s.candidate with
    | none => exact h.current
    | some p => exact h.made_of_runnable (candidate_eq_some hp).2
  refine ⟨h.of_same (count_launch s) (by rw [launch_eq]; rfl) (stack_launch s) ?_ ?_ fun i hi => ?_, ?_, ?_⟩
  · rw [hcur]; exact hmade
  · intro p hp
    rw [launch_eq] at hp; cases hp
  · have hne : s.candidate.getD s.current ≠ i := by
      rintro rfl; omega
    have hv := h.vacant i hi
    rw [task_launch, if_neg hne, task_reclaimAll]
    split_ifs
    · rw [strike, if_neg (by rw [hv]; decide)]; exact hv
    · exact hv
  · rw [count_launch, hcur]; exact hmade
  · rw [task_launch, if_pos hcur.symm]; rintro ⟨⟩

/-- **Whatever happens, the stacks stay apart.** -/
theorem serve (h : s.Stacked limit) (r : Request β) : (s.serve r).Stacked limit := by
  cases r with
  | spawn => exact serve_spawn_of h fun _ _ hs => h.spawn hs
  | pass trigger => exact h.pass trigger
  | commit sp => exact h.commit sp
  | sleepCurrent ticks => exact h.sleepCurrent ticks
  | exit id => exact h.exit id
  | launch => exact h.launch.1

theorem serveAll (h : s.Stacked limit) (rs : List (Request β)) : (s.serveAll rs).Stacked limit := by
  induction rs generalizing s with
  | nil => exact h
  | cons r rs ih => exact ih (h.serve r)

theorem after (h : s.Stacked limit) (e : Event β) : (s.after e).Stacked limit := by
  rw [after_eq_serveAll]; exact h.serveAll _

end Stacked

theorem exists_stacked {s : Scheduler β} (h : Underway s) : ∃ limit, s.Stacked limit := by
  induction h with
  | restart hr => exact ⟨_, Stacked.restart le_rfl hr⟩
  | launch _ ih => exact ih.imp fun _ hs => hs.launch.1
  | step _ _ ih => exact ih.imp fun _ hs => hs.after _

/-- Whoever has the processor after a switch counts as one that has run. -/
theorem Started.commit_current {s : Scheduler β} {limit : Nat} (h : s.Started s.current)
    (hs : s.Stacked limit) (sp : Address) : (s.commit sp).2.Started (s.commit sp).2.current := by
  have hcur : (s.commit sp).2.current = s.pending.getD s.current := by rw [commit_rest]
  rw [hcur]
  cases hp : s.pending with
  | none => exact h.commit sp
  | some p =>
    refine ⟨?_, ?_⟩
    · rw [commit_rest]; exact hs.pending p hp
    · rw [Option.getD_some, task_commit, if_pos hp]; nofun

end Scheduler

end Carousel
