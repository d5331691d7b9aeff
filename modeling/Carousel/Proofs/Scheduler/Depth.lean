/-
  Carousel — stack pointers on record.

  * `deepest`: the largest depth of some stack pointers;
  * `savedBy`: the stack pointers that a request saves for a task, and `notedBy`: those that it puts
    on record for it, also where it lays out a first context; `gather` those of many requests;
  * `depth_serve`, `sp_serve`: what a request leaves of a task's entry;
  * `Tracked`: an entry tells the deepest stack pointer that was saved and the last one on record,
    and `Tracked.serve`: every request keeps this;
  * `PendsOther.serve`: the pending task is never the current one;
  * `depth_exact`: so it does in every run.
-/
import Carousel.Proofs.Scheduler.Spawn

namespace Carousel

open Stack

variable {β : Type}

/-! ## One entry -/

namespace Record

variable (r : Record β)

/-- A stack pointer above the stack counts as no depth. -/
theorem toNat_depth : r.depth.toNat = r.top.toNat - r.lowest.toNat := by
  unfold depth
  split_ifs with h
  · exact UInt64.toNat_sub_of_le _ _ h
  · rw [UInt64.le_iff_toNat_le] at h
    have : (0 : UInt64).toNat = 0 := rfl
    omega

theorem toNat_depth_park (sp : Address) :
    (r.park sp tracksDepth).depth.toNat = max r.depth.toNat (r.top.toNat - sp.toNat) := by
  have hlowest : (r.park sp tracksDepth).lowest.toNat = min r.lowest.toNat sp.toNat := by
    simp only [park, tracksDepth, Bool.true_and, decide_eq_true_eq]
    split_ifs with h
    · rw [UInt64.lt_iff_toNat_lt] at h
      omega
    · rw [UInt64.lt_iff_toNat_lt] at h
      omega
  have htop : (r.park sp tracksDepth).top = r.top := rfl
  rw [toNat_depth, toNat_depth, hlowest, htop]
  omega

theorem depth_eq {r r' : Record β} (htop : r.top = r'.top) (hlowest : r.lowest = r'.lowest) :
    r.depth = r'.depth := by
  rw [depth, depth, htop, hlowest]

end Record

/-- How far the deepest of some stack pointers lies below `top`.  Those above `top` do not count. -/
def deepest (top : Address) (sps : List Address) : Nat :=
  (sps.map fun sp => top.toNat - sp.toNat).foldr max 0

theorem deepest_append (top : Address) (sps later : List Address) :
    deepest top (sps ++ later) = max (deepest top sps) (deepest top later) := by
  induction sps with
  | nil => simp [deepest]
  | cons sp sps ih => simpa [deepest, Nat.max_assoc] using congrArg (max _) ih

namespace Scheduler

variable {s : Scheduler β} {r : Request β} {i : TaskId} {saved noted : List Address}

/-! ## What requests put on record -/

/-- The stack pointer that a request saves for task `i`: the trap saves that of the current task. -/
def savedBy (i : TaskId) (s : Scheduler β) : Request β → List Address
  | .commit sp => if s.current = i then [sp] else []
  | _ => []

/-- The stack pointer that a request puts on record for task `i`: it saves one, or it writes a first
    context for the task, which starts with the first word. -/
def notedBy (i : TaskId) (s : Scheduler β) (r : Request β) : List Address :=
  s.savedBy i r ++
    if s.picked r = some i then ((s.writes r).take 1).map Store.address else []

/-- What `f` tells of each request, first to last, as `collect` has it for tasks. -/
def gather {α : Type} (f : Scheduler β → Request β → List α) : Scheduler β → List (Request β) → List α
  | _, [] => []
  | s, r :: rs => f s r ++ gather f (s.serve r) rs

theorem address_stores (id : Nat) (e : EntryPoints) (top : Address) :
    ((Frame.stores id e top).take 1).map Store.address = [Frame.bottom top] := by
  simp [Frame.stores, Frame.words, Store.list]

/-- What is done to a task other than to save its stack pointer leaves its lowest one. -/
theorem lowest_serve (hi : i.val < s.count) (hr : s.savedBy i r = []) :
    ((s.serve r).task i).lowest = (s.task i).lowest := by
  cases r with
  | spawn body argument size name =>
    have ht := (made_serve_spawn hi body argument size name).2
    exact congrArg Record.lowest ht
  | pass trigger =>
    have hcharge : (chargeOne trigger (s.task i)).lowest = (s.task i).lowest := by
      rw [chargeOne_rest]
    rw [serve, task_pass]
    dsimp only
    split_ifs
    · exact hcharge
    · exact hcharge
    · rw [strike_rest]; exact hcharge
    · exact hcharge
  | commit sp =>
    have hne : s.current ≠ i := by
      intro h
      simp [savedBy, h] at hr
    rw [serve, task_commit, if_neg hne]
    dsimp only
    split_ifs <;> rfl
  | sleepCurrent ticks =>
    by_cases h : s.current = i
    · subst h; rw [serve, sleepCurrent, task_update_self]
    · rw [serve, task_sleepCurrent_of_ne (Ne.symm h)]
  | exit id => rw [serve, task_exit]; split_ifs <;> rfl
  | launch =>
    rw [serve, task_launch, task_reclaimAll_rest]
    dsimp only
    split_ifs <;> rfl

/-- A pass puts a stack pointer on record for a task that it picks for the first time. -/
theorem notedBy_pass (s : Scheduler β) (trigger : Trigger) (i : TaskId) :
    s.notedBy i (.pass trigger) =
      if (s.pass trigger).pick = some i ∧ (chargeOne trigger (s.task i)).status = .created then
        [Frame.bottom (s.task i).top]
      else [] := by
  have hpicked : s.picked (.pass trigger) = (s.pass trigger).pick := rfl
  have hwrites : s.writes (.pass trigger) = (s.pass trigger).stores := rfl
  have hsaved : s.savedBy i (.pass trigger) = [] := rfl
  rw [notedBy, hsaved, List.nil_append, hpicked, hwrites, stores_pass_eq]
  by_cases hpick : (s.pass trigger).pick = some i
  · by_cases hnew : (chargeOne trigger (s.task i)).status = .created
    · simp only [hpick, hnew, if_true, and_self, address_stores]
    · simp [hpick, hnew]
  · simp [hpick]

/-- The stack pointer of a task is the one that was last put on record. -/
theorem sp_serve (hi : i.val < s.count) (r : Request β) :
    ((s.serve r).task i).sp = (s.notedBy i r).getLast?.getD (s.task i).sp := by
  cases r with
  | spawn body argument size name =>
    have ht := (made_serve_spawn hi body argument size name).2
    exact congrArg Record.sp ht
  | pass trigger =>
    rw [notedBy_pass]
    split_ifs with hp
    · have htop : (chargeOne trigger (s.task i)).top = (s.task i).top := by rw [chargeOne_rest]
      rw [serve, task_pass, if_pos hp.1, if_pos hp.2, htop]; rfl
    · rw [serve, sp_pass_of hp]; rfl
  | commit sp =>
    by_cases h : s.current = i
    · rw [serve, task_commit, if_pos h]
      dsimp only
      split_ifs <;> simp [notedBy, savedBy, picked, h, Record.park]
    · rw [serve, sp_commit_of_ne (Ne.symm h)]
      simp [notedBy, savedBy, picked, h]
  | sleepCurrent ticks =>
    by_cases h : s.current = i
    · subst h; rw [serve, sleepCurrent, task_update_self]; rfl
    · rw [serve, task_sleepCurrent_of_ne (Ne.symm h)]; rfl
  | exit id => rw [serve, task_exit]; split_ifs <;> rfl
  | launch =>
    have hcurrent : s.launch.2.1.current = s.candidate.getD s.current := by rw [launch_eq]
    rw [serve, task_launch, task_reclaimAll_rest, notedBy, picked, writes, stores_launch,
      address_stores, hcurrent]
    dsimp only
    by_cases h : s.candidate.getD s.current = i
    · rw [h, if_pos rfl, if_pos rfl]; rfl
    · rw [if_neg h, if_neg (by simpa using h)]; rfl

/-- What is saved for a task is all that changes its depth. -/
theorem depth_serve (hi : i.val < s.count) (r : Request β) :
    ((s.serve r).task i).depth.toNat =
      max (s.task i).depth.toNat (deepest (s.task i).top (s.savedBy i r)) := by
  by_cases hr : s.savedBy i r = []
  · have htop := Record.top_eq (Record.stack_eq (origin_serve hi r).2)
    rw [Record.depth_eq htop (lowest_serve hi hr), hr]
    exact (Nat.max_zero _).symm
  · cases r with
    | commit sp =>
      have hcurrent : s.current = i := by
        by_contra hne
        exact hr (if_neg hne)
      have hdepth : ((s.commit sp).2.task i).depth =
          ((s.task i).park sp tracksDepth).depth := by
        rw [task_commit, if_pos hcurrent]
        dsimp only
        split_ifs <;> rfl
      rw [serve, hdepth, Record.toNat_depth_park, savedBy, if_pos hcurrent]
      simp [deepest]
    | spawn | pass | sleepCurrent | exit | launch => exact absurd rfl hr

/-! ## What an entry tells -/

/-- Once task `i` is made its entry tells the deepest of the stack pointers that were saved for it,
    and the last one on record. -/
structure Tracked (i : TaskId) (saved noted : List Address) (s : Scheduler β) : Prop where
  unmade : s.count ≤ i.val → saved = [] ∧ noted = []
  depth : i.val < s.count → (s.task i).depth.toNat = deepest (s.task i).top saved
  sp : i.val < s.count → (s.task i).sp = noted.getLast?.getD (s.task i).top

/-- Nothing is put on record for a task that is not made yet. -/
theorem notedBy_of_unmade {limit : Nat} (hst : s.Stacked limit) (hi : s.count ≤ i.val)
    (r : Request β) : s.savedBy i r = [] ∧ s.notedBy i r = [] := by
  have hsaved : s.savedBy i r = [] := by
    cases r with
    | commit sp => exact if_neg (hst.ne_current hi).symm
    | spawn | pass | sleepCurrent | exit | launch => rfl
  have hpicked : s.picked r ≠ some i := by
    intro hp
    have := hst.made_of_picked hp
    omega
  refine ⟨hsaved, ?_⟩
  rw [notedBy, hsaved, if_neg hpicked]
  rfl

/-- A task that is new has no depth, and starts at the top of its stack. -/
theorem Tracked.fresh (h : i.val < s.count →
    ∃ id body argument top size name, s.task i = .fresh id body argument top size name) :
    s.Tracked i [] [] where
  unmade _ := ⟨rfl, rfl⟩
  depth hi := by
    obtain ⟨_, _, _, _, _, _, ht⟩ := h hi
    rw [ht, Record.toNat_depth]
    exact Nat.sub_self _
  sp hi := by
    obtain ⟨_, _, _, _, _, _, ht⟩ := h hi
    rw [ht]; rfl

theorem Tracked.restart {arena : Arena} {entryPoints : EntryPoints} {idle : β} {idleSize : UInt64}
    {id : TaskId} (hr : (s.restart arena entryPoints idle idleSize).1 = .ok id) (i : TaskId) :
    (s.restart arena entryPoints idle idleSize).2.Tracked i [] [] := by
  obtain ⟨-, region, rest, hcut, he⟩ := restart_eq_ok hr
  have hcount : (s.restart arena entryPoints idle idleSize).2.count = 1 := by rw [he]
  refine .fresh fun hi => ?_
  have hidle : idleTask = i := Fin.ext (Nat.lt_one_iff.1 (hcount ▸ hi)).symm
  rw [task_restart hr hcut, if_pos hidle]
  exact ⟨_, _, _, _, _, _, rfl⟩

/-- **Every request keeps the record.** -/
theorem Tracked.serve {limit : Nat} (h : s.Tracked i saved noted) (hst : s.Stacked limit)
    (r : Request β) :
    (s.serve r).Tracked i (saved ++ s.savedBy i r) (noted ++ s.notedBy i r) := by
  by_cases hi : i.val < s.count
  · obtain ⟨hmade, horigin⟩ := origin_serve hi r
    have htop := Record.top_eq (Record.stack_eq horigin)
    refine ⟨fun hun => absurd hmade (Nat.not_lt.2 hun), fun _ => ?_, fun _ => ?_⟩
    · rw [depth_serve hi, h.depth hi, htop, deepest_append]
    · rw [sp_serve hi, h.sp hi, htop, List.getLast?_append, Option.getD_or]
  · obtain ⟨rfl, rfl⟩ := h.unmade (Nat.not_lt.1 hi)
    obtain ⟨hsaved, hnoted⟩ := notedBy_of_unmade hst (Nat.not_lt.1 hi) r
    rw [hsaved, hnoted]
    exact .fresh fun hmade => ⟨_, task_serve_of_made (Nat.not_lt.1 hi) hmade⟩

theorem Tracked.serveAll {limit : Nat} (h : s.Tracked i saved noted) (hst : s.Stacked limit)
    (rs : List (Request β)) :
    (s.serveAll rs).Tracked i (saved ++ gather (savedBy i) s rs)
      (noted ++ gather (notedBy i) s rs) := by
  induction rs generalizing s saved noted with
  | nil => simpa [gather, Scheduler.serveAll] using h
  | cons r rs ih =>
    rw [serveAll_cons, gather, gather, ← List.append_assoc, ← List.append_assoc]
    exact ih (h.serve hst r) (hst.serve r)

/-! ## Switched in -/

/-- The pending task is not the current one. -/
def PendsOther (s : Scheduler β) : Prop := ∀ p, s.pending = some p → p ≠ s.current

theorem PendsOther.serve (h : s.PendsOther) (r : Request β) : (s.serve r).PendsOther := by
  cases r with
  | spawn =>
    refine serve_spawn_of h fun id made hs p hp => ?_
    obtain ⟨-, -, hcurrent, hpending, -⟩ := spawn_spec hs
    rw [hpending] at hp
    rw [hcurrent]
    exact h p hp
  | pass trigger =>
    intro p hp
    rw [Scheduler.serve, pending_pass, Option.or_eq_some_iff] at hp
    rw [Scheduler.serve, current_pass]
    rcases hp with hp | ⟨-, hp⟩
    · exact (pick_eq_some hp).1
    · exact h p hp
  | commit sp =>
    intro p hp
    rw [Scheduler.serve, commit_rest] at hp
    cases hp
  | sleepCurrent ticks => exact h
  | exit id =>
    rw [Scheduler.serve, exit_rest]
    exact h
  | launch =>
    intro p hp
    rw [Scheduler.serve, launch_eq] at hp
    cases hp

theorem PendsOther.serveAll (h : s.PendsOther) (rs : List (Request β)) : (s.serveAll rs).PendsOther := by
  induction rs generalizing s with
  | nil => exact h
  | cons r rs ih => exact ih (h.serve r)

theorem PendsOther.restart {arena : Arena} {entryPoints : EntryPoints} {idle : β} {idleSize : UInt64}
    {id : TaskId} (hr : (s.restart arena entryPoints idle idleSize).1 = .ok id) :
    (s.restart arena entryPoints idle idleSize).2.PendsOther := by
  obtain ⟨-, region, rest, -, he⟩ := restart_eq_ok hr
  intro p hp
  rw [he] at hp
  cases hp

/-- **A stack pointer on record is the last one, and a depth is the largest.**  In every run, with
    any stack pointers, the depth of a task that was made is that of the deepest stack pointer that
    was saved while it was current, and none when all of them lie above its stack.  It never
    decreases, and only a trap that finds the task current changes it.  The stack pointer on record
    for the task is the last one that was saved for it or that its newest first context starts
    at, whichever came later, and the top of its stack before either; and a trap that makes the
    task current goes on with it. -/
theorem depth_exact {arena : Arena} {entryPoints : EntryPoints} {idle : β} {idleSize : UInt64}
    {id : TaskId} (hr : (s.restart arena entryPoints idle idleSize).1 = .ok id)
    (rs : List (Request β)) (i : TaskId) :
    let first := (s.restart arena entryPoints idle idleSize).2
    let now := first.serveAll rs
    let saved := gather (savedBy i) first rs
    let noted := gather (notedBy i) first rs
    i.val < now.count →
      (now.task i).depth.toNat = deepest (now.task i).top saved ∧
      (∀ r, (now.task i).depth ≤ ((now.serve r).task i).depth) ∧
      (∀ r, (now.current = i → ∀ sp, r ≠ .commit sp) →
        ((now.serve r).task i).depth = (now.task i).depth) ∧
      (now.task i).sp = noted.getLast?.getD (now.task i).top ∧
      (now.pending = some i → i ≠ now.current ∧ ∀ sp, (now.commit sp).2.current = i ∧
        (now.commit sp).1 = noted.getLast?.getD (now.task i).top) := by
  intro first now saved noted hi
  have htracked : now.Tracked i saved noted := by
    simpa using (Tracked.restart hr i).serveAll (.restart le_rfl hr) rs
  have hnext : now.PendsOther := (PendsOther.restart hr).serveAll rs
  have hsp := htracked.sp hi
  refine ⟨htracked.depth hi, ?_, ?_, hsp, ?_⟩
  · intro r
    rw [UInt64.le_iff_toNat_le, depth_serve hi]
    exact Nat.le_max_left _ _
  · intro r hother
    have hsaved : now.savedBy i r = [] := by
      cases r with
      | commit sp => exact if_neg fun hcurrent => hother hcurrent sp rfl
      | spawn | pass | sleepCurrent | exit | launch => rfl
    rw [← UInt64.toNat_inj, depth_serve hi, hsaved]
    exact Nat.max_zero _
  · intro hp
    refine ⟨hnext i hp, fun sp => ?_⟩
    rw [← hsp]
    exact commit_pending hp (hnext i hp) sp

/-- Task 1 is switched out 192 bytes deep, and a second time above its stack. -/
def aboveTop : List (Request Unit) :=
  [.launch, .spawn () 0 256 none, .pass .clock, .commit 0x20003380, .pass .clock,
    .commit 0x20003140, .pass .call, .commit 0x20003370, .pass .clock, .commit 0x20003300,
    .pass .clock]

theorem depth_exact_aboveTop :
    let first := (blank.restart (.spanning 0x20000400 poolSize) .none () idleStackSize).2
    let now := first.serveAll aboveTop
    (now.task 1).depth = 192 ∧ (now.task 1).sp = 0x20003300 ∧
      now.pending = some 1 ∧ (now.commit 0x20003360).1 = 0x20003300 := by
  intro first now
  have hr : (blank.restart (.spanning 0x20000400 poolSize) .none () idleStackSize).1 =
      .ok idleTask := by decide +kernel
  have hp : now.pending = some 1 := by decide +kernel
  obtain ⟨hdepth, -, -, hsp, hin⟩ := depth_exact hr aboveTop 1 (by decide +kernel)
  have hdeepest : deepest (now.task 1).top (gather (savedBy 1) first aboveTop) = 192 := by
    decide +kernel
  have hlast : (gather (notedBy 1) first aboveTop).getLast?.getD (now.task 1).top =
      0x20003300 := by decide +kernel
  refine ⟨UInt64.toNat_inj.1 (hdepth.trans hdeepest), hsp.trans hlast, hp, ?_⟩
  exact ((hin hp).2 _).2.trans hlast

end Scheduler

end Carousel
