/-
  Carousel — the life of a task.

  * `madeBy`, `walked`, `struckBy`, `switchedTo`: the tasks that a request makes, goes past, strikes
    off and gives the processor to, and `collect` those of many requests;
  * `Arrow`: the ways in which a status changes;
  * `Kept`: what holds of the table at any time, and `Kept.serve`: every request keeps it;
  * `arrow_serve`: a request leads along an arrow, or nowhere;
  * `madeBy_eq`, `gone_serveAll`: the tasks that were made and those that are gone;
  * `life_cycle`: the life of all tasks, over whole runs.
-/
import Carousel.Proofs.Scheduler.Handover
import Carousel.Proofs.Scheduler.Isolation
import Mathlib.Data.List.Basic

namespace Carousel

open Stack

variable {β : Type}

namespace Scheduler

/-! ## What a request does -/

/-- The task that a request makes, if any. -/
def madeBy (s : Scheduler β) : Request β → List TaskId
  | .spawn body argument size name =>
    match s.spawn body argument size name with
    | .ok (i, _) => [i]
    | .error _ => []
  | _ => []

/-- The tasks that a request goes past when it looks for one that may run. -/
def walked (s : Scheduler β) : Request β → List TaskId
  | .pass trigger => (s.charge trigger).skipped
  | .launch => s.skipped
  | _ => []

/-- The tasks that a request strikes off. -/
def struckBy (s : Scheduler β) (r : Request β) : List TaskId :=
  (s.walked r).filter fun i => (s.task i).status = .exited

/-- The task that a request gives the processor to. -/
def switchedTo (s : Scheduler β) : Request β → Option TaskId
  | .commit _ => s.pending
  | .launch => some s.launch.2.1.current
  | _ => none

/-- What `f` tells of each request, first to last. -/
def collect (f : Scheduler β → Request β → List TaskId) : Scheduler β → List (Request β) → List TaskId
  | _, [] => []
  | s, r :: rs => f s r ++ (s.serve r).collect f rs

/-- The ways in which request `r`, made of `s`, may change the status of task `i`. -/
inductive Arrow (s : Scheduler β) (r : Request β) (i : TaskId) : Status → Status → Prop
  | make : i ∈ s.madeBy r → Arrow s r i .vacant .created
  | switch : s.switchedTo r = some i → Arrow s r i .created .running
  | sleep {ticks : UInt16} : r = .sleepCurrent ticks → i = s.current → Arrow s r i .running .waiting
  | wake : r = .pass .clock → Arrow s r i .waiting .running
  | exit : r = .exit i → i = s.current → Arrow s r i .running .exited
  | strike : i ∈ s.walked r → Arrow s r i .exited .vacant

variable {s : Scheduler β} {r : Request β} {i : TaskId}

theorem mem_madeBy : i ∈ s.madeBy r ↔
    ∃ body argument size name made, r = .spawn body argument size name ∧
      s.spawn body argument size name = .ok (i, made) := by
  cases r with
  | spawn body argument size name =>
    unfold madeBy
    cases hs : s.spawn body argument size name with
    | error => simp [hs]
    | ok p =>
      obtain ⟨j, made⟩ := p
      simp only [hs, List.mem_singleton]
      constructor
      · rintro rfl
        exact ⟨_, _, _, _, made, rfl, hs⟩
      · rintro ⟨_, _, _, _, made', ⟨⟩, hs'⟩
        rw [hs] at hs'
        exact (Prod.mk.inj (Except.ok.inj hs')).1.symm
  | _ => simp [madeBy]

theorem mem_struckBy : i ∈ s.struckBy r ↔ i ∈ s.walked r ∧ (s.task i).status = .exited := by
  simp [struckBy]

/-- A request makes the next task, or none. -/
theorem madeBy_eq (s : Scheduler β) (r : Request β) :
    (s.madeBy r).map Fin.val = List.range' s.count (s.madeBy r).length ∧
      (s.serve r).count = s.count + (s.madeBy r).length := by
  cases r with
  | spawn body argument size name =>
    unfold madeBy serve
    cases hs : s.spawn body argument size name with
    | error => simp [hs]
    | ok p =>
      obtain ⟨hid, -, region, arena, -, he⟩ := spawn_eq_ok hs
      simp only [hs]
      rw [he]
      simp [hid]
  | pass trigger => exact ⟨rfl, count_pass s trigger⟩
  | commit sp => exact ⟨rfl, by rw [serve, commit_rest]; rfl⟩
  | sleepCurrent ticks => exact ⟨rfl, rfl⟩
  | exit id => exact ⟨rfl, by rw [serve, exit_rest]; rfl⟩
  | launch => exact ⟨rfl, count_launch s⟩

theorem mem_madeBy_iff : i ∈ s.madeBy r ↔ s.count ≤ i.val ∧ i.val < (s.serve r).count := by
  obtain ⟨hmade, hcount⟩ := madeBy_eq s r
  rw [← List.mem_map_of_injective Fin.val_injective, hmade, List.mem_range'_1, hcount]

/-- A task that a request makes is a fresh one. -/
theorem task_serve_of_made (hs : s.count ≤ i.val) (hi : i.val < (s.serve r).count) :
    ∃ body argument top size name,
      (s.serve r).task i = .fresh i body argument top size name := by
  obtain ⟨_, _, _, _, made, rfl, hsp⟩ := mem_madeBy.1 (mem_madeBy_iff.2 ⟨hs, hi⟩)
  rw [serve_spawn hsp]
  exact ⟨_, _, _, _, _, task_spawn_self hsp⟩

/-- **Tasks are numbered in the order in which they are made.** -/
theorem collect_madeBy (s : Scheduler β) (rs : List (Request β)) :
    (s.collect madeBy rs).map Fin.val = List.range' s.count (s.collect madeBy rs).length ∧
      (s.serveAll rs).count = s.count + (s.collect madeBy rs).length := by
  induction rs generalizing s with
  | nil => exact ⟨rfl, rfl⟩
  | cons r rs ih =>
    obtain ⟨hmade, hcount⟩ := madeBy_eq s r
    obtain ⟨hlater, hend⟩ := ih (s.serve r)
    rw [collect, List.map_append, List.length_append, hmade, hlater, hcount, List.range'_append_1]
    refine ⟨rfl, ?_⟩
    rw [serveAll_cons, hend, hcount, Nat.add_assoc]

/-! ## The table at any time -/

/-- Entries without a task are empty, and the others know their own number. -/
structure Kept (s : Scheduler β) : Prop where
  safe : s.Safe
  stacked : ∃ limit, s.Stacked limit
  empty : ∀ i : TaskId, s.count ≤ i.val → s.task i = .vacant
  numbered : ∀ i : TaskId, i.val < s.count → (s.task i).id = i

theorem task_serve_spawn {body : β} {argument size : UInt64} {name : Option String}
    (hi : i ∉ s.madeBy (.spawn body argument size name)) :
    (s.serve (.spawn body argument size name)).task i = s.task i := by
  cases hs : s.spawn body argument size name with
  | error => rw [serve, hs]
  | ok p =>
    have hne : i ≠ p.1 := by
      rintro rfl
      exact hi (mem_madeBy.2 ⟨_, _, _, _, _, rfl, hs⟩)
    rw [serve_spawn hs, task_spawn_of_ne hs hne]

theorem chargeOne_vacant (trigger : Trigger) :
    chargeOne trigger (.vacant : Record β) = .vacant := by
  cases trigger <;> rfl

theorem strike_vacant : strike (.vacant : Record β) = .vacant := rfl

/-- What stands where no task was made is left alone. -/
theorem task_serve_of_unmade (h : s.Kept) (hi : (s.serve r).count ≤ i.val) :
    (s.serve r).task i = .vacant := by
  obtain ⟨limit, hst⟩ := h.stacked
  have hcount : s.count ≤ i.val := by
    have := (madeBy_eq s r).2
    omega
  have hv := h.empty i hcount
  have hcur := hst.ne_current hcount
  cases r with
  | spawn body argument size name =>
    have hnot : i ∉ s.madeBy (.spawn body argument size name) := fun hm =>
      absurd (mem_madeBy_iff.1 hm).2 (Nat.not_lt.2 hi)
    rw [task_serve_spawn hnot, hv]
  | pass trigger =>
    have hpick : (s.pass trigger).pick ≠ some i := by
      intro hp
      have hr := (pick_eq_some hp).2
      rw [vacant_pass s trigger (by rw [hv]; rfl)] at hr
      cases hr
    rw [serve, task_pass, if_neg hpick, hv, chargeOne_vacant, strike_vacant, ite_self]
  | commit sp =>
    have hp : s.pending ≠ some i := fun hp => by
      have := hst.pending i hp
      omega
    rw [serve, task_commit, if_neg hcur.symm, if_neg hp, hv]
  | sleepCurrent ticks => rw [serve, task_sleepCurrent_of_ne hcur, hv]
  | exit id => rw [serve, task_exit, hv, if_neg fun hx => hx.2 rfl]
  | launch =>
    have hne : s.candidate.getD s.current ≠ i := by
      rintro rfl
      have hmade := hst.launch.1.current
      rw [launch_eq] at hmade
      exact absurd hcount (Nat.not_le.2 hmade)
    rw [serve, task_launch, if_neg hne, task_reclaimAll, hv, strike_vacant, ite_self]

theorem Kept.serve (h : s.Kept) (ha : s.permits r) : (s.serve r).Kept where
  safe := h.safe.serve ha
  stacked := h.stacked.imp fun _ hst => hst.serve r
  empty _ hi := task_serve_of_unmade h hi
  numbered i hi := by
    by_cases hs : i.val < s.count
    · rw [Record.id_eq (origin_serve hs r).2, h.numbered i hs]
    · obtain ⟨_, _, _, _, _, ht⟩ := task_serve_of_made (Nat.not_lt.1 hs) hi
      rw [ht]; rfl

theorem Kept.restart {arena : Arena} {entryPoints : EntryPoints} {idle : β} {idleSize : UInt64}
    {id : TaskId} (h : (s.restart arena entryPoints idle idleSize).1 = .ok id) :
    (s.restart arena entryPoints idle idleSize).2.Kept := by
  obtain ⟨-, region, rest, hcut, he⟩ := restart_eq_ok h
  have hcount : (s.restart arena entryPoints idle idleSize).2.count = 1 := by rw [he]
  refine ⟨safe_of_underway (.restart h), ⟨_, Stacked.restart le_rfl h⟩, fun i hi => ?_, fun i hi => ?_⟩
  · have hne : idleTask ≠ i := by
      rintro rfl
      rw [hcount] at hi; cases hi
    rw [task_restart h hcut, if_neg hne]
  · have hi0 : idleTask = i := Fin.ext (Nat.lt_one_iff.1 (hcount ▸ hi)).symm
    rw [task_restart h hcut, if_pos hi0, ← hi0]; rfl

theorem Kept.serveAll (h : s.Kept) {rs : List (Request β)} (ha : s.permitsAll rs) :
    (s.serveAll rs).Kept := by
  induction rs generalizing s with
  | nil => exact h
  | cons r rs ih => exact ih (h.serve ha.1) ha.2

theorem Kept.made (h : s.Kept) (hv : (s.task i).status ≠ .vacant) : i.val < s.count := by
  by_contra hi
  rw [h.empty i (Nat.not_lt.1 hi)] at hv
  exact hv rfl

/-! ## Along the arrows -/

theorem switch_of_runnable (hs : s.switchedTo r = some i) (hr : (s.task i).status.runnable) :
    .running = (s.task i).status ∨ Arrow s r i (s.task i).status .running := by
  rcases runnable_iff.1 hr with e | e
  · rw [e]; exact Or.inr (.switch hs)
  · exact Or.inl e.symm

theorem strike_of_mem (hw : i ∈ s.walked r) :
    (if (s.task i).status = .exited then .vacant else (s.task i).status) = (s.task i).status ∨
      Arrow s r i (s.task i).status
        (if (s.task i).status = .exited then .vacant else (s.task i).status) := by
  split_ifs with he
  · rw [he]; exact Or.inr (.strike hw)
  · exact Or.inl rfl

/-- **A request leaves the status of a task, or leads it along an arrow.** -/
theorem arrow_serve (h : s.Kept) (ha : s.permits r) (i : TaskId) :
    ((s.serve r).task i).status = (s.task i).status ∨
      Arrow s r i (s.task i).status ((s.serve r).task i).status := by
  cases r with
  | spawn body argument size name =>
    by_cases hi : i ∈ s.madeBy (.spawn body argument size name)
    · obtain ⟨_, _, _, _, made, ⟨⟩, hs⟩ := mem_madeBy.1 hi
      have hempty := h.empty i (spawn_eq_ok hs).1.ge
      rw [serve_spawn hs, hempty, task_spawn_self hs]
      exact Or.inr (.make hi)
    · rw [task_serve_spawn hi]; exact Or.inl rfl
  | pass trigger =>
    rw [serve, status_pass]
    cases trigger with
    | call =>
      by_cases hw : i ∈ (s.charge .call).skipped
      · simp only [hw, true_and]
        exact strike_of_mem (r := .pass .call) hw
      · simp only [hw, false_and, if_false]; exact Or.inl rfl
    | clock =>
      rcases status_chargeOne .clock (s.task i) with e | ⟨hw, e⟩
      · rw [e]
        by_cases hw : i ∈ (s.charge .clock).skipped
        · simp only [hw, true_and]
          exact strike_of_mem (r := .pass .clock) hw
        · simp only [hw, false_and, if_false]; exact Or.inl trivial
      · rw [e, hw, if_neg (by rintro ⟨-, ⟨⟩⟩)]
        exact Or.inr (.wake rfl)
  | commit sp =>
    rw [serve, status_commit]
    split_ifs with hp
    · exact switch_of_runnable (r := .commit sp) hp (h.safe.pending i hp).2
    · exact Or.inl rfl
  | sleepCurrent ticks =>
    by_cases hi : i = s.current
    · subst hi
      have hrun : (s.task s.current).status = .running := ha.2
      rw [serve, Scheduler.sleepCurrent, task_update_self, hrun]
      exact Or.inr (.sleep rfl rfl)
    · rw [serve, task_sleepCurrent_of_ne hi]; exact Or.inl rfl
  | exit id =>
    obtain ⟨rfl, -, hrun⟩ := ha
    by_cases hi : i = s.current
    · subst hi
      have hrun : (s.task s.current).status = .running := hrun
      rw [serve, task_exit, hrun, if_pos ⟨rfl, by decide⟩]
      exact Or.inr (.exit rfl rfl)
    · rw [serve, task_exit_of_ne hi]; exact Or.inl rfl
  | launch =>
    rw [serve, status_launch]
    split_ifs with hf hx
    · refine switch_of_runnable (r := .launch) ?_ (hf ▸ h.safe.first)
      rw [switchedTo, launch_eq]; exact congrArg some hf
    · rw [hx.2]; exact Or.inr (.strike hx.1)
    · exact Or.inl rfl

/-! ## Tasks that are gone -/

/-- The task was made, and its entry is vacant again. -/
def Gone (s : Scheduler β) (i : TaskId) : Prop := i.val < s.count ∧ (s.task i).status = .vacant

theorem gone_of_struck (h : s.Kept) (hs : i ∈ s.struckBy r) : (s.serve r).Gone i := by
  obtain ⟨hw, he⟩ := mem_struckBy.1 hs
  have hmade := h.made (i := i) (by rw [he]; nofun)
  refine ⟨(origin_serve hmade r).1, ?_⟩
  cases r with
  | pass trigger =>
    have hc : (chargeOne trigger (s.task i)).status = .exited := by
      rcases status_chargeOne trigger (s.task i) with e | ⟨e, -⟩
      · rw [e, he]
      · rw [he] at e; cases e
    rw [serve, status_pass, if_pos ⟨hw, hc⟩]
  | launch =>
    have hne : s.candidate.getD s.current ≠ i := by
      rintro rfl
      have := h.safe.first
      rw [he] at this; cases this
    rw [serve, status_launch, if_neg hne, if_pos ⟨hw, he⟩]
  | spawn | commit | sleepCurrent | exit => cases hw

/-- A task that is gone does not come back, and no other one goes but those that are struck off. -/
theorem gone_serve (h : s.Kept) (ha : s.permits r) (i : TaskId) :
    (s.serve r).Gone i ↔ s.Gone i ∨ i ∈ s.struckBy r := by
  have harrow := arrow_serve h ha i
  constructor
  · rintro ⟨hi, hv⟩
    rw [hv] at harrow
    rcases harrow with e | e
    · by_cases hs : i.val < s.count
      · exact Or.inl ⟨hs, e.symm⟩
      · -- a task that is made is not vacant
        obtain ⟨_, _, _, _, _, ht⟩ := task_serve_of_made (Nat.not_lt.1 hs) hi
        rw [ht] at hv; cases hv
    · generalize hst : (s.task i).status = st at e
      cases e with
      | strike hw => exact Or.inr (mem_struckBy.2 ⟨hw, hst⟩)
  · rintro (⟨hi, hv⟩ | hs)
    · refine ⟨(origin_serve hi r).1, ?_⟩
      rw [hv] at harrow
      rcases harrow with e | e
      · exact e
      · generalize ((s.serve r).task i).status = st at e
        cases e with
        | make hm => exact absurd hi (Nat.not_lt.2 (mem_madeBy_iff.1 hm).1)
    · exact gone_of_struck h hs

theorem gone_serveAll (h : s.Kept) {rs : List (Request β)} (ha : s.permitsAll rs) (i : TaskId) :
    (s.serveAll rs).Gone i ↔ s.Gone i ∨ i ∈ s.collect struckBy rs := by
  induction rs generalizing s with
  | nil => simp [collect, serveAll]
  | cons r rs ih =>
    rw [serveAll_cons, ih (h.serve ha.1) ha.2, gone_serve h ha.1, collect, List.mem_append, or_assoc]

/-! ## What others see -/

theorem info_eq_ok {id : Nat} {f : Info} :
    s.info id = .ok f ↔ ∃ i : TaskId, i.val = id ∧ (s.task i).status ≠ .vacant ∧ f = (s.task i).info := by
  unfold info
  dsimp only
  split_ifs with hid hv
  · constructor
    · rintro ⟨⟩
    · rintro ⟨i, rfl, hne, -⟩
      exact absurd hv hne
  · constructor
    · rintro ⟨⟩
      exact ⟨⟨id, hid⟩, rfl, hv, rfl⟩
    · rintro ⟨i, rfl, -, rfl⟩
      rfl
  · constructor
    · rintro ⟨⟩
    · rintro ⟨i, rfl, -⟩
      exact absurd i.isLt hid

/-- What others see of a task is what it was made with. -/
theorem info_made (h : s.Kept) (hi : i.val < s.count) {rs : List (Request β)}
    (ha : s.permitsAll rs) {f : Info} (hf : (s.serveAll rs).info i = .ok f) :
    f.id = i ∧ f.name = (s.task i).name ∧ f.size = (s.task i).size := by
  obtain ⟨j, hj, -, rfl⟩ := info_eq_ok.1 hf
  obtain rfl := Fin.ext hj
  obtain ⟨hmade, horigin⟩ := origin_serveAll hi rs
  exact ⟨(h.serveAll ha).numbered j hmade, Record.name_eq horigin,
    Record.size_eq (Record.stack_eq horigin)⟩

/-- Others see the tasks that were made, unless they were struck off. -/
theorem info_iff (h : s.Kept) (hone : s.count = 1) (hidle : ¬ s.Gone idleTask)
    {rs : List (Request β)} (ha : s.permitsAll rs) (n : Nat) :
    (∃ f, (s.serveAll rs).info n = .ok f) ↔
      (n = idleTask ∨ n ∈ (s.collect madeBy rs).map Fin.val) ∧
        n ∉ (s.collect struckBy rs).map Fin.val := by
  obtain ⟨hmap, hcount⟩ := collect_madeBy s rs
  rw [hone] at hmap hcount
  constructor
  · rintro ⟨f, hf⟩
    obtain ⟨i, rfl, hv, -⟩ := info_eq_ok.1 hf
    have hmade := (h.serveAll ha).made hv
    refine ⟨?_, fun hm => ?_⟩
    · by_cases hi : i.val = idleTask
      · exact Or.inl hi
      · rw [hmap, List.mem_range'_1, ← hcount]
        exact Or.inr ⟨Nat.pos_of_ne_zero hi, hmade⟩
    · rw [List.mem_map_of_injective Fin.val_injective] at hm
      exact hv ((gone_serveAll h ha i).2 (Or.inr hm)).2
  · rintro ⟨hn, hs⟩
    obtain ⟨i, rfl, hi⟩ : ∃ i : TaskId, i.val = n ∧ i.val < (s.serveAll rs).count := by
      rw [hcount]
      rcases hn with rfl | hn
      · exact ⟨idleTask, rfl, Nat.lt_add_right _ Nat.one_pos⟩
      · obtain ⟨i, -, hi⟩ := List.mem_map.1 hn
        rw [hmap, List.mem_range'_1] at hn
        exact ⟨i, hi, hi ▸ hn.2⟩
    refine ⟨_, info_eq_ok.2 ⟨i, rfl, fun hv => ?_, rfl⟩⟩
    rcases (gone_serveAll h ha i).1 ⟨hi, hv⟩ with hg | hm
    · obtain rfl : idleTask = i := Fin.ext (Nat.lt_one_iff.1 (hone ▸ hg.1)).symm
      exact hidle hg
    · exact hs ((List.mem_map_of_injective Fin.val_injective).2 hm)

/-- **The life of a task.**  The scheduler is set up, and then gets any requests that the current
    task may make, in any order.  The tasks that are made get the numbers 1, 2, 3 and so on.  Every
    entry is vacant at first, but for that of the idle task, and changes its status along the arrows
    only: it is made once, switched in, sent to sleep by itself and woken by the hardware tick, done
    by its own call, and struck off by a pass that goes past it.  A task that is gone stays gone.
    Entries beyond those of the tasks that were made are empty.  Others see exactly the tasks that
    were made and not struck off, with their own number, and with the name and the rounded size that
    they were made with. -/
theorem life_cycle {arena : Arena} {entryPoints : EntryPoints} {idle : β} {idleSize : UInt64}
    {id : TaskId} (hr : (s.restart arena entryPoints idle idleSize).1 = .ok id)
    (rs : List (Request β))
    (hrs : (s.restart arena entryPoints idle idleSize).2.permitsAll rs) :
    let first := (s.restart arena entryPoints idle idleSize).2
    let now := first.serveAll rs
    let numbers := (first.collect madeBy rs).map Fin.val
    numbers = List.range' 1 numbers.length ∧
    (∀ i, (first.task i).status = if i = idleTask then .created else .vacant) ∧
    (∀ before r later, rs = before ++ r :: later → ∀ i,
      ((first.serveAll (before ++ [r])).task i).status = ((first.serveAll before).task i).status ∨
        Arrow (first.serveAll before) r i ((first.serveAll before).task i).status
          ((first.serveAll (before ++ [r])).task i).status) ∧
    (∀ before later, rs = before ++ later → ∀ i, (first.serveAll before).Gone i → now.Gone i) ∧
    (∀ i : TaskId, now.count ≤ i.val → now.task i = .vacant) ∧
    (∀ n, (∃ f, now.info n = .ok f) ↔
      (n = idleTask ∨ n ∈ numbers) ∧ n ∉ (first.collect struckBy rs).map Fin.val) ∧
    (∀ n f, now.info n = .ok f → f.id = n) ∧
    (∀ f, now.info idleTask = .ok f →
      f.name = .ofString "idle" ∧ f.size.toNat = (idleSize.toNat + 7) / 8 * 8) ∧
    ∀ before later body argument size name i made f,
      rs = before ++ .spawn body argument size name :: later →
      (first.serveAll before).spawn body argument size name = .ok (i, made) →
      now.info i = .ok f →
      f.name = (name.map Name.ofString).getD (Name.numbered i) ∧
        f.size.toNat = (size.toNat + 7) / 8 * 8 := by
  intro first now numbers
  have hfirst : first.Kept := .restart hr
  have hnow : now.Kept := hfirst.serveAll hrs
  obtain ⟨-, region, rest, hcut, he⟩ := restart_eq_ok hr
  have hcount : first.count = 1 := by
    show Scheduler.count (Prod.snd _) = 1
    rw [he]
  have htask := task_restart hr hcut
  have hstatus : ∀ i, (first.task i).status = if i = idleTask then .created else .vacant := by
    intro i
    rw [htask]
    by_cases hi : i = idleTask
    · rw [if_pos hi.symm, if_pos hi]; rfl
    · rw [if_neg (Ne.symm hi), if_neg hi]; rfl
  have hfresh : ¬ first.Gone idleTask := by
    rintro ⟨-, hv⟩
    rw [hstatus, if_pos rfl] at hv; cases hv
  refine ⟨?_, hstatus, ?_, ?_, hnow.empty, fun n => ?_, ?_, fun f hf => ?_, ?_⟩
  · have hnumbers := (collect_madeBy first rs).1
    rw [hcount] at hnumbers
    rw [List.length_map]; exact hnumbers
  · rintro before r later rfl i
    obtain ⟨hbefore, ha, -⟩ := permitsAll_append.1 hrs
    rw [serveAll_append]
    exact arrow_serve (hfirst.serveAll hbefore) ha i
  · rintro before later rfl i hg
    obtain ⟨hbefore, hlater⟩ := permitsAll_append.1 hrs
    have := (gone_serveAll (hfirst.serveAll hbefore) hlater i).2 (Or.inl hg)
    rwa [← serveAll_append] at this
  · exact info_iff hfirst hcount hfresh hrs n
  · rintro n f hf
    obtain ⟨i, rfl, hv, rfl⟩ := info_eq_ok.1 hf
    exact hnow.numbered i (hnow.made hv)
  · obtain ⟨-, hname, hsize⟩ := info_made hfirst (hcount ▸ Nat.one_pos) hrs hf
    rw [htask, if_pos rfl] at hname hsize
    exact ⟨hname, by rw [hsize]; exact Arena.size_cut_eq hcut⟩
  · rintro before later body argument size name i made f rfl hs hf
    obtain ⟨hbefore, -, hlater⟩ := permitsAll_append.1 hrs
    have hmade := (hfirst.serveAll hbefore).serve (r := .spawn body argument size name) trivial
    have hafter : now = made.serveAll later := by
      show first.serveAll _ = _
      rw [serveAll_append, serveAll_cons, serve_spawn hs]
    rw [serve_spawn hs] at hmade hlater
    rw [hafter] at hf
    have hi : i.val < made.count := by
      have := (mem_madeBy_iff.1 (mem_madeBy.2 ⟨_, _, _, _, _, rfl, hs⟩)).2
      rwa [serve_spawn hs] at this
    obtain ⟨-, hname, hsize⟩ := info_made hmade hi hlater hf
    have hcut := cut_spawn hs
    rw [task_spawn_self hs] at hname
    exact ⟨hname, by rw [hsize]; exact Arena.size_cut_eq hcut⟩

/-- Task 1 is done, and the next pass goes past it to task 2. -/
theorem life_cycle_twoMade :
    let first := (blank.restart (.spanning 0x20000400 poolSize) .none () idleStackSize).2
    let rs := [.launch, .spawn () 0 100 none, .spawn () 0 129 none, .pass .clock,
      .commit 0x20003180, .exit 1, .pass .call, .commit 0x20003300, .spawn () 0 129 (some "next"),
      .pass .call]
    let now := first.serveAll rs
    first.permitsAll rs ∧ (¬ ∃ f, now.info 1 = .ok f) ∧
      ∃ f, now.info 2 = .ok f ∧ f.id = 2 ∧ f.name = .ofString "next" ∧ f.size.toNat = 136 := by
  intro first rs now
  have hr : (blank.restart (.spanning 0x20000400 poolSize) .none () idleStackSize).1 =
      .ok idleTask := by decide +kernel
  have hrs : first.permitsAll rs := by decide +kernel
  obtain ⟨-, -, -, -, -, hinfo, hid, -, hmade⟩ := life_cycle hr rs hrs
  refine ⟨hrs, fun h => ?_, ?_⟩
  · exact absurd ((hinfo 1).1 h).2 (by decide +kernel)
  · obtain ⟨f, hf⟩ := (hinfo 2).2 (by decide +kernel)
    have hspawn : ((first.serveAll (rs.take 8)).spawn () 0 129 (some "next")).map Prod.fst =
        .ok 2 := by decide +kernel
    cases hs : (first.serveAll (rs.take 8)).spawn () 0 129 (some "next") with
    | error e => rw [hs] at hspawn; cases hspawn
    | ok made =>
      obtain ⟨i, made⟩ := made
      rw [hs] at hspawn
      obtain rfl : i = 2 := Except.ok.inj hspawn
      exact ⟨f, hf, hid 2 f hf, hmade (rs.take 8) [.pass .call] () 0 129 (some "next") 2 made f rfl hs hf⟩

end Scheduler

end Carousel
