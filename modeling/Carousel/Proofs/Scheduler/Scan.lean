/-
  Carousel — what going round the table finds, and what it strikes off.

  * `walkOn`: one turn of the walk, and `scan_eq_walkOn`: the walk ends after fewer turns than the
    table has entries;
  * `Between`: the positions that lie between two others, going round;
  * `mem_skipped_iff` and `mem_walked_iff`: so a walk goes past those between the current task and
    the one that it finds;
  * `PastBy`: a task was gone past, and `exited_serveAll`: until then one that is done stays on the
    books;
  * `scan_exact`: all of this.
-/
import Carousel.Proofs.Scheduler.LifeCycle
import Carousel.Proofs.Scheduler.Turn

namespace Carousel

open Stack

variable {β : Type}

namespace Scheduler

variable {s : Scheduler β} {r : Request β} {c p i j : TaskId}

/-! ## Turn by turn -/

/-- One turn of a walk that has come to a position.  It stays at the current task and at one that
    may run, and otherwise strikes off a task that is done and goes on. -/
def walkOn (x : TaskId × Scheduler β) : TaskId × Scheduler β :=
  if x.1 = x.2.current ∨ (x.2.task x.1).status.runnable then x else (x.1 + 1, x.2.reclaim x.1)

/-- The positions that `n` turns come to, the first one among them. -/
def visited (n : Nat) (x : TaskId × Scheduler β) : List TaskId :=
  (List.range (n + 1)).map fun k => (walkOn^[k] x).1

/-- The positions from `i` on, one after another, up to but not including `c`. -/
def Leads (i : TaskId) : List TaskId → TaskId → Prop
  | [], c => i = c
  | j :: ids, c => j = i ∧ i ≠ c ∧ Leads (i + 1) ids c

instance decidableLeads : (i : TaskId) → (ids : List TaskId) → (c : TaskId) →
    Decidable (Leads i ids c)
  | i, [], c => inferInstanceAs (Decidable (i = c))
  | i, _ :: ids, c =>
    have := decidableLeads (i + 1) ids c
    inferInstanceAs (Decidable (_ ∧ _ ∧ _))

theorem leads_others (c : TaskId) : Leads (c + 1) (others c) c := by
  revert c; decide

theorem visited_zero (x : TaskId × Scheduler β) : visited 0 x = [x.1] := rfl

theorem visited_succ (n : Nat) (x : TaskId × Scheduler β) :
    visited (n + 1) x = x.1 :: visited n (walkOn x) := by
  simp [visited, List.range_succ_eq_map, Function.comp_def]

/-- A walk along positions one after another is made turn by turn. -/
theorem walk_eq_walkOn {ids : List TaskId} (h : Leads i ids s.current) :
    ∃ n ≤ ids.length, walkOn^[n] (i, s) = s.walk ids ∧ walkOn (s.walk ids) = s.walk ids ∧
      visited n (i, s) <+: ids ++ [s.current] := by
  induction ids generalizing i s with
  | nil =>
    obtain rfl : i = s.current := h
    refine ⟨0, le_rfl, rfl, ?_, ?_⟩
    · simp [walk, walkOn]
    · simp [visited_zero]
  | cons j ids ih =>
    obtain ⟨rfl, hne, hids⟩ := h
    by_cases hr : (s.task j).status.runnable
    · refine ⟨0, Nat.zero_le _, ?_, ?_, ?_⟩
      · simp [walk, hr]
      · simp [walk, walkOn, hr]
      · simp [visited_zero]
    · have hcurrent : (s.reclaim j).current = s.current := by rw [reclaim_rest]
      have hturn : walkOn (j, s) = (j + 1, s.reclaim j) := by simp [walkOn, hne, hr]
      have hwalk : s.walk (j :: ids) = (s.reclaim j).walk ids := by simp [walk, hr]
      obtain ⟨n, hn, heq, hend, hvisited⟩ := ih (s := s.reclaim j) (by rw [hcurrent]; exact hids)
      rw [hwalk]
      refine ⟨n + 1, Nat.succ_le_succ hn, ?_, hend, ?_⟩
      · rw [Function.iterate_succ_apply, hturn, heq]
      · rw [visited_succ, hturn, List.cons_append, List.cons_prefix_cons, ← hcurrent]
        exact ⟨rfl, hvisited⟩

theorem ring_nodup (c : TaskId) : (ring c).Nodup :=
  (ring_perm c).nodup_iff.2 (List.nodup_finRange _)

/-- **The walk round the table ends.**  It takes fewer turns than the table has entries, and comes
    to no position twice. -/
theorem scan_eq_walkOn (s : Scheduler β) :
    ∃ n < maxTasks, walkOn^[n] (s.current + 1, s) = s.scan ∧ walkOn s.scan = s.scan ∧
      visited n (s.current + 1, s) <+: ring s.current ∧
      (visited n (s.current + 1, s)).Nodup := by
  obtain ⟨n, hn, heq, hend, hvisited⟩ := walk_eq_walkOn (leads_others s.current)
  have hlength : (others s.current).length < maxTasks := by simp [others]
  exact ⟨n, hn.trans_lt hlength, heq, hend, hvisited,
    (ring_nodup s.current).sublist hvisited.sublist⟩

/-! ## Between two positions -/

/-- Position `j` comes after `c` and before `p`, going round.  When `p` is `c` itself, all others
    do. -/
def Between (c p j : TaskId) : Prop := j ≠ c ∧ (p = c ∨ ahead c j < ahead c p)

instance decidableBetween (c p j : TaskId) : Decidable (Between c p j) :=
  inferInstanceAs (Decidable (_ ∧ _))

theorem others_sorted (c : TaskId) : (others c).Pairwise fun i j => ahead c i < ahead c j := by
  revert c; decide

/-- **A walk goes past the positions between the current task and the one that it finds.** -/
theorem mem_skipped_iff : j ∈ s.skipped ↔ Between s.current (s.candidate.getD s.current) j := by
  unfold skipped Between
  cases hp : s.candidate with
  | none =>
    have hall : ∀ i ∈ others s.current, !(s.task i).status.runnable := by
      intro i hi
      simpa using List.find?_eq_none.1 hp i hi
    rw [List.takeWhile_eq_self_iff.2 hall, mem_others]
    simp
  | some p =>
    obtain ⟨hr, before, later, heq, hbefore⟩ := List.find?_eq_some_iff_append.1 hp
    have hsorted := others_sorted s.current
    have hmem := mem_others s.current j
    have hp := (mem_others s.current p).1 (by rw [heq]; simp)
    rw [heq, List.pairwise_append, List.pairwise_cons] at hsorted
    rw [heq, List.mem_append, List.mem_cons] at hmem
    rw [heq, List.takeWhile_append_of_pos hbefore, List.takeWhile_cons_of_neg (by simp [hr]),
      List.append_nil, Option.getD_some, ← hmem]
    obtain ⟨-, ⟨hlater, -⟩, hapart⟩ := hsorted
    constructor
    · intro hj
      exact ⟨Or.inl hj, Or.inr (hapart j hj p List.mem_cons_self)⟩
    · rintro ⟨hj | rfl | hj, hc | hlt⟩
      · exact hj
      · exact hj
      · exact absurd hc hp
      · exact absurd hlt (lt_irrefl _)
      · exact absurd hc hp
      · exact absurd hlt (hlater j hj).asymm

/-- Request `r` goes past position `j` on its way to a task that may run. -/
def GoesPast (s : Scheduler β) (j : TaskId) : Request β → Prop
  | .pass trigger => Between s.current ((s.pass trigger).pick.getD s.current) j
  | .launch => Between s.current s.launch.2.1.current j
  | _ => False

instance decidableGoesPast (s : Scheduler β) (j : TaskId) : (r : Request β) →
    Decidable (s.GoesPast j r)
  | .pass _ | .launch => inferInstanceAs (Decidable (Between _ _ _))
  | .spawn .. | .commit _ | .sleepCurrent _ | .exit _ => inferInstanceAs (Decidable False)

theorem mem_walked_iff : j ∈ s.walked r ↔ s.GoesPast j r := by
  cases r with
  | pass trigger =>
    rw [walked, mem_skipped_iff, GoesPast, pick_pass]
    rfl
  | launch =>
    have hcurrent : s.launch.2.1.current = s.candidate.getD s.current := by rw [launch_eq]
    rw [walked, mem_skipped_iff, GoesPast, hcurrent]
  | spawn | commit | sleepCurrent | exit => simp [walked, GoesPast]

/-! ## Tasks that are done -/

/-- One of the requests goes past position `j`. -/
def PastBy (j : TaskId) : Scheduler β → List (Request β) → Prop
  | _, [] => False
  | s, r :: rs => s.GoesPast j r ∨ PastBy j (s.serve r) rs

instance decidablePastBy (j : TaskId) : (s : Scheduler β) → (rs : List (Request β)) →
    Decidable (PastBy j s rs)
  | _, [] => inferInstanceAs (Decidable False)
  | s, r :: rs =>
    have := decidablePastBy j (s.serve r) rs
    inferInstanceAs (Decidable (_ ∨ _))

/-- A task that is done stays done until it is gone past, and then it is gone. -/
theorem exited_serve (h : s.Kept) (ha : s.permits r) (he : (s.task i).status = .exited) :
    ((s.serve r).task i).status = if s.GoesPast i r then .vacant else .exited := by
  split_ifs with hpast
  · exact (gone_of_struck h (mem_struckBy.2 ⟨mem_walked_iff.2 hpast, he⟩)).2
  · rcases arrow_serve h ha i with e | e
    · rw [e, he]
    · rw [he] at e
      generalize ((s.serve r).task i).status = status at e ⊢
      cases e with
      | strike hw => exact absurd (mem_walked_iff.1 hw) hpast

theorem exited_serveAll (h : s.Kept) {rs : List (Request β)} (ha : s.permitsAll rs)
    (he : (s.task i).status = .exited) :
    ((s.serveAll rs).task i).status = if PastBy i s rs then .vacant else .exited := by
  induction rs generalizing s with
  | nil => simpa [PastBy, serveAll] using he
  | cons r rs ih =>
    have hstep := exited_serve h ha.1 he
    have hnext := h.serve ha.1
    rw [serveAll_cons]
    by_cases hpast : s.GoesPast i r
    · rw [if_pos hpast] at hstep
      have hmade : i.val < s.count := h.made (by simp [he])
      have hgone : (s.serve r).Gone i := ⟨(origin_serve hmade r).1, hstep⟩
      rw [((gone_serveAll hnext ha.2 i).2 (Or.inl hgone)).2]
      simp [PastBy, hpast]
    · rw [if_neg hpast] at hstep
      rw [ih hnext ha.2 hstep]
      simp [PastBy, hpast]

/-- **What going round the table finds, and what it strikes off.**  In any state the walk ends after
    fewer turns than the table has entries, and comes to no position twice.  It finds the first
    task after the current one that may run, or the current one when no other may.  Exactly the
    tasks that are done and stand between the two are struck off, and nothing else is changed.  So
    in any run a task that is done stays so, and others see it, until a request goes past it; from
    that request on it is gone, and nobody sees it. -/
theorem scan_exact (s : Scheduler β) :
    let found := s.scan.1
    (∃ n < maxTasks, walkOn^[n] (s.current + 1, s) = s.scan ∧ walkOn s.scan = s.scan ∧
      visited n (s.current + 1, s) <+: ring s.current ∧
      (visited n (s.current + 1, s)).Nodup) ∧
    (found ≠ s.current → (s.task found).status.runnable) ∧
    (∀ j, Between s.current found j → ¬ (s.task j).status.runnable) ∧
    s.scan.2 = { s with tasks := s.scan.2.tasks } ∧
    (∀ j, s.scan.2.task j =
      if Between s.current found j ∧ (s.task j).status = .exited then
        { s.task j with status := .vacant }
      else s.task j) ∧
    ∀ (arena : Arena) (entryPoints : EntryPoints) (idle : β) (idleSize : UInt64) (id : TaskId),
      (s.restart arena entryPoints idle idleSize).1 = .ok id →
      ∀ past rs : List (Request β),
      (s.restart arena entryPoints idle idleSize).2.permitsAll (past ++ rs) →
      let before := (s.restart arena entryPoints idle idleSize).2.serveAll past
      let now := before.serveAll rs
      ∀ i, (before.task i).status = .exited →
        (¬ PastBy i before rs → (now.task i).status = .exited ∧
          ∃ f, now.info i = .ok f ∧ f.status = .exited) ∧
        (PastBy i before rs → (now.task i).status = .vacant ∧
          now.info i = .error .parameter) := by
  intro found
  have hfound : found = s.candidate.getD s.current := by
    show s.scan.1 = _
    rw [scan_eq]
  have hleft : s.scan.2 = s.reclaimAll s.skipped := by rw [scan_eq]
  refine ⟨scan_eq_walkOn s, ?_, ?_, ?_, ?_, ?_⟩
  · rw [hfound]
    intro hne
    cases hp : s.candidate with
    | none => simp [hp] at hne
    | some p => exact (candidate_eq_some hp).2
  · intro j hj
    rw [hfound, ← mem_skipped_iff] at hj
    exact not_runnable_of_mem_skipped hj
  · rw [hleft]; rfl
  · intro j
    have hbetween := mem_skipped_iff (s := s) (j := j)
    rw [← hfound] at hbetween
    simp only [hleft, task_reclaimAll, ← hbetween]
    by_cases hj : j ∈ s.skipped <;> by_cases he : (s.task j).status = .exited <;>
      simp [strike, hj, he]
  · intro arena entryPoints idle idleSize id hr past rs hrs before now i he
    obtain ⟨hpast, hrs⟩ := permitsAll_append.1 hrs
    have hbefore : before.Kept := (Kept.restart hr).serveAll hpast
    have hnow := exited_serveAll hbefore hrs he
    constructor
    · intro hnot
      rw [if_neg hnot] at hnow
      refine ⟨hnow, _, info_eq_ok.2 ⟨i, rfl, ?_, rfl⟩, hnow⟩
      rw [hnow]
      simp
    · intro hgone
      rw [if_pos hgone] at hnow
      refine ⟨hnow, ?_⟩
      simp only [info, i.isLt, dif_pos, Fin.eta]
      exact if_pos hnow

/-- Task 1 is done while it is current.  The pass after that goes from it to task 2 and from there to
    the idle task, and only the one after them goes past it. -/
def doneOnce : List (Request Unit) :=
  [.launch, .spawn () 0 256 none, .spawn () 0 256 none, .pass .clock, .commit 0x20003180, .exit 1]

theorem scan_exact_doneOnce :
    let first := (blank.restart (.spanning 0x20000400 poolSize) .none () idleStackSize).2
    let before := first.serveAll doneOnce
    let rs := [.pass .call, .commit 0x20003080, .pass .clock, .commit 0x20002f80]
    (before.task 1).status = .exited ∧
    ((before.serveAll rs).task 1).status = .exited ∧
    ((before.serveAll (rs ++ [.pass .call])).task 1).status = .vacant ∧
    (before.serveAll (rs ++ [.pass .call])).info 1 = .error .parameter := by
  intro first before rs
  have hr : (blank.restart (.spanning 0x20000400 poolSize) .none () idleStackSize).1 =
      .ok idleTask := by decide +kernel
  obtain ⟨-, -, -, -, -, hrun⟩ := scan_exact (blank : Scheduler Unit)
  have he : (before.task 1).status = .exited := by decide +kernel
  have hstays := (hrun _ _ _ _ _ hr doneOnce rs (by decide +kernel) 1 he).1 (by decide +kernel)
  have hgoes := (hrun _ _ _ _ _ hr doneOnce (rs ++ [.pass .call]) (by decide +kernel) 1 he).2
    (by decide +kernel)
  exact ⟨he, hstays.1, hgoes⟩

end Scheduler

end Carousel
