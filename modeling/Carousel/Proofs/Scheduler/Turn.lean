/-
  Carousel — whose turn it is.

  * `ahead`: how far one position is ahead of another, going round the table;
  * `switchedIn`: the tasks that events give the processor to;
  * `switchedIn_nearer`: on its way to a task that may run the processor only comes nearer, but for
    a switch that was decided before the task could be seen;
  * `round` and `turns`: a pass with the trap after it, and who has the processor after each;
  * `turns_eq`: while nothing else happens, the processor goes round the tasks that may run;
  * `bypass_bounded`: both of these as a promise to every task.
-/
import Carousel.Proofs.Scheduler.Sleep
import Mathlib.Data.Fintype.Card
import Mathlib.Data.List.FinRange
import Mathlib.Data.List.Rotate

namespace Carousel

variable {β : Type}

namespace Scheduler

variable {s : Scheduler β} {t : TaskId}

/-! ## Distances -/

/-- How many places `t` is ahead of `i`, going round. -/
def ahead (i t : TaskId) : Nat := (t - i).val

theorem ahead_self (t : TaskId) : ahead t t = 0 := by simp [ahead]

theorem ahead_pos {i : TaskId} (h : i ≠ t) : 0 < ahead i t := by
  revert h; revert i t; decide

theorem others_nearer (c : TaskId) :
    (others c).Pairwise fun p t => ahead p t < ahead c t := by
  revert c; decide

/-- A pass does not look past a task that may run. -/
theorem ahead_candidate {p : TaskId} (hp : s.candidate = some p) (ht : t ≠ s.current)
    (hr : (s.task t).status.runnable) : ahead p t < ahead s.current t := by
  obtain ⟨-, as, bs, heq, has⟩ := List.find?_eq_some_iff_append.1 hp
  have hmem : t ∈ others s.current := (mem_others _ _).2 ht
  rw [heq, List.mem_append, List.mem_cons] at hmem
  rcases hmem with hmem | rfl | hmem
  · have := has t hmem
    simp [hr] at this
  · rw [ahead_self]; exact ahead_pos ht.symm
  · have hsorted := others_nearer s.current
    rw [heq, List.pairwise_append, List.pairwise_cons] at hsorted
    exact hsorted.2.1.1 t hmem

/-! ## On the way to a task -/

/-- What is pending is nearer to `t` than what is current. -/
def Toward (s : Scheduler β) (t : TaskId) : Prop :=
  ∀ p, s.pending = some p → ahead p t < ahead s.current t

theorem toward_pass (ht : t ≠ s.current) (hr : (s.task t).status.runnable) (trigger : Trigger) :
    (s.pass trigger).scheduler.Toward t := by
  intro p hp
  have hpick := pick_ne_none trigger ht hr
  rw [pending_pass, Option.or_of_isSome (Option.isSome_iff_ne_none.2 hpick), pick_pass] at hp
  rw [current_pass]
  refine ahead_candidate (s := s.charge trigger) hp ht ?_
  rw [task_charge]; exact runnable_chargeOne trigger hr

/-- Others cannot keep a task from running that is not current. -/
theorem runnable_after (ht : t ≠ s.current) (hr : (s.task t).status.runnable) (e : Event β) :
    ((s.after e).task t).status.runnable := by
  cases e with
  | spawn body argument size name =>
    refine serve_spawn_of (P := fun s' => (s'.task t).status.runnable) hr fun id made hs => ?_
    obtain ⟨-, -, region, arena, -, rfl⟩ := spawn_eq_ok hs
    show ((s.update id fun _ => _).task t).status.runnable
    rw [task_update]
    split_ifs
    · rfl
    · exact hr
  | pass trigger => exact runnable_pass trigger hr
  | sleep ticks =>
    refine runnable_pass .call ?_
    rw [task_sleepCurrent_of_ne ht]; exact hr
  | exit => rw [after, task_exit_of_ne ht]; exact hr
  | commit sp =>
    rw [after, task_commit, if_neg ht.symm]
    dsimp only
    split_ifs
    · rfl
    · exact hr

theorem Toward.call (h : s.Toward t) (ht : t ≠ s.current) (hr : (s.task t).status.runnable)
    {e : Event β} (he : e.isCall) : (s.after e).Toward t := by
  cases e with
  | commit => exact he.elim
  | pass trigger => exact toward_pass ht hr trigger
  | sleep ticks =>
    refine toward_pass (s := s.sleepCurrent ticks) ht ?_ .call
    rw [task_sleepCurrent_of_ne ht]; exact hr
  | spawn body argument size name =>
    intro p hp
    rw [after_spawn_rest] at hp
    rw [current_after s he]; exact h p hp
  | exit =>
    intro p hp
    have hrest : (s.after .exit).pending = s.pending := by rw [after, exit_rest]
    rw [hrest] at hp
    rw [current_after s he]; exact h p hp

/-- The tasks that events give the processor to, first to last. -/
def switchedIn : Scheduler β → List (Event β) → List TaskId
  | _, [] => []
  | s, e :: es =>
    if (s.after e).current = s.current then (s.after e).switchedIn es
    else (s.after e).current :: (s.after e).switchedIn es

theorem switchedIn_of_current {e : Event β} (h : (s.after e).current = s.current)
    (es : List (Event β)) : s.switchedIn (e :: es) = (s.after e).switchedIn es := if_pos h

theorem switchedIn_of_ne {e : Event β} (h : (s.after e).current ≠ s.current)
    (es : List (Event β)) :
    s.switchedIn (e :: es) = (s.after e).current :: (s.after e).switchedIn es := if_neg h

/-- **Each switch brings the processor nearer to a task that may run.**  Only the first switch may
    go anywhere, if it was decided before. -/
theorem switchedIn_nearer (ht : t ≠ s.current) (hr : (s.task t).status.runnable)
    (es : List (Event β)) :
    let before := (s.switchedIn es).takeWhile (· ≠ t)
    before.Pairwise (fun i j => ahead j t < ahead i t) ∧
      (s.Toward t → ∀ i ∈ before, ahead i t < ahead s.current t) := by
  induction es generalizing s with
  | nil => simp [switchedIn]
  | cons e es ih =>
    have hr' := runnable_after ht hr e
    by_cases hc : (s.after e).current = s.current
    · obtain ⟨hsorted, hnear⟩ := ih (by rw [hc]; exact ht) hr'
      rw [switchedIn_of_current hc]
      refine ⟨hsorted, fun hto => ?_⟩
      rw [hc] at hnear
      refine hnear ?_
      cases e with
      | commit sp =>
        intro p hp
        rw [after, commit_rest] at hp; cases hp
      | _ => exact hto.call ht hr trivial
    · cases e with
      | commit sp =>
        have hnone : (s.after (.commit sp)).pending = none := by rw [after, commit_rest]
        have hcur : (s.after (.commit sp)).current = s.pending.getD s.current := by
          rw [after, commit_rest]
        obtain ⟨p, hp⟩ : ∃ p, s.pending = some p := by
          cases hp : s.pending with
          | none => rw [hp] at hcur; exact absurd hcur hc
          | some p => exact ⟨p, rfl⟩
        rw [hp, Option.getD_some] at hcur
        rw [switchedIn_of_ne hc, hcur]
        by_cases hpt : p = t
        · simp [hpt]
        · have hcons := List.takeWhile_cons_of_pos (p := (decide <| · ≠ t)) (a := p)
            (l := (s.after (.commit sp)).switchedIn es) (decide_eq_true hpt)
          rw [hcons]
          obtain ⟨hsorted, hnear⟩ := ih (by rw [hcur]; exact Ne.symm hpt) hr'
          have hnear := hnear fun q hq => by rw [hnone] at hq; cases hq
          rw [hcur] at hnear
          refine ⟨List.pairwise_cons.2 ⟨hnear, hsorted⟩, fun hto i hi => ?_⟩
          have hfirst := hto p hp
          rcases List.mem_cons.1 hi with rfl | hi
          · exact hfirst
          · exact (hnear i hi).trans hfirst
      | spawn => exact absurd (current_after s (e := .spawn ..) trivial) hc
      | pass => exact absurd (current_after s (e := .pass _) trivial) hc
      | sleep => exact absurd (current_after s (e := .sleep _) trivial) hc
      | exit => exact absurd (current_after s (e := .exit) trivial) hc

/-! ## Going round -/

/-- All positions, going round from the one after `c` until it comes to `c` itself. -/
def ring (c : TaskId) : List TaskId := others c ++ [c]

theorem ring_perm (c : TaskId) : (ring c).Perm (List.finRange maxTasks) := by
  revert c; decide

theorem ring_getElem (c : TaskId) (k : Nat) (hk : k < (ring c).length) :
    ring (ring c)[k] = (ring c).rotate (k + 1) := by
  revert k; revert c; decide

/-- From any position on the way, the way is the same one. -/
theorem ring_of_append {c b : TaskId} {as bs : List TaskId} (h : ring c = as ++ b :: bs) :
    ring b = bs ++ as ++ [b] := by
  have hlt : as.length < (ring c).length := by rw [h]; simp
  have hb : (ring c)[as.length] = b := by simp [h]
  have hring := ring_getElem c as.length hlt
  rw [hb, h] at hring
  have hlen : as.length + 1 = (as ++ [b]).length := by simp
  rw [hring, List.append_cons, hlen, List.rotate_append_length_eq, List.append_assoc]

/-- A pass with the trap after it, which finds the current task at a stack pointer. -/
def round (s : Scheduler β) (r : Trigger × Address) : Scheduler β :=
  ((s.pass r.1).scheduler.commit r.2).2

/-- The state after rounds, first to last. -/
def rounds (s : Scheduler β) (rs : List (Trigger × Address)) : Scheduler β := rs.foldl round s

/-- Who has the processor after each of the rounds. -/
def turns : Scheduler β → List (Trigger × Address) → List TaskId
  | _, [] => []
  | s, r :: rs => (s.round r).current :: (s.round r).turns rs

/-- The task may be given the processor. -/
def isReady (s : Scheduler β) (i : TaskId) : Bool := (s.task i).status.runnable

theorem status_round (s : Scheduler β) (r : Trigger × Address) (i : TaskId) :
    ((s.round r).task i).status = .running ∨
      ((s.round r).task i).status = .vacant ∨
      ((s.round r).task i).status = (s.task i).status := by
  rw [round, status_commit, status_pass]
  rcases status_chargeOne r.1 (s.task i) with e | ⟨-, e⟩
  · rw [e]
    split_ifs <;> simp
  · rw [e]
    split_ifs <;> simp

theorem status_round_ne (r : Trigger × Address) {i : TaskId}
    (h : (s.task i).status ≠ .waiting) : ((s.round r).task i).status ≠ .waiting := by
  rcases status_round s r i with e | e | e
  · rw [e]; nofun
  · rw [e]; nofun
  · rw [e]; exact h

theorem status_rounds_ne (rs : List (Trigger × Address)) {i : TaskId}
    (h : (s.task i).status ≠ .waiting) : ((s.rounds rs).task i).status ≠ .waiting := by
  induction rs generalizing s with
  | nil => exact h
  | cons r rs ih => exact ih (status_round_ne r h)

/-- The current task may run, nothing is pending, and nobody wakes in these rounds. -/
structure Steady (s : Scheduler β) (rs : List (Trigger × Address)) : Prop where
  pending : s.pending = none
  current : s.isReady s.current
  asleep : ∀ i, (s.task i).status = .waiting → ((s.rounds rs).task i).status = .waiting

theorem Steady.ready_pass {r : Trigger × Address} {rs : List (Trigger × Address)}
    (h : s.Steady (r :: rs)) (i : TaskId) :
    (chargeOne r.1 (s.task i)).status.runnable = s.isReady i ∧
      ((s.pass r.1).scheduler.task i).status.runnable = s.isReady i := by
  have hcharge : (chargeOne r.1 (s.task i)).status = (s.task i).status := by
    rcases status_chargeOne r.1 (s.task i) with e | ⟨hw, e⟩
    · exact e
    · -- a task that wakes now would be awake in the end
      refine absurd (h.asleep i hw) (status_rounds_ne (s := s.round r) rs ?_)
      rw [round, status_commit, status_pass, e]
      split_ifs <;> nofun
  rw [status_pass, hcharge]
  refine ⟨rfl, ?_⟩
  split_ifs with hx
  · rw [isReady, hx.2]; rfl
  · rfl

/-- A round gives the processor to the next task that is ready, and all tasks stay ready or not. -/
theorem Steady.round {r : Trigger × Address} {rs : List (Trigger × Address)}
    (h : s.Steady (r :: rs)) :
    (ring s.current).find? s.isReady = some (s.round r).current ∧
      (∀ i, (s.round r).isReady i = s.isReady i) ∧ (s.round r).Steady rs := by
  have hcand : (s.charge r.1).candidate = (others s.current).find? s.isReady := by
    refine congrArg (List.find? · _) (funext fun i => ?_)
    rw [task_charge]; exact (h.ready_pass i).1
  have hpick : (s.pass r.1).scheduler.pending = (others s.current).find? s.isReady := by
    rw [pending_pass, h.pending, Option.or_none, pick_pass, hcand]
  have hcur : (s.round r).current = ((others s.current).find? s.isReady).getD s.current := by
    rw [Scheduler.round, commit_rest]
    dsimp only
    rw [hpick, current_pass]
  have hfind : (ring s.current).find? s.isReady = some (s.round r).current := by
    rw [ring, List.find?_append, List.find?_singleton, if_pos h.current, hcur]
    cases (others s.current).find? s.isReady <;> rfl
  have hready : ∀ i, (s.round r).isReady i = s.isReady i := by
    intro i
    rw [isReady, Scheduler.round, status_commit, hpick]
    split_ifs with hp
    · exact (List.find?_some hp).symm
    · exact (h.ready_pass i).2
  refine ⟨hfind, hready, ?_, ?_, fun i hi => h.asleep i ?_⟩
  · rw [Scheduler.round, commit_rest]
  · rw [hready]; exact List.find?_some hfind
  · by_contra hne
    exact status_round_ne r hne hi

theorem turns_of_ring {rs : List (Trigger × Address)} (h : s.Steady rs)
    {p q r : List TaskId} (hring : ring s.current = p ++ q ++ r)
    (hp : ∀ i ∈ p, s.isReady i = false) (hlen : rs.length = (q.filter s.isReady).length) :
    s.turns rs = q.filter s.isReady := by
  -- along `q`, the way that is left: `p` was gone past, `r` lies behind
  induction q generalizing s rs r p with
  | nil =>
    rw [List.filter_nil, List.length_nil, List.length_eq_zero_iff] at hlen
    rw [hlen]; rfl
  | cons b q ih =>
    by_cases hb : s.isReady b
    · rw [List.filter_cons_of_pos hb] at hlen ⊢
      cases rs with
      | nil => simp at hlen
      | cons a rs =>
        obtain ⟨hfind, hready, hsteady⟩ := h.round
        have hcur : (s.round a).current = b := by
          have hz : p.find? s.isReady = none := List.find?_eq_none.2 fun i hi => by simp [hp i hi]
          rw [hring, List.append_assoc, List.find?_append, hz, Option.none_or, List.cons_append,
            List.find?_cons_of_pos hb] at hfind
          exact (Option.some.inj hfind).symm
        have hfun : (s.round a).isReady = s.isReady := funext hready
        have hback : ring b = q ++ r ++ p ++ [b] := ring_of_append (by rw [hring]; simp)
        rw [turns, hcur, ← hfun]
        refine congrArg (b :: ·) (ih hsteady (p := []) (r := r ++ p ++ [b]) ?_ ?_ ?_)
        · rw [hcur, hback]; simp
        · nofun
        · rw [hfun]; simpa using hlen
    · rw [List.filter_cons_of_neg hb] at hlen ⊢
      refine ih h (p := p ++ [b]) (r := r) (by rw [hring]; simp) ?_ hlen
      intro i hi
      rcases List.mem_append.1 hi with hi | hi
      · exact hp i hi
      · rw [List.mem_singleton.1 hi]; simpa using hb

/-- **While nothing else happens, the processor goes round the tasks that may run.** -/
theorem turns_eq {rs : List (Trigger × Address)} (h : s.Steady rs)
    (hlen : rs.length = (List.finRange maxTasks).countP s.isReady) :
    s.turns rs = (ring s.current).filter s.isReady := by
  refine turns_of_ring h (p := []) (r := []) (by simp) (by simp) ?_
  rw [hlen, ← (ring_perm s.current).countP_eq, List.countP_eq_length_filter]

/-- **No task waits for its turn for long.**  First, let a task be able to run while another one has
    the processor.  Whatever happens then — passes, late and repeated traps, sleeps, ends, new tasks
    — the switches before the one to that task go to different tasks, so there are fewer of them
    than places in the table.  Second, let nothing but passes happen, each with the trap after it,
    while nothing was pending and nobody wakes.  In as many of them as tasks may run, each of those
    tasks gets the processor once, in the order of the table from the one after the current task
    on. -/
theorem bypass_bounded (s : Scheduler β) :
    (∀ t, t ≠ s.current → (s.task t).status = .created ∨ (s.task t).status = .running →
      ∀ es : List (Event β),
        let before := (s.switchedIn es).takeWhile (· ≠ t)
        before.Nodup ∧ before.length ≤ maxTasks - 1) ∧
    ∀ rs : List (Trigger × Address), s.pending = none →
      s.currentTask.status = .created ∨ s.currentTask.status = .running →
      (∀ i, (s.task i).status = .waiting → ((s.rounds rs).task i).status = .waiting) →
      rs.length = (List.finRange maxTasks).countP s.isReady →
      s.turns rs = (ring s.current).filter s.isReady ∧
        ∀ i, s.isReady i → (s.turns rs).count i = 1 := by
  refine ⟨fun t ht hr es => ?_, fun rs hp hc hw hlen => ?_⟩
  · obtain ⟨hsorted, -⟩ := switchedIn_nearer ht (runnable_iff.2 hr) es
    have hnodup := hsorted.imp (S := (· ≠ ·)) (by rintro i j hij rfl; exact lt_irrefl _ hij)
    have hmem : t ∉ (s.switchedIn es).takeWhile (· ≠ t) := fun hm => by
      simpa using List.mem_takeWhile_imp hm
    have hcard := (List.nodup_cons.2 ⟨hmem, hnodup⟩).length_le_card
    rw [List.length_cons, Fintype.card_fin] at hcard
    exact ⟨hnodup, Nat.le_sub_one_of_lt hcard⟩
  · have hturns := turns_eq ⟨hp, runnable_iff.2 hc, hw⟩ hlen
    refine ⟨hturns, fun i hi => ?_⟩
    rw [hturns, List.count_filter hi, (ring_perm s.current).count_eq]
    exact List.count_eq_one_of_mem (List.nodup_finRange _) (List.mem_finRange i)

/-- Task 1 runs, and the idle task was picked before task 2 was made. -/
def lateTrap : Scheduler Unit := (oneRunning.after (.pass .call)).after (.spawn () 0 256 none)

/-- Task 1 sleeps, task 2 runs, and task 3 was made by it. -/
def oneAsleep : Scheduler Unit :=
  oneRunning.afterAll [.spawn () 0 256 none, .sleep 5, .commit 0x20003180, .spawn () 0 256 none]

/-- The late trap and then task 1 come before task 2.  Three tasks take turns beside the one that
    sleeps. -/
theorem bypass_bounded_lateTrap :
    let es := [.commit 0x20003180, .pass .call, .commit 0x20003300, .pass .clock, .commit 0x20003180]
    let before := (lateTrap.switchedIn es).takeWhile (· ≠ 2)
    let rs := [(.clock, 0x20003080), (.call, 0x20002f80), (.clock, 0x20003300)]
    before = [0, 1] ∧ before.Nodup ∧ before.length ≤ maxTasks - 1 ∧ oneAsleep.turns rs = [3, 0, 2] := by
  intro es before rs
  obtain ⟨hbefore, -⟩ := bypass_bounded lateTrap
  obtain ⟨-, hturns⟩ := bypass_bounded oneAsleep
  obtain ⟨hnodup, hlen⟩ := hbefore 2 (by decide +kernel) (by decide +kernel) es
  obtain ⟨hrs, -⟩ := hturns rs (by decide +kernel) (by decide +kernel) (by decide +kernel)
    (by decide +kernel)
  refine ⟨by decide +kernel, hnodup, hlen, ?_⟩
  rw [hrs]; decide +kernel

end Scheduler

end Carousel
