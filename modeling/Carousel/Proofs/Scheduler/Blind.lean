/-
  Carousel — no decision looks at a stack pointer.

  * `blind`: an entry, the scheduler or an answer, without what is known of stack pointers;
  * `blind_pass`, `blind_commit`, `blind_launch`, …: whether what is known of them is forgotten
    before a call or after it comes to the same, whatever stack pointer the trap brings;
  * `Served` and `history`: all that can be seen of requests, one after another;
  * `history_eq_of_blind`: so requests that differ only in what the traps bring are served alike.
-/
import Carousel.Proofs.Scheduler.Isolation

namespace Carousel

open Stack

variable {β : Type}

/-! ## Forgetting stack pointers -/

/-- The entry, less the task's stack pointers. -/
def Record.blind (r : Record β) : Record β := { r with sp := 0, lowest := 0 }

/-- What others may see, less how deep the stack was. -/
def Info.blind (i : Info) : Info := { i with depth := 0 }

/-- The request, less the stack pointer that a trap brings. -/
def Request.blind : Request β → Request β
  | .commit _ => .commit 0
  | r => r

/-- What a request is answered. -/
inductive Answer where
  | made (id : Except Fault TaskId)
  | picked (pick : Option TaskId)
  /-- The trap goes on with this stack pointer. -/
  | switched (sp : Address)
  | launched (sp : Address)
  | done

/-- The answer, less the stack pointer that a trap goes on with. -/
def Answer.blind : Answer → Answer
  | .switched _ => .switched 0
  | a => a

namespace Scheduler

variable {s s' : Scheduler β}

/-- The scheduler, less the stack pointers of all tasks. -/
def blind (s : Scheduler β) : Scheduler β := { s with tasks := s.tasks.map Record.blind }

@[simp] theorem task_blind (s : Scheduler β) (i : TaskId) : s.blind.task i = (s.task i).blind := by
  simp [blind, task]

@[simp] theorem blind_blind (s : Scheduler β) : s.blind.blind = s.blind :=
  ext_task rfl fun i => by simp [Record.blind]

/-- States that differ in stack pointers at most are the same without them. -/
theorem blind_congr (hr : s' = { s with tasks := s'.tasks })
    (ht : ∀ i, (s'.task i).blind = (s.task i).blind) : s'.blind = s.blind := by
  refine (ext_task ?_ fun i => ?_).symm
  · rw [hr]; rfl
  · rw [task_blind, task_blind, ht]

/-- A change of one entry that does not look at stack pointers. -/
theorem blind_update (i : TaskId) {f g : Record β → Record β}
    (h : (g (s.task i).blind).blind = (f (s.task i)).blind) :
    (s.blind.update i g).blind = (s.update i f).blind := by
  refine blind_congr rfl fun j => ?_
  rw [task_update, task_update, task_blind, task_blind]
  split_ifs
  · exact h
  · rfl

/-! ## Calls -/

theorem status_blind (r : Record β) : r.blind.status = r.status := rfl

theorem blind_expireOne (r : Record β) : expireOne r.blind = (expireOne r).blind := by
  unfold expireOne
  rw [status_blind]
  by_cases h : r.status = .waiting
  · rw [if_pos h, if_pos h]; rfl
  · rw [if_neg h, if_neg h]

theorem blind_chargeOne (trigger : Trigger) (r : Record β) :
    chargeOne trigger r.blind = (chargeOne trigger r).blind := by
  cases trigger with
  | clock => exact blind_expireOne r
  | call => rfl

theorem blind_strike (r : Record β) : strike r.blind = (strike r).blind := by
  unfold strike
  rw [status_blind]
  by_cases h : r.status = .exited
  · rw [if_pos h, if_pos h]; rfl
  · rw [if_neg h, if_neg h]

theorem charge_blind (s : Scheduler β) (trigger : Trigger) :
    s.blind.charge trigger = (s.charge trigger).blind :=
  ext_task rfl fun i => by simp [blind_chargeOne]

theorem candidate_blind (s : Scheduler β) : s.blind.candidate = s.candidate := by
  simp only [candidate, task_blind]; rfl

theorem skipped_blind (s : Scheduler β) : s.blind.skipped = s.skipped := by
  simp only [skipped, task_blind]; rfl

theorem pick_blind (s : Scheduler β) (trigger : Trigger) :
    (s.blind.pass trigger).pick = (s.pass trigger).pick := by
  rw [pick_pass, pick_pass, charge_blind, candidate_blind]

/-- A pass writes the same words, to where the stack of the task ends. -/
theorem stores_blind (s : Scheduler β) (trigger : Trigger) :
    (s.blind.pass trigger).stores = (s.pass trigger).stores := by
  rw [stores_pass_eq, stores_pass_eq, pick_blind]
  cases (s.pass trigger).pick with
  | none => rfl
  | some p => simp only [task_blind, blind_chargeOne]; rfl

theorem blind_pass (s : Scheduler β) (trigger : Trigger) :
    (s.blind.pass trigger).scheduler.blind = (s.pass trigger).scheduler.blind := by
  refine blind_congr ?_ fun i => ?_
  · rw [pass_rest s.blind, pick_blind, pass_rest s]; rfl
  · rw [task_pass, task_pass, pick_blind, charge_blind, skipped_blind, task_blind]
    simp only [blind_chargeOne, blind_strike, status_blind, apply_ite Record.blind]
    rfl

/-- **The trap**, whichever stack pointer it brings. -/
theorem blind_commit (s : Scheduler β) (sp sp' : Address) :
    (s.blind.commit sp').2.blind = (s.commit sp).2.blind := by
  refine blind_congr ?_ fun i => ?_
  · rw [commit_rest s.blind, commit_rest s]; rfl
  · rw [task_commit, task_commit, task_blind, show s.blind.current = s.current from rfl,
      show s.blind.pending = s.pending from rfl]
    dsimp only
    split_ifs <;> rfl

theorem blind_sleepCurrent (s : Scheduler β) (ticks : UInt16) :
    (s.blind.sleepCurrent ticks).blind = (s.sleepCurrent ticks).blind :=
  blind_update s.current rfl

theorem blind_exit (s : Scheduler β) (id : Nat) : (s.blind.exit id).blind = (s.exit id).blind := by
  refine blind_congr ?_ fun i => ?_
  · rw [exit_rest s.blind, exit_rest s]; rfl
  · simp only [task_exit, task_blind, status_blind, apply_ite Record.blind]
    rfl

theorem blind_spawn (s : Scheduler β) (body : β) (argument size : UInt64) (name : Option String) :
    (s.blind.spawn body argument size name).map (Prod.map id blind) =
      (s.spawn body argument size name).map (Prod.map id blind) := by
  have harena : s.blind.arena = s.arena := rfl
  unfold spawn
  by_cases hsize : size < minStackSize
  · rw [if_pos hsize, if_pos hsize]
  rw [if_neg hsize, if_neg hsize, harena]
  by_cases hcount : s.count < maxTasks
  · have hcount' : s.blind.count < maxTasks := hcount
    rw [dif_pos hcount, dif_pos hcount']
    cases s.arena.cut size with
    | error e => rfl
    | ok r =>
      -- the new entry is the same, and what is around it does not matter to it
      let fresh := Record.fresh s.count body argument r.1.top r.1.size
        ((name.map Name.ofString).getD (Name.numbered s.count))
      have hentry := blind_update (s := s) ⟨s.count, hcount⟩ (f := fun _ => fresh)
        (g := fun _ => fresh) rfl
      refine congrArg Except.ok (congrArg (Prod.mk _) ?_)
      exact congrArg ({ · with count := s.count + 1, arena := r.2 }) hentry
  · have hcount' : ¬ s.blind.count < maxTasks := hcount
    rw [dif_neg hcount, dif_neg hcount']

theorem blind_launch (s : Scheduler β) : s.blind.launch.2.1.blind = s.launch.2.1.blind := by
  refine blind_congr ?_ fun i => ?_
  · rw [launch_eq, launch_eq, candidate_blind]; rfl
  · rw [task_launch, task_launch, candidate_blind, skipped_blind, task_reclaimAll, task_reclaimAll,
      task_blind, blind_strike, show s.blind.current = s.current from rfl]
    dsimp only
    split_ifs <;> rfl

theorem current_launch_blind (s : Scheduler β) :
    s.blind.launch.2.1.current = s.launch.2.1.current := by
  rw [launch_eq, launch_eq, candidate_blind]; rfl

/-! ## Requests -/

/-- What is answered to a request. -/
def answer (s : Scheduler β) : Request β → Answer
  | .spawn body argument size name => .made ((s.spawn body argument size name).map Prod.fst)
  | .pass trigger => .picked (s.pass trigger).pick
  | .commit sp => .switched (s.commit sp).1
  | .launch => .launched s.launch.1
  | .sleepCurrent _ | .exit _ => .done

theorem serve_blind (s : Scheduler β) (r : Request β) :
    (s.blind.serve r.blind).blind = (s.serve r).blind := by
  cases r with
  | spawn body argument size name =>
    have h := blind_spawn s body argument size name
    unfold serve Request.blind
    cases h₁ : s.blind.spawn body argument size name <;>
      cases h₂ : s.spawn body argument size name <;> simp only [h₁, h₂] at h ⊢
    · exact blind_blind s
    · cases h
    · cases h
    · exact congrArg Prod.snd (Except.ok.inj h)
  | pass trigger => exact blind_pass s trigger
  | commit sp => exact blind_commit s sp 0
  | sleepCurrent ticks => exact blind_sleepCurrent s ticks
  | exit id => exact blind_exit s id
  | launch => exact blind_launch s

theorem answer_blind (s : Scheduler β) (r : Request β) :
    (s.blind.answer r.blind).blind = (s.answer r).blind := by
  cases r with
  | spawn body argument size name =>
    have h := congrArg (Except.map Prod.fst) (blind_spawn s body argument size name)
    have hmap : ∀ x : Except Fault (TaskId × Scheduler β),
        (x.map (Prod.map id blind)).map Prod.fst = x.map Prod.fst := by
      rintro (_ | _) <;> rfl
    rw [hmap, hmap] at h
    exact congrArg Answer.made h
  | pass trigger => exact congrArg Answer.picked (pick_blind s trigger)
  | launch =>
    refine congrArg Answer.launched ?_
    rw [launch_fst, launch_fst, current_launch_blind, task_blind]; rfl
  | commit | sleepCurrent | exit => rfl

theorem writes_blind (s : Scheduler β) (r : Request β) : s.blind.writes r.blind = s.writes r := by
  cases r with
  | pass trigger => exact stores_blind s trigger
  | launch =>
    show s.blind.launch.2.2 = s.launch.2.2
    rw [stores_launch, stores_launch, current_launch_blind, task_blind]; rfl
  | spawn | commit | sleepCurrent | exit => rfl

/-! ## All runs -/

/-- What can be seen when a request has been served. -/
structure Served (β : Type) where
  answer : Answer
  writes : List Store
  state : Scheduler β

def Served.blind (x : Served β) : Served β := ⟨x.answer.blind, x.writes, x.state.blind⟩

/-- What can be seen of requests, first to last. -/
def history (s : Scheduler β) : List (Request β) → List (Served β)
  | [] => []
  | r :: rs => ⟨s.answer r, s.writes r, s.serve r⟩ :: (s.serve r).history rs

theorem served_blind (s : Scheduler β) (r : Request β) :
    (⟨s.blind.answer r.blind, s.blind.writes r.blind, s.blind.serve r.blind⟩ : Served β).blind =
      (⟨s.answer r, s.writes r, s.serve r⟩ : Served β).blind := by
  simp only [Served.blind, answer_blind, writes_blind, serve_blind]

theorem serve_congr (hs : s.blind = s'.blind) {r r' : Request β} (hr : r.blind = r'.blind) :
    (s.serve r).blind = (s'.serve r').blind := by
  rw [← serve_blind s, ← serve_blind s', hs, hr]

theorem serveAll_congr (hs : s.blind = s'.blind) {rs rs' : List (Request β)}
    (hr : rs.map Request.blind = rs'.map Request.blind) :
    (s.serveAll rs).blind = (s'.serveAll rs').blind := by
  induction rs generalizing s s' rs' with
  | nil =>
    obtain rfl := List.map_eq_nil_iff.1 hr.symm
    exact hs
  | cons r rs ih =>
    cases rs' with
    | nil => cases hr
    | cons r' rs' =>
      obtain ⟨hr, hrs⟩ := List.cons.inj hr
      exact ih (serve_congr hs hr) hrs

/-- **Requests that differ only in the stack pointers that traps bring are served alike**, but for
    what is known of stack pointers afterwards. -/
theorem history_eq_of_blind (hs : s.blind = s'.blind) {rs rs' : List (Request β)}
    (hr : rs.map Request.blind = rs'.map Request.blind) :
    (s.history rs).map Served.blind = (s'.history rs').map Served.blind := by
  induction rs generalizing s s' rs' with
  | nil =>
    obtain rfl := List.map_eq_nil_iff.1 hr.symm
    rfl
  | cons r rs ih =>
    cases rs' with
    | nil => cases hr
    | cons r' rs' =>
      obtain ⟨hr, hrs⟩ := List.cons.inj hr
      rw [history, history, List.map_cons, List.map_cons, ih (serve_congr hs hr) hrs,
        ← served_blind s, ← served_blind s', hs, hr]

/-- What can be asked about a task differs in the depth of its stack at most. -/
theorem info_blind (s : Scheduler β) (id : Nat) :
    (s.blind.info id).map Info.blind = (s.info id).map Info.blind := by
  unfold info
  simp only [task_blind, status_blind]
  split_ifs <;> rfl

theorem entryOf_blind (s : Scheduler β) (id : Nat) : s.blind.entryOf id = s.entryOf id := by
  unfold entryOf
  simp only [task_blind]
  rfl

end Scheduler

end Carousel
