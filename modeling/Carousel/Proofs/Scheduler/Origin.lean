/-
  Carousel — what a task keeps for life.

  * `Record.origin`: an entry less what changes while the task lives;
  * `origin_pass`, `origin_sleepCurrent`, `origin_exit`, `origin_commit`, `origin_launch`: no call
    touches it.
-/
import Carousel.Proofs.Scheduler.Run

namespace Carousel

open Stack

variable {β : Type}

namespace Record

/-- What was settled when the task was made: its number, what it runs, its stack and its name. -/
def origin (r : Record β) : Record β :=
  { r with sp := 0, lowest := 0, status := .vacant, ticks := 0 }

theorem id_eq {r r' : Record β} (h : r.origin = r'.origin) : r.id = r'.id := by
  show r.origin.id = r'.origin.id
  rw [h]

theorem name_eq {r r' : Record β} (h : r.origin = r'.origin) : r.name = r'.name := by
  show r.origin.name = r'.origin.name
  rw [h]

end Record

namespace Scheduler

variable (s : Scheduler β)

theorem origin_chargeOne (trigger : Trigger) (r : Record β) :
    (chargeOne trigger r).origin = r.origin := by
  rw [chargeOne_rest]; rfl

theorem origin_strike (r : Record β) : (strike r).origin = r.origin := by
  rw [strike_rest]; rfl

theorem origin_pass (trigger : Trigger) (i : TaskId) :
    ((s.pass trigger).scheduler.task i).origin = (s.task i).origin := by
  rw [task_pass, ← origin_chargeOne trigger (s.task i)]
  dsimp only
  split_ifs
  · rfl
  · rfl
  · exact origin_strike _
  · rfl

theorem origin_sleepCurrent (ticks : UInt16) (i : TaskId) :
    ((s.sleepCurrent ticks).task i).origin = (s.task i).origin := by
  by_cases h : s.current = i
  · subst h; rw [sleepCurrent, task_update_self]; rfl
  · rw [task_sleepCurrent_of_ne (Ne.symm h)]

theorem origin_exit (id : Nat) (i : TaskId) :
    ((s.exit id).task i).origin = (s.task i).origin := by
  rw [task_exit]; split_ifs <;> rfl

theorem origin_commit (sp : Address) (i : TaskId) :
    ((s.commit sp).2.task i).origin = (s.task i).origin := by
  rw [task_commit]
  dsimp only
  split_ifs <;> rfl

theorem origin_launch (i : TaskId) : (s.launch.2.1.task i).origin = (s.task i).origin := by
  rw [task_launch, task_reclaimAll_rest]
  dsimp only
  split_ifs <;> rfl

end Scheduler

end Carousel
