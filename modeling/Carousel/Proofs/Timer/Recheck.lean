/-
  Carousel — the check before a callback.

  * `course`: a period whose callbacks do anything to the table;
  * `generation_of_due`: what falls due bears the generation of its place;
  * `recheck_exact`: so the check tells those timers apart that are still there, and a period runs
    no callback of another one.
-/
import Carousel.Proofs.Timer.Period

namespace Carousel.Timer

variable {κ : Type}

/-- The callbacks do anything to the table. -/
def course (programs : Callbacks κ (Event κ)) (t : Table κ) : Turn κ (Event κ) :=
  serviceBy Table.proceed programs t

/-- What falls due bears the generation of its place, which the period leaves as it is. -/
theorem generation_of_due {t : Table κ} {d : Expiry κ} (h : d ∈ t.advance.1) :
    ∃ i : Fin maxTimers, i.val = d.id ∧ (t.advance.2.slot i).generation = d.generation := by
  obtain ⟨i, -, hi⟩ := List.mem_filterMap.1 h
  refine ⟨i, (id_of_expiring hi).symm, ?_⟩
  rw [Table.slot_advance, Slot.generation_next]
  unfold Slot.expiring at hi
  split at hi
  · cases hi
  · split_ifs at hi
    obtain rfl := Option.some.inj hi
    rfl

/-- **The check before a callback is exact.**  A timer fell due in some table, and then other timers
    are created, paused, resumed, reset and destroyed, periods go by, and all places are released,
    in any order.  Its callback is still owed just when its place was renewed a multiple of 2³²
    times, by a timer that was put there, a timer that was destroyed there, whether or not there
    was one, or a release of all places, and is not now held by a timer that is paused.  Whatever
    else happens leaves the generation of a place as it is.  So in a period whose callbacks do any
    such things the callbacks run in the order of their places, none for the same place as another,
    and before each of them, with fewer than 2³² renewals of its place by the callbacks that ran
    before, there was no renewal of it at all. -/
theorem recheck_exact (t : Table κ) :
    (∀ d ∈ t.advance.1, ∃ i : Fin maxTimers, i.val = d.id ∧ ∀ es : List (Event κ),
      let now := t.advance.2.proceedAll es
      now.owes d ↔ Table.renewed i t.advance.2 es % 2 ^ 32 = 0 ∧
        ¬ ∃ e, (now.slot i).timer = some e ∧ e.paused) ∧
    (∀ (e : Event κ) (i : Fin maxTimers), t.renewedBy i e = false →
      ((t.proceed e).slot i).generation = (t.slot i).generation) ∧
    ∀ programs : Callbacks κ (Event κ),
      let ran := (course programs t).log
      ran.Pairwise (fun x y => x.1.id < y.1.id) ∧
      ∀ before d did later, ran = before ++ (d, did) :: later →
        d ∈ t.advance.1 ∧ ∃ i : Fin maxTimers, i.val = d.id ∧
          let renewals := Table.renewed i t.advance.2 (before.flatMap Prod.snd)
          (renewals < 2 ^ 32 → renewals = 0) := by
  refine ⟨?_, ?_, ?_⟩
  · intro d hd
    obtain ⟨i, hid, hg⟩ := generation_of_due hd
    refine ⟨i, hid, ?_⟩
    intro es now
    have hpaused : (now.slot i).isPaused ↔ ∃ e, (now.slot i).timer = some e ∧ e.paused := by
      simp [Slot.isPaused, Option.any_eq_true]
    rw [← hpaused]
    exact Table.owes_proceedAll hid.symm hg es
  · intro e i h
    simp [Table.generation_proceed, h]
  · intro programs ran
    obtain ⟨log, hsub, hturn, howed⟩ :=
      Turn.fireAll_eq Table.proceed programs t.advance.1 ⟨t.advance.2, []⟩
    have hran : ran = log := congrArg Turn.log hturn
    rw [hran]
    constructor
    · have hsorted : (log.map Prod.fst).Pairwise (·.id < ·.id) := (expiring_sorted t).sublist hsub
      rw [List.pairwise_map] at hsorted
      exact hsorted
    · intro before d did later h
      have hd : d ∈ t.advance.1 := by
        refine hsub.subset (List.mem_map.2 ⟨(d, did), ?_, rfl⟩)
        rw [h]; simp
      obtain ⟨i, hid, hg⟩ := generation_of_due hd
      refine ⟨hd, i, hid, ?_⟩
      intro renewals hlt
      have howed := ((Table.owes_proceedAll hid.symm hg _).1 (howed before _ later h)).1
      rwa [Nat.mod_eq_of_lt hlt] at howed

/-- Timer 1 has left its place, so a pause does nothing to it and a new timer takes its place. -/
theorem recheck_exact_twoDue :
    let t := (twoDue true).advance.2
    let programs : Callbacks Unit (Event Unit) := fun d _ => if d.id = 0 then [.call (.pause 1), .tick] else []
    ⟨1, 1, ()⟩ ∈ (twoDue true).advance.1 ∧
    (t.proceedAll [.call (.pause 1), .call (.destroy 0), .tick]).owes ⟨1, 1, ()⟩ ∧
    ¬ (t.proceedAll [.call (.create 5 false ())]).owes ⟨1, 1, ()⟩ ∧
    (course programs (twoDue true)).log =
      [(⟨0, 1, ()⟩, [.call (.pause 1), .tick]), (⟨1, 1, ()⟩, [])] ∧
    Table.renewed 1 t [.call (.pause 1), .tick] = 0 := by
  intro t programs
  obtain ⟨howes, -, hran⟩ := recheck_exact (twoDue true)
  have hdue : ⟨1, 1, ()⟩ ∈ (twoDue true).advance.1 := by decide +kernel
  obtain ⟨i, hid, hi⟩ := howes _ hdue
  obtain rfl : i = 1 := Fin.ext hid
  have hlog : (course programs (twoDue true)).log =
      [(⟨0, 1, ()⟩, [.call (.pause 1), .tick]), (⟨1, 1, ()⟩, [])] := by decide +kernel
  refine ⟨hdue, ?_, ?_, hlog, ?_⟩
  · have hfree : ((t.proceedAll [.call (.pause 1), .call (.destroy 0), .tick]).slot 1).timer = none := by
      decide +kernel
    refine (hi _).2 ⟨by decide +kernel, ?_⟩
    rintro ⟨e, he, -⟩
    rw [hfree] at he; cases he
  · intro h
    have := ((hi _).1 h).1
    revert this
    decide +kernel
  · obtain ⟨-, j, hjd, hj⟩ := (hran programs).2 [_] _ _ [] hlog
    obtain rfl : j = 1 := Fin.ext hjd
    exact hj (by decide +kernel)

end Carousel.Timer
