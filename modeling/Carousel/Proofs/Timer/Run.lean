/-
  Carousel — what is to be seen of the timer table.

  * `Table.Holds`: there is a timer in a place, and `Table.dueIds`: the timers that fall due in the
    next period;
  * `free_proceedAll`: a place that is free stays free until it is given out;
  * `collect_eq`: a list with room for as many timers as there are places has room for all that
    fall due.
-/
import Carousel.Proofs.Timer.Period

namespace Carousel.Timer

variable {κ : Type}

namespace Table

/-- There is a timer in place `id`. -/
def Holds (t : Table κ) (id : Nat) : Prop := ∃ i : Fin maxTimers, i = id ∧ (t.slot i).timer.isSome

/-- The timers that fall due in the next period, in the order in which they are listed. -/
def dueIds (t : Table κ) : List Nat := t.advance.1.map Expiry.id

variable {t : Table κ} {i : Fin maxTimers}

theorem holds_iff : t.Holds i ↔ (t.slot i).timer.isSome := by
  simp [Holds, Fin.val_inj]

/-! ## A free place -/

theorem Reissued.cons {id : Nat} {e : Event κ} {es : List (Event κ)}
    (h : (t.proceed e).Reissued id es) : t.Reissued id (e :: es) := by
  obtain ⟨before, later, timeout, autoRestart, payload, t', rfl, hc⟩ := h
  exact ⟨e :: before, later, timeout, autoRestart, payload, t', rfl, hc⟩

/-- A free place stays free until it is given out. -/
theorem free_proceedAll (h : (t.slot i).timer = none) {es : List (Event κ)}
    (hes : ¬ t.Reissued i es) : ((t.proceedAll es).slot i).timer = none := by
  induction es generalizing t with
  | nil => exact h
  | cons e es ih =>
    refine ih ?_ fun hr => hes hr.cons
    cases e with
    | tick => simp [proceed, Slot.next, Slot.active, h]
    | clear => simp [proceed, Slot.release]
    | call c =>
      rw [proceed, slot_apply]
      cases c with
      | create timeout autoRestart payload =>
        have hf : t.firstFree ≠ some i := by
          intro hf
          obtain ⟨t', ht'⟩ := create_eq_ok_iff.2 hf
          exact hes ⟨[], es, timeout, autoRestart, payload, t', rfl, ht'⟩
        dsimp only
        rw [if_neg hf]
        exact h
      | remaining => exact h
      | pause | resume | reset | destroy =>
        dsimp only
        split_ifs
        · simp [Slot.pause, Slot.resume, Slot.reset, Slot.release, h]
        · exact h

/-! ## What falls due -/

theorem mem_dueIds : i.val ∈ t.dueIds ↔ ((t.slot i).expiring i).isSome := by
  have hm : i.val ∈ t.dueIds ↔ ∃ d, ∃ j, (t.slot j).expiring j = some d ∧ d.id = i := by
    simp [dueIds, advance, expiring]
  rw [hm, Option.isSome_iff_exists]
  constructor
  · rintro ⟨d, j, hd, hid⟩
    obtain rfl : j = i := Fin.ext ((id_of_expiring hd).symm.trans hid)
    exact ⟨d, hd⟩
  · rintro ⟨d, hd⟩
    exact ⟨d, i, hd, id_of_expiring hd⟩

/-- The list has no place twice, and keeps their order. -/
theorem dueIds_sorted (t : Table κ) : t.dueIds.Pairwise (· < ·) :=
  List.pairwise_map.2 (expiring_sorted t)

theorem length_dueIds (t : Table κ) : t.dueIds.length ≤ maxTimers := by
  rw [dueIds, List.length_map]
  exact (List.length_filterMap_le _ _).trans (List.length_finRange (n := maxTimers)).le

/-- Add to a list that has room for `room` entries.  Without room left nothing is added. -/
def pushWithin {α : Type} (room : Nat) (l : List α) (a : α) : List α :=
  if l.length < room then l ++ [a] else l

/-- What falls due in the next period, place by place, in a list with room for `maxTimers`. -/
def collect (t : Table κ) : List (Expiry κ) :=
  (List.finRange maxTimers).foldl
    (fun fired i => ((t.slot i).expiring i).elim fired (pushWithin maxTimers fired)) []

theorem foldl_pushWithin {α γ : Type} (f : α → Option γ) {room : Nat} (l : List α) (acc : List γ)
    (h : acc.length + l.length ≤ room) :
    l.foldl (fun acc a => (f a).elim acc (pushWithin room acc)) acc = acc ++ l.filterMap f := by
  induction l generalizing acc with
  | nil => simp
  | cons a l ih =>
    rw [List.length_cons] at h
    rw [List.foldl_cons]
    cases hf : f a with
    | none => rw [Option.elim_none, ih acc (by omega), List.filterMap_cons_none hf]
    | some b =>
      rw [Option.elim_some, pushWithin, if_pos (by omega), ih _ (by simp; omega),
        List.filterMap_cons_some hf, List.append_assoc, List.singleton_append]

/-- Nothing that falls due is lost for want of room. -/
theorem collect_eq (t : Table κ) : t.collect = t.advance.1 :=
  foldl_pushWithin (fun i : Fin maxTimers => (t.slot i).expiring i) _ [] (by simp)

end Table

end Carousel.Timer
