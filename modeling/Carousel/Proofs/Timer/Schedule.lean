/-
  Carousel — when a timer falls due.

  * `Ledger`: what is on record of a timer, by the calls that name it and the periods that pass:
    what it was last loaded with, and the periods since then in which it counted;
  * `Ledger.after`: the record after an event, and `Ledger.run` after all events since the timer
    was created, until it leaves its place;
  * `Slot.Shows`: a place is as the record says, and `Table.shows_proceed`: it stays so;
  * `Table.seen_of_matches` and `Table.gone_of_due`: what is to be seen of a timer on record, and
    of its place once it is gone;
  * `exact_schedule`: so a timer falls due in the period that the record gives, and in no other.
-/
import Carousel.Proofs.Timer.Run
import Mathlib.Order.MinMax

namespace Carousel.Timer

variable {κ : Type}

/-- What is on record of a timer. -/
structure Ledger where
  /-- What it was last loaded with. -/
  load : UInt32
  /-- The periods since then in which it was not paused. -/
  counted : Nat
  paused : Bool
deriving DecidableEq

namespace Ledger

/-- A timer that was just created. -/
def opened (timeout : UInt32) : Ledger := ⟨timeout, 0, false⟩

/-- The timer falls due in the next period: it is not paused, and that period is the last one that
    it has to count.  It counts one period at least. -/
def Due (l : Ledger) : Prop := l.paused = false ∧ l.counted + 1 = max l.load.toNat 1

instance decidableDue (l : Ledger) : Decidable l.Due := inferInstanceAs (Decidable (_ ∧ _))

/-- The record of timer `id` after an event.  A timer that has fallen due is loaded again or, if
    it does not restart, has left its place. -/
def after (autoRestart : Bool) (id : Nat) (l : Ledger) : Event κ → Option Ledger
  | .call (.pause j) => some (if j = id then { l with paused := true } else l)
  | .call (.resume j) => some (if j = id then { l with paused := false } else l)
  | .call (.reset j timeout) =>
    some (if j = id then { l with load := timeout, counted := 0 } else l)
  | .tick =>
    if l.Due then if autoRestart then some { l with counted := 0 } else none
    else if l.paused then some l
    else some { l with counted := l.counted + 1 }
  | _ => some l

/-- The record after the events since the timer was created. -/
def run (autoRestart : Bool) (id : Nat) (timeout : UInt32) (es : List (Event κ)) : Option Ledger :=
  es.foldlM (after autoRestart id) (opened timeout)

end Ledger

/-! ## One place -/

namespace Slot

/-- The timer in the place is as the record says, and has not counted too far. -/
structure Matches (s : Slot κ) (autoRestart : Bool) (l : Ledger) (e : Entry κ) : Prop where
  timer : s.timer = some e
  restart : e.autoRestart = autoRestart
  paused : e.paused = l.paused
  timeout : e.timeout = l.load
  remaining : e.remaining.toNat + l.counted = l.load.toNat
  counted : l.counted < max l.load.toNat 1

/-- The place is as the record says; without one, it is free. -/
def Shows (s : Slot κ) (autoRestart : Bool) : Option Ledger → Prop
  | none => s.timer = none
  | some l => ∃ e, s.Matches autoRestart l e

theorem toNat_countdown (e : Entry κ) : (countdown e).toNat = e.remaining.toNat - 1 := by
  unfold countdown
  split_ifs with h0
  · rw [h0]; rfl
  · have hpos : 0 < e.remaining.toNat := Nat.pos_of_ne_zero fun h => h0 (UInt32.toNat_inj.1 h)
    exact UInt32.toNat_sub_of_le _ _ (UInt32.le_iff_toNat_le.2 hpos)

namespace Matches

variable {s : Slot κ} {autoRestart : Bool} {l : Ledger} {e : Entry κ}

theorem active (h : s.Matches autoRestart l e) :
    s.active = if l.paused then none else some e := by
  rw [Slot.active, h.timer, ← h.paused, Option.filter_some]
  cases e.paused <;> rfl

/-- The timer is at its last period just when the record says so. -/
theorem countdown_eq_zero_iff (h : s.Matches autoRestart l e) :
    countdown e = 0 ↔ l.counted + 1 = max l.load.toNat 1 := by
  have h0 : (0 : UInt32).toNat = 0 := rfl
  have hr := h.remaining
  have hc := h.counted
  rw [← UInt32.toNat_inj, toNat_countdown, h0]
  omega

theorem expiring_iff (h : s.Matches autoRestart l e) (id : Nat) :
    (s.expiring id).isSome ↔ l.Due := by
  rw [Slot.expiring, h.active, Ledger.Due]
  cases hp : l.paused with
  | true => simp
  | false =>
    simp only [Bool.false_eq_true, if_false, true_and]
    rw [← h.countdown_eq_zero_iff]
    split_ifs with hz
    · simp [hz]
    · simp [hz]

/-- **One period.**  The timer counts, and falls due when the record says so. -/
theorem next (h : s.Matches autoRestart l e) (id : Nat) :
    s.next.Shows autoRestart (l.after (κ := κ) autoRestart id .tick) := by
  rw [Slot.next, h.active, Ledger.after]
  cases hp : l.paused with
  | true =>
    have hd : ¬ l.Due := fun hd => Bool.noConfusion (hp.symm.trans hd.1)
    simp only [if_true, if_neg hd]
    exact ⟨e, h⟩
  | false =>
    simp only [Bool.false_eq_true, if_false]
    by_cases hz : countdown e = 0
    · have hd : l.Due := ⟨hp, h.countdown_eq_zero_iff.1 hz⟩
      rw [if_pos hz, if_pos hd, h.restart]
      cases autoRestart with
      | false => exact rfl
      | true =>
        refine ⟨_, rfl, rfl, h.paused.trans hp, h.timeout, ?_, ?_⟩
        · show e.timeout.toNat + 0 = l.load.toNat
          rw [h.timeout]; rfl
        · exact lt_max_of_lt_right Nat.one_pos
    · have hc := mt h.countdown_eq_zero_iff.2 hz
      rw [if_neg hz, if_neg fun hd : l.Due => hc hd.2]
      have hr := h.remaining
      have hlt := h.counted
      refine ⟨_, rfl, h.restart, h.paused.trans hp, h.timeout, ?_, ?_⟩
      · show (countdown e).toNat + (l.counted + 1) = l.load.toNat
        rw [toNat_countdown]; omega
      · show l.counted + 1 < max l.load.toNat 1
        omega

end Matches

end Slot

/-! ## The table -/

namespace Table

variable {t : Table κ} {i : Fin maxTimers} {autoRestart : Bool} {l : Ledger}

/-- A timer that was just created is as the record says. -/
theorem shows_create {t' : Table κ} {timeout : UInt32} {payload : κ}
    (h : t.create timeout autoRestart payload = .ok (i.val, t')) :
    (t'.slot i).Shows autoRestart (some (.opened timeout)) := by
  have hf := create_eq_ok_iff.1 ⟨t', h⟩
  rw [create_eq, hf] at h
  obtain rfl := (Prod.mk.inj (Except.ok.inj h)).2
  rw [slot_update, if_pos rfl]
  exact ⟨_, rfl, rfl, rfl, rfl, rfl, lt_max_of_lt_right Nat.one_pos⟩

/-- **One event.**  As long as nobody takes the timer away, it stays as the record says. -/
theorem shows_proceed (h : (t.slot i).Shows autoRestart (some l)) {e : Event κ} (hc : e ≠ .clear)
    (hd : e ≠ .call (.destroy i)) :
    ((t.proceed e).slot i).Shows autoRestart (l.after autoRestart i e) := by
  obtain ⟨entry, h⟩ := h
  cases e with
  | clear => exact absurd rfl hc
  | tick => rw [proceed, slot_advance]; exact h.next i
  | call c =>
    rw [proceed, slot_apply]
    cases c with
    | create timeout autoRestart payload =>
      -- its place is not free
      have hf : t.firstFree ≠ some i := by
        intro hf
        have := h.timer
        rw [timer_firstFree hf] at this; cases this
      dsimp only
      rw [if_neg hf]
      exact ⟨entry, h⟩
    | remaining id => exact ⟨entry, h⟩
    | destroy id =>
      have hid : id ≠ i.val := by rintro rfl; exact hd rfl
      dsimp only
      rw [if_neg hid]
      exact ⟨entry, h⟩
    | pause id =>
      dsimp only [Ledger.after]
      split_ifs with hid
      · exact ⟨{ entry with paused := true }, by rw [Slot.pause, h.timer]; rfl, h.restart, rfl,
          h.timeout, h.remaining, h.counted⟩
      · exact ⟨entry, h⟩
    | resume id =>
      dsimp only [Ledger.after]
      split_ifs with hid
      · exact ⟨{ entry with paused := false }, by rw [Slot.resume, h.timer]; rfl, h.restart, rfl,
          h.timeout, h.remaining, h.counted⟩
      · exact ⟨entry, h⟩
    | reset id timeout =>
      dsimp only [Ledger.after]
      split_ifs with hid
      · exact ⟨{ entry with remaining := timeout, timeout := timeout },
          by rw [Slot.reset, h.timer]; rfl, h.restart, h.paused, rfl, rfl,
          lt_max_of_lt_right Nat.one_pos⟩
      · exact ⟨entry, h⟩

theorem shows_proceedAll (h : (t.slot i).Shows autoRestart (some l)) {es : List (Event κ)}
    (hes : ∀ e ∈ es, e ≠ .clear ∧ e ≠ .call (.destroy i)) {l' : Ledger}
    (hl : es.foldlM (Ledger.after autoRestart i) l = some l') :
    ((t.proceedAll es).slot i).Shows autoRestart (some l') := by
  induction es generalizing t l with
  | nil =>
    obtain rfl : l = l' := Option.some.inj hl
    exact h
  | cons e es ih =>
    rw [List.foldlM_cons] at hl
    obtain ⟨l₁, h₁, hl⟩ := Option.bind_eq_some_iff.1 hl
    obtain ⟨hc, hd⟩ := hes e List.mem_cons_self
    have hstep := shows_proceed h hc hd
    rw [h₁] at hstep
    exact ih hstep (fun e' he => hes e' (List.mem_cons_of_mem e he)) hl

/-- What is to be seen of a timer that is as the record says. -/
theorem seen_of_matches {e : Entry κ} (h : (t.slot i).Matches autoRestart l e) :
    t.Holds i ∧
      (∃ left, t.remaining i = .ok left ∧ left.toNat = l.load.toNat - l.counted ∧
        (l.load ≠ 0 → left ≠ 0)) ∧
      (i.val ∈ t.dueIds ↔ l.Due) := by
  have hr := h.remaining
  have hlt := h.counted
  have hleft : t.remaining i = .ok e.remaining := by
    rw [remaining, dif_pos i.isLt, Slot.remaining, h.timer]
  refine ⟨holds_iff.2 (by rw [h.timer]; rfl), ⟨_, hleft, by omega, fun hne h0 => ?_⟩, ?_⟩
  · have hpos : l.load.toNat ≠ 0 := fun hz => hne (UInt32.toNat_inj.1 hz)
    rw [h0, show (0 : UInt32).toNat = 0 from rfl] at hr
    omega
  · rw [mem_dueIds, h.expiring_iff]

/-- A timer that fires once leaves its place in the period in which it falls due, and the place
    stays free until it is given out. -/
theorem gone_of_due (h : (t.slot i).Shows false (some l)) (hdue : l.Due) {later : List (Event κ)}
    (hl : ¬ t.advance.2.Reissued i later) :
    ¬ (t.advance.2.proceedAll later).Holds i ∧ i.val ∉ (t.advance.2.proceedAll later).dueIds := by
  have hleaves := shows_proceed (e := .tick) h (by rintro ⟨⟩) (by rintro ⟨⟩)
  rw [Ledger.after, if_pos hdue] at hleaves
  have hfree := free_proceedAll hleaves hl
  rw [holds_iff, mem_dueIds, Slot.expiring, Slot.active]
  simp only [proceed] at hfree
  rw [hfree]
  exact ⟨by rintro ⟨⟩, by rintro ⟨⟩⟩

end Table

/-- A timer that restarts stays on record. -/
theorem Ledger.run_ne_none (id : Nat) (timeout : UInt32) (es : List (Event κ)) :
    Ledger.run true id timeout es ≠ none := by
  have hafter : ∀ (l : Ledger) (e : Event κ), ∃ l', l.after true id e = some l' := by
    intro l e
    cases e with
    | tick =>
      simp only [Ledger.after, if_true]
      split_ifs
      · exact ⟨_, rfl⟩
      · exact ⟨_, rfl⟩
      · exact ⟨_, rfl⟩
    | clear => exact ⟨_, rfl⟩
    | call c => cases c <;> exact ⟨_, rfl⟩
  unfold Ledger.run
  generalize Ledger.opened timeout = l
  induction es generalizing l with
  | nil => nofun
  | cons e es ih =>
    obtain ⟨l', hl'⟩ := hafter l e
    rw [List.foldlM_cons, hl']
    exact ih l'

/-- **When a timer falls due.**  A timer is created in any table.  Afterwards periods, calls that
    name it and calls that name others come in any order, but it is not destroyed and the table is
    not cleared.  As long as the timer is on record it is in its place, has as many periods left
    as it was last loaded with less those that it has counted since (so none are left only if it
    was loaded with none), and falls due in the period that the record gives and in no other.  A
    timer that restarts stays on record for ever.  One that does not leaves its place in the
    period in which it falls due, and then its place is free, and not listed again, until it is
    given out.  And in any table those that fall due are listed in the order of their places, in a
    list that has room for all of them. -/
theorem exact_schedule {t t' : Table κ} {timeout : UInt32} {autoRestart : Bool} {payload : κ}
    {id : Nat} (h : t.create timeout autoRestart payload = .ok (id, t')) {es : List (Event κ)}
    (hes : ∀ e ∈ es, e ≠ .clear ∧ e ≠ .call (.destroy id)) :
    let now := t'.proceedAll es
    (∀ l, Ledger.run autoRestart id timeout es = some l →
      now.Holds id ∧
      (∃ left, now.remaining id = .ok left ∧ left.toNat = l.load.toNat - l.counted ∧
        (l.load ≠ 0 → left ≠ 0)) ∧
      (id ∈ now.dueIds ↔ l.paused = false ∧ l.counted + 1 = max l.load.toNat 1)) ∧
    (autoRestart = true → Ledger.run autoRestart id timeout es ≠ none) ∧
    (∀ before later l, es = before ++ .tick :: later →
      Ledger.run autoRestart id timeout before = some l → l.Due → autoRestart = false →
      ¬ (t'.proceedAll (before ++ [.tick])).Reissued id later →
      ¬ now.Holds id ∧ id ∉ now.dueIds) ∧
    ∀ u : Table κ, u.dueIds.Pairwise (· < ·) ∧ u.dueIds.length ≤ maxTimers ∧
      u.collect = u.advance.1 := by
  intro now
  obtain ⟨i, rfl⟩ : ∃ i : Fin maxTimers, i.val = id := by
    rw [Table.create_eq] at h
    cases hf : t.firstFree with
    | none => rw [hf] at h; cases h
    | some i => rw [hf] at h; exact ⟨i, (Prod.mk.inj (Except.ok.inj h)).1⟩
  have hopened := Table.shows_create h
  refine ⟨fun l hl => ?_, ?_, ?_, fun u => ?_⟩
  · obtain ⟨e, he⟩ := Table.shows_proceedAll hopened hes hl
    exact Table.seen_of_matches he
  · rintro rfl
    exact Ledger.run_ne_none i timeout es
  · rintro before later l rfl hl hdue rfl hnot
    have hshows := Table.shows_proceedAll hopened
      (fun e he => hes e (List.mem_append_left _ he)) hl
    have hnow : now = (t'.proceedAll before).advance.2.proceedAll later :=
      Table.proceedAll_append t' before (.tick :: later)
    rw [Table.proceedAll_append] at hnot
    rw [hnow]
    exact Table.gone_of_due hshows hdue hnot
  · exact ⟨Table.dueIds_sorted u, Table.length_dueIds u, Table.collect_eq u⟩

/-- A period, and another one in which timer 0 is paused. -/
def pausedOnce : List (Event Unit) := [.tick, .call (.pause 0), .tick, .call (.resume 0)]

/-- A timer of two periods that fires once, paused during a third one, falls due in the one after
    that, and is gone then. -/
theorem exact_schedule_paused :
    ∃ t', (Table.empty : Table Unit).create 2 false () = .ok (0, t') ∧
      0 ∈ (t'.proceedAll pausedOnce).dueIds ∧
      0 ∉ (t'.proceedAll (pausedOnce.take 3)).dueIds ∧
      ¬ (t'.proceedAll (pausedOnce ++ .tick :: [.tick])).Holds 0 := by
  obtain ⟨t', h⟩ : ∃ t', (Table.empty : Table Unit).create 2 false () = .ok (0, t') :=
    Table.create_eq_ok_iff.2 (show _ = some 0 by decide +kernel)
  have hes : ∀ e ∈ pausedOnce, e ≠ .clear ∧ e ≠ .call (.destroy 0) := by simp [pausedOnce]
  have hlate : ∀ e ∈ pausedOnce ++ .tick :: [.tick], e ≠ .clear ∧ e ≠ .call (.destroy 0) := by
    simp [pausedOnce]
  refine ⟨t', h, ?_, ?_, ?_⟩
  · have hdue := ((exact_schedule h hes).1 ⟨2, 1, false⟩ (by decide +kernel)).2.2
    exact hdue.2 ⟨rfl, by decide⟩
  · have hes : ∀ e ∈ pausedOnce.take 3, e ≠ .clear ∧ e ≠ .call (.destroy 0) := by
      simp [pausedOnce]
    have hdue := ((exact_schedule h hes).1 ⟨2, 1, true⟩ (by decide +kernel)).2.2
    exact fun hmem => nomatch (hdue.1 hmem).1
  · refine ((exact_schedule h hlate).2.2.1 pausedOnce [.tick] ⟨2, 1, false⟩ rfl
      (by decide +kernel) (by decide +kernel) rfl ?_).1
    -- nobody asks for a timer afterwards
    rintro ⟨before, later, timeout, autoRestart, payload, u, hsplit, -⟩
    have hmem : Event.call (.create timeout autoRestart payload) ∈ [Event.tick] := by
      rw [hsplit]; simp
    simp at hmem

end Carousel.Timer
