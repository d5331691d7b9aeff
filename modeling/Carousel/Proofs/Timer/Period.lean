/-
  Carousel — which callbacks run in a period.

  * `serviceBy`: one period, with a log of the callbacks that run and of what each of them does, and
    `service`: the case of calls;
  * `Turn.fireAll_eq`: what is in the log was due, and was still owed when it ran;
  * `ranAt_service`: the turn of a place, after all the calls from lower places;
  * `due_fires_once`: a timer that falls due has its callback run once, if it is left alone;
  * `paused_due_fires_iff`: what becomes of one that is paused before its turn.
-/
import Carousel.Proofs.Timer.Calls
import Mathlib.Data.List.FinRange
import Mathlib.Data.List.TakeWhile

namespace Carousel.Timer

variable {κ : Type}

/-- What each callback does, which may depend on the table that it finds. -/
abbrev Callbacks (κ α : Type) := Expiry κ → Table κ → List α

/-- A period on its way: the table, and the callbacks that ran, with what each of them did. -/
structure Turn (κ α : Type) where
  table : Table κ
  log : List (Expiry κ × List α)

namespace Turn

variable {α : Type}

/-- Run a callback.  `act` is what becomes of the table. -/
def fire (act : Table κ → α → Table κ) (callbacks : Callbacks κ α) (d : Expiry κ) (r : Turn κ α) :
    Turn κ α :=
  let did := callbacks d r.table
  ⟨did.foldl act r.table, r.log ++ [(d, did)]⟩

/-- What was done before the turn of place `i`. -/
def callsBefore (r : Turn κ α) (i : Fin maxTimers) : List α :=
  (r.log.takeWhile (·.1.id < i.val)).flatMap Prod.snd

/-- The callbacks that ran for place `i`. -/
def ranAt (r : Turn κ α) (i : Fin maxTimers) : List (Expiry κ) :=
  (r.log.map Prod.fst).filter (·.id = i.val)

end Turn

/-- One period of the service. -/
def serviceBy {α : Type} (act : Table κ → α → Table κ) (callbacks : Callbacks κ α) (t : Table κ) :
    Turn κ α :=
  period Turn.table (fun t r => { r with table := t }) (Turn.fire act callbacks) ⟨t, []⟩

/-- The callbacks make calls of the service. -/
def service (callbacks : Callbacks κ (Call κ)) (t : Table κ) : Turn κ (Call κ) :=
  serviceBy Table.apply callbacks t

/-! ## What falls due -/

namespace Slot

theorem active_eq_some {s : Slot κ} {e : Entry κ} :
    s.active = some e ↔ s.timer = some e ∧ e.paused = false := by
  simp [active, Option.filter_eq_some_iff]

theorem expiring_of_due {s : Slot κ} {e : Entry κ} (ha : s.active = some e)
    (hz : countdown e = 0) (id : Nat) : s.expiring id = some ⟨id, s.generation, e.payload⟩ := by
  simp [expiring, ha, hz]

/-- A timer that falls due is loaded again or freed, and its generation stays. -/
theorem next_of_due {s : Slot κ} {e : Entry κ} (ha : s.active = some e) (hz : countdown e = 0) :
    s.next.generation = s.generation ∧ s.next.isPaused = false ∧
      s.next.timer.isSome = e.autoRestart := by
  have hp := (active_eq_some.1 ha).2
  cases hr : e.autoRestart with
  | false => simp [next, isPaused, ha, hz, hr]
  | true => simp [next, isPaused, ha, hz, hr, hp]

end Slot

theorem id_of_expiring {s : Slot κ} {id : Nat} {d : Expiry κ} (h : s.expiring id = some d) :
    d.id = id := by
  unfold Slot.expiring at h
  split at h
  · cases h
  · split_ifs at h
    cases h; rfl

/-- What falls due comes in the order of the places. -/
theorem expiring_sorted (t : Table κ) : t.expiring.Pairwise (·.id < ·.id) := by
  rw [Table.expiring, List.pairwise_filterMap]
  refine (List.pairwise_lt_finRange maxTimers).imp fun {i j} hij d hd d' hd' => ?_
  rw [id_of_expiring hd, id_of_expiring hd']
  exact hij

/-! ## The callbacks -/

section
variable {α : Type}

/-- The log grows by callbacks that were due, in their order, and the table changes by what they
    do.  Each of them was still owed after what those before it had done. -/
theorem Turn.fireAll_eq (act : Table κ → α → Table κ) (callbacks : Callbacks κ α)
    (dues : List (Expiry κ)) (r : Turn κ α) :
    ∃ log, (log.map Prod.fst).Sublist dues ∧
      fireAll Turn.table (Turn.fire act callbacks) dues r =
        ⟨(log.flatMap Prod.snd).foldl act r.table, r.log ++ log⟩ ∧
      ∀ before x after, log = before ++ x :: after →
        ((before.flatMap Prod.snd).foldl act r.table).owes x.1 := by
  induction dues generalizing r with
  | nil => exact ⟨[], List.Sublist.refl _, by simp [fireAll], by simp⟩
  | cons d dues ih =>
    by_cases ho : r.table.owes d
    · obtain ⟨log, hsub, hr, howed⟩ := ih (Turn.fire act callbacks d r)
      refine ⟨(d, callbacks d r.table) :: log, by simpa using hsub, ?_, ?_⟩
      · rw [fireAll, List.foldl_cons, if_pos ho]
        refine Eq.trans hr ?_
        simp [Turn.fire, List.foldl_append]
      · intro before x after h
        rcases List.cons_eq_append_iff.1 h with ⟨rfl, hfirst⟩ | ⟨before, rfl, hrest⟩
        · obtain ⟨rfl, -⟩ := List.cons.inj hfirst
          exact ho
        · have := howed before x after hrest
          simpa [Turn.fire, List.foldl_append] using this
    · obtain ⟨log, hsub, hr, howed⟩ := ih r
      refine ⟨log, hsub.cons d, ?_, howed⟩
      rw [fireAll, List.foldl_cons, if_neg ho]
      exact hr

/-- The log of a period around the turn of a place that fell due. -/
theorem Turn.log_serviceBy (act : Table κ → α → Table κ) (callbacks : Callbacks κ α) (t : Table κ)
    {i : Fin maxTimers} {d : Expiry κ} (h : (t.slot i).expiring i = some d) :
    ∃ before turn after, (∀ x ∈ before, x.1.id < i.val) ∧ (∀ x ∈ after, i.val < x.1.id) ∧
      turn.map Prod.fst =
        (if ((before.flatMap Prod.snd).foldl act t.advance.2).owes d then [d] else []) ∧
      (serviceBy act callbacks t).log = before ++ (turn ++ after) := by
  have hid := id_of_expiring h
  have hm : d ∈ t.expiring := List.mem_filterMap.2 ⟨i, List.mem_finRange i, h⟩
  obtain ⟨a, b, hab⟩ := List.append_of_mem hm
  have hs := expiring_sorted t
  rw [hab, List.pairwise_append, List.pairwise_cons] at hs
  obtain ⟨-, ⟨hb, -⟩, ha⟩ := hs
  obtain ⟨before, hbefore, e₁, -⟩ := Turn.fireAll_eq act callbacks a ⟨t.advance.2, []⟩
  let t' := (before.flatMap Prod.snd).foldl act t.advance.2
  let r : Turn κ α := ⟨t', before⟩
  obtain ⟨after, hafter, e₂, -⟩ := Turn.fireAll_eq act callbacks b
    (if t'.owes d then Turn.fire act callbacks d r else r)
  refine ⟨before, if t'.owes d then [(d, callbacks d t')] else [], after, fun x hx => ?_,
    fun x hx => ?_, ?_, ?_⟩
  · rw [← hid]
    exact ha _ (hbefore.subset (List.mem_map_of_mem hx)) d List.mem_cons_self
  · rw [← hid]
    exact hb _ (hafter.subset (List.mem_map_of_mem hx))
  · split_ifs <;> rfl
  · have hr : serviceBy act callbacks t = fireAll Turn.table (Turn.fire act callbacks) b
        (if t'.owes d then Turn.fire act callbacks d r else r) := by
      have : serviceBy act callbacks t =
          fireAll Turn.table (Turn.fire act callbacks) (a ++ d :: b) ⟨t.advance.2, []⟩ := by
        rw [← hab]; rfl
      rw [this, fireAll, List.foldl_append, List.foldl_cons]
      rw [fireAll] at e₁
      rw [e₁]
      rfl
    rw [hr, e₂]
    by_cases ho : t'.owes d
    · simp [ho, t', r, Turn.fire]
    · simp [ho, t', r]

variable {r : Turn κ α} {i : Fin maxTimers} {before turn after : List (Expiry κ × List α)}

theorem Turn.callsBefore_eq (hlog : r.log = before ++ (turn ++ after))
    (hlt : ∀ x ∈ before, x.1.id < i.val) (hge : ∀ x ∈ turn ++ after, i.val ≤ x.1.id) :
    r.callsBefore i = before.flatMap Prod.snd := by
  have hnil : (turn ++ after).takeWhile (·.1.id < i.val) = [] := by
    refine List.takeWhile_eq_nil_iff.2 fun hl => ?_
    have := hge _ (List.getElem_mem hl)
    simp; omega
  rw [callsBefore, hlog, List.takeWhile_append_of_pos (by simpa using hlt), hnil, List.append_nil]

theorem Turn.ranAt_eq (hlog : r.log = before ++ (turn ++ after))
    (hlt : ∀ x ∈ before, x.1.id < i.val) (hturn : ∀ x ∈ turn, x.1.id = i.val)
    (hgt : ∀ x ∈ after, i.val < x.1.id) : r.ranAt i = turn.map Prod.fst := by
  have hout : ∀ l : List (Expiry κ × List α), (∀ x ∈ l, x.1.id ≠ i.val) →
      (l.map Prod.fst).filter (·.id = i.val) = [] := by
    intro l hl
    refine List.filter_eq_nil_iff.2 fun d hd => ?_
    obtain ⟨x, hx, rfl⟩ := List.mem_map.1 hd
    simpa using hl x hx
  have hin : (turn.map Prod.fst).filter (·.id = i.val) = turn.map Prod.fst := by
    refine List.filter_eq_self.2 fun d hd => ?_
    obtain ⟨x, hx, rfl⟩ := List.mem_map.1 hd
    simpa using hturn x hx
  simp only [ranAt, hlog, List.map_append, List.filter_append]
  rw [hout before fun x hx => Nat.ne_of_lt (hlt x hx), hin,
    hout after fun x hx => Nat.ne_of_gt (hgt x hx), List.append_nil, List.nil_append]

end

/-- **The turn of a place.**  Its callback runs once when it is still owed after all that the
    callbacks of lower places did, and does not run otherwise. -/
theorem ranAt_service (callbacks : Callbacks κ (Call κ)) (t : Table κ) {i : Fin maxTimers}
    {d : Expiry κ} (h : (t.slot i).expiring i = some d) :
    (service callbacks t).ranAt i =
      if (t.advance.2.applyAll ((service callbacks t).callsBefore i)).owes d then [d] else [] := by
  obtain ⟨before, turn, after, hlt, hgt, hturn, hlog⟩ :=
    Turn.log_serviceBy Table.apply callbacks t h
  have hid : ∀ x ∈ turn, x.1.id = i.val := by
    intro x hx
    have hx := List.mem_map_of_mem (f := Prod.fst) hx
    rw [hturn] at hx
    split_ifs at hx
    · rw [List.mem_singleton.1 hx, id_of_expiring h]
    · cases hx
  have hge : ∀ x ∈ turn ++ after, i.val ≤ x.1.id := by
    intro x hx
    rcases List.mem_append.1 hx with hx | hx
    · exact (hid x hx).ge
    · exact (hgt x hx).le
  rw [service, Turn.callsBefore_eq hlog hlt hge, Turn.ranAt_eq hlog hlt hid hgt, hturn]
  rfl

/-! ## Timers that fall due -/

/-- Two timers that fall due in the next period.  That in place 1 fires once. -/
def twoDue (autoRestart : Bool) : Table Unit :=
  (Table.empty.apply (.create 1 autoRestart ())).apply (.create 1 false ())

/-- The callback of place 0 makes some calls, and the others make none. -/
def onlyFirst (calls : List (Call Unit)) : Callbacks Unit (Call Unit) :=
  fun d _ => if d.id = 0 then calls else []

section
variable (callbacks : Callbacks κ (Call κ)) (t : Table κ) {i : Fin maxTimers} {e : Entry κ}

/-- The callback of a timer that falls due runs, unless its place is renewed or held paused
    before its turn. -/
theorem ranAt_of_due (ha : (t.slot i).active = some e) (hz : Slot.countdown e = 0) :
    let calls := (service callbacks t).callsBefore i
    let runs := Table.renewals i t.advance.2 calls % 2 ^ 32 = 0 ∧ ¬ t.advance.2.HeldPaused i calls
    (runs → (service callbacks t).ranAt i = [⟨i, (t.slot i).generation, e.payload⟩]) ∧
      (¬ runs → (service callbacks t).ranAt i = []) := by
  intro calls runs
  obtain ⟨hgen, hp, -⟩ := Slot.next_of_due ha hz
  rw [ranAt_service callbacks t (Slot.expiring_of_due ha hz i)]
  have ho := Table.owes_applyAll (t := t.advance.2) (i := i)
    (d := ⟨i, (t.slot i).generation, e.payload⟩) rfl (by rw [Table.slot_advance, hgen])
    (by rw [Table.slot_advance, hp]) calls
  exact ⟨fun h => if_pos (ho.2 h), fun h => if_neg fun h' => h (ho.1 h')⟩

/-- **A timer that falls due is not lost.**  Its callback runs exactly once in the period when no
    earlier callback destroys or pauses the timer and, for a timer that fires once and so has left
    its place, when none of the timers that earlier callbacks create is put there. -/
theorem due_fires_once (ha : (t.slot i).active = some e) (hz : Slot.countdown e = 0)
    (hq : ∀ c ∈ (service callbacks t).callsBefore i, c ≠ .destroy i ∧ c ≠ .pause i)
    (hg : e.autoRestart = false →
      ¬ t.advance.2.Given i ((service callbacks t).callsBefore i)) :
    (service callbacks t).ranAt i = [⟨i, (t.slot i).generation, e.payload⟩] := by
  obtain ⟨-, -, hs⟩ := Slot.next_of_due ha hz
  rw [← Table.slot_advance] at hs
  have hd : ∀ c ∈ (service callbacks t).callsBefore i, c ≠ .destroy i := fun c hc => (hq c hc).1
  refine (ranAt_of_due callbacks t ha hz).1 ⟨?_, ?_⟩
  · cases hr : e.autoRestart with
    | false => rw [Table.renewals_eq_zero_iff.2 ⟨hd, hg hr⟩, Nat.zero_mod]
    | true => rw [Table.renewals_of_isSome (hs.trans hr) hd, Nat.zero_mod]
  · rintro ⟨before, after, h, -⟩
    exact (hq (.pause i) (by rw [h]; simp)).2 rfl

/-- The first callback creates a timer, which gets the place that its own timer has left. -/
theorem due_fires_once_twoDue :
    (service (onlyFirst [.create 5 false ()]) (twoDue false)).ranAt 1 = [⟨1, 1, ()⟩] := by
  have hg : Table.renewals 1 (twoDue false).advance.2
      ((service (onlyFirst [.create 5 false ()]) (twoDue false)).callsBefore 1) = 0 := by
    decide +kernel
  have hran := due_fires_once (onlyFirst [.create 5 false ()]) (twoDue false) (i := 1)
    (e := ⟨false, false, 1, 1, ()⟩) (by decide +kernel) (by decide +kernel) (by decide +kernel)
    fun _ => (Table.renewals_eq_zero_iff.1 hg).2
  have hgen : ((twoDue false).slot 1).generation = 1 := by decide +kernel
  rwa [hgen] at hran

/-- A timer that has left its place is lost when the place is given out before its turn, though
    nobody destroys or pauses it. -/
theorem due_lost_when_given :
    ¬ ∀ (callbacks : Callbacks Unit (Call Unit)) (t : Table Unit) (i : Fin maxTimers) (e : Entry Unit),
      (t.slot i).active = some e → Slot.countdown e = 0 →
      (∀ c ∈ (service callbacks t).callsBefore i, c ≠ .destroy i ∧ c ≠ .pause i) →
      (service callbacks t).ranAt i = [⟨i, (t.slot i).generation, e.payload⟩] := by
  intro h
  have h := h (onlyFirst [.create 5 false ()]) (twoDue true) 1 ⟨false, false, 1, 1, ()⟩
    (by decide +kernel) (by decide +kernel) (by decide +kernel)
  have hran : (service (onlyFirst [.create 5 false ()]) (twoDue true)).ranAt 1 = [] := by
    decide +kernel
  rw [hran] at h
  cases h

/-- **What becomes of a timer that falls due, after any calls of earlier callbacks.**  Its callback
    runs unless its place was renewed, other than a multiple of 2³² times, or it is held paused.
    So when an earlier callback paused it, and none let it go on, the callback of a timer that
    restarts does not run; but the callback of one that fires once runs all the same, as long as
    its place stays free. -/
theorem paused_due_fires_iff (ha : (t.slot i).active = some e) (hz : Slot.countdown e = 0) :
    let calls := (service callbacks t).callsBefore i
    let renewals := Table.renewals i t.advance.2 calls
    ((service callbacks t).ranAt i ≠ [] ↔
      renewals % 2 ^ 32 = 0 ∧ ¬ t.advance.2.HeldPaused i calls) ∧
    (renewals < 2 ^ 32 →
      (∃ before after, calls = before ++ .pause i :: after ∧ .resume i ∉ after) →
      ((service callbacks t).ranAt i ≠ [] ↔ e.autoRestart = false ∧ renewals = 0)) := by
  intro calls renewals
  have hiff : (service callbacks t).ranAt i ≠ [] ↔
      renewals % 2 ^ 32 = 0 ∧ ¬ t.advance.2.HeldPaused i calls := by
    obtain ⟨h₁, h₂⟩ := ranAt_of_due callbacks t ha hz
    refine ⟨fun h => ?_, fun h => ?_⟩
    · by_contra hn; exact h (h₂ hn)
    · rw [h₁ h]; simp
  obtain ⟨-, -, hs⟩ := Slot.next_of_due ha hz
  rw [← Table.slot_advance] at hs
  refine ⟨hiff, fun hlt ⟨before, after, hcalls, hr⟩ => ?_⟩
  rw [hiff, Nat.mod_eq_of_lt hlt, and_comm, and_congr_left_iff]
  intro (hn : Table.renewals i t.advance.2 calls = 0)
  -- without renewals the place is in use before each call just when it is at first
  have hsome : ∀ before after, calls = before ++ after →
      ((t.advance.2.applyAll before).slot i).timer.isSome = e.autoRestart := by
    intro before after h
    rw [h, Table.renewals_append] at hn
    rw [Table.isSome_applyAll (by omega), hs]
  constructor
  · intro hheld
    by_contra hauto
    refine hheld ⟨before, after, hcalls, ?_, hr, ?_⟩
    · rw [hsome before _ hcalls]
      simpa using hauto
    · rw [hcalls, List.append_cons, Table.renewals_append] at hn
      omega
  · rintro hauto ⟨before', after', hcalls', hs', -⟩
    rw [hsome before' _ hcalls', hauto] at hs'
    cases hs'

/-- The first callback pauses the timer that fires once, which has left its place already. -/
theorem paused_due_fires_iff_twoDue :
    (service (onlyFirst [.pause 1]) (twoDue true)).ranAt 1 ≠ [] := by
  have h := paused_due_fires_iff (onlyFirst [.pause 1]) (twoDue true) (i := 1)
    (e := ⟨false, false, 1, 1, ()⟩) (by decide +kernel) (by decide +kernel)
  refine (h.2 (by decide +kernel) ⟨[], [], ?_, List.not_mem_nil⟩).2 ⟨rfl, by decide +kernel⟩
  decide +kernel

/-- A timer that fires once does so in the period in which an earlier callback pauses it. -/
theorem paused_due_fires :
    ¬ ∀ (callbacks : Callbacks Unit (Call Unit)) (t : Table Unit) (i : Fin maxTimers) (e : Entry Unit),
      (t.slot i).active = some e → Slot.countdown e = 0 →
      (∃ before after, (service callbacks t).callsBefore i = before ++ .pause i :: after ∧
        .resume i ∉ after) →
      (service callbacks t).ranAt i = [] := by
  intro h
  have h := h (onlyFirst [.pause 1]) (twoDue true) 1 ⟨false, false, 1, 1, ()⟩
    (by decide +kernel) (by decide +kernel) ⟨[], [], by decide +kernel, List.not_mem_nil⟩
  have hran : (service (onlyFirst [.pause 1]) (twoDue true)).ranAt 1 ≠ [] := by decide +kernel
  exact hran h

end

end Carousel.Timer
