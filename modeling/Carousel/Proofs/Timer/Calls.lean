/-
  Carousel — what happens to one place of the timer table.

  * `Slot.pause`, `Slot.resume`, `Slot.reset`: the changes to a place that is in use;
  * `slot_apply`: a place after one call;
  * `Event`: a call of the timer service, a period, or that all places are released, with
    `proceedAll`: the table after events, of which `applyAll` is the case of calls;
  * `renewed`: how often events put a timer in a place or take away what is there, and
    `generation_proceedAll`: the generation of a place counts this, and nothing else;
  * `Reissued`: a place was given out by `create`, and `HeldPaused`: it is paused in the end;
  * `owes_proceedAll` and `owes_applyAll`: when a callback is still owed.
-/
import Carousel.Timer.Service
import Mathlib.Algebra.Group.Nat.Defs
import Mathlib.Data.List.Induction
import Mathlib.Tactic.SplitIfs

namespace Carousel.Timer

variable {κ : Type}

/-! ## One call -/

namespace Slot

/-- Stop the timer, if there is one. -/
def pause (s : Slot κ) : Slot κ := { s with timer := s.timer.map ({ · with paused := true }) }

/-- Let the timer go on, if there is one. -/
def resume (s : Slot κ) : Slot κ := { s with timer := s.timer.map ({ · with paused := false }) }

/-- Load the timer anew, if there is one. -/
def reset (s : Slot κ) (timeout : UInt32) : Slot κ :=
  { s with timer := s.timer.map ({ · with remaining := timeout, timeout := timeout }) }

section
variable (s : Slot κ)

@[simp] theorem generation_load (e : Entry κ) : (s.load e).generation = s.generation + 1 := rfl

@[simp] theorem generation_release : s.release.generation = s.generation + 1 := rfl

@[simp] theorem generation_pause : s.pause.generation = s.generation := rfl

@[simp] theorem generation_resume : s.resume.generation = s.generation := rfl

@[simp] theorem generation_reset (n : UInt32) : (s.reset n).generation = s.generation := rfl

@[simp] theorem isSome_pause : s.pause.timer.isSome = s.timer.isSome := by simp [pause]

@[simp] theorem isSome_resume : s.resume.timer.isSome = s.timer.isSome := by simp [resume]

@[simp] theorem isSome_reset (n : UInt32) : (s.reset n).timer.isSome = s.timer.isSome := by
  simp [reset]

@[simp] theorem isPaused_load (e : Entry κ) : (s.load e).isPaused = e.paused := rfl

@[simp] theorem isPaused_release : s.release.isPaused = false := rfl

@[simp] theorem isPaused_pause : s.pause.isPaused = s.timer.isSome := by
  cases h : s.timer <;> simp [pause, isPaused, h]

@[simp] theorem isPaused_resume : s.resume.isPaused = false := by
  cases h : s.timer <;> simp [resume, isPaused, h]

@[simp] theorem isPaused_reset (n : UInt32) : (s.reset n).isPaused = s.isPaused := by
  cases h : s.timer <;> simp [reset, isPaused, h]

variable {s} in
theorem isSome_of_isPaused (h : s.isPaused) : s.timer.isSome := by
  cases hs : s.timer with
  | none => simp [isPaused, hs] at h
  | some => rfl

end

end Slot

namespace Table

/-- The place that the next timer would get. -/
def firstFree (t : Table κ) : Option (Fin maxTimers) := t.slots.findFinIdx? (·.timer.isNone)

theorem timer_firstFree {t : Table κ} {i : Fin maxTimers} (h : t.firstFree = some i) :
    (t.slot i).timer = none := by
  have hf : t.slots.find? (·.timer.isNone) = some (t.slot i) := by
    rw [Vector.find?_eq_map_findFinIdx?_getElem]
    exact congrArg _ h
  simpa using Vector.find?_some hf

/-- A timer that is created gets the first free place. -/
theorem create_eq (t : Table κ) (timeout : UInt32) (autoRestart : Bool) (payload : κ) :
    t.create timeout autoRestart payload =
      match t.firstFree with
      | none => .error .exhausted
      | some i =>
        .ok (i.val, t.update i (·.load ⟨false, autoRestart, timeout, timeout, payload⟩)) := rfl

theorem create_eq_ok_iff {t : Table κ} {timeout : UInt32} {autoRestart : Bool} {payload : κ}
    {i : Fin maxTimers} :
    (∃ t', t.create timeout autoRestart payload = .ok (i.val, t')) ↔ t.firstFree = some i := by
  rw [create_eq]
  cases h : t.firstFree with
  | none => simp
  | some j => simp [Fin.val_inj]

theorem slot_modify (t : Table κ) (id : Nat) (f : Slot κ → Slot κ) (i : Fin maxTimers) :
    (t.after (t.modify id f)).slot i = if id = i then f (t.slot i) else t.slot i := by
  unfold modify after
  split_ifs with h he he
  · subst he; simp [slot_update]
  · have : (⟨id, h⟩ : Fin maxTimers) ≠ i := fun e => he (congrArg Fin.val e)
    simp [slot_update, this]
  · exact absurd (he ▸ i.isLt) h
  · rfl

/-- A place after a call: only a call that names it does something to it, and a call of `create`
    that finds it first. -/
theorem slot_apply (t : Table κ) (c : Call κ) (i : Fin maxTimers) :
    (t.apply c).slot i =
      match c with
      | .create timeout autoRestart payload =>
        if t.firstFree = some i then
          (t.slot i).load ⟨false, autoRestart, timeout, timeout, payload⟩
        else t.slot i
      | .pause id => if id = i then (t.slot i).pause else t.slot i
      | .resume id => if id = i then (t.slot i).resume else t.slot i
      | .reset id timeout => if id = i then (t.slot i).reset timeout else t.slot i
      | .remaining _ => t.slot i
      | .destroy id => if id = i then (t.slot i).release else t.slot i := by
  cases c with
  | create timeout autoRestart payload =>
    simp only [apply, create_eq]
    cases hf : t.firstFree with
    | none => simp [Except.map, after]
    | some j =>
      simp only [Except.map, after, slot_update, Option.some.injEq]
      split_ifs with hj
      · rw [hj]
      · rfl
  | pause id => exact slot_modify ..
  | resume id => exact slot_modify ..
  | reset id timeout => exact slot_modify ..
  | remaining id => rfl
  | destroy id => exact slot_modify ..

/-- The call puts a timer in place `i`, or takes the one that is there away. -/
def renews (t : Table κ) (i : Fin maxTimers) : Call κ → Bool
  | .create .. => t.firstFree == some i
  | .destroy id => id == i.val
  | _ => false

theorem generation_apply (t : Table κ) (c : Call κ) (i : Fin maxTimers) :
    ((t.apply c).slot i).generation =
      (t.slot i).generation + if t.renews i c then 1 else 0 := by
  rw [slot_apply]
  cases c with
  | create => by_cases h : t.firstFree = some i <;> simp [renews, h]
  | destroy id => by_cases h : id = i.val <;> simp [renews, h]
  | pause id | resume id | reset id => by_cases h : id = i.val <;> simp [renews, h]
  | remaining => simp [renews]

/-- Only a renewal changes whether a place is in use. -/
theorem isSome_apply {t : Table κ} {c : Call κ} {i : Fin maxTimers} (h : t.renews i c = false) :
    ((t.apply c).slot i).timer.isSome = (t.slot i).timer.isSome := by
  rw [slot_apply]
  cases c with
  | create => simp_all [renews]
  | destroy id => simp_all [renews]
  | pause id | resume id | reset id => by_cases h : id = i.val <;> simp [h]
  | remaining => rfl

/-- A place is paused after a call that pauses it in use, and otherwise if it was and the call
    neither resumes nor renews it. -/
theorem isPaused_apply_iff (t : Table κ) (c : Call κ) (i : Fin maxTimers) :
    ((t.apply c).slot i).isPaused ↔
      (c = .pause i ∧ (t.slot i).timer.isSome) ∨
        (t.slot i).isPaused ∧ c ≠ .pause i ∧ c ≠ .resume i ∧ t.renews i c = false := by
  rw [slot_apply]
  cases c with
  | create => by_cases h : t.firstFree = some i <;> simp [renews, h]
  | destroy id => by_cases h : id = i.val <;> simp [renews, h]
  | pause id | resume id | reset id => by_cases h : id = i.val <;> simp [renews, h]
  | remaining => simp [renews]

end Table

/-! ## Events one after another -/

/-- What can happen to the table. -/
inductive Event (κ : Type) where
  | call (c : Call κ)
  /-- A period. -/
  | tick
  /-- All places are released. -/
  | clear
deriving DecidableEq

/-- A period is no renewal, whether the timer expires, is loaded again or only counts. -/
@[simp] theorem Slot.generation_next (s : Slot κ) : s.next.generation = s.generation := by
  unfold Slot.next
  cases s.active with
  | none => rfl
  | some e => dsimp only; split_ifs <;> rfl

namespace Table

/-- The table after an event. -/
def proceed (t : Table κ) : Event κ → Table κ
  | .call c => t.apply c
  | .tick => t.advance.2
  | .clear => t.clear

/-- The table after events, first to last. -/
def proceedAll (t : Table κ) (es : List (Event κ)) : Table κ := es.foldl proceed t

/-- The table after calls, first to last. -/
def applyAll (t : Table κ) (calls : List (Call κ)) : Table κ := calls.foldl apply t

/-- The event puts a timer in place `i`, or takes away what is there, if anything. -/
def renewedBy (t : Table κ) (i : Fin maxTimers) : Event κ → Bool
  | .call c => t.renews i c
  | .tick => false
  | .clear => true

/-- How many of the events put a timer in place `i` or take away what is there. -/
def renewed (i : Fin maxTimers) : Table κ → List (Event κ) → Nat
  | _, [] => 0
  | t, e :: es => (t.renewedBy i e).toNat + renewed i (t.proceed e) es

/-- How many of the calls do so. -/
def renewals (i : Fin maxTimers) (t : Table κ) (calls : List (Call κ)) : Nat :=
  renewed i t (calls.map .call)

/-- Place `id` was given out by `create`. -/
def Reissued (t : Table κ) (id : Nat) (es : List (Event κ)) : Prop :=
  ∃ before later timeout autoRestart payload t',
    es = before ++ .call (.create timeout autoRestart payload) :: later ∧
      (t.proceedAll before).create timeout autoRestart payload = .ok (id, t')

/-- The same by one of the calls. -/
def Given (t : Table κ) (i : Fin maxTimers) (calls : List (Call κ)) : Prop :=
  t.Reissued i (calls.map .call)

/-- Place `i` is in use when it is paused, and it is neither resumed nor renewed afterwards. -/
def HeldPaused (t : Table κ) (i : Fin maxTimers) (calls : List (Call κ)) : Prop :=
  ∃ before after, calls = before ++ .pause i :: after ∧
    ((t.applyAll before).slot i).timer.isSome ∧ .resume i ∉ after ∧
    renewals i (t.applyAll (before ++ [.pause i])) after = 0

section
variable (t : Table κ) (i : Fin maxTimers)

@[simp] theorem proceedAll_nil : t.proceedAll [] = t := rfl

@[simp] theorem proceedAll_cons (e : Event κ) (es : List (Event κ)) :
    t.proceedAll (e :: es) = (t.proceed e).proceedAll es := rfl

theorem proceedAll_append (a b : List (Event κ)) :
    t.proceedAll (a ++ b) = (t.proceedAll a).proceedAll b := List.foldl_append

@[simp] theorem applyAll_nil : t.applyAll [] = t := rfl

@[simp] theorem applyAll_cons (c : Call κ) (calls : List (Call κ)) :
    t.applyAll (c :: calls) = (t.apply c).applyAll calls := rfl

theorem applyAll_append (a b : List (Call κ)) :
    t.applyAll (a ++ b) = (t.applyAll a).applyAll b := List.foldl_append

/-- Calls are events. -/
theorem proceedAll_map_call (calls : List (Call κ)) :
    t.proceedAll (calls.map .call) = t.applyAll calls := List.foldl_map

theorem renewed_append (a b : List (Event κ)) :
    renewed i t (a ++ b) = renewed i t a + renewed i (t.proceedAll a) b := by
  induction a generalizing t with
  | nil => simp [renewed]
  | cons e a ih => simp only [List.cons_append, renewed, proceedAll_cons, ih]; omega

@[simp] theorem renewals_nil : renewals i t [] = 0 := rfl

theorem renewals_cons (c : Call κ) (calls : List (Call κ)) :
    renewals i t (c :: calls) = (t.renews i c).toNat + renewals i (t.apply c) calls := rfl

theorem renewals_append (a b : List (Call κ)) :
    renewals i t (a ++ b) = renewals i t a + renewals i (t.applyAll a) b := by
  rw [renewals, List.map_append, renewed_append, proceedAll_map_call]; rfl

/-! ## The generation -/

/-- A timer that is created renews the place that it is given. -/
theorem renewedBy_create_iff (timeout : UInt32) (autoRestart : Bool) (payload : κ) :
    t.renewedBy i (.call (.create timeout autoRestart payload)) ↔
      ∃ t', t.create timeout autoRestart payload = .ok (i.val, t') := by
  rw [create_eq_ok_iff]
  simp [renewedBy, renews]

/-- **The generation of a place moves on with a renewal, and with nothing else.** -/
theorem generation_proceed (e : Event κ) :
    ((t.proceed e).slot i).generation =
      (t.slot i).generation + if t.renewedBy i e then 1 else 0 := by
  cases e with
  | call c => exact generation_apply t c i
  | tick => simp [proceed, renewedBy]
  | clear => simp [proceed, renewedBy]

/-- It counts the renewals, and wraps. -/
theorem generation_proceedAll (es : List (Event κ)) :
    ((t.proceedAll es).slot i).generation =
      (t.slot i).generation + UInt32.ofNat (renewed i t es) := by
  induction es generalizing t with
  | nil => simp [renewed]
  | cons e es ih =>
    have hone : (if t.renewedBy i e then 1 else 0) = UInt32.ofNat (t.renewedBy i e).toNat := by
      cases t.renewedBy i e <;> rfl
    rw [proceedAll_cons, ih, generation_proceed, hone, renewed, UInt32.ofNat_add, UInt32.add_assoc]

/-- It is an old one again only after a multiple of 2³² renewals. -/
theorem generation_proceedAll_eq_iff (es : List (Event κ)) :
    ((t.proceedAll es).slot i).generation = (t.slot i).generation ↔
      renewed i t es % 2 ^ 32 = 0 := by
  rw [generation_proceedAll, ← UInt32.toNat_inj, UInt32.toNat_add, UInt32.toNat_ofNat']
  have := (t.slot i).generation.toNat_lt
  omega

variable {t i}

/-- Events leave a place alone when none of them takes away what is there and `create` never gives
    it out. -/
theorem renewed_eq_zero_iff {es : List (Event κ)} :
    renewed i t es = 0 ↔
      (∀ e ∈ es, e ≠ .call (.destroy i) ∧ e ≠ .clear) ∧ ¬ t.Reissued i es := by
  constructor
  · intro h
    have hsplit : ∀ before e after, es = before ++ e :: after →
        (t.proceedAll before).renewedBy i e = false := by
      rintro before e after rfl
      rw [renewed_append, renewed] at h
      exact Bool.toNat_eq_zero.1 (by omega)
    refine ⟨fun e he => ?_, ?_⟩
    · obtain ⟨before, after, hes⟩ := List.append_of_mem he
      have hone := hsplit before e after hes
      constructor
      · rintro rfl; simp [renewedBy, renews] at hone
      · rintro rfl; simp [renewedBy] at hone
    · rintro ⟨before, after, timeout, autoRestart, payload, t', hes, hc⟩
      have hone := hsplit before _ after hes
      rw [(renewedBy_create_iff ..).2 ⟨t', hc⟩] at hone
      cases hone
  · rintro ⟨hd, hg⟩
    induction es using List.reverseRecOn with
    | nil => rfl
    | append_singleton es e ih =>
      have hg' : ¬ t.Reissued i es := by
        rintro ⟨before, after, timeout, autoRestart, payload, t', rfl, hc⟩
        exact hg ⟨before, after ++ [e], timeout, autoRestart, payload, t', by simp, hc⟩
      have hone : (t.proceedAll es).renewedBy i e = false := by
        obtain ⟨hdestroy, hclear⟩ := hd e (by simp)
        cases e with
        | tick => rfl
        | clear => exact absurd rfl hclear
        | call c =>
          cases c with
          | create timeout autoRestart payload =>
            by_contra hr
            rw [Bool.not_eq_false] at hr
            obtain ⟨t', ht'⟩ := (renewedBy_create_iff ..).1 hr
            exact hg ⟨es, [], timeout, autoRestart, payload, t', rfl, ht'⟩
          | destroy id =>
            have hid : id ≠ i.val := by rintro rfl; exact hdestroy rfl
            simpa [renewedBy, renews] using hid
          | pause | resume | reset | remaining => rfl
      rw [renewed_append, ih (fun e' h => hd e' (by simp [h])) hg', renewed, hone]
      rfl

theorem renewals_eq_zero_iff {calls : List (Call κ)} :
    renewals i t calls = 0 ↔ (∀ c ∈ calls, c ≠ .destroy i) ∧ ¬ t.Given i calls := by
  rw [renewals, renewed_eq_zero_iff, Given]
  simp

/-! ## Calls one after another -/

theorem isSome_applyAll {calls : List (Call κ)} (h : renewals i t calls = 0) :
    ((t.applyAll calls).slot i).timer.isSome = (t.slot i).timer.isSome := by
  induction calls generalizing t with
  | nil => rfl
  | cons c calls ih =>
    rw [renewals_cons] at h
    have hc : t.renews i c = false := Bool.toNat_eq_zero.1 (by omega)
    rw [applyAll_cons, ih (by omega), isSome_apply hc]

/-- `create` never gives out a place that is in use. -/
theorem renews_of_isSome {c : Call κ} (hs : (t.slot i).timer.isSome) (hd : c ≠ .destroy i) :
    t.renews i c = false := by
  cases c with
  | create =>
    have hf : t.firstFree ≠ some i := by
      intro hf
      rw [timer_firstFree hf] at hs; simp at hs
    simpa [renews] using hf
  | destroy id => simpa [renews] using hd
  | pause | resume | reset | remaining => rfl

theorem renewals_of_isSome {calls : List (Call κ)} (hs : (t.slot i).timer.isSome)
    (hd : ∀ c ∈ calls, c ≠ .destroy i) : renewals i t calls = 0 := by
  induction calls generalizing t with
  | nil => rfl
  | cons c calls ih =>
    have hc := renews_of_isSome hs (hd c List.mem_cons_self)
    rw [renewals_cons, hc, ih (by rw [isSome_apply hc]; exact hs)
      fun c' h => hd c' (List.mem_cons_of_mem c h)]
    rfl

theorem heldPaused_append_singleton {calls : List (Call κ)} {c : Call κ} :
    t.HeldPaused i (calls ++ [c]) ↔
      (c = .pause i ∧ ((t.applyAll calls).slot i).timer.isSome) ∨
        t.HeldPaused i calls ∧ c ≠ .resume i ∧ (t.applyAll calls).renews i c = false := by
  constructor
  · rintro ⟨before, after, h, hs, hr, hn⟩
    rcases List.eq_nil_or_concat after with rfl | ⟨after, c', rfl⟩
    · obtain ⟨rfl, e⟩ := List.append_inj' h rfl
      rw [List.singleton_inj.1 e]; exact Or.inl ⟨rfl, hs⟩
    · rw [List.concat_eq_append] at hr hn
      rw [List.concat_eq_append, ← List.cons_append, ← List.append_assoc] at h
      obtain ⟨rfl, e⟩ := List.append_inj' h rfl
      obtain rfl := List.singleton_inj.1 e
      rw [renewals_append, Nat.add_eq_zero_iff] at hn
      refine Or.inr ⟨⟨before, after, rfl, hs, fun hm => hr (by simp [hm]), hn.1⟩, ?_, ?_⟩
      · rintro rfl; exact hr (by simp)
      · rw [← applyAll_append] at hn
        simpa [renewals_cons] using hn.2
  · rintro (⟨rfl, hs⟩ | ⟨⟨before, after, rfl, hs, hr, hn⟩, hc, hw⟩)
    · exact ⟨calls, [], by simp, hs, by simp, rfl⟩
    · refine ⟨before, after ++ [c], by simp, hs, ?_, ?_⟩
      · simp [hr, hc.symm]
      · rw [renewals_append, hn, ← applyAll_append]
        simpa [renewals_cons] using hw

/-- A timer that was not paused is paused after the calls when one of them paused it and none
    of the later ones let it go on or replaced it. -/
theorem isPaused_applyAll_iff (hp : (t.slot i).isPaused = false) {calls : List (Call κ)} :
    ((t.applyAll calls).slot i).isPaused ↔ t.HeldPaused i calls := by
  induction calls using List.reverseRecOn with
  | nil => simp [hp, HeldPaused]
  | append_singleton calls c ih =>
    rw [applyAll_append, heldPaused_append_singleton, applyAll_cons, applyAll_nil,
      isPaused_apply_iff, ih]
    by_cases hc : c = .pause i
    · subst hc
      -- a second pause holds what the first one did
      have : t.HeldPaused i calls → ((t.applyAll calls).slot i).timer.isSome := by
        rw [← ih]; exact Slot.isSome_of_isPaused
      simpa [renews] using this
    · simp [hc]

theorem owes_iff {d : Expiry κ} (hid : d.id = i) :
    t.owes d ↔ (t.slot i).generation = d.generation ∧ ¬ (t.slot i).isPaused := by
  have hi : d.id < maxTimers := hid ▸ i.isLt
  have he : (⟨d.id, hi⟩ : Fin maxTimers) = i := Fin.ext hid
  rw [owes, dif_pos hi, he]
  simp

/-- **When a callback is still owed.**  No timer was put in its place or taken away, or 2³² times
    so, and its place is not held by a timer that is paused. -/
theorem owes_proceedAll {d : Expiry κ} (hid : d.id = i)
    (hg : (t.slot i).generation = d.generation) (es : List (Event κ)) :
    (t.proceedAll es).owes d ↔
      renewed i t es % 2 ^ 32 = 0 ∧ ¬ ((t.proceedAll es).slot i).isPaused := by
  rw [owes_iff hid, ← hg, generation_proceedAll_eq_iff]

theorem owes_applyAll {d : Expiry κ} (hid : d.id = i)
    (hg : (t.slot i).generation = d.generation) (hp : (t.slot i).isPaused = false)
    (calls : List (Call κ)) :
    (t.applyAll calls).owes d ↔ renewals i t calls % 2 ^ 32 = 0 ∧ ¬ t.HeldPaused i calls := by
  rw [← isPaused_applyAll_iff hp, ← proceedAll_map_call, owes_proceedAll hid hg]
  rfl

end

end Table

end Carousel.Timer
