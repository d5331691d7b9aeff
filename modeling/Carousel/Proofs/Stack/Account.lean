/-
  Carousel — the account of the memory for stacks.

  * `Arena.ask` and `Arena.askAll`: a request for a stack, and requests one after the other;
  * `cuts`: the stacks among the answers;
  * `Tiles`: stacks that lie one right below the other, with `Tiles.sum` for the bytes that they
    take and `Tiles.getLast` for where the next one comes;
  * `Sound.askAll`: whatever is asked for, the stacks that are cut tile what is gone;
  * `account_exact`: so no byte is lost, and none is given out that is not there.
-/
import Carousel.Proofs.Stack.Arena
import Mathlib.Algebra.GroupWithZero.Nat

namespace Carousel.Stack

/-! ## Requests -/

namespace Arena

/-- Ask for a stack of at least `size` bytes.  A request that is refused takes nothing. -/
def ask (a : Arena) (size : UInt64) : Except Fault Region × Arena :=
  match a.cut size with
  | .error e => (.error e, a)
  | .ok (r, a') => (.ok r, a')

/-- Requests, first to last: what is answered to each, and what is left after them. -/
def askAll (a : Arena) : List UInt64 → List (Except Fault Region) × Arena
  | [] => ([], a)
  | size :: sizes =>
    let later := (a.ask size).2.askAll sizes
    ((a.ask size).1 :: later.1, later.2)

variable {a a' : Arena} {size : UInt64}

theorem ask_of_error {e : Fault} (h : a.cut size = .error e) : a.ask size = (.error e, a) := by
  rw [ask, h]

theorem ask_of_ok {r : Region} (h : a.cut size = .ok (r, a')) : a.ask size = (.ok r, a') := by
  rw [ask, h]

theorem ask_eq_error_iff {e : Fault} : (a.ask size).1 = .error e ↔ a.cut size = .error e := by
  cases h : a.cut size with
  | error => simp [ask_of_error h]
  | ok => simp [ask_of_ok h]

theorem ask_eq_ok_iff {r : Region} :
    (a.ask size).1 = .ok r ↔ a.cut size = .ok (r, (a.ask size).2) := by
  cases h : a.cut size with
  | error => simp [ask_of_error h]
  | ok => simp [ask_of_ok h, Prod.ext_iff]

/-- What is not refused is granted. -/
theorem exists_ask_eq_ok_iff :
    (∃ r, (a.ask size).1 = .ok r) ↔
      size ≠ 0 ∧ (size.toNat + 7) / 8 * 8 ≤ a.remaining.toNat := by
  have hrefused : (∃ r, (a.ask size).1 = .ok r) ↔ ¬ ∃ e, (a.ask size).1 = .error e := by
    cases (a.ask size).1 <;> simp
  simp only [hrefused, ask_eq_error_iff, cut_eq_error_iff]
  by_cases h0 : size = 0
  · simp [h0]
  · simp [h0]

end Arena

/-- The stacks among the answers, first to last. -/
def cuts (answers : List (Except Fault Region)) : List Region :=
  answers.filterMap Except.toOption

/-! ## Stacks one below the other -/

/-- The stacks lie one right below the other, from `top` down to `bottom`. -/
inductive Tiles : Nat → List Region → Nat → Prop
  | nil {top : Nat} : Tiles top [] top
  | cons {top next bottom : Nat} {r : Region} {rs : List Region} :
      r.top.toNat = top → next + r.size.toNat = top → Tiles next rs bottom →
      Tiles top (r :: rs) bottom

namespace Tiles

variable {top bottom : Nat} {rs : List Region}

/-- All bytes between the ends belong to one of the stacks. -/
theorem sum (h : Tiles top rs bottom) : bottom + (rs.map (·.size.toNat)).sum = top := by
  induction h with
  | nil => simp
  | cons _ hnext _ ih =>
    rw [List.map_cons, List.sum_cons, ← hnext, ← ih]
    omega

/-- Below the last stack there is nothing but its lower end. -/
theorem getLast (h : Tiles top rs bottom) :
    (rs = [] → bottom = top) ∧
      ∀ r, rs.getLast? = some r → bottom + r.size.toNat = r.top.toNat := by
  induction h with
  | nil => simp
  | @cons top next bottom r rs htop hnext hrest ih =>
    obtain ⟨hnil, hlast⟩ := ih
    refine ⟨nofun, fun p hp => ?_⟩
    rw [List.getLast?_cons, Option.some.injEq] at hp
    cases hr : rs.getLast? with
    | none =>
      rw [hr] at hp
      obtain rfl : r = p := hp
      rw [hnil (List.getLast?_eq_none_iff.1 hr), htop, hnext]
    | some q =>
      rw [hr] at hp
      obtain rfl : q = p := hp
      exact hlast q hr

end Tiles

namespace Arena

/-- What is left does not end below where it begins. -/
def Sound (a : Arena) : Prop := a.base.toNat ≤ a.top.toNat

variable {a : Arena} {base : Address} {length : UInt64}

theorem Sound.remaining (h : a.Sound) : a.base.toNat + a.remaining.toNat = a.top.toNat := by
  have hle : a.base ≤ a.top := UInt64.le_iff_toNat_le.2 h
  rw [Arena.remaining, if_pos hle, UInt64.toNat_sub_of_le _ _ hle]
  exact Nat.add_sub_cancel' h

theorem sound_spanning (hfit : base.toNat + length.toNat < 2 ^ 64)
    (hend : base.toNat ≤ (base.toNat + length.toNat) / 8 * 8) : (spanning base length).Sound := by
  rw [Sound, toNat_top_spanning_eq hfit]
  exact hend

/-- A stack that is cut takes its size from what is left. -/
theorem Sound.cut (h : a.Sound) {a' : Arena} {size : UInt64} {r : Region}
    (hcut : a.cut size = .ok (r, a')) :
    a'.Sound ∧ a'.base = a.base ∧ r.top = a.top ∧
      a'.top.toNat + r.size.toNat = a.top.toNat ∧
      a'.remaining.toNat + r.size.toNat = a.remaining.toNat := by
  obtain ⟨htop, hbase, -, hsound, hnext⟩ := cut_eq_ok hcut
  refine ⟨hsound, hbase, htop, hnext, ?_⟩
  have hleft := Sound.remaining hsound
  have hall := h.remaining
  rw [hbase] at hleft
  omega

/-- **Requests.**  What is left begins where it began, and between its end and the end that it had
    there is nothing but the stacks that were cut. -/
theorem Sound.askAll (h : a.Sound) (sizes : List UInt64) :
    (a.askAll sizes).2.Sound ∧ (a.askAll sizes).2.base = a.base ∧
      Tiles a.top.toNat (cuts (a.askAll sizes).1) (a.askAll sizes).2.top.toNat := by
  induction sizes generalizing a with
  | nil => exact ⟨h, rfl, .nil⟩
  | cons size sizes ih =>
    rw [Arena.askAll]
    cases hcut : a.cut size with
    | error e =>
      rw [ask_of_error hcut]
      exact ih h
    | ok made =>
      obtain ⟨r, a'⟩ := made
      obtain ⟨hsound, hbase, htop, hnext, -⟩ := h.cut hcut
      obtain ⟨hlast, hbases, htiles⟩ := ih hsound
      rw [ask_of_ok hcut]
      exact ⟨hlast, hbases.trans hbase, .cons (congrArg UInt64.toNat htop) hnext htiles⟩

/-- What is gone went into the stacks that were cut. -/
theorem Sound.sum_askAll (h : a.Sound) (sizes : List UInt64) :
    (a.askAll sizes).2.remaining.toNat +
      ((cuts (a.askAll sizes).1).map (·.size.toNat)).sum = a.remaining.toNat := by
  obtain ⟨hlast, hbase, htiles⟩ := h.askAll sizes
  have hall := h.remaining
  have hleft := hlast.remaining
  rw [hbase] at hleft
  have hsum := htiles.sum
  omega

/-- **The memory for stacks is accounted for to the byte.**  Take memory whose bytes have addresses
    and whose last aligned address is not below its base, and whatever was asked of it so far.  What
    is left and the stacks that were cut are together what there was at first.  The next request is
    refused as a wrong one just when it is for no bytes, and otherwise for want of room just when
    its size, rounded up to whole alignments, is more than what is left; and it is refused for
    nothing else.  A request that is refused changes nothing.  One that is not gets its size,
    rounded up, right below the last stack that was cut, or below the last aligned address if it is
    the first one, and above the base; and what is left is less by just that size. -/
theorem account_exact (hfit : base.toNat + length.toNat < 2 ^ 64)
    (hend : base.toNat ≤ (base.toNat + length.toNat) / 8 * 8) (sizes : List UInt64)
    (size : UInt64) :
    let first := spanning base length
    let given := cuts (first.askAll sizes).1
    let now := (first.askAll sizes).2
    let answer := (now.ask size).1
    let after := (now.ask size).2
    let bytes := (size.toNat + 7) / 8 * 8
    base.toNat + first.remaining.toNat = (base.toNat + length.toNat) / 8 * 8 ∧
    now.remaining.toNat + (given.map (·.size.toNat)).sum = first.remaining.toNat ∧
    now.base = base ∧ base.toNat + now.remaining.toNat = now.top.toNat ∧
    (answer = .error .parameter ↔ size = 0) ∧
    (answer = .error .exhausted ↔ size ≠ 0 ∧ now.remaining.toNat < bytes) ∧
    ((∃ r, answer = .ok r) ↔ size ≠ 0 ∧ bytes ≤ now.remaining.toNat) ∧
    (∀ e, answer = .error e → after = now) ∧
    ∀ r, answer = .ok r →
      r.size.toNat = bytes ∧ base.toNat + bytes ≤ r.top.toNat ∧
      (given = [] → r.top.toNat = (base.toNat + length.toNat) / 8 * 8) ∧
      (∀ p, given.getLast? = some p → r.top.toNat + p.size.toNat = p.top.toNat) ∧
      after.base = base ∧ after.top.toNat + bytes = r.top.toNat ∧
      after.remaining.toNat + bytes = now.remaining.toNat := by
  intro first given now answer after bytes
  have hfirst : first.Sound := sound_spanning hfit hend
  have hend : first.top.toNat = (base.toNat + length.toNat) / 8 * 8 := toNat_top_spanning_eq hfit
  obtain ⟨hnow, hbase, htiles⟩ := hfirst.askAll sizes
  obtain ⟨hempty, hlast⟩ := htiles.getLast
  have hbase : now.base = base := hbase
  have herror : ∀ e, answer = .error e ↔ size = 0 ∧ e = .parameter ∨
      size ≠ 0 ∧ now.remaining.toNat < bytes ∧ e = .exhausted := fun e =>
    ask_eq_error_iff.trans cut_eq_error_iff
  refine ⟨hfirst.remaining.trans hend, hfirst.sum_askAll sizes, hbase, ?_, ?_, ?_,
    exists_ask_eq_ok_iff, ?_, ?_⟩
  · rw [← hbase]
    exact hnow.remaining
  · rw [herror]
    simp
  · rw [herror]
    simp
  · intro e he
    exact congrArg Prod.snd (ask_of_error (ask_eq_error_iff.1 he))
  · intro r hr
    have hcut : now.cut size = .ok (r, after) := ask_eq_ok_iff.1 hr
    have hsize : r.size.toNat = bytes := size_cut_eq hcut
    obtain ⟨hsound, hkept, htop, hnext, hrest⟩ := hnow.cut hcut
    rw [hbase] at hkept
    rw [Sound, hkept] at hsound
    rw [hsize] at hnext hrest
    rw [htop]
    refine ⟨hsize, ?_, fun hnone => ?_, hlast, hkept, hnext, hrest⟩
    · rw [← hnext]
      exact Nat.add_le_add_right hsound bytes
    · rw [← hend]
      exact hempty hnone

/-- The base is odd, the second request is for nothing, and the third one is so large that rounding
    it up wraps around.  Then there is room for four alignments, but not for one byte more. -/
theorem account_exact_oddBase :
    let first := spanning 0x20000003 61
    let now := (first.askAll [1, 0, 0xfffffffffffffff9, 16]).2
    first.remaining = 61 ∧ now.remaining = 37 ∧
      (now.ask 33).1 = .error .exhausted ∧ (now.ask 33).2 = now ∧
      (now.ask 32).1 = .ok ⟨0x20000028, 32⟩ ∧ (now.ask 32).2.remaining = 5 := by
  intro first now
  have hgiven : cuts (first.askAll [1, 0, 0xfffffffffffffff9, 16]).1 =
      [⟨0x20000040, 8⟩, ⟨0x20000038, 16⟩] := by decide
  have hfit : (0x20000003 : Address).toNat + (61 : UInt64).toNat < 2 ^ 64 := by decide
  have hend : (0x20000003 : Address).toNat ≤
      ((0x20000003 : Address).toNat + (61 : UInt64).toNat) / 8 * 8 := by decide
  obtain ⟨hall, hsum, -, -, -, hfull, -, hsame, -⟩ :=
    account_exact hfit hend [1, 0, 0xfffffffffffffff9, 16] 33
  obtain ⟨-, -, -, -, -, -, hroom, -, hmade⟩ :=
    account_exact hfit hend [1, 0, 0xfffffffffffffff9, 16] 32
  have hfirst : first.remaining.toNat = 61 := Nat.add_left_cancel hall
  have hnow : now.remaining.toNat = 37 := by
    rw [hgiven] at hsum
    exact Nat.add_right_cancel (hsum.trans hfirst)
  have hrefused := hfull.2 ⟨by decide, by rw [hnow]; decide⟩
  obtain ⟨r, hr⟩ := hroom.2 ⟨by decide, by rw [hnow]; decide⟩
  obtain ⟨hsize, -, -, hlast, -, -, hrest⟩ := hmade r hr
  have htop : r.top.toNat = 0x20000028 := by
    have hlast := hlast ⟨0x20000038, 16⟩ (by rw [hgiven]; rfl)
    exact Nat.add_right_cancel hlast
  have hregion : r = ⟨0x20000028, 32⟩ := by
    rw [Region.mk.injEq]
    exact ⟨UInt64.toNat_inj.1 htop, UInt64.toNat_inj.1 hsize⟩
  rw [hnow] at hrest
  exact ⟨UInt64.toNat_inj.1 hfirst, UInt64.toNat_inj.1 hnow, hrefused, hsame _ hrefused,
    hregion ▸ hr, UInt64.toNat_inj.1 (Nat.add_right_cancel hrest)⟩

end Arena

end Carousel.Stack
