/-
  Carousel — how exact the dividers of a timer's clock are.

  * `exactDivider`: the dividers computed with steps that come to nothing where a machine word would
    not hold the result;
  * `toNat_counts` and `isLeast_division`: the counts of a period and the prescaler, as numbers;
  * `InReach.product`: how close both dividers together come to the counts;
  * `exactDivider_eq`: no step of the computation loses any of it;
  * `divider_exact`: when there are dividers, and how close they come to the period.
-/
import Carousel.Clock.Divider
import Mathlib.Algebra.Order.Ring.Nat
import Mathlib.Order.Bounds.Basic
import Mathlib.Tactic.SplitIfs

namespace Carousel.Clock

/-! ## Steps that lose nothing -/

/-- The product of two words, if it is one. -/
def exactMul (a b : UInt64) : Option UInt64 :=
  if a.toNat * b.toNat < 2 ^ 64 then some (a * b) else none

/-- The sum of two words, if it is one. -/
def exactAdd (a b : UInt64) : Option UInt64 :=
  if a.toNat + b.toNat < 2 ^ 64 then some (a + b) else none

/-- The difference of two words, if it is not below zero. -/
def exactSub (a b : UInt64) : Option UInt64 :=
  if b.toNat ≤ a.toNat then some (a - b) else none

/-- The quotient of two words, if there is one. -/
def exactDiv (a b : UInt64) : Option UInt64 := if b = 0 then none else some (a / b)

/-- What is left over, if there is a quotient. -/
def exactMod (a b : UInt64) : Option UInt64 := if b = 0 then none else some (a % b)

/-- A word as one of 16 bits, if it fits. -/
def exactNarrow (a : UInt64) : Option UInt16 :=
  if a.toNat < 2 ^ 16 then some a.toUInt16 else none

/-- The dividers for a period, by such steps. -/
def exactDivider (clockHz periodMs : UInt32) : Option (Except Fault Divider) := do
  let n ← exactDiv (← exactMul clockHz.toUInt64 periodMs.toUInt64) 1000
  if n = 0 then return .error .hardware
  let rest ← exactMod n maxDivision
  let d ← exactAdd (← exactDiv n maxDivision) (if rest = 0 then 0 else 1)
  if maxDivision < d then return .error .hardware
  let prescaler ← exactNarrow (← exactSub d 1)
  let reload ← exactNarrow (← exactSub (← exactDiv n d) 1)
  return .ok ⟨prescaler, reload⟩

/-! ## The counts -/

theorem mul_lt (clockHz periodMs : UInt32) : clockHz.toNat * periodMs.toNat < 2 ^ 64 :=
  calc clockHz.toNat * periodMs.toNat < 2 ^ 32 * 2 ^ 32 :=
        Nat.mul_lt_mul'' clockHz.toNat_lt periodMs.toNat_lt
    _ = 2 ^ 64 := by decide

theorem toNat_counts (clockHz periodMs : UInt32) :
    (counts clockHz periodMs).toNat = clockHz.toNat * periodMs.toNat / 1000 := by
  rw [counts, UInt64.toNat_div, UInt64.toNat_mul, UInt32.toNat_toUInt64, UInt32.toNat_toUInt64,
    Nat.mod_eq_of_lt (mul_lt clockHz periodMs)]
  rfl

/-! ## The two divisions -/

/-- What the prescaler divides by. -/
def division (n : UInt64) : UInt64 := n / maxDivision + if n % maxDivision = 0 then 0 else 1

theorem divider_eq (clockHz periodMs : UInt32) :
    divider clockHz periodMs =
      let n := counts clockHz periodMs
      if n = 0 then .error .hardware
      else if maxDivision < division n then .error .hardware
      else .ok ⟨(division n - 1).toUInt16, (n / division n - 1).toUInt16⟩ := rfl

theorem toNat_division (n : UInt64) : (division n).toNat = (n.toNat + 65535) / 65536 := by
  have hmax : maxDivision.toNat = 65536 := rfl
  have hn := n.toNat_lt
  have hrest : n % maxDivision = 0 ↔ n.toNat % 65536 = 0 := by
    rw [← UInt64.toNat_inj, UInt64.toNat_mod, hmax]; rfl
  rw [division, UInt64.toNat_add, UInt64.toNat_div, hmax]
  split_ifs with h
  · rw [hrest] at h
    rw [UInt64.toNat_zero]
    omega
  · rw [hrest] at h
    rw [UInt64.toNat_one]
    omega

/-- It is the least number that leaves the rest to the counter. -/
theorem isLeast_division (n : UInt64) :
    IsLeast {d | n.toNat ≤ d * 2 ^ 16} (division n).toNat := by
  rw [toNat_division]
  constructor
  · rw [Set.mem_ofPred_eq]; omega
  · intro d hd
    rw [Set.mem_ofPred_eq] at hd; omega

/-- There are counts, and no more of them than two dividers can divide by. -/
def InReach (n : UInt64) : Prop := 1 ≤ n.toNat ∧ n.toNat ≤ 2 ^ 32

theorem inReach_iff : InReach n ↔ n ≠ 0 ∧ ¬ maxDivision < division n := by
  have hmax : maxDivision.toNat = 65536 := rfl
  have hzero : n = 0 ↔ n.toNat = 0 := by rw [← UInt64.toNat_inj]; rfl
  rw [InReach, ne_eq, hzero, UInt64.lt_iff_toNat_lt, toNat_division, hmax]
  omega

/-- Both divisions are by numbers from 1 to 65536. -/
theorem InReach.bounds (h : InReach n) :
    1 ≤ (division n).toNat ∧ (division n).toNat ≤ 2 ^ 16 ∧
      1 ≤ n.toNat / (division n).toNat ∧ n.toNat / (division n).toNat ≤ 2 ^ 16 := by
  obtain ⟨hlow, hhigh⟩ := h
  have hd := toNat_division n
  have hpos : 1 ≤ (division n).toNat := by omega
  have hle : (division n).toNat ≤ n.toNat := by omega
  refine ⟨hpos, by omega, Nat.div_pos hle hpos, Nat.div_le_of_le_mul ?_⟩
  exact (isLeast_division n).1

theorem toNat_sub_one {a : UInt64} (h : 1 ≤ a.toNat) : (a - 1).toNat = a.toNat - 1 :=
  UInt64.toNat_sub_of_le _ _ (UInt64.le_iff_toNat_le.2 h)

/-- The registers say one less. -/
theorem InReach.toNat_registers (h : InReach n) :
    (division n - 1).toUInt16.toNat + 1 = (division n).toNat ∧
      (n / division n - 1).toUInt16.toNat + 1 = n.toNat / (division n).toNat := by
  obtain ⟨hd, hd', hr, hr'⟩ := h.bounds
  rw [← UInt64.toNat_div] at hr hr' ⊢
  have hnarrow : ∀ a : UInt64, 1 ≤ a.toNat → a.toNat ≤ 2 ^ 16 →
      (a - 1).toUInt16.toNat + 1 = a.toNat := by
    intro a ha ha'
    rw [UInt64.toNat_toUInt16, toNat_sub_one ha]
    omega
  exact ⟨hnarrow _ hd hd', hnarrow _ hr hr'⟩

/-- A number divided by one that is not zero, and multiplied again: what is missing is less. -/
theorem InReach.product (h : InReach n) :
    let d := (division n).toNat
    let product := d * (n.toNat / d)
    n.toNat < product + d ∧ product ≤ n.toNat ∧ (n.toNat ≤ 2 ^ 16 → product = n.toNat) ∧
      2 ^ 16 * (n.toNat - product) < n.toNat := by
  intro d product
  have hd : d = (n.toNat + 65535) / 65536 := toNat_division n
  have hrest := Nat.div_add_mod n.toNat d
  have hlt := Nat.mod_lt n.toNat (y := d) h.bounds.1
  obtain ⟨hlow, -⟩ := h
  refine ⟨by omega, by omega, fun hsmall => ?_, ?_⟩
  · have hone : d = 1 := by omega
    simp [product, hone]
  · -- the least `d` is less than one more than the counts in units of 65536
    have hleast : (d - 1) * 65536 < n.toNat := by omega
    omega

/-! ## The dividers -/

/-- No step of the computation loses anything. -/
theorem exactDivider_eq (clockHz periodMs : UInt32) :
    exactDivider clockHz periodMs = some (divider clockHz periodMs) := by
  have hmul : exactMul clockHz.toUInt64 periodMs.toUInt64 =
      some (clockHz.toUInt64 * periodMs.toUInt64) := if_pos (mul_lt clockHz periodMs)
  have hcounts : exactDiv (clockHz.toUInt64 * periodMs.toUInt64) 1000 =
      some (counts clockHz periodMs) := if_neg (by decide)
  rw [divider_eq, exactDivider, hmul]
  simp only [Option.bind_eq_bind, Option.bind_some, hcounts]
  generalize counts clockHz periodMs = n
  have hmod : exactMod n maxDivision = some (n % maxDivision) := rfl
  have hdiv : exactDiv n maxDivision = some (n / maxDivision) := rfl
  have hadd : exactAdd (n / maxDivision) (if n % maxDivision = 0 then 0 else 1) =
      some (division n) := by
    have hone : (if n % maxDivision = 0 then 0 else 1 : UInt64).toNat ≤ 1 := by
      split_ifs <;> decide
    have hmax : maxDivision.toNat = 65536 := rfl
    have hn := n.toNat_lt
    refine if_pos ?_
    rw [UInt64.toNat_div, hmax]
    omega
  simp only [hmod, hdiv, hadd, Option.bind_some]
  by_cases hzero : n = 0
  · simp only [hzero, if_true]
    rfl
  by_cases hbig : maxDivision < division n
  · simp only [hzero, hbig, if_true, if_false]
    rfl
  obtain ⟨hd, hd', hr, hr'⟩ := (inReach_iff.2 ⟨hzero, hbig⟩).bounds
  have hquotient : exactDiv n (division n) = some (n / division n) := by
    refine if_neg fun h => ?_
    rw [h] at hd
    cases hd
  rw [← UInt64.toNat_div] at hr hr'
  have hless : ∀ a : UInt64, 1 ≤ a.toNat → a.toNat ≤ 2 ^ 16 →
      exactSub a 1 = some (a - 1) ∧ exactNarrow (a - 1) = some (a - 1).toUInt16 := by
    intro a ha ha'
    refine ⟨if_pos ha, if_pos ?_⟩
    rw [toNat_sub_one ha]
    omega
  simp only [hzero, hbig, if_false, hless _ hd hd', hquotient, hless _ hr hr', Option.bind_some]
  rfl

/-- **The dividers come as close to a period as they can.**  No step of their computation
    overflows, divides by zero, goes below zero or is cut off.  There are dividers if the period has
    at least one count of the clock and at most 2³² of them, and otherwise the clock is refused.  The
    prescaler divides by the least number that leaves the rest to the counter.  Together the two
    divide by no more than the counts, and by exactly that if the counter alone can do it; what is
    missing is less than the prescaler divides by, and less than one part in 65536. -/
theorem divider_exact (clockHz periodMs : UInt32) :
    exactDivider clockHz periodMs = some (divider clockHz periodMs) ∧
    let n := clockHz.toNat * periodMs.toNat / 1000
    (¬ (1 ≤ n ∧ n ≤ 2 ^ 32) → divider clockHz periodMs = .error .hardware) ∧
    (1 ≤ n ∧ n ≤ 2 ^ 32 → ∃ d, divider clockHz periodMs = .ok d ∧
      let division := d.prescaler.toNat + 1
      let product := division * (d.reload.toNat + 1)
      IsLeast {k | n ≤ k * 2 ^ 16} division ∧ n < product + division ∧ product ≤ n ∧
        (n ≤ 2 ^ 16 → product = n) ∧ 2 ^ 16 * (n - product) < n) := by
  refine ⟨exactDivider_eq clockHz periodMs, ?_⟩
  intro n
  have hn : (counts clockHz periodMs).toNat = n := toNat_counts clockHz periodMs
  refine ⟨fun hout => ?_, fun hin => ?_⟩
  · rw [← hn] at hout
    have hout' := mt inReach_iff.2 hout
    rw [divider_eq]
    dsimp only
    split_ifs with hzero hbig
    · rfl
    · rfl
    · exact absurd ⟨hzero, hbig⟩ hout'
  · rw [← hn] at hin ⊢
    obtain ⟨hzero, hbig⟩ := inReach_iff.1 hin
    obtain ⟨hprescaler, hreload⟩ := InReach.toNat_registers hin
    refine ⟨_, by rw [divider_eq]; dsimp only; rw [if_neg hzero, if_neg hbig], ?_⟩
    dsimp only
    rw [hprescaler, hreload]
    exact ⟨isLeast_division _, InReach.product hin⟩

/-- The most counts that there are dividers for, and one more. -/
theorem divider_exact_most :
    divider 2147483648 2000 = .ok ⟨65535, 65535⟩ ∧ 2147483648 * 2000 / 1000 = 2 ^ 32 ∧
      IsLeast {k | 2 ^ 32 ≤ k * 2 ^ 16} (2 ^ 16) ∧
      6700417 * 641000 / 1000 = 2 ^ 32 + 1 ∧ divider 6700417 641000 = .error .hardware := by
  obtain ⟨-, -, hin⟩ := divider_exact 2147483648 2000
  obtain ⟨-, hout, -⟩ := divider_exact 6700417 641000
  obtain ⟨d, hd, hleast, -⟩ := hin (by decide)
  have hmost : divider 2147483648 2000 = .ok ⟨65535, 65535⟩ := by decide
  obtain rfl : d = ⟨65535, 65535⟩ := Except.ok.inj (hd.symm.trans hmost)
  exact ⟨hmost, by decide, hleast, by decide, hout (by decide)⟩

end Carousel.Clock
