/-
  Carousel — what is cut off the memory for stacks.

  * `toNat_roundDown`, `roundUp?_eq_some` and `roundUp?_eq_none`: rounding, in numbers;
  * `cut_eq_ok`, `size_cut` and `size_cut_eq`: a stack that is cut lies between the base and the top
    that the memory had, and is what was asked for in whole alignments;
  * `cut_eq_error_iff`: when no stack is cut;
  * `toNat_top_spanning_eq`: where the memory ends from which stacks are cut.
-/
import Carousel.Stack.Arena
import Mathlib.Algebra.Group.Nat.Defs
import Mathlib.Tactic.SplitIfs

namespace Carousel.Stack

theorem toNat_alignment : alignment.toNat = 8 := rfl

theorem toNat_roundDown (a : UInt64) : (roundDown a).toNat = a.toNat - a.toNat % 8 := by
  have hle : a % alignment ≤ a := by
    rw [UInt64.le_iff_toNat_le, UInt64.toNat_mod]; exact Nat.mod_le _ _
  rw [roundDown, UInt64.toNat_sub_of_le _ _ hle, UInt64.toNat_mod, toNat_alignment]

/-- Rounding up gives the next multiple of eight. -/
theorem roundUp?_eq_some {n m : UInt64} (h : roundUp? n = some m) :
    n.toNat ≤ m.toNat ∧ m.toNat < n.toNat + 8 ∧ m.toNat % 8 = 0 := by
  unfold roundUp? at h
  dsimp only at h
  split_ifs at h with hw
  obtain rfl := Option.some.inj h
  rw [UInt64.lt_iff_toNat_lt, UInt64.toNat_add] at hw
  have h7 : (alignment - 1).toNat = 7 := rfl
  have := n.toNat_lt
  rw [toNat_roundDown, UInt64.toNat_add]
  omega

/-- What is too large for an address has no multiple of eight above it that is one. -/
theorem roundUp?_eq_none {n : UInt64} :
    roundUp? n = none ↔ 2 ^ 64 ≤ (n.toNat + 7) / 8 * 8 := by
  have h7 : (alignment - 1).toNat = 7 := rfl
  have hn := n.toNat_lt
  have hwrap : n + (alignment - 1) < n ↔ 2 ^ 64 ≤ n.toNat + 7 := by
    rw [UInt64.lt_iff_toNat_lt, UInt64.toNat_add, h7]
    omega
  unfold roundUp?
  dsimp only
  split_ifs with hw
  · rw [hwrap] at hw
    simp only [true_iff]
    omega
  · rw [hwrap] at hw
    simp only [false_iff]
    omega

namespace Arena

/-- A stack is cut off the top, and is at least as large as was asked for. -/
theorem cut_eq_ok {a a' : Arena} {size : UInt64} {r : Region} (h : a.cut size = .ok (r, a')) :
    r.top = a.top ∧ a'.base = a.base ∧ size.toNat ≤ r.size.toNat ∧
      a'.base.toNat ≤ a'.top.toNat ∧ a'.top.toNat + r.size.toNat = a.top.toNat := by
  unfold cut at h
  split_ifs at h with h0
  cases hr : roundUp? size with
  | none => simp [hr] at h
  | some m =>
    simp only [hr] at h
    split_ifs at h with hm
    obtain ⟨rfl, rfl⟩ := Prod.mk.inj (Except.ok.inj h)
    have hle := (roundUp?_eq_some hr).1
    have hpos : 0 < size.toNat := Nat.pos_of_ne_zero fun h => h0 (UInt64.toNat_inj.1 h)
    unfold remaining at hm
    split_ifs at hm with hb
    · rw [UInt64.not_lt, UInt64.le_iff_toNat_le, UInt64.toNat_sub_of_le _ _ hb] at hm
      rw [UInt64.le_iff_toNat_le] at hb
      have htop : (a.top - m).toNat = a.top.toNat - m.toNat :=
        UInt64.toNat_sub_of_le _ _ (by rw [UInt64.le_iff_toNat_le]; omega)
      refine ⟨rfl, rfl, hle, ?_, ?_⟩
      · dsimp only; omega
      · dsimp only; omega
    · rw [UInt64.not_lt, UInt64.le_iff_toNat_le] at hm
      have : (0 : UInt64).toNat = 0 := rfl
      omega

theorem roundUp?_of_cut {a a' : Arena} {size : UInt64} {r : Region} (h : a.cut size = .ok (r, a')) :
    roundUp? size = some r.size := by
  unfold cut at h
  split_ifs at h
  cases hr : roundUp? size with
  | none => simp [hr] at h
  | some m =>
    simp only [hr] at h
    split_ifs at h
    obtain ⟨rfl, -⟩ := Prod.mk.inj (Except.ok.inj h)
    rfl

/-- Stacks are a whole number of alignments. -/
theorem size_cut {a a' : Arena} {size : UInt64} {r : Region} (h : a.cut size = .ok (r, a')) :
    r.size.toNat % 8 = 0 :=
  (roundUp?_eq_some (roundUp?_of_cut h)).2.2

/-- They are as large as was asked for, rounded up to whole alignments. -/
theorem size_cut_eq {a a' : Arena} {size : UInt64} {r : Region} (h : a.cut size = .ok (r, a')) :
    r.size.toNat = (size.toNat + 7) / 8 * 8 := by
  have := roundUp?_eq_some (roundUp?_of_cut h)
  omega

/-- A request for no bytes is refused, and so is one for more bytes, in whole alignments, than are
    left. -/
theorem cut_eq_error_iff {a : Arena} {size : UInt64} {e : Fault} :
    a.cut size = .error e ↔
      size = 0 ∧ e = .parameter ∨
        size ≠ 0 ∧ a.remaining.toNat < (size.toNat + 7) / 8 * 8 ∧ e = .exhausted := by
  unfold cut
  by_cases h0 : size = 0
  · simp [h0, eq_comm]
  simp only [h0, if_false, false_and, false_or, ne_eq, not_false_eq_true, true_and]
  cases hr : roundUp? size with
  | none =>
    have hbig := roundUp?_eq_none.1 hr
    have hleft := a.remaining.toNat_lt
    have hlt : a.remaining.toNat < (size.toNat + 7) / 8 * 8 := by omega
    simp [hlt, eq_comm]
  | some m =>
    have hm : m.toNat = (size.toNat + 7) / 8 * 8 := by
      have := roundUp?_eq_some hr
      omega
    rw [← hm, ← UInt64.lt_iff_toNat_lt]
    by_cases hlt : a.remaining < m <;> simp [hlt, eq_comm]

/-- The memory for stacks ends at the last aligned address within the bytes that were given. -/
theorem toNat_top_spanning_eq {base : Address} {length : UInt64}
    (h : base.toNat + length.toNat < 2 ^ 64) :
    (spanning base length).top.toNat = (base.toNat + length.toNat) / 8 * 8 := by
  rw [spanning, toNat_roundDown, UInt64.toNat_add, Nat.mod_eq_of_lt h]
  omega

theorem toNat_top_spanning {base : Address} {length : UInt64}
    (h : base.toNat + length.toNat < 2 ^ 64) :
    (spanning base length).top.toNat % 8 = 0 ∧
      (spanning base length).top.toNat ≤ base.toNat + length.toNat := by
  rw [toNat_top_spanning_eq h]
  omega

end Arena

end Carousel.Stack
