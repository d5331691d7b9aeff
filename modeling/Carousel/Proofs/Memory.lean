/-
  Carousel — memory after stores.

  * `byte_storeAll_list`: stores leave the bytes around them alone;
  * `words_storeAll_list`: words are read back as they were written;
  * `byte_storeAll_congr` and `byte_storeAll_list_of_lt`: the same stores on two memories;
  * `byte_storeAll_again`: the same stores once more;
  * `AgreeOn`: two memories hold the same in a range of addresses.
-/
import Carousel.Memory
import Mathlib.Algebra.Group.Nat.Defs
import Mathlib.Tactic.Common

namespace Carousel.Memory

/-! ## One word -/

/-- The addresses of a word are less than four bytes above its first one. -/
theorem byte_setWord_of_le (m : Memory) {a c : Address} (w : Word) (h : 4 ≤ (c - a).toNat) :
    (m.setWord a w).byte c = m.byte c := by
  have hne : ∀ k : UInt64, k.toNat < 4 → a + k ≠ c := by
    rintro k hk rfl
    rw [UInt64.add_comm, UInt64.add_sub_cancel] at h
    omega
  refine byte_setWord_of_ne m w ?_ (hne 1 (by decide)) (hne 2 (by decide)) (hne 3 (by decide))
  simpa using hne 0 (by decide)

theorem word_congr {m m' : Memory} {a : Address}
    (h : ∀ c : Address, (c - a).toNat < 4 → m.byte c = m'.byte c) : m.word a = m'.word a := by
  have hk : ∀ k : UInt64, k.toNat < 4 → m.byte (a + k) = m'.byte (a + k) := by
    intro k hk
    exact h _ (by rw [UInt64.add_comm, UInt64.add_sub_cancel]; exact hk)
  have h₀ := h a (by simp)
  rw [word, word, h₀, hk 1 (by decide), hk 2 (by decide), hk 3 (by decide)]

/-- How far an address is above the next word. -/
theorem distance_next (a c : Address) :
    4 ≤ (c - a).toNat ∧ (c - (a + 4)).toNat + 4 = (c - a).toNat ∨
      (c - a).toNat < 4 ∧ (c - (a + 4)).toNat + 4 = (c - a).toNat + 2 ^ 64 := by
  rw [UInt64.toNat_sub, UInt64.toNat_sub, UInt64.toNat_add]
  have : (4 : UInt64).toNat = 4 := rfl
  have := a.toNat_lt
  have := c.toNat_lt
  omega

/-! ## Words one after another -/

theorem words_congr {m m' : Memory} {a : Address} {n : Nat} (hn : 4 * n ≤ 2 ^ 64)
    (h : ∀ c : Address, (c - a).toNat < 4 * n → m.byte c = m'.byte c) :
    m.words a n = m'.words a n := by
  induction n generalizing a with
  | zero => rfl
  | succ n ih =>
    rw [words, words, word_congr fun c hc => h c (by omega), ih (by omega) fun c hc => h c ?_]
    have := distance_next a c
    omega

theorem storeAll_list_cons (m : Memory) (a : Address) (w : Word) (ws : List Word) :
    m.storeAll (Store.list a (w :: ws)) =
      (m.setWord a w).storeAll (Store.list (a + 4) ws) := by
  rw [storeAll, storeAll, Store.list, List.foldl_cons]

theorem byte_storeAll_list (m : Memory) {a c : Address} {ws : List Word}
    (h : 4 * ws.length ≤ (c - a).toNat) : (m.storeAll (Store.list a ws)).byte c = m.byte c := by
  induction ws generalizing m a with
  | nil => rfl
  | cons w ws ih =>
    rw [List.length_cons] at h
    have hle : 4 * ws.length ≤ (c - (a + 4)).toNat := by
      have := distance_next a c
      omega
    rw [storeAll_list_cons, ih _ hle, byte_setWord_of_le m w (by omega)]

/-- Words are read back as they were written. -/
theorem words_storeAll_list (m : Memory) (a : Address) (ws : List Word)
    (h : 4 * ws.length ≤ 2 ^ 64) :
    (m.storeAll (Store.list a ws)).words a ws.length = ws := by
  induction ws generalizing m a with
  | nil => rfl
  | cons w ws ih =>
    rw [List.length_cons] at h ⊢
    rw [storeAll_list_cons, words]
    have hw : ((m.setWord a w).storeAll (Store.list (a + 4) ws)).word a = w := by
      rw [word_congr fun c hc => byte_storeAll_list (m.setWord a w) ?_, word_setWord]
      have := distance_next a c
      omega
    rw [hw, ih _ _ (by omega)]

/-! ## The same stores on two memories -/

section
variable {m m' : Memory} {c : Address}

/-- Stores make no difference between two memories. -/
theorem byte_storeAll_congr (stores : List Store) (h : m.byte c = m'.byte c) :
    (m.storeAll stores).byte c = (m'.storeAll stores).byte c := by
  induction stores generalizing m m' with
  | nil => exact h
  | cons s stores ih =>
    refine ih ?_
    simp only [setWord, byte_setByte, h]

theorem byte_setWord_of_lt (m m' : Memory) {a : Address} (w : Word) (h : (c - a).toNat < 4) :
    (m.setWord a w).byte c = (m'.setWord a w).byte c := by
  obtain ⟨k, rfl⟩ : ∃ k, c = a + k := ⟨c - a, by rw [UInt64.add_comm, UInt64.sub_add_cancel]⟩
  rw [UInt64.add_comm, UInt64.add_sub_cancel] at h
  have hk : k = 0 ∨ k = 1 ∨ k = 2 ∨ k = 3 := by
    simp only [← UInt64.toNat_inj]
    show k.toNat = 0 ∨ k.toNat = 1 ∨ k.toNat = 2 ∨ k.toNat = 3
    omega
  rcases hk with rfl | rfl | rfl | rfl <;> simp [setWord, byte_setByte]

/-- Where they go, they leave nothing of what was there. -/
theorem byte_storeAll_list_of_lt (m m' : Memory) {a : Address} {ws : List Word}
    (hn : 4 * ws.length ≤ 2 ^ 64) (h : (c - a).toNat < 4 * ws.length) :
    (m.storeAll (Store.list a ws)).byte c = (m'.storeAll (Store.list a ws)).byte c := by
  induction ws generalizing m m' a with
  | nil => cases h
  | cons w ws ih =>
    rw [List.length_cons] at h hn
    rw [storeAll_list_cons, storeAll_list_cons]
    rcases distance_next a c with ⟨hle, hnext⟩ | ⟨hlt, -⟩
    · exact ih _ _ (by omega) (by omega)
    · exact byte_storeAll_congr _ (byte_setWord_of_lt m m' w hlt)

end

/-! ## Once more -/

theorem storeAll_cons (m : Memory) (s : Store) (stores : List Store) :
    m.storeAll (s :: stores) = (m.setWord s.address s.value).storeAll stores := List.foldl_cons ..

/-- Stores leave a byte alone, or leave nothing of what was there. -/
theorem byte_storeAll_cases (stores : List Store) (c : Address) :
    (∀ m : Memory, (m.storeAll stores).byte c = m.byte c) ∨
      ∀ m m' : Memory, (m.storeAll stores).byte c = (m'.storeAll stores).byte c := by
  induction stores with
  | nil => exact Or.inl fun _ => rfl
  | cons s stores ih =>
    simp only [storeAll_cons]
    rcases ih with hkept | hset
    · simp only [hkept]
      by_cases hc : 4 ≤ (c - s.address).toNat
      · exact Or.inl fun m => byte_setWord_of_le m s.value hc
      · exact Or.inr fun m m' => byte_setWord_of_lt m m' s.value (Nat.not_le.1 hc)
    · exact Or.inr fun m m' => hset _ _

/-- The same stores once more change nothing. -/
theorem byte_storeAll_again (m : Memory) (stores : List Store) (c : Address) :
    ((m.storeAll stores).storeAll stores).byte c = (m.storeAll stores).byte c := by
  rcases byte_storeAll_cases stores c with hkept | hset
  · exact hkept _
  · exact hset _ _

/-! ## Ranges -/

/-- The two memories hold the same from address `lo` up to, and not including, `hi`. -/
def AgreeOn (m m' : Memory) (lo hi : Nat) : Prop :=
  ∀ c : Address, lo ≤ c.toNat → c.toNat < hi → m.byte c = m'.byte c

theorem AgreeOn.refl (m : Memory) (lo hi : Nat) : m.AgreeOn m lo hi := fun _ _ _ => rfl

theorem AgreeOn.trans {m₁ m₂ m₃ : Memory} {lo hi : Nat} (h : m₁.AgreeOn m₂ lo hi)
    (h' : m₂.AgreeOn m₃ lo hi) : m₁.AgreeOn m₃ lo hi :=
  fun c hlo hhi => (h c hlo hhi).trans (h' c hlo hhi)

theorem AgreeOn.words {m m' : Memory} {lo hi : Nat} (h : m.AgreeOn m' lo hi) {a : Address} {n : Nat}
    (hlo : lo ≤ a.toNat) (hhi : a.toNat + 4 * n ≤ hi) (hn : hi ≤ 2 ^ 64) :
    m.words a n = m'.words a n := by
  refine words_congr (by omega) fun c hc => ?_
  rw [UInt64.toNat_sub] at hc
  have := a.toNat_lt
  have := c.toNat_lt
  exact h c (by omega) (by omega)

/-- Stores beside a range leave it alone. -/
theorem agreeOn_storeAll (m : Memory) {a : Address} {ws : List Word} {lo hi : Nat}
    (h : a.toNat + 4 * ws.length ≤ lo ∨ hi ≤ a.toNat) (hn : a.toNat + 4 * ws.length ≤ 2 ^ 64) :
    (m.storeAll (Store.list a ws)).AgreeOn m lo hi := by
  intro c hlo hhi
  refine byte_storeAll_list m ?_
  rw [UInt64.toNat_sub]
  have := a.toNat_lt
  have := c.toNat_lt
  omega

end Carousel.Memory
