/-
  Carousel — memory, byte by byte.

  * `Memory`: every address holds a byte, a background byte until it is written;
  * `word` and `setWord`: four bytes as one word, lowest byte first;
  * `Store`: a word and the address that it goes to, for code that says what is to be
    written without writing it (`storeAll`).
-/
import Std.Data.HashMap

namespace Carousel

/-- Where a byte lives. -/
abbrev Address := UInt64

/-- What a register holds. -/
abbrev Word := UInt32

/-- A byte for every address. -/
structure Memory where
  /-- What an address holds before anything is written to it. -/
  background : UInt8
  written : Std.HashMap Address UInt8

namespace Memory

/-- Memory that holds the same byte everywhere. -/
def filled (b : UInt8) : Memory := ⟨b, ∅⟩

/-- The byte at an address. -/
def byte (m : Memory) (a : Address) : UInt8 := m.written.getD a m.background

/-- Write one byte. -/
def setByte (m : Memory) (a : Address) (b : UInt8) : Memory :=
  { m with written := m.written.insert a b }

@[simp] theorem byte_filled (b : UInt8) (a : Address) : (filled b).byte a = b := by
  simp [filled, byte]

theorem byte_setByte (m : Memory) (a c : Address) (b : UInt8) :
    (m.setByte a b).byte c = if a = c then b else m.byte c := by
  simp [setByte, byte, Std.HashMap.getD_insert]

/-! ## Words -/

/-- The word at an address, lowest byte first. -/
def word (m : Memory) (a : Address) : Word :=
  UInt32.ofNat ((m.byte a).toNat + 0x100 * (m.byte (a + 1)).toNat +
    0x10000 * (m.byte (a + 2)).toNat + 0x1000000 * (m.byte (a + 3)).toNat)

/-- Write one word, lowest byte first. -/
def setWord (m : Memory) (a : Address) (w : Word) : Memory :=
  (((m.setByte a (.ofNat w.toNat)).setByte (a + 1) (.ofNat (w.toNat / 0x100))).setByte
    (a + 2) (.ofNat (w.toNat / 0x10000))).setByte (a + 3) (.ofNat (w.toNat / 0x1000000))

/-- Only four bytes change. -/
theorem byte_setWord_of_ne (m : Memory) {a c : Address} (w : Word) (h₀ : a ≠ c) (h₁ : a + 1 ≠ c)
    (h₂ : a + 2 ≠ c) (h₃ : a + 3 ≠ c) : (m.setWord a w).byte c = m.byte c := by
  simp [setWord, byte_setByte, *]

/-- A word is read back as it was written. -/
@[simp] theorem word_setWord (m : Memory) (a : Address) (w : Word) :
    (m.setWord a w).word a = w := by
  have h₁ : a + 1 ≠ a := by grind
  have h₂ : a + 2 ≠ a := by grind
  have h₃ : a + 3 ≠ a := by grind
  have h₁₂ : a + 2 ≠ a + 1 := by grind
  have h₁₃ : a + 3 ≠ a + 1 := by grind
  have h₂₃ : a + 3 ≠ a + 2 := by grind
  apply UInt32.toNat_inj.1
  simp [word, setWord, byte_setByte, *]
  have := w.toNat_lt
  omega

/-- The `n` words from an address upwards. -/
def words (m : Memory) (a : Address) : Nat → List Word
  | 0 => []
  | n + 1 => m.word a :: m.words (a + 4) n

end Memory

/-- A word on its way to memory. -/
structure Store where
  address : Address
  value : Word
  deriving DecidableEq

/-- The words of a list at successive addresses. -/
def Store.list (a : Address) : List Word → List Store
  | [] => []
  | w :: ws => ⟨a, w⟩ :: Store.list (a + 4) ws

/-- Carry out stores, first to last. -/
def Memory.storeAll (m : Memory) (stores : List Store) : Memory :=
  stores.foldl (fun m s => m.setWord s.address s.value) m

end Carousel
