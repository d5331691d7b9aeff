/-
  Carousel — task names.

  A name is kept as bytes of UTF-8 in a fixed number of places, padded with zeros.

  * `Name.ofString` keeps the longest beginning of a text that fits and does not cut a
    character in two (`cut`);
  * `Name.numbered` is the name of a task that was given none;
  * `Name.toString` reads a name back.
-/
import Carousel.Limits

namespace Carousel

/-- The places of a name, and how many of them are in use. -/
structure Name where
  bytes : Vector UInt8 nameLimit
  length : Nat
  deriving DecidableEq

namespace Name

/-- The name of no bytes. -/
def empty : Name := ⟨.replicate nameLimit 0, 0⟩

/-- The byte goes on with a character that an earlier byte began. -/
def continues (b : UInt8) : Bool := b &&& 0xc0 == 0x80

/-- Position `n` of the encoded text is the start of a character, or its end. -/
def boundary (utf8 : ByteArray) (n : Nat) : Bool :=
  if h : n < utf8.size then !continues utf8[n] else n == utf8.size

/-- The last boundary at or before position `n`. -/
def cut (utf8 : ByteArray) : Nat → Nat
  | 0 => 0
  | n + 1 => if boundary utf8 (n + 1) then n + 1 else cut utf8 n

/-- A name of the first `n` of the given bytes. -/
def ofBytes (utf8 : ByteArray) (n : Nat) : Name where
  bytes := .ofFn fun i => if i.val < n then (utf8.data[i.val]?).getD 0 else 0
  length := n

/-- The longest beginning of `s` of whole characters that fits. -/
def ofString (s : String) : Name :=
  ofBytes s.toUTF8 (cut s.toUTF8 (min s.utf8ByteSize nameLimit))

/-- The name of task `id` when it was given none: the last three digits of `id`. -/
def numbered (id : Nat) : Name :=
  let digit (n : Nat) : UInt8 := 48 + UInt8.ofNat (n % 10)
  ofBytes ⟨#[84, 115, 107, digit (id / 100), digit (id / 10), digit id]⟩ 6

/-- The bytes in use. -/
def utf8 (n : Name) : ByteArray := ⟨n.bytes.toArray.take n.length⟩

/-- The text of a name. -/
def toString (n : Name) : String := (String.fromUTF8? n.utf8).getD ""

end Name

end Carousel
