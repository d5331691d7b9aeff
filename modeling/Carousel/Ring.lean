/-
  Carousel — a first-in first-out buffer of bytes.

  The bytes live in storage that somebody else provides, between a reading and a writing
  position that both wrap around.  Without storage the buffer holds nothing.

  * `attach` and `detach` give and take storage;
  * `put` and `get` move bytes in and out;
  * `describe`: the buffer's fields as text.
-/
import Carousel.Fault

namespace Carousel

/-- A buffer of bytes: `length` bytes, starting at position `read`. -/
structure Ring where
  storage : Option (Array UInt8)
  read : Nat
  write : Nat
  length : Nat

namespace Ring

/-- A buffer without storage. -/
def blank : Ring := ⟨none, 0, 0, 0⟩

/-- How many bytes can be held. -/
def capacity (r : Ring) : Nat :=
  match r.storage with
  | none => 0
  | some s => s.size

/-- Nothing is held. -/
def isEmpty (r : Ring) : Bool := r.length == 0

/-- As much is held as can be. -/
def isFull (r : Ring) : Bool := r.length == r.capacity

/-- Forget what is held. -/
def clear (r : Ring) : Ring := { r with read := 0, write := 0, length := 0 }

/-- Take storage, and hold nothing yet. -/
def attach (r : Ring) (storage : Array UInt8) : Except Fault Ring :=
  if storage.isEmpty then .error .parameter
  else .ok { r with storage := some storage }.clear

/-- A buffer over the given storage. -/
def ofStorage (storage : Array UInt8) : Except Fault Ring := blank.attach storage

/-- Give the storage back. -/
def detach (r : Ring) : Option (Array UInt8) × Ring :=
  (r.storage, { r.clear with storage := none })

/-- Put one byte.  If no place is free the oldest byte makes one, or nothing is done. -/
def putByte (r : Ring) (dropOldest : Bool) (b : UInt8) : Option Ring :=
  match r.storage with
  | none => none
  | some s =>
    if r.length = s.size then
      if dropOldest then
        some { r with
          storage := some (s.setIfInBounds r.write b)
          read := (r.read + 1) % s.size
          write := (r.write + 1) % s.size }
      else none
    else
      some { r with
        storage := some (s.setIfInBounds r.write b)
        write := (r.write + 1) % s.size
        length := r.length + 1 }

/-- Put bytes one after the other until one does not fit, and count them. -/
def put (r : Ring) (dropOldest : Bool) : List UInt8 → Nat × Ring
  | [] => (0, r)
  | b :: bs =>
    match r.putByte dropOldest b with
    | none => (0, r)
    | some r' => let (n, r'') := r'.put dropOldest bs; (n + 1, r'')

/-- Read `n` bytes of `s` from position `p` on, and say where that ends. -/
def readFrom (s : Array UInt8) (p : Nat) : Nat → List UInt8 × Nat
  | 0 => ([], p)
  | n + 1 =>
    let (bytes, last) := readFrom s ((p + 1) % s.size) n
    (s.getD p 0 :: bytes, last)

/-- Take bytes out into the front of `out`: how many, `out` afterwards, and the buffer. -/
def get (r : Ring) (out : List UInt8) : Nat × List UInt8 × Ring :=
  match r.storage with
  | none => (0, out, r)
  | some s =>
    let count := min out.length r.length
    let (bytes, read) := readFrom s r.read count
    (count, bytes ++ out.drop count, { r with read := read, length := r.length - count })

/-- The fields as text. -/
def describe (r : Ring) : String :=
  let storage :=
    match r.storage with
    | none => "None"
    | some s => "Some([" ++ ", ".intercalate (s.toList.map fun b => toString b.toNat) ++ "])"
  "RingBuffer \x7b storage: " ++ storage ++ ", read: " ++ toString r.read ++ ", write: " ++
    toString r.write ++ ", len: " ++ toString r.length ++ " \x7d"

end Ring

end Carousel
