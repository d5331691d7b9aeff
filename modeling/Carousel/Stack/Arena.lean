/-
  Carousel — the memory from which stacks are cut.

  Stacks are cut from one stretch of memory, from its top downwards and in the order in
  which they are asked for.  They are never handed back.

  * `roundDown` and `roundUp?`: to the alignment of stacks, the latter only if the result
    is still an address;
  * `Arena.cut` cuts the next stack.
-/
import Carousel.Fault
import Carousel.Memory

namespace Carousel.Stack

/-- Stacks start and end at multiples of this many bytes. -/
def alignment : UInt64 := 8

/-- The last aligned address at or below `a`. -/
def roundDown (a : UInt64) : UInt64 := a - a % alignment

/-- The first aligned number at or above `n`, if there is one. -/
def roundUp? (n : UInt64) : Option UInt64 :=
  let m := n + (alignment - 1)
  if m < n then none else some (roundDown m)

/-- A stack: the address just above it, and its bytes. -/
structure Region where
  top : Address
  size : UInt64
  deriving DecidableEq

/-- What is left: from `base` up to, and not including, `top`. -/
structure Arena where
  base : Address
  top : Address
  deriving DecidableEq

namespace Arena

/-- No memory at all. -/
def empty : Arena := ⟨0, 0⟩

/-- The `length` bytes from `base` on, less what lies above the last aligned address. -/
def spanning (base : Address) (length : UInt64) : Arena := ⟨base, roundDown (base + length)⟩

/-- The bytes that are left. -/
def remaining (a : Arena) : UInt64 := if a.base ≤ a.top then a.top - a.base else 0

/-- Cut a stack of at least `size` bytes off the top. -/
def cut (a : Arena) (size : UInt64) : Except Fault (Region × Arena) :=
  if size = 0 then .error .parameter
  else
    match roundUp? size with
    | none => .error .exhausted
    | some size =>
      if a.remaining < size then .error .exhausted
      else .ok (⟨a.top, size⟩, { a with top := a.top - size })

end Arena

end Carousel.Stack
