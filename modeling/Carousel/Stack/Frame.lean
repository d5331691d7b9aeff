/-
  Carousel — the first context of a task.

  A task that has never run has no context to go back to, so one is laid out on its stack:
  the eight registers that the switch itself restores, R4 to R11, and above them the eight
  words that the processor takes back when it returns from an exception, R0 to R3, R12, LR,
  PC and xPSR.

  * `words`: the sixteen words, lowest address first;
  * `stores`: the same words on their way to the stack, and `bottom`, where they start.
-/
import Carousel.Memory

namespace Carousel.Stack

/-- The code addresses that every first context points to. -/
structure EntryPoints where
  /-- Where a fresh task starts. -/
  trampoline : Word
  /-- Where it would come out if that code ever returned. -/
  exit : Word
  deriving DecidableEq

namespace EntryPoints

/-- No code. -/
def none : EntryPoints := ⟨0, 0⟩

end EntryPoints

namespace Frame

/-- The words of a context. -/
def wordCount : Nat := 16

/-- The bytes of a context. -/
def byteCount : UInt64 := 64

/-- The program status of a fresh task: Thumb state and nothing else. -/
def initialStatus : Word := 0x01000000

/-- The context of task `id` before it has run.  An exception return loads PC as it stands, so
    the Thumb bit is cleared there: it is in the status word. -/
def words (id : Nat) (e : EntryPoints) : List Word :=
  [0, 0, 0, 0, 0, 0, 0, 0, UInt32.ofNat id, 0, 0, 0, 0, e.exit, e.trampoline &&& ~~~1,
    initialStatus]

/-- Where a context below `top` starts. -/
def bottom (top : Address) : Address := top - byteCount

/-- The first context of task `id`, on its way to the bytes below `top`. -/
def stores (id : Nat) (e : EntryPoints) (top : Address) : List Store :=
  Store.list (bottom top) (words id e)

end Frame

end Carousel.Stack
