/-
  Carousel — programs that touch registers.

  Code that drives a peripheral is a tree of accesses.  A read branches on what the hardware
  answers, and nothing is said here of what that is.

  * `Program`: reads and writes of registers and of the interrupt mask;
  * `get`, `put`, `putByte` and `modify`: one access, or a read and a write after it;
  * `poll`: read a register again and again until some of its bits are as wanted;
  * `atomically`: with interrupts off.
-/
import Carousel.Fault
import Carousel.Memory

namespace Carousel.Bus

/-- A program of register accesses that comes to an `α`. -/
inductive Program (α : Type) where
  | done (a : α)
  | read (register : Word) (next : Word → Program α)
  | write (register value : Word) (next : Program α)
  | writeByte (register : Word) (value : UInt8) (next : Program α)
  /-- Read the interrupt mask. -/
  | mask (next : Word → Program α)
  | setMask (value : Word) (next : Program α)

namespace Program

variable {α γ : Type}

/-- One program after the other. -/
def bind : Program α → (α → Program γ) → Program γ
  | done a, f => f a
  | read r next, f => read r fun v => (next v).bind f
  | write r v next, f => write r v (next.bind f)
  | writeByte r v next, f => writeByte r v (next.bind f)
  | mask next, f => mask fun v => (next v).bind f
  | setMask v next, f => setMask v (next.bind f)

instance : Monad Program where
  pure := done
  bind := bind

/-- Read a register. -/
def get (r : Word) : Program Word := read r done

/-- Write a register. -/
def put (r v : Word) : Program Unit := write r v (done ())

/-- Write a register of one byte. -/
def putByte (r : Word) (v : UInt8) : Program Unit := writeByte r v (done ())

/-- Read a register, and write it back changed. -/
def modify (r : Word) (f : Word → Word) : Program Unit := do put r (f (← get r))

/-- Read a register up to `n` times, until its bits under `bits` are `wanted`. -/
def poll (r bits wanted : Word) : Nat → Program (Except Fault Unit)
  | 0 => done (.error .hardware)
  | n + 1 =>
    read r fun v => if v &&& bits = wanted then done (.ok ()) else poll r bits wanted n

/-- Run a program with interrupts off, and leave the mask as it was. -/
def atomically (p : Program α) : Program α :=
  mask fun before => setMask 1 (p.bind fun a => setMask before (done a))

end Program

end Carousel.Bus
