/-
  Carousel — the processor's registers.

  * `Cpu`: what a context is made of, the two stack pointers, and what they depend on;
  * `Reg`: the registers that an instruction can name.
-/
import Carousel.Memory

namespace Carousel

/-- The registers of the processor. -/
structure Cpu where
  r0 : Word
  r1 : Word
  r2 : Word
  r3 : Word
  r4 : Word
  r5 : Word
  r6 : Word
  r7 : Word
  r8 : Word
  r9 : Word
  r10 : Word
  r11 : Word
  r12 : Word
  lr : Word
  pc : Word
  xpsr : Word
  /-- The stack pointer of tasks. -/
  psp : Word
  /-- The stack pointer of everything else. -/
  msp : Word
  /-- Bit 1: thread code uses the stack pointer of tasks. -/
  control : Word
  /-- Interrupts wait while bit 0 is set. -/
  primask : Word
  /-- An exception is being handled. -/
  handling : Bool

/-- A register that an instruction can name. -/
inductive Reg where
  | r0 | r1 | r2 | r3 | r4 | r5 | r6 | r7 | r8 | r9 | r10 | r11 | r12
  | lr
  deriving DecidableEq

namespace Cpu

/-- The top of the memory, where the main stack starts. -/
def mainStackTop : Word := 0x20005000

/-- The processor after a reset. -/
def reset : Cpu :=
  ⟨0, 0, 0, 0, 0, 0, 0, 0, 0, 0, 0, 0, 0, 0, 0, 0, 0, mainStackTop, 0, 0, false⟩

/-- The value of a register. -/
def get (c : Cpu) : Reg → Word
  | .r0 => c.r0
  | .r1 => c.r1
  | .r2 => c.r2
  | .r3 => c.r3
  | .r4 => c.r4
  | .r5 => c.r5
  | .r6 => c.r6
  | .r7 => c.r7
  | .r8 => c.r8
  | .r9 => c.r9
  | .r10 => c.r10
  | .r11 => c.r11
  | .r12 => c.r12
  | .lr => c.lr

/-- Give a register a value. -/
def set (c : Cpu) (v : Word) : Reg → Cpu
  | .r0 => { c with r0 := v }
  | .r1 => { c with r1 := v }
  | .r2 => { c with r2 := v }
  | .r3 => { c with r3 := v }
  | .r4 => { c with r4 := v }
  | .r5 => { c with r5 := v }
  | .r6 => { c with r6 := v }
  | .r7 => { c with r7 := v }
  | .r8 => { c with r8 := v }
  | .r9 => { c with r9 := v }
  | .r10 => { c with r10 := v }
  | .r11 => { c with r11 := v }
  | .r12 => { c with r12 := v }
  | .lr => { c with lr := v }

theorem get_set (c : Cpu) (v : Word) (d n : Reg) :
    (c.set v d).get n = if d = n then v else c.get n := by
  cases d <;> cases n <;> rfl

/-- Give registers the values of a list, first to first. -/
def setAll (c : Cpu) : List Reg → List Word → Cpu
  | d :: ds, v :: vs => (c.set v d).setAll ds vs
  | _, _ => c

/-- Thread code on the stack of a task. -/
def onTaskStack (c : Cpu) : Bool := !c.handling && c.control &&& 2 != 0

/-- The stack pointer in use. -/
def sp (c : Cpu) : Word := if c.onTaskStack then c.psp else c.msp

/-- Move the stack pointer in use. -/
def setSp (c : Cpu) (v : Word) : Cpu :=
  if c.onTaskStack then { c with psp := v } else { c with msp := v }

end Cpu

end Carousel
