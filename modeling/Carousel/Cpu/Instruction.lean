/-
  Carousel — the two pieces of machine code.

  * `Instr`: the instructions that they are made of;
  * `launchCode`: into the first task, out of the code that set the system up;
  * `switchCode`: the handler of the trap.
-/
import Carousel.Cpu.State

namespace Carousel

/-- An instruction. -/
inductive Instr where
  /-- Add a number. -/
  | adds (d : Reg) (n : Word)
  /-- Load a number. -/
  | movs (d : Reg) (n : Word)
  /-- Set bits. -/
  | orr (d n : Reg) (bits : Word)
  | mov (d n : Reg)
  /-- Read and write the stack pointer of tasks. -/
  | mrsPsp (d : Reg)
  | msrPsp (n : Reg)
  | msrControl (n : Reg)
  /-- Wait until what was written to special registers has an effect. -/
  | isb
  /-- Put registers on the stack in use, the first one lowest, and take them from it. -/
  | push (list : List Reg)
  | pop (list : List Reg)
  /-- Put registers below the address in a register, which moves down past them. -/
  | stmdb (base : Reg) (list : List Reg)
  /-- Take registers from the address in a register on, which moves up past them. -/
  | ldmia (base : Reg) (list : List Reg)
  /-- Call the kernel's part of the switch: R0 holds a stack pointer before and after. -/
  | blSwitch
  /-- Let interrupts through. -/
  | cpsie
  /-- Go on at the address in a register; in a handler this may end the exception. -/
  | bx (n : Reg)

namespace Cpu

/-- R0 to R3 and R12, which a called routine need not preserve. -/
def scratchRegs : List Reg := [.r0, .r1, .r2, .r3, .r12]

/-- R4 to R11, which the processor does not save by itself. -/
def savedRegs : List Reg := [.r4, .r5, .r6, .r7, .r8, .r9, .r10, .r11]

/-- Into the first task: R0 holds the stack pointer of its first context.  R4 to R11 in it are
    skipped.  The rest is popped by hand, since there is no exception to return from. -/
def launchCode : List Instr :=
  [.adds .r0 32, .msrPsp .r0,
    -- from here on the stack of the task is in use
    .movs .r0 2, .msrControl .r0, .isb,
    .pop scratchRegs,
    -- LR and PC, then xPSR, which is not needed
    .pop [.r4, .r5], .pop [.r6], .mov .lr .r4,
    -- a branch needs the Thumb bit
    .orr .r5 .r5 1, .cpsie, .bx .r5]

/-- The trap: save what the processor does not, let the kernel choose a stack, and restore. -/
def switchCode : List Instr :=
  [.mrsPsp .r0, .stmdb .r0 savedRegs,
    -- R3 only keeps the main stack aligned
    .push [.r3, .lr], .blSwitch, .pop [.r3, .lr],
    .ldmia .r0 savedRegs, .msrPsp .r0, .isb, .bx .lr]

end Cpu

end Carousel
