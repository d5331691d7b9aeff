/-
  Carousel — the sizes and rates that are fixed when the system is built.

  * tables: `maxTasks`, `maxTimers`, `nameLimit`;
  * stacks: `poolSize`, `idleStackSize`, `minStackSize`, `tracksDepth`;
  * rates: `tickHz`, `timerPeriodMs`, the crystal and the core clock.
-/
namespace Carousel

/-! ## Tables -/

/-- Entries of the task table. -/
abbrev maxTasks : Nat := 8

/-- Entries of the timer table. -/
abbrev maxTimers : Nat := 8

/-- Bytes of UTF-8 that a task's name may take. -/
abbrev nameLimit : Nat := 8

/-- A position in the task table. -/
abbrev TaskId := Fin maxTasks

theorem maxTasks_ne_zero : maxTasks ≠ 0 := by decide

instance neZero_maxTasks : @NeZero Nat Zero.ofOfNat0 maxTasks := ⟨maxTasks_ne_zero⟩

/-! ## Stacks -/

/-- Bytes of memory from which all stacks are cut. -/
def poolSize : UInt64 := 12288

/-- Bytes of stack for the idle task. -/
def idleStackSize : UInt64 := 512

/-- The smallest stack that a task may ask for. -/
def minStackSize : UInt64 := 128

/-- Whether the deepest saved stack pointer of a task is kept. -/
def tracksDepth : Bool := true

/-! ## Rates -/

/-- Scheduler ticks in a second. -/
def tickHz : UInt32 := 100

/-- Milliseconds between two scheduler ticks. -/
def tickPeriodMs : UInt32 := 1000 / tickHz

/-- Milliseconds between two periods of the timer service. -/
def timerPeriodMs : UInt32 := 1

/-- The crystal. -/
def crystalHz : UInt32 := 8000000

/-- What the crystal's rate is multiplied by. -/
def pllFactor : UInt32 := 9

/-- The core clock. -/
def coreClockHz : UInt32 := crystalHz * pllFactor

end Carousel
