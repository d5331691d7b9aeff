/-
  Carousel — the peripherals of the board, and the code that drives them.

  * the registers that are used, by address;
  * `startClock`: from the crystal to the full core clock;
  * `startTick` and `setPriorities`: the scheduler's tick and trap;
  * `requestTrap`: make the trap pending;
  * `armTimer`, `disarmTimer` and `timerFired`: the interrupt behind the timer service.
-/
import Carousel.Bus.Program
import Carousel.Clock.Divider
import Carousel.Clock.Tick
import Carousel.Clock.Tree

namespace Carousel.Peripheral

open Bus

/-! ## Registers -/

namespace Register

/-- Clock control: the crystal, the multiplier, and whether they are ready. -/
def clockControl : Word := 0x40021000

/-- Clock configuration: the multiplier, and what drives the core. -/
def clockConfig : Word := 0x40021004

/-- Resets of the slow peripheral bus. -/
def slowBusReset : Word := 0x40021010

/-- Clocks of the slow peripheral bus. -/
def slowBusClock : Word := 0x4002101c

/-- Wait states and prefetch of the flash memory. -/
def flashAccess : Word := 0x40022000

/-- The timer runs. -/
def timerControl : Word := 0x40000800

/-- The timer interrupts. -/
def timerInterrupt : Word := 0x4000080c

/-- What happened to the timer. -/
def timerStatus : Word := 0x40000810

/-- Make something happen to the timer. -/
def timerEvent : Word := 0x40000814

def timerPrescaler : Word := 0x40000828

def timerReload : Word := 0x4000082c

/-- The tick counter's control, reload value and count. -/
def tickControl : Word := 0xe000e010

def tickReload : Word := 0xe000e014

def tickCount : Word := 0xe000e018

/-- Let interrupts through, and stop them: a bit for each. -/
def interruptEnable : Word := 0xe000e100

def interruptDisable : Word := 0xe000e180

/-- Make system exceptions pending. -/
def systemControl : Word := 0xe000ed04

/-- Priorities of the trap and of the tick, a byte each. -/
def trapPriority : Word := 0xe000ed22

def tickPriority : Word := 0xe000ed23

end Register

/-! ## Bits -/

namespace Bit

def crystalOn : Word := (1 : Word) <<< 16

def crystalReady : Word := (1 : Word) <<< 17

def pllOn : Word := (1 : Word) <<< 24

def pllReady : Word := (1 : Word) <<< 25

/-- What is to drive the core. -/
def driverMask : Word := 0b11

def driverPll : Word := 0b10

/-- What does drive the core. -/
def drivenByMask : Word := (0b11 : Word) <<< 2

def drivenByPll : Word := (0b10 : Word) <<< 2

def waitStateMask : Word := 0b111

def prefetch : Word := (1 : Word) <<< 4

/-- The timer, on the slow peripheral bus. -/
def timer : Word := (1 : Word) <<< 2

/-- The timer has come to its end; also: start it anew, run it, let it interrupt. -/
def update : Word := 1

def trapPending : Word := (1 : Word) <<< 28

end Bit

/-! ## The core clock -/

/-- How often a readiness bit is read before the clock is given up. -/
def patience : Nat := 0x10000

/-- Wait until the bits of a register are as wanted. -/
def await (r bits wanted : Word) : ExceptT Fault Program Unit :=
  ExceptT.mk (Program.poll r bits wanted patience)

/-- Run the core from the multiplied crystal.  The wait states of the flash memory go up before
    the clock does, and nothing switches over to a clock that has not reported ready. -/
def startClock : ExceptT Fault Program Unit := do
  let config ← liftExcept (Clock.pllConfig crystalHz pllFactor)
  let states ← liftExcept (Clock.waitStates coreClockHz)
  Program.modify Register.clockControl (· ||| Bit.crystalOn)
  await Register.clockControl Bit.crystalReady Bit.crystalReady
  Program.modify Register.flashAccess fun v =>
    v &&& ~~~Bit.waitStateMask ||| states ||| Bit.prefetch
  Program.put Register.clockConfig config
  Program.modify Register.clockControl (· ||| Bit.pllOn)
  await Register.clockControl Bit.pllReady Bit.pllReady
  Program.modify Register.clockConfig fun v => v &&& ~~~Bit.driverMask ||| Bit.driverPll
  await Register.clockConfig Bit.drivenByMask Bit.drivenByPll
where
  liftExcept {α : Type} (e : Except Fault α) : ExceptT Fault Program α :=
    ExceptT.mk (.done e)

/-! ## Tick and trap -/

/-- Program the tick counter: the core clock drives it, it counts, it interrupts. -/
def startTick : ExceptT Fault Program Unit := do
  let reload ← ExceptT.mk (.done (Clock.reload coreClockHz tickHz))
  Program.put Register.tickReload reload
  Program.put Register.tickCount 0
  Program.modify Register.tickControl (· ||| 0b100)
  Program.modify Register.tickControl (· ||| 0b001)
  Program.modify Register.tickControl (· ||| 0b010)

/-- Tick and trap give way to every other interrupt. -/
def setPriorities : Program Unit := do
  Program.putByte Register.trapPriority 0xff
  Program.putByte Register.tickPriority 0xff

/-- Make the trap pending. -/
def requestTrap : Program Unit := Program.put Register.systemControl Bit.trapPending

/-! ## The timer -/

/-- The number of the timer's interrupt. -/
def timerInterruptNumber : Nat := 30

/-- The bit of the timer's interrupt. -/
def timerInterruptBit : Word := (1 : Word) <<< 30

/-- Let the timer interrupt every period of the timer service.  Starting it anew raises its status
    bit, which must not count as a period. -/
def armTimer : ExceptT Fault Program Unit := do
  let d ← ExceptT.mk (.done (Clock.divider coreClockHz timerPeriodMs))
  let program : Program Unit := Program.atomically do
    Program.modify Register.slowBusClock (· ||| Bit.timer)
    let reset ← Program.get Register.slowBusReset
    Program.put Register.slowBusReset (reset ||| Bit.timer)
    Program.put Register.slowBusReset (reset &&& ~~~Bit.timer)
    Program.put Register.timerPrescaler d.prescaler.toUInt32
    Program.put Register.timerReload d.reload.toUInt32
    Program.put Register.timerEvent Bit.update
    Program.put Register.timerStatus 0
    Program.put Register.timerInterrupt Bit.update
    Program.put Register.timerControl Bit.update
    Program.put Register.interruptEnable timerInterruptBit
  program

/-- Stop the timer. -/
def disarmTimer : Program Unit := Program.atomically do
  Program.put Register.interruptDisable timerInterruptBit
  Program.put Register.timerInterrupt 0
  Program.put Register.timerControl 0
  Program.modify Register.slowBusClock (· &&& ~~~Bit.timer)

/-- Whether the timer has come to its end; if so, its status bit is taken back. -/
def timerFired : Program Bool := do
  let status ← Program.get Register.timerStatus
  if status &&& Bit.update = 0 then return false
  else
    Program.put Register.timerStatus (~~~Bit.update)
    return true

end Carousel.Peripheral
