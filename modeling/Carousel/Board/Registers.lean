/-
  Carousel — a board's registers, simulated.

  Most registers hold what was written to them.  The clock becomes ready only after it was
  asked about often enough, and some bits belong to the hardware.

  * `Registers`: the values and what else is behind them;
  * `read`, `write` and `writeByte`;
  * `poke`: from outside, and without a trace.
-/
import Std.Data.TreeMap
import Carousel.Board.Peripherals

namespace Carousel.Board

open Peripheral

/-- How often the clock says that it is not ready yet; `none`: for ever. -/
structure ClockDelays where
  crystal : Option Nat
  pll : Option Nat
  switch : Option Nat

/-- The registers, and what is behind them. -/
structure Registers where
  stored : Std.TreeMap Word Word
  delays : ClockDelays
  /-- How often the crystal was asked whether it is ready, since it is on. -/
  crystalReads : Nat
  /-- The same for the multiplier. -/
  pllReads : Nat
  /-- How often the core was asked what drives it, since that is to be the multiplier. -/
  switchReads : Nat
  /-- The multiplier drives the core. -/
  switched : Bool
  /-- The interrupts that are let through. -/
  enabled : Word
  /-- The trap is pending. -/
  trapPending : Bool

namespace Registers

/-- The bits that only the hardware sets. -/
def hardwareBits (register : Word) : Word :=
  if register = Register.clockControl then Bit.crystalReady ||| Bit.pllReady
  else if register = Register.clockConfig then Bit.drivenByMask
  else 0

/-- The value that a register was left with. -/
def value (r : Registers) (register : Word) : Word := r.stored.getD register 0

/-- Leave a value in a register. -/
def poke (r : Registers) (register v : Word) : Registers :=
  { r with stored := r.stored.insert register (v &&& ~~~hardwareBits register) }

/-- A board that has just been switched on, but for the values given. -/
def powerOn (delays : ClockDelays) (values : List (Word × Word)) : Registers :=
  values.foldl (fun r (register, v) => r.poke register v) {
    stored := ∅
    delays := delays
    crystalReads := 0
    pllReads := 0
    switchReads := 0
    switched := false
    enabled := 0
    trapPending := false }

/-- After so many earlier questions the answer is yes. -/
def ready (delay : Option Nat) (reads : Nat) : Bool :=
  match delay with
  | none => false
  | some n => n ≤ reads

/-- Read the clock control register. -/
def readClockControl (r : Registers) : Word × Registers :=
  let v := r.value Register.clockControl
  let crystal := v &&& Bit.crystalOn != 0
  let pll := v &&& Bit.pllOn != 0
  let bits :=
    (if crystal && ready r.delays.crystal r.crystalReads then Bit.crystalReady else 0) |||
      (if pll && ready r.delays.pll r.pllReads then Bit.pllReady else 0)
  (v ||| bits,
    { r with
      crystalReads := if crystal then r.crystalReads + 1 else r.crystalReads
      pllReads := if pll then r.pllReads + 1 else r.pllReads })

/-- Read the clock configuration register. -/
def readClockConfig (r : Registers) : Word × Registers :=
  let v := r.value Register.clockConfig
  let asked := v &&& Bit.driverMask == Bit.driverPll
  let switched := r.switched || asked && ready r.delays.switch r.switchReads
  (v ||| (if switched then Bit.drivenByPll else 0),
    { r with
      switchReads := if asked then r.switchReads + 1 else r.switchReads
      switched := switched })

/-- Read a register. -/
def read (r : Registers) (register : Word) : Word × Registers :=
  if register = Register.clockControl then r.readClockControl
  else if register = Register.clockConfig then r.readClockConfig
  else (r.value register, r)

/-- Write a register. -/
def write (r : Registers) (register v : Word) : Registers :=
  if register = Register.timerStatus then r.poke register (r.value register &&& v)
  else if register = Register.timerEvent then
    if v &&& Bit.update = 0 then r
    else r.poke Register.timerStatus (r.value Register.timerStatus ||| Bit.update)
  else if register = Register.interruptEnable then { r with enabled := r.enabled ||| v }
  else if register = Register.interruptDisable then { r with enabled := r.enabled &&& ~~~v }
  else if register = Register.systemControl then
    if v &&& Bit.trapPending = 0 then r else { r with trapPending := true }
  else r.poke register v

/-- Write a register of one byte. -/
def writeByte (r : Registers) (register : Word) (v : UInt8) : Registers :=
  r.poke register v.toUInt32

/-- The registers that do not hold zero, by address. -/
def nonZero (r : Registers) : List (Word × Word) := r.stored.toList.filter (·.2 != 0)

end Registers

end Carousel.Board
