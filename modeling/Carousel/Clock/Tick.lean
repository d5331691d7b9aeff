/-
  Carousel — the scheduler's tick.

  * `reload`: what the tick counter counts down from;
  * `ticksFor`: how many ticks a sleep of some milliseconds takes.
-/
import Carousel.Fault
import Carousel.Limits

namespace Carousel.Clock

/-- The largest value that the tick counter, of 24 bits, can count down from. -/
def maxReload : UInt32 := 0x00ffffff

/-- The value from which the tick counter counts down to tick `hz` times a second: one less than
    the cycles of a tick.  At most a thousand ticks a second are allowed. -/
def reload (clockHz hz : UInt32) : Except Fault UInt32 :=
  if hz = 0 ∨ 1000 < hz then .error .hardware
  else
    let cycles := clockHz / hz
    if cycles = 0 ∨ maxReload < cycles - 1 then .error .hardware
    else .ok (cycles - 1)

/-- Milliseconds in whole ticks: rounded up, and at least one. -/
def ticksFor (ms : UInt16) : UInt16 :=
  let ticks := ms.toUInt32 / tickPeriodMs + if ms.toUInt32 % tickPeriodMs = 0 then 0 else 1
  if ticks = 0 then 1 else if 0xffff < ticks then 0xffff else ticks.toUInt16

end Carousel.Clock
