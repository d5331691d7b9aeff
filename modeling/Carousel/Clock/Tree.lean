/-
  Carousel — the clock tree of the chip.

  * `pllConfig`: the configuration word that makes the core clock from the crystal;
  * `waitStates`: how many cycles the flash memory needs at a core clock.
-/
import Carousel.Fault

namespace Carousel.Clock

/-- The fastest core clock. -/
def maxCoreHz : UInt32 := 72000000

/-- The crystal drives the multiplier. -/
def pllSourceCrystal : UInt32 := (1 : UInt32) <<< 16

/-- Where the factor stands in the configuration word, less two. -/
def pllFactorShift : UInt32 := 18

/-- The slow peripheral bus runs at half the core clock. -/
def slowBusHalf : UInt32 := (0b100 : UInt32) <<< 8

/-- The configuration word for a crystal of `crystalHz` times `factor`.  The factor is from 2 to 16,
    and the product no faster than the core may run. -/
def pllConfig (crystalHz factor : UInt32) : Except Fault UInt32 :=
  if factor < 2 ∨ 16 < factor then .error .hardware
  else if maxCoreHz.toUInt64 < crystalHz.toUInt64 * factor.toUInt64 then .error .hardware
  else .ok (pllSourceCrystal ||| (factor - 2) <<< pllFactorShift ||| slowBusHalf)

/-- The wait states of the flash memory: one for each 24 MHz begun, less one. -/
def waitStates (coreHz : UInt32) : Except Fault UInt32 :=
  if coreHz ≤ 24000000 then .ok 0
  else if coreHz ≤ 48000000 then .ok 1
  else if coreHz ≤ maxCoreHz then .ok 2
  else .error .hardware

end Carousel.Clock
