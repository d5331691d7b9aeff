/-
  Carousel — the dividers of a timer's clock.

  * `divider`: a prescaler and a counter, of 16 bits each, that together divide a clock to a
    period of some milliseconds.
-/
import Carousel.Fault

namespace Carousel.Clock

/-- A prescaler and a reload value; each divides by one more than it says. -/
structure Divider where
  prescaler : UInt16
  reload : UInt16
  deriving DecidableEq

/-- What each of the two dividers can divide by at most. -/
def maxDivision : UInt64 := 0x10000

/-- The clock counts of a period, the fraction dropped. -/
def counts (clockHz periodMs : UInt32) : UInt64 := clockHz.toUInt64 * periodMs.toUInt64 / 1000

/-- The dividers for a period of `periodMs` milliseconds.  The prescaler is the smallest one that
    leaves the rest within the counter's reach. -/
def divider (clockHz periodMs : UInt32) : Except Fault Divider :=
  let n := counts clockHz periodMs
  if n = 0 then .error .hardware
  else
    let d := n / maxDivision + if n % maxDivision = 0 then 0 else 1
    if maxDivision < d then .error .hardware
    else .ok ⟨(d - 1).toUInt16, (n / d - 1).toUInt16⟩

end Carousel.Clock
