/-
  Carousel — a run of the demonstration.

  Time goes on only while the idle task spins.  Each spin is a tick, with the interrupts that
  come before it; when one of them gives the processor to another task, the rest of them
  waits until the idle task has it again.

  * `Run` and `Run.step`;
  * `Run.complete`: a whole run.
-/
import Carousel.Demo.Firmware

namespace Carousel.Demo

/-- What comes while the idle task spins. -/
structure Outside where
  maxTicks : Nat
  /-- Periods of the timer in a tick. -/
  periods : Nat
  /-- Other interrupts in a tick, by number. -/
  lines : List Nat

/-- Why a run is over. -/
inductive Stop where
  | ticks
  | panic (message : String)

/-- A run of the demonstration. -/
structure Run where
  firmware : Firmware
  outside : Outside
  ticks : Nat
  /-- What still comes in this spin. -/
  coming : List Interrupt
  stop : Option Stop

namespace Run

/-- The interrupts of one spin. -/
def spinInterrupts (o : Outside) : List Interrupt :=
  o.lines.map .line ++ List.replicate o.periods .timer ++ [.tick]

/-- The idle task has the processor. -/
def idling (r : Run) : Bool := r.firmware.thread.point == .idle && !r.firmware.thread.trap

/-- The current task goes on, or something comes from outside. -/
def step (r : Run) : Run :=
  if r.idling then
    match r.coming with
    | i :: coming => { r with firmware := r.firmware.interrupt i, coming := coming }
    | [] =>
      if r.outside.maxTicks ≤ r.ticks then { r with stop := some .ticks }
      else
        let f := r.firmware
        { r with
          firmware := { f with board := f.board.note (.tick (r.ticks + 1)) }
          ticks := r.ticks + 1
          coming := spinInterrupts r.outside }
  else { r with firmware := r.firmware.step }

/-- Go on until the run is over, for at most so many steps. -/
def runFor : Nat → Run → Run
  | 0, r => r
  | fuel + 1, r => if r.stop.isSome then r else runFor fuel r.step

/-- No run takes as many steps, unless it never ends. -/
def patience : Nat := 1000000000

/-- Switch a board on and let the demonstration run. -/
def complete (registers : Board.Registers) (primask : Word) (outside : Outside) : Run :=
  let (outcome, f) := Firmware.boot.run (Firmware.powerOn registers primask)
  match outcome with
  | .error message => ⟨f, outside, 0, [], some (.panic message)⟩
  | .ok () => runFor patience ⟨f, outside, 0, [], none⟩

end Run

end Carousel.Demo
