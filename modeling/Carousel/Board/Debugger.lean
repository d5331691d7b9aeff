/-
  Carousel — a debugger on a board.

  Tasks exist as contexts only, and none of their code runs.  The debugger stands in for it:
  it sets registers, uses the stack, lets interrupts come and makes kernel calls.

  * `Command` and `Answer`;
  * `Debugger.obey`: carry a command out, or refuse it if the board would be damaged.
-/
import Carousel.Board.Machine

namespace Carousel

/-- A board under a debugger. -/
structure Debugger where
  board : Board Unit Unit
  /-- The first task has begun. -/
  started : Bool

namespace Debugger

/-- Something to do. -/
inductive Command where
  | create (argument size : UInt64) (name : Option String)
  | info (id : Nat)
  /-- Let the kernel begin the first task. -/
  | start
  /-- Give registers values, and the same for PC and xPSR. -/
  | set (registers : List (Reg × Word)) (pc xpsr : Option Word)
  /-- Put words on the stack of the current task, one after the other. -/
  | push (words : List Word)
  /-- Take words away from there. -/
  | pop (n : Nat)
  /-- Look at what is on it. -/
  | stack
  | tick
  | trap
  | yield
  | sleep (ticks : UInt16)
  | sleepMs (ms : UInt16)

/-- Why a command is not carried out. -/
inductive Refusal where
  | notStarted
  | started
  /-- The stack has no room. -/
  | full
  /-- The stack does not hold as much. -/
  | short
  deriving DecidableEq

/-- What a command comes to. -/
inductive Answer where
  | nothing
  | number (n : Nat)
  | info (i : Info)
  | words (w : List Word)
  | failed (e : Fault)
  | refused (why : Refusal)

/-- A board with its kernel set up, and nothing seen of it yet. -/
def attach (registers : Board.Registers) (primask : Word) : Debugger :=
  ⟨{ (Board.powerOn registers primask).setUp .board () with events := #[] }, false⟩

/-- The address just above the stack of the current task. -/
def top (d : Debugger) : Nat := d.board.scheduler.currentTask.top.toNat

/-- The bytes in use on it. -/
def used (d : Debugger) : Nat := d.top - d.board.cpu.psp.toNat

/-- The bytes that are left on it. -/
def room (d : Debugger) : Nat :=
  d.board.cpu.psp.toNat - (d.top - d.board.scheduler.currentTask.size.toNat)

/-- Change the board. -/
def after (d : Debugger) (a : Answer) (f : Board Unit Unit → Board Unit Unit) :
    Answer × Debugger :=
  (a, { d with board := f d.board })

/-- Change the board if tasks run. -/
def running (d : Debugger) (f : Board Unit Unit → Board Unit Unit) : Answer × Debugger :=
  if d.started then d.after .nothing f else (.refused .notStarted, d)

/-- Do something that saves a whole context on the stack. -/
def switching (d : Debugger) (f : Board Unit Unit → Board Unit Unit) : Answer × Debugger :=
  if d.started && d.room < Stack.Frame.byteCount.toNat then (.refused .full, d) else d.running f

/-- Carry a command out. -/
def obey (d : Debugger) : Command → Answer × Debugger
  | .create argument size name =>
    match d.board.create () argument size name with
    | (.ok id, b) => (.number id.val, { d with board := b })
    | (.error e, b) => (.failed e, { d with board := b })
  | .info id =>
    match d.board.scheduler.info id with
    | .ok i => (.info i, d)
    | .error e => (.failed e, d)
  | .start =>
    if d.started then (.refused .started, d)
    else
      let b := d.board.start
      (.number (b.cpu.get .r5 &&& 1).toNat, ⟨b, true⟩)
  | .set registers pc xpsr =>
    d.running fun b =>
      let c := registers.foldl (fun c (reg, v) => c.set v reg) b.cpu
      { b with cpu := { c with pc := pc.getD c.pc, xpsr := xpsr.getD c.xpsr } }
  | .push words =>
    if d.started && d.room < 4 * words.length then (.refused .full, d)
    else
      d.running fun b =>
        { b with
          memory := b.stackBelow b.cpu.psp words.reverse
          cpu.psp := b.cpu.psp - UInt32.ofNat (4 * words.length) }
  | .pop n =>
    if d.started && d.used < 4 * n then (.refused .short, d)
    else d.running fun b => { b with cpu.psp := b.cpu.psp + UInt32.ofNat (4 * n) }
  | .stack =>
    if d.started then
      (.words (d.board.memory.words d.board.cpu.psp.toUInt64 (d.used / 4)), d)
    else (.refused .notStarted, d)
  | .tick => d.switching (·.sysTick)
  | .trap => d.switching (·.requestTrap)
  | .yield => d.switching (·.switchBy Kernel.yield)
  | .sleep ticks => d.switching (·.switchBy (Kernel.sleep · ticks))
  | .sleepMs ms => d.switching (·.switchBy (Kernel.sleepMs · ms))

end Debugger

end Carousel
