/-
  Carousel — the demonstration on a board.

  * `Firmware`: the board and what the tasks share;
  * `boot`: set everything up, up to the first task;
  * `step`: the current task goes on to its next point;
  * `interrupt`: something comes from outside, at any time.
-/
import Carousel.Board.Machine
import Carousel.Demo.Thread
import Carousel.Lock
import Carousel.Ring

namespace Carousel.Demo

/-- The board and what the tasks share. -/
structure Firmware where
  board : Board Body Alarm
  /-- Guards `counter`. -/
  lock : Lock
  counter : Word
  /-- From the timer's callback to the receiving task. -/
  ring : Ring
  /-- How many bytes that task has received. -/
  received : Word
  threads : Vector Thread maxTasks

/-- Something that comes from outside. -/
inductive Interrupt where
  /-- An interrupt of this number, whatever the hardware says. -/
  | line (number : Nat)
  /-- The timer comes to its end, and interrupts if it is allowed to. -/
  | timer
  /-- The scheduler's tick, if it is on. -/
  | tick

namespace Firmware

/-- Before anything ran. -/
def powerOn (registers : Board.Registers) (primask : Word) : Firmware where
  board := Board.powerOn registers primask
  lock := .free
  counter := 0
  ring := .blank
  received := 0
  threads := .replicate maxTasks .fresh

/-! ## Setting up -/

/-- A part of setting up, which may end in a panic. -/
abbrev Boot := ExceptT String (StateM Firmware)

namespace Boot

/-- Do something with the board. -/
def onBoard {α : Type} (f : Board Body Alarm → α × Board Body Alarm) : Boot α := do
  let s ← get
  let (a, board) := f s.board
  set { s with board := board }
  return a

/-- A call that must not fail. -/
def expect {α : Type} (message : String) : Except Fault α → Boot α
  | .ok a => pure a
  | .error e => throw (message ++ ": " ++ e.label)

end Boot

/-- The storage of the ring. -/
def ringSize : Nat := 32

/-- Set everything up and begin the first task. -/
def boot : Boot Unit := do
  Boot.expect "HSE/PLL failed to start" (← Boot.onBoard (Board.drive Peripheral.startClock.run))
  let ring ← Boot.expect "rx storage is empty" ((← get).ring.attach (.replicate ringSize 0))
  modify ({ · with ring := ring })
  Boot.onBoard fun b => ((), b.setUp .board .idle)
  let make (body : Body) (argument size : UInt64) (name : String) : Boot Unit := do
    let id ← Boot.onBoard (·.create body argument size (some name))
    discard <| Boot.expect ("Failed to create " ++ name) id
  make .counter 1 512 "count1"
  make .counter 10 512 "count10"
  make .receiver 0 512 "rx"
  make .greeter 3 256 "boot"
  Boot.expect "Failed to start the timer service" (← Boot.onBoard (·.timerSetUp))
  let made := (← get).board.timers.create 250 true (Alarm.heartbeat 0xa5)
  let (_, timers) ← Boot.expect "Failed to create heartbeat timer" made
  modify ({ · with board.timers := timers })
  Boot.onBoard fun b =>
    let b := b.start
    ((), b.note (.launched (b.cpu.get .r0) b.cpu.control b.cpu.primask))

/-! ## The tasks -/

/-- The task that has the processor. -/
def current (f : Firmware) : TaskId := f.board.scheduler.current

/-- The thread of the task that has the processor. -/
def thread (f : Firmware) : Thread := f.threads.get f.current

/-- The current thread goes on to another point. -/
def goTo (f : Firmware) (p : Point) : Firmware :=
  { f with threads := f.threads.setIfInBounds f.current { f.thread with point := p } }

/-- The current thread makes a pass on its way to another point.  The trap follows if the pass
    picks a task. -/
def passTo (f : Firmware) (pass : Scheduler Body → Pass Body) (p : Point) : Firmware :=
  let r := pass f.board.scheduler
  let memory := f.board.memory.storeAll r.stores
  let thread := { f.thread with point := p, trap := r.pick.isSome }
  { f with
    board := { f.board with scheduler := r.scheduler, memory := memory }
    threads := f.threads.setIfInBounds f.current thread }

/-- Write down that another task has the processor than before. -/
def noteSwitch (f : Firmware) (old : TaskId) : Firmware :=
  if f.current = old then f else { f with board := f.board.note (.switched old f.current) }

/-- The current thread takes the trap. -/
def takeTrap (f : Firmware) : Firmware :=
  let threads := f.threads.setIfInBounds f.current { f.thread with trap := false }
  { f with threads := threads, board := f.board.requestTrap }.noteSwitch f.current

/-- Write a line to the log. -/
def log (f : Firmware) (line : Log.Line) : Firmware := { f with board := f.board.note (.log line) }

/-- How long a counting task sleeps between two rounds, in milliseconds. -/
def pauseMs : UInt16 := 20

/-- How many bytes are taken from the ring at once. -/
def batch : Nat := 8

/-- A task that counts in steps of `amount` goes on. -/
def stepCounter (f : Firmware) (amount : Word) : CounterPoint → Firmware
  | .acquire =>
    match f.lock.acquire f.current with
    | .ok l => { f with lock := l }.goTo (.counter amount .load)
    | .error .busy => f.goTo (.counter amount .wait)
    | .error e => f.goTo (.failed ("shared mutex invalidated: " ++ e.label))
  | .wait => f.passTo Kernel.yield (.counter amount .acquire)
  | .load => f.goTo (.counter amount (.store f.counter))
  | .store value => { f with counter := value + amount }.goTo (.counter amount .release)
  | .release =>
    match f.lock.release f.current with
    | .ok l => { f with lock := l }.goTo (.counter amount .sleep)
    | .error e => f.goTo (.failed ("count task does not own the mutex: " ++ e.label))
  | .sleep => f.passTo (Kernel.sleepMs · pauseMs) (.counter amount .acquire)

/-- The current task goes on to its next point. -/
def step (f : Firmware) : Firmware :=
  if f.thread.trap then f.takeTrap
  else
    match f.thread.point with
    | .fresh =>
      let id := (f.board.cpu.get .r0).toNat
      let f := { f with threads := f.threads.setIfInBounds f.current { f.thread with id := id } }
      let f := f.log (.entered id)
      match f.board.scheduler.entryOf id with
      | none => f.goTo .exit
      | some (body, argument) => f.goTo (body.start argument)
    | .idle => f
    | .counter amount p => f.stepCounter amount p
    | .receive =>
      let (n, _, ring) := f.ring.get (.replicate batch 0)
      let f := { f with ring := ring }
      if n = 0 then f.goTo .rest else f.goTo (.received n)
    | .rest => f.passTo (Kernel.sleep · 1) .receive
    | .received n => { f with received := f.received + UInt32.ofNat n }.goTo .receive
    | .greeter left =>
      if left = 0 then f.goTo (.returned (Int32.ofInt f.current.val))
      else f.passTo Kernel.yield (.greeter (left - 1))
    | .returned code => (f.log (.returned f.thread.id code)).goTo .exit
    | .exit =>
      let scheduler := f.board.scheduler.exit f.thread.id
      { f with board := { f.board with scheduler := scheduler } }.goTo .parked
    | .parked => f.passTo Kernel.yield .parked
    | .failed _ => f

/-! ## Interrupts -/

/-- The callback of a timer. -/
def alarm (f : Firmware) : Alarm → Firmware
  | .heartbeat byte => { f with ring := (f.ring.put true [byte.toUInt8]).2 }

/-- The handler of the interrupt of a number. -/
def handle (f : Firmware) (number : Nat) : Firmware :=
  if number = Peripheral.timerInterruptNumber then
    let (fired, board) := f.board.drive Peripheral.timerFired
    let f := { f with board := board }
    if fired then
      Timer.period (·.board.timers) (fun t f => { f with board := { f.board with timers := t } })
        (fun due f => f.alarm due.payload) f
    else f
  else f

/-- An exception with its handler. -/
def exception (f : Firmware) (handler : Firmware → Firmware) : Firmware :=
  let f' := handler { f with board := f.board.enter }
  { f' with board := f'.board.finish }.noteSwitch f.current

/-- Something comes from outside. -/
def interrupt (f : Firmware) : Interrupt → Firmware
  | .line number => f.exception (·.handle number)
  | .timer =>
    let r := f.board.registers
    if r.value Peripheral.Register.timerControl &&& 1 = 0 then f
    else
      let status := r.value Peripheral.Register.timerStatus ||| Peripheral.Bit.update
      let r := r.poke Peripheral.Register.timerStatus status
      let f := { f with board := { f.board with registers := r } }
      if r.value Peripheral.Register.timerInterrupt &&& 1 = 0 ∨
          r.enabled &&& Peripheral.timerInterruptBit = 0 then f
      else f.exception (·.handle Peripheral.timerInterruptNumber)
  | .tick =>
    if f.board.registers.value Peripheral.Register.tickControl &&& 3 = 3 then
      f.exception fun f => { f with board := f.board.switchBy Kernel.tick }
    else f

end Firmware

end Carousel.Demo
