/-
  Carousel — the board: processor, memory, registers, and the kernel that runs on it.

  * `Board`, and `Event` for what can be seen of it from outside;
  * `drive`: run a program of register accesses;
  * `execute`: one instruction; `enter` and `leave`: what the processor does by itself at
    the start and at the end of an exception;
  * `exception`: all of it, with the trap after it if that is pending by then;
  * `start`: from the code that sets the system up into the first task.
-/
import Carousel.Board.Registers
import Carousel.Cpu.Instruction
import Carousel.Kernel.Call
import Carousel.Timer.Service

namespace Carousel.Board

/-- What can be seen of a board from outside. -/
inductive Event where
  | wrote (register value : Word)
  | wroteByte (register : Word) (value : UInt8)
  /-- The interrupt mask was written. -/
  | masked (value : Word)
  | log (line : Log.Line)
  /-- The callback of a timer ran. -/
  | fired (context : UInt64)
  /-- The idle task lets time go on. -/
  | tick (n : Nat)
  | switched (old new : TaskId)
  /-- The first task begins. -/
  | launched (r0 control primask : Word)

end Board

/-- A board.  `β` is what its tasks run, `κ` what its timers carry. -/
structure Board (β κ : Type) where
  cpu : Cpu
  memory : Memory
  registers : Board.Registers
  scheduler : Scheduler β
  timers : Timer.Table κ
  /-- What called routines leave in the registers that they need not preserve. -/
  scratch : Word
  events : Array Board.Event

namespace Board

variable {α β κ : Type}

/-- A board that has just been switched on. -/
def powerOn (registers : Registers) (primask : Word) : Board β κ where
  cpu := { Cpu.reset with primask := primask }
  memory := .filled 0
  registers := registers
  scheduler := .blank
  timers := .empty
  scratch := 0
  events := #[]

/-- Write an event down. -/
def note (b : Board β κ) (e : Event) : Board β κ := { b with events := b.events.push e }

/-! ## Registers -/

/-- Run a program of register accesses. -/
def drive : Bus.Program α → Board β κ → α × Board β κ
  | .done a, b => (a, b)
  | .read r next, b =>
    let (v, registers) := b.registers.read r
    drive (next v) { b with registers := registers }
  | .write r v next, b =>
    drive next ({ b with registers := b.registers.write r v }.note (.wrote r v))
  | .writeByte r v next, b =>
    drive next ({ b with registers := b.registers.writeByte r v }.note (.wroteByte r v))
  | .mask next, b => drive (next b.cpu.primask) b
  | .setMask v next, b => drive next ({ b with cpu.primask := v }.note (.masked v))

/-! ## Instructions -/

/-- What LR holds while an exception is handled that came on the stack of a task. -/
def returnToTask : Word := 0xfffffffd

/-- The same for an exception that came on the main stack. -/
def returnToMain : Word := 0xfffffff9

/-- The program status says Thumb state. -/
def thumbBit : Word := 0x01000000

/-- The registers that the processor stacks by itself, but for PC and xPSR. -/
def stackedRegs : List Reg := Cpu.scratchRegs ++ [.lr]

/-- Put words below an address. -/
def stackBelow (b : Board β κ) (sp : Word) (words : List Word) : Memory :=
  b.memory.storeAll (Store.list (sp - UInt32.ofNat (4 * words.length)).toUInt64 words)

/-- Called routines overwrite what they may. -/
def clobber (b : Board β κ) (regs : List Reg) : Board β κ :=
  { b with cpu := b.cpu.setAll regs (regs.map fun _ => b.scratch) }

/-- The processor begins to handle an exception: eight registers go on the stack in use.  The
    core adds no word below them to align the stack: it does so only if it is told to, and nobody
    tells it. -/
def enter (b : Board β κ) : Board β κ :=
  let c := b.cpu
  let words := stackedRegs.map c.get ++ [c.pc, c.xpsr]
  let lr := if c.onTaskStack then returnToTask else returnToMain
  { b with
    memory := b.stackBelow c.sp words
    cpu := { c.setSp (c.sp - 32) with lr := lr, handling := true } }

/-- The processor goes back to thread code, which takes eight registers from its stack. -/
def leave (b : Board β κ) (target : Word) : Board β κ :=
  let control := if target = returnToTask then b.cpu.control ||| 2 else b.cpu.control &&& ~~~2
  let c := { b.cpu with handling := false, control := control }
  let a := c.sp.toUInt64
  let c := c.setAll stackedRegs (b.memory.words a 6)
  { b with
    cpu := { c.setSp (c.sp + 32) with
      pc := b.memory.word (a + 24)
      xpsr := b.memory.word (a + 28) } }

/-- Execute one instruction. -/
def execute (b : Board β κ) : Instr → Board β κ
  | .adds d n => { b with cpu := b.cpu.set (b.cpu.get d + n) d }
  | .movs d n => { b with cpu := b.cpu.set n d }
  | .orr d n bits => { b with cpu := b.cpu.set (b.cpu.get n ||| bits) d }
  | .mov d n => { b with cpu := b.cpu.set (b.cpu.get n) d }
  | .mrsPsp d => { b with cpu := b.cpu.set b.cpu.psp d }
  | .msrPsp n => { b with cpu.psp := b.cpu.get n }
  | .msrControl n => { b with cpu.control := b.cpu.get n }
  | .isb => b
  | .push list =>
    { b with
      memory := b.stackBelow b.cpu.sp (list.map b.cpu.get)
      cpu := b.cpu.setSp (b.cpu.sp - UInt32.ofNat (4 * list.length)) }
  | .pop list =>
    let c := b.cpu.setAll list (b.memory.words b.cpu.sp.toUInt64 list.length)
    { b with cpu := c.setSp (c.sp + UInt32.ofNat (4 * list.length)) }
  | .stmdb base list =>
    let a := b.cpu.get base
    { b with
      memory := b.stackBelow a (list.map b.cpu.get)
      cpu := b.cpu.set (a - UInt32.ofNat (4 * list.length)) base }
  | .ldmia base list =>
    let a := b.cpu.get base
    let c := b.cpu.setAll list (b.memory.words a.toUInt64 list.length)
    { b with cpu := c.set (a + UInt32.ofNat (4 * list.length)) base }
  | .blSwitch =>
    let (sp, s) := b.scheduler.commit (b.cpu.get .r0).toUInt64
    let b := { b with scheduler := s }.clobber (Cpu.scratchRegs ++ [Reg.lr])
    { b with cpu := b.cpu.set sp.toUInt32 .r0 }
  | .cpsie => { b with cpu.primask := 0 }
  | .bx n =>
    let target := b.cpu.get n
    if b.cpu.handling && (target == returnToTask || target == returnToMain) then b.leave target
    else
      let status := if target &&& 1 = 0 then b.cpu.xpsr &&& ~~~thumbBit else b.cpu.xpsr ||| thumbBit
      { b with cpu := { b.cpu with pc := target &&& ~~~1, xpsr := status } }

/-- Execute instructions one after the other. -/
def executeAll (b : Board β κ) (code : List Instr) : Board β κ := code.foldl execute b

/-! ## Exceptions -/

/-- The handler of the trap, entered. -/
def takeTrap (b : Board β κ) : Board β κ :=
  { b with registers.trapPending := false }.executeAll Cpu.switchCode

/-- The handler of an exception is done: the trap comes next if it is pending, without thread
    code in between. -/
def finish (b : Board β κ) : Board β κ :=
  let b := b.clobber Cpu.scratchRegs
  if b.registers.trapPending then b.takeTrap else b.leave b.cpu.lr

/-- An exception with its handler. -/
def exception (b : Board β κ) (handler : Board β κ → Board β κ) : Board β κ :=
  (handler b.enter).finish

/-- Make the trap pending.  Thread code is interrupted at once; a handler goes on. -/
def requestTrap (b : Board β κ) : Board β κ :=
  let b := (drive Peripheral.requestTrap b).2
  if b.registers.trapPending && !b.cpu.handling && b.cpu.primask &&& 1 == 0 then b.enter.takeTrap
  else b

/-! ## The kernel -/

/-- Make a pass, and ask for the trap if it picks a task. -/
def switchBy (b : Board β κ) (pass : Scheduler β → Pass β) : Board β κ :=
  let p := pass b.scheduler
  let b := { b with scheduler := p.scheduler, memory := b.memory.storeAll p.stores }
  if p.pick.isSome then b.requestTrap else b

/-- The tick interrupt. -/
def sysTick (b : Board β κ) : Board β κ := b.exception (·.switchBy Kernel.tick)

/-- Set the kernel up as a program image has it. -/
def setUp (b : Board β κ) (image : Kernel.Image) (idle : β) : Board β κ :=
  let (s, line) := Kernel.setUp image idle b.scheduler
  { b with scheduler := s }.note (.log line)

/-- Make a task. -/
def create (b : Board β κ) (body : β) (argument size : UInt64) (name : Option String) :
    Except Fault TaskId × Board β κ :=
  let (id, s, line) := Kernel.create b.scheduler body argument size name
  (id, { b with scheduler := s }.note (.log line))

/-- Give the processor to the first task. -/
def start (b : Board β κ) : Board β κ :=
  let b := (drive (Bus.Program.setMask 1 (.done ())) b).2
  let (sp, s, stores) := b.scheduler.launch
  let b := { b with scheduler := s, memory := b.memory.storeAll stores }
  let b := b.note (.log (.launching s.current))
  match drive Peripheral.startTick.run b with
  -- without a tick the system stops here
  | (.error _, b) => b
  | (.ok _, b) =>
    let b := (drive Peripheral.setPriorities b).2
    { b with cpu := b.cpu.set sp.toUInt32 .r0 }.executeAll Cpu.launchCode

/-! ## The timer service -/

/-- Forget all timers and let the timer interrupt. -/
def timerSetUp (b : Board β κ) : Except Fault Unit × Board β κ :=
  drive Peripheral.armTimer.run { b with timers := b.timers.clear }

/-- Stop the timer and forget all timers. -/
def timerShutDown (b : Board β κ) : Board β κ :=
  let b := (drive Peripheral.disarmTimer b).2
  { b with timers := b.timers.clear }

/-- The timer interrupt, with what the callbacks do: a period of the service, if the timer has
    come to its end. -/
def timerInterrupt (b : Board β κ) (fire : Timer.Expiry κ → Board β κ → Board β κ) : Board β κ :=
  let (fired, b) := drive Peripheral.timerFired b
  if fired then Timer.period (·.timers) (fun t b => { b with timers := t }) fire b else b

end Board

end Carousel
