/-
  Carousel — running scripts.

  A thread of control is a list of things that it still has to do.  Each thing is small
  enough to happen at once; whatever can be interrupted is several things.

  * `Work`: a thing to do, and `Site`: who does it;
  * `Rig`: the kernel with its locks, rings and timers, the scripts, and what was written
    down so far;
  * `Rig.step`: do one thing, and say what has to be done next.
-/
import Carousel.Kernel.Call
import Carousel.Lock
import Carousel.Ring
import Carousel.Script.Action
import Carousel.Timer.Table

namespace Carousel.Script

/-- What a task of the rig runs. -/
inductive Body where
  | idle
  /-- The script whose number is the task's argument. -/
  | script

/-- Who does an action, and so where its outcome goes. -/
inductive Site where
  /-- Somebody at the console. -/
  | operator
  /-- The idle task, before the others run. -/
  | boot
  | script (argument : UInt64)
  | callback (context : UInt64)

/-- A thing that a thread has to do. -/
inductive Work where
  | perform (site : Site) (action : Action)
  | report (site : Site) (outcome : Outcome)
  /-- Try to take lock `m`; while it is busy, let others run and try again. -/
  | lock (site : Site) (m : Nat)
  /-- The same, in order to take the lock out of use. -/
  | retireLock (site : Site) (m : Nat)
  | invalidate (site : Site) (m : Nat)
  /-- So many periods of the timer service. -/
  | periods (n : Nat)
  /-- Run the callback of a timer if it is still owed. -/
  | fire (due : Timer.Expiry UInt64)
  /-- Run the script of that number from its start. -/
  | enter (argument : UInt64)
  /-- Go on with a script: the rest of this round, and the rounds after it. -/
  | round (argument : UInt64) (todo : List Action) (left : Nat)
  /-- The code that every task starts in. -/
  | trampoline (id : Nat)
  | returned (id : Nat) (code : Int32)
  | exit (id : Nat)
  /-- Let others run, for ever. -/
  | yieldForever
  /-- Time goes on by one tick. -/
  | tick
  | hardwareTick
  /-- The idle task: ticks, for ever. -/
  | idle

/-- How long a simulation goes on, and how time passes in it. -/
structure Plan where
  maxTicks : Nat
  maxActions : Nat
  /-- A tick comes after so many actions, if not zero. -/
  tickEvery : Nat
  /-- Periods of the timer service in a tick. -/
  periods : Nat

/-- Why a simulation stopped. -/
inductive Finish where
  | ticks
  | actions

/-- The kernel and all that scripts can reach. -/
structure Rig where
  scheduler : Scheduler Body
  memory : Memory
  timers : Timer.Table UInt64
  locks : Array Lock
  rings : Array Ring
  scripts : Array Routine
  callbacks : Array (List Action)
  /-- Present once tasks run on their own. -/
  plan : Option Plan
  ticks : Nat
  actions : Nat
  finish : Option Finish
  /-- The outcome of the operator's last action. -/
  answer : Option Outcome
  events : Array Event

namespace Rig

/-! ## Parts -/

/-- Write an event down. -/
def note (r : Rig) (e : Event) : Rig := { r with events := r.events.push e }

/-- Set the kernel up. -/
def setUp (r : Rig) : Rig :=
  let (s, line) := Kernel.setUp .host .idle r.scheduler
  { r with scheduler := s }.note (.log line)

/-- A rig whose kernel and timer service are set up. -/
def start (locks rings : Nat) (scripts : Array Routine) (callbacks : Array (List Action)) : Rig :=
  Rig.setUp {
    scheduler := .blank
    memory := .filled 0
    timers := Timer.Table.empty.clear
    locks := .replicate locks .free
    rings := .replicate rings .blank
    scripts := scripts
    callbacks := callbacks
    plan := none
    ticks := 0
    actions := 0
    finish := none
    answer := none
    events := #[] }

/-- Make a pass, and if it picks a task take the trap at once. -/
def switchBy (r : Rig) (pass : Scheduler Body → Pass Body) : Rig :=
  let p := pass r.scheduler
  { r with
    scheduler := if p.pick.isSome then Kernel.switchNow p.scheduler else p.scheduler
    memory := r.memory.storeAll p.stores }

/-- What the body of a task with this argument returns in the end. -/
def codeOf (r : Rig) (argument : UInt64) : Int32 :=
  ((r.scripts[argument.toNat]?).bind (·.code)).getD (Int32.ofInt argument.toNat)

/-- The owners of the locks. -/
def owners (r : Rig) : List (Option TaskId) := r.locks.toList.map (·.owner)

/-! ## Actions -/

/-- The action is over. -/
def reply (r : Rig) (site : Site) (o : Outcome) : Rig × List Work := (r, [.report site o])

/-- Change a lock, inside one critical section. -/
def withLock (r : Rig) (site : Site) (m : Nat) (f : Lock → Except Fault Lock) : Rig × List Work :=
  match r.locks[m]? with
  | none => r.reply site (.refused .noLock)
  | some l =>
    match f l with
    | .ok l => { r with locks := r.locks.setIfInBounds m l }.reply site .fine
    | .error e => r.reply site (.failed e)

/-- Do something that waits for a lock.  With nobody else to run, it is not even tried. -/
def waitFor (r : Rig) (site : Site) (m : Nat) (work : Work) : Rig × List Work :=
  match r.locks[m]? with
  | none => r.reply site (.refused .noLock)
  | some l =>
    if r.plan.isNone && l.owner.isSome then r.reply site (.refused .wouldBlock) else (r, [work])

/-- Change the timer table. -/
def withTimers (r : Rig) (site : Site)
    (f : Timer.Table UInt64 → Except Fault (Timer.Table UInt64)) : Rig × List Work :=
  match f r.timers with
  | .ok t => { r with timers := t }.reply site .fine
  | .error e => r.reply site (.failed e)

/-- Do something with a ring. -/
def withRing (r : Rig) (site : Site) (i : Nat) (f : Ring → Except Fault (Value × Ring)) :
    Rig × List Work :=
  match r.rings[i]? with
  | none => r.reply site (.refused .noRing)
  | some ring =>
    match f ring with
    | .ok (v, ring) => { r with rings := r.rings.setIfInBounds i ring }.reply site (.done v)
    | .error e => r.reply site (.failed e)

/-- Begin an action. -/
def perform (r : Rig) (site : Site) : Action → Rig × List Work
  | .setUp =>
    if r.plan.isSome then r.reply site (.refused .running) else r.setUp.reply site .fine
  | .create argument size name =>
    let (id, s, line) := Kernel.create r.scheduler .script argument size name
    let r := { r with scheduler := s }.note (.log line)
    r.reply site (.of (fun i : TaskId => .number i.val) id)
  | .delete id => r.reply site (.of (fun _ => .nothing) (Kernel.delete id))
  | .info id => r.reply site (.of .info (r.scheduler.info id))
  | .current => r.reply site (.done (.number r.scheduler.current.val))
  | .sleep ticks => (r.switchBy (Kernel.sleep · ticks)).reply site .fine
  | .sleepMs ms => (r.switchBy (Kernel.sleepMs · ms)).reply site .fine
  | .yield => (r.switchBy Kernel.yield).reply site .fine
  | .hardwareTick => (r.switchBy Kernel.tick).reply site .fine
  | .exit id => { r with scheduler := r.scheduler.exit id }.reply site .fine
  | .call id =>
    if id = 0 then r.reply site (.refused .endless)
    else
      match r.scheduler.entryOf id with
      | none => r.reply site .fine
      | some (_, argument) =>
        (r, [.enter argument, .report site (.done (.number (r.codeOf argument).toInt))])
  | .save down =>
    let (sp, s) := r.scheduler.commit (r.scheduler.currentTask.sp - UInt64.ofInt (4 * down))
    let depth := (s.currentTask.top.toNat : Int) - sp.toNat
    { r with scheduler := s }.reply site (.done (.number depth))
  | .tryLock m => r.withLock site m (Lock.acquire r.scheduler.current)
  | .lock m => r.waitFor site m (.lock site m)
  | .unlock m => r.withLock site m (Lock.release r.scheduler.current)
  | .retireLock m => r.waitFor site m (.retireLock site m)
  | .owner m =>
    match r.locks[m]? with
    | none => r.reply site (.refused .noLock)
    | some l => r.reply site (.done (l.owner.elim .nothing fun t => .number t.val))
  | .timerSetUp | .timerShutDown => r.withTimers site (.ok ·.clear)
  | .timerCreate timeout autoRestart context =>
    match r.timers.create timeout autoRestart context with
    | .ok (id, t) => { r with timers := t }.reply site (.done (.number id))
    | .error e => r.reply site (.failed e)
  | .timerPause id => r.withTimers site (·.pause id)
  | .timerResume id => r.withTimers site (·.resume id)
  | .timerRemaining id =>
    r.reply site (.of (fun n : UInt32 => .number n.toNat) (r.timers.remaining id))
  | .timerDestroy id => r.withTimers site (·.destroy id)
  | .timerReset id timeout => r.withTimers site (·.reset id timeout)
  | .periods n => (r, [.periods n, .report site .fine])
  | .ringAttach i size =>
    r.withRing site i fun ring => (ring.attach (.replicate size 0)).map (.nothing, ·)
  | .ringPut i bytes dropOldest =>
    r.withRing site i fun ring =>
      let (n, ring) := ring.put dropOldest bytes
      .ok (.number n, ring)
  | .ringGet i n =>
    r.withRing site i fun ring =>
      let (n, out, ring) := ring.get (.replicate n 0)
      .ok (.bytes (out.take n), ring)
  | .ringState i =>
    r.withRing site i fun ring => .ok (.ring ring.length ring.capacity ring.isEmpty, ring)
  | .ringClear i => r.withRing site i fun ring => .ok (.nothing, ring.clear)

/-- An action is over.  In a task it counts, and time may go on. -/
def report (r : Rig) (site : Site) (o : Outcome) : Rig × List Work :=
  match site with
  | .operator => ({ r with answer := some o }, [])
  | .boot => (r.note (.boot o), [])
  | .callback context => (r.note (.callback context o), [])
  | .script argument =>
    let r := r.note (.did argument r.scheduler.current o)
    match r.plan with
    | none => (r, [])
    | some plan =>
      let r := { r with actions := r.actions + 1 }
      if plan.maxActions ≤ r.actions then ({ r with finish := some .actions }, [])
      else if plan.tickEvery ≠ 0 ∧ r.actions % plan.tickEvery = 0 then (r, [.tick])
      else (r, [])

/-! ## One thing -/

/-- Try to take lock `m`, and go on with `next` unless it is busy. -/
def attempt (r : Rig) (m : Nat) (again : Work) (next : Except Fault Unit → Work) :
    Rig × List Work :=
  match (r.locks[m]?).getD .invalid |>.acquire r.scheduler.current with
  | .ok l => ({ r with locks := r.locks.setIfInBounds m l }, [next (.ok ())])
  | .error .busy => (r.switchBy Kernel.yield, [again])
  | .error e => (r, [next (.error e)])

/-- Do one thing; what has to be done next comes with the rig. -/
def step (r : Rig) : Work → Rig × List Work
  | .perform site action => r.perform site action
  | .report site o => r.report site o
  | .lock site m =>
    r.attempt m (.lock site m) fun o => .report site (.of (fun _ => .nothing) o)
  | .retireLock site m => r.attempt m (.retireLock site m) fun _ => .invalidate site m
  | .invalidate site m =>
    { r with locks := r.locks.modify m Lock.invalidate }.reply site .fine
  | .periods 0 => (r, [])
  | .periods (n + 1) =>
    let (dues, t) := r.timers.advance
    ({ r with timers := t }, dues.map .fire ++ [.periods n])
  | .fire due =>
    if r.timers.owes due then
      (r.note (.fire due.payload),
        ((r.callbacks[due.payload.toNat]?).getD []).map (.perform (.callback due.payload)))
    else (r, [])
  | .enter argument =>
    let r := r.note (.entry argument r.scheduler.current)
    match r.scripts[argument.toNat]? with
    | none => (r, [])
    | some script => (r, [.round argument [] script.rounds])
  | .round argument (a :: todo) left =>
    (r, [.perform (.script argument) a, .round argument todo left])
  | .round _ [] 0 => (r, [])
  | .round argument [] (left + 1) =>
    (r, [.round argument (((r.scripts[argument.toNat]?).map (·.actions)).getD []) left])
  | .trampoline id =>
    let r := r.note (.log (.entered id))
    match r.scheduler.entryOf id with
    | none => (r, [.exit id])
    | some (_, argument) => (r, [.enter argument, .returned id (r.codeOf argument)])
  | .returned id code => (r.note (.log (.returned id code)), [.exit id])
  | .exit id => ({ r with scheduler := r.scheduler.exit id }, [.yieldForever])
  | .yieldForever => (r.switchBy Kernel.yield, [.yieldForever])
  | .tick =>
    match r.plan with
    | none => (r, [])
    | some plan =>
      if plan.maxTicks ≤ r.ticks then ({ r with finish := some .ticks }, [])
      else
        let r := { r with ticks := r.ticks + 1 }
        (r.note (.tick r.ticks), [.periods plan.periods, .hardwareTick])
  | .hardwareTick => (r.switchBy Kernel.tick, [])
  | .idle => (r, [.tick, .idle])

/-- Do things in one thread until none is left, at most so many. -/
def run : Nat → List Work → Rig → Rig
  | _, [], r => r
  | 0, _, r => r
  | fuel + 1, w :: ws, r =>
    let (r, more) := r.step w
    run fuel (more ++ ws) r

end Rig

end Carousel.Script
