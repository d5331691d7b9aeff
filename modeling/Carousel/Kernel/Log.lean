/-
  Carousel — what the kernel reports about itself.

  * `Log.Line`: one constructor per report;
  * `Line.level` and `Line.text`: how grave it is, and its wording.
-/
import Carousel.Fault
import Carousel.Task.Name
import Carousel.Text.Quoted

namespace Carousel.Log

/-- How grave a report is. -/
inductive Level where
  | debug
  | warn
  | error
  deriving DecidableEq

/-- The name of a level. -/
def Level.label : Level → String
  | debug => "DEBUG"
  | warn => "WARN"
  | error => "ERROR"

/-- A report. -/
inductive Line where
  /-- The kernel was set up, with this idle task. -/
  | ready (idle : Nat)
  /-- There was no room for the idle task. -/
  | notReady (why : Fault)
  | created (name : String) (id : Nat) (size : UInt64)
  | notCreated (name : Option String) (why : Fault)
  /-- The processor is about to be given to its first task. -/
  | launching (first : Nat)
  /-- A task begins. -/
  | entered (id : Nat)
  /-- The body of a task is done. -/
  | returned (id : Nat) (code : Int32)

namespace Line

/-- How grave a report is. -/
def level : Line → Level
  | notReady _ => .error
  | notCreated .. => .warn
  | _ => .debug

/-- A name that may be absent, as text. -/
def showName : Option String → String
  | none => "None"
  | some s => "Some(" ++ Text.quote s ++ ")"

/-- The wording of a report. -/
def text : Line → String
  | ready idle => "kernel init, idle task id=" ++ toString idle
  | notReady why => "idle task creation failed: " ++ why.message
  | created name id size =>
    "create task[" ++ name ++ "], id=" ++ toString id ++ ", ss=" ++ toString size.toNat
  | notCreated name why => "create task " ++ showName name ++ " failed: " ++ why.message
  | launching first => "start, first task id=" ++ toString first
  | entered id => "enter task trampoline (id=" ++ toString id ++ ")"
  | returned id code => "task " ++ toString id ++ " returned " ++ toString code.toInt

end Line

end Carousel.Log
