/-
  Carousel — an operator at the console.

  The operator's actions are done one after the other by whoever is the current task.  A
  switch only changes who that is.

  * `Rig.ask`: one action, with its outcome and the events of that time.
-/
import Carousel.Script.Rig

namespace Carousel.Script.Rig

/-- Nothing that an operator asks for takes as many steps as this, unless it never ends. -/
def patience : Nat := 1000000000

/-- Do one action of the operator's. -/
def ask (r : Rig) (action : Action) : Outcome × List Event × Rig :=
  let r := run patience [.perform .operator action] { r with events := #[], answer := none }
  (r.answer.getD .fine, r.events.toList, r)

end Carousel.Script.Rig
