/-
  Carousel — one period of the timer service.

  The table moves on first.  Then each timer that fell due is checked once more, and its
  callback runs if it is still owed: an earlier callback may have destroyed, replaced or
  paused it meanwhile.

  * `Call`: what a callback may ask of the service;
  * `fireAll` and `period`: a period in which callback `fire d` changes a state `σ`, of which
    the table is a part.
-/
import Carousel.Timer.Table

namespace Carousel.Timer

variable {κ σ : Type}

/-- A call of the timer service. -/
inductive Call (κ : Type) where
  | create (timeout : UInt32) (autoRestart : Bool) (payload : κ)
  | pause (id : Nat)
  | resume (id : Nat)
  | reset (id : Nat) (timeout : UInt32)
  | remaining (id : Nat)
  | destroy (id : Nat)
deriving DecidableEq

namespace Table

/-- The table after a call that may have been refused. -/
def after (t : Table κ) : Except Fault (Table κ) → Table κ
  | .ok t' => t'
  | .error _ => t

/-- The table after a call. -/
def apply (t : Table κ) : Call κ → Table κ
  | .create timeout autoRestart payload =>
    t.after ((t.create timeout autoRestart payload).map Prod.snd)
  | .pause id => t.after (t.pause id)
  | .resume id => t.after (t.resume id)
  | .reset id timeout => t.after (t.reset id timeout)
  | .remaining _ => t
  | .destroy id => t.after (t.destroy id)

end Table

/-- Run the callbacks that are still owed, first to last.  `table` finds the timer table. -/
def fireAll (table : σ → Table κ) (fire : Expiry κ → σ → σ) (dues : List (Expiry κ)) (s : σ) : σ :=
  dues.foldl (fun s d => if (table s).owes d then fire d s else s) s

/-- One period of the service on a state of which the table is a part. -/
def period (table : σ → Table κ) (put : Table κ → σ → σ) (fire : Expiry κ → σ → σ) (s : σ) : σ :=
  let (dues, t) := (table s).advance
  fireAll table fire dues (put t s)

end Carousel.Timer
