/-
  Carousel — the timer table.

  Every period each timer that is not paused counts down by one.  One that reaches zero falls
  due in that period, and is then loaded again or freed.

  * `Slot`: a place in the table, with the generation of its occupant;
  * `Table`: all places; `create`, `pause`, `resume`, `reset`, `destroy`, `clear`;
  * `advance`: one period; `owes`: whether what fell due is still owed its callback.

  `κ` is the type of what a timer carries to its callback.
-/
import Carousel.Fault
import Carousel.Limits
import Carousel.Table

namespace Carousel.Timer

variable {κ : Type}

/-- A timer that is in use. -/
structure Entry (κ : Type) where
  paused : Bool
  autoRestart : Bool
  /-- Periods until it falls due. -/
  remaining : UInt32
  /-- What `remaining` is loaded with. -/
  timeout : UInt32
  payload : κ
deriving DecidableEq

/-- A place in the table.  The generation tells its occupants apart: it moves on when a timer is
    put there and when one is taken away, but not when a timer expires. -/
structure Slot (κ : Type) where
  generation : UInt32
  timer : Option (Entry κ)

/-- A timer that fell due. -/
structure Expiry (κ : Type) where
  id : Nat
  generation : UInt32
  payload : κ
deriving DecidableEq

/-! ## One slot -/

namespace Slot

/-- A place that was never used. -/
def free : Slot κ := ⟨0, none⟩

/-- Put a timer in. -/
def load (s : Slot κ) (t : Entry κ) : Slot κ := ⟨s.generation + 1, some t⟩

/-- Take away what is there, if anything. -/
def release (s : Slot κ) : Slot κ := ⟨s.generation + 1, none⟩

/-- The timer counts. -/
def active (s : Slot κ) : Option (Entry κ) := s.timer.filter (!·.paused)

/-- What the countdown is one period later. -/
def countdown (t : Entry κ) : UInt32 := if t.remaining = 0 then 0 else t.remaining - 1

/-- What falls due in place `id` in the next period. -/
def expiring (id : Nat) (s : Slot κ) : Option (Expiry κ) :=
  match s.active with
  | none => none
  | some t => if countdown t = 0 then some ⟨id, s.generation, t.payload⟩ else none

/-- The place after the next period.  Expiry is no release: the generation stays, since the
    callback is still owed. -/
def next (s : Slot κ) : Slot κ :=
  match s.active with
  | none => s
  | some t =>
    if countdown t = 0 then
      if t.autoRestart then { s with timer := some { t with remaining := t.timeout } }
      else { s with timer := none }
    else { s with timer := some { t with remaining := countdown t } }

/-- The periods that are left, zero for a free place. -/
def remaining (s : Slot κ) : UInt32 :=
  match s.timer with
  | none => 0
  | some t => t.remaining

/-- There is a timer, and it is paused. -/
def isPaused (s : Slot κ) : Bool := s.timer.any (·.paused)

end Slot

/-! ## The table -/

/-- All places. -/
structure Table (κ : Type) where
  slots : Vector (Slot κ) maxTimers

namespace Table

/-- No timers, and none before. -/
def empty : Table κ := ⟨.replicate maxTimers .free⟩

/-- Place `i`. -/
def slot (t : Table κ) (i : Fin maxTimers) : Slot κ := t.slots.get i

/-- Change place `i`. -/
def update (t : Table κ) (i : Fin maxTimers) (f : Slot κ → Slot κ) : Table κ :=
  ⟨t.slots.setIfInBounds i (f (t.slot i))⟩

theorem slot_update (t : Table κ) (i j : Fin maxTimers) (f : Slot κ → Slot κ) :
    (t.update i f).slot j = if i = j then f (t.slot i) else t.slot j := by
  simp [update, slot, Carousel.Table.get_setIfInBounds]

/-- Change the place `id`, if there is such a place. -/
def modify (t : Table κ) (id : Nat) (f : Slot κ → Slot κ) : Except Fault (Table κ) :=
  if h : id < maxTimers then .ok (t.update ⟨id, h⟩ f) else .error .parameter

/-- Release every place. -/
def clear (t : Table κ) : Table κ := ⟨t.slots.map Slot.release⟩

@[simp] theorem slot_clear (t : Table κ) (i : Fin maxTimers) :
    t.clear.slot i = (t.slot i).release := by
  simp [clear, slot]

/-- Put a timer into the first free place. -/
def create (t : Table κ) (timeout : UInt32) (autoRestart : Bool) (payload : κ) :
    Except Fault (Nat × Table κ) :=
  match t.slots.findFinIdx? (·.timer.isNone) with
  | none => .error .exhausted
  | some i =>
    let entry := ⟨false, autoRestart, timeout, timeout, payload⟩
    .ok (i, t.update i (·.load entry))

/-- Stop counting.  A free place stays as it is. -/
def pause (t : Table κ) (id : Nat) : Except Fault (Table κ) :=
  t.modify id fun s => { s with timer := s.timer.map ({ · with paused := true }) }

/-- Go on counting.  A free place stays as it is. -/
def resume (t : Table κ) (id : Nat) : Except Fault (Table κ) :=
  t.modify id fun s => { s with timer := s.timer.map ({ · with paused := false }) }

/-- Load the countdown anew.  A free place stays as it is. -/
def reset (t : Table κ) (id : Nat) (timeout : UInt32) : Except Fault (Table κ) :=
  t.modify id fun s =>
    { s with timer := s.timer.map ({ · with remaining := timeout, timeout := timeout }) }

/-- The periods that timer `id` has left. -/
def remaining (t : Table κ) (id : Nat) : Except Fault UInt32 :=
  if h : id < maxTimers then .ok (t.slot ⟨id, h⟩).remaining else .error .parameter

/-- Take the timer away. -/
def destroy (t : Table κ) (id : Nat) : Except Fault (Table κ) := t.modify id Slot.release

/-- What falls due in the next period, in the order of the places. -/
def expiring (t : Table κ) : List (Expiry κ) :=
  (List.finRange maxTimers).filterMap fun i => (t.slot i).expiring i

/-- One period: what falls due in it, and the table afterwards. -/
def advance (t : Table κ) : List (Expiry κ) × Table κ := (t.expiring, ⟨t.slots.map Slot.next⟩)

@[simp] theorem slot_advance (t : Table κ) (i : Fin maxTimers) :
    t.advance.2.slot i = (t.slot i).next := by
  simp [advance, slot]

/-- Nobody has since put a timer in the place, taken one away, or paused the one that is there. -/
def owes (t : Table κ) (d : Expiry κ) : Bool :=
  if h : d.id < maxTimers then
    let s := t.slot ⟨d.id, h⟩
    s.generation == d.generation && !s.isPaused
  else false

end Table

end Carousel.Timer
