/-
  Carousel — the shared number of the demonstration.

  * `Happening`: the current task goes on, or something comes from outside, and `afterAll`: any of
    this in any order;
  * `Run.firmware_runFor`: runs that are timed by the idle task are among these;
  * `unlockCount`: how often a task gives the lock back;
  * `CounterPoint.Has` and `Guards`: what the number is, by who has the lock and where that task is;
  * `Counts`: this, on a board whose tasks are where their bodies say;
  * `Counts.step_plain`, `Counts.stepCounter`, `Counts.release` and `Counts.interrupt`: the tasks
    and the outside keep it, and `Counts.after` and `Counts.afterAll`: so does a whole run;
  * `At`: a counting task step by step, and the tick that disturbs it;
  * `counter_exact`: no addition is lost.
-/
import Carousel.Demo.Run
import Carousel.Proofs.Board.Ports
import Carousel.Proofs.Demo.Boot

namespace Carousel.Demo

/-- Something that happens. -/
inductive Happening where
  /-- The current task goes on to its next point. -/
  | goOn
  | interrupt (i : Interrupt)
  /-- The idle task lets time go on. -/
  | spin (n : Nat)

namespace Firmware

/-! ## Runs -/

/-- What it leads to. -/
def after (f : Firmware) : Happening → Firmware
  | .goOn => f.step
  | .interrupt i => f.interrupt i
  | .spin n => { f with board := f.board.note (.tick n) }

/-- The state after all of it, first to last. -/
def afterAll (f : Firmware) (xs : List Happening) : Firmware := xs.foldl after f

@[simp] theorem afterAll_nil (f : Firmware) : f.afterAll [] = f := rfl

@[simp] theorem afterAll_cons (f : Firmware) (x : Happening) (xs : List Happening) :
    f.afterAll (x :: xs) = (f.after x).afterAll xs := rfl

/-- Where a task is. -/
def point (f : Firmware) (i : TaskId) : Point := (f.threads.get i).point

/-- The task gives the lock back. -/
def unlocks (f : Firmware) (i : TaskId) : Happening → Bool
  | .goOn =>
    f.current == i && !f.thread.trap &&
      match f.thread.point with
      | .counter _ .release => (f.lock.release i).isOk
      | _ => false
  | _ => false

/-- How often it does so. -/
def unlockCount (i : TaskId) : Firmware → List Happening → Nat
  | _, [] => 0
  | f, x :: xs => (f.unlocks i x).toNat + unlockCount i (f.after x) xs

end Firmware

/-- The runs in which time goes on only while the idle task spins are made of nothing else. -/
theorem Run.firmware_step (r : Run) : ∃ xs, r.step.firmware = r.firmware.afterAll xs := by
  by_cases hidle : r.idling = true
  · rw [Run.step, if_pos hidle]
    cases r.coming with
    | cons i coming => exact ⟨[.interrupt i], rfl⟩
    | nil =>
      dsimp only
      split_ifs
      · exact ⟨[], rfl⟩
      · exact ⟨[.spin (r.ticks + 1)], rfl⟩
  · rw [Run.step, if_neg hidle]
    exact ⟨[.goOn], rfl⟩

theorem Run.firmware_runFor (n : Nat) (r : Run) :
    ∃ xs, (Run.runFor n r).firmware = r.firmware.afterAll xs := by
  induction n generalizing r with
  | zero => exact ⟨[], rfl⟩
  | succ n ih =>
    rw [Run.runFor]
    split_ifs
    · exact ⟨[], rfl⟩
    · obtain ⟨xs, hxs⟩ := r.firmware_step
      obtain ⟨ys, hys⟩ := ih r.step
      refine ⟨xs ++ ys, hys.trans ?_⟩
      rw [hxs, Firmware.afterAll, Firmware.afterAll, Firmware.afterAll, List.foldl_append]

/-! ## Points -/

/-- A counting task has the lock there. -/
def CounterPoint.inside : CounterPoint → Bool
  | .load | .store _ | .release => true
  | _ => false

/-- The same for any task. -/
def Point.inside : Point → Bool
  | .counter _ q => q.inside
  | _ => false

/-- A counting task gives the lock back next. -/
def Point.releasing : Point → Bool
  | .counter _ .release => true
  | _ => false

/-- It belongs to a task that runs, and that does not count. -/
def Point.plain : Point → Bool
  | .fresh | .counter .. | .failed _ => false
  | _ => true

/-- A task that runs a body with an argument may be there. -/
inductive Point.Within : Point → Option (Body × UInt64) → Prop
  | counter {argument : UInt64} {q : CounterPoint} :
      Within (.counter argument.toUInt32 q) (some (.counter, argument))
  | plain {p : Point} {e : Option (Body × UInt64)} : p.plain → (∀ a, e ≠ some (.counter, a)) →
      Within p e

/-- What the shared number is while a task that has the lock is there, if all that was added before
    makes `total`. -/
def CounterPoint.Has (amount total number : Word) : CounterPoint → Prop
  | .load => number = total
  | .store value => number = total ∧ value = total
  | .release => number = total + amount
  | _ => False

/-- Neither point is inside, and whatever runs may go on from one to the other. -/
structure Point.Outside (p p' : Point) : Prop where
  ran : p ≠ .fresh
  leads : ∀ e, p.Within e → p'.Within e
  before : p.inside = false
  behind : p'.inside = false

namespace Point

variable {p p' : Point}

theorem inside_of_plain (h : p.plain) : p.inside = false := by
  cases p <;> first | rfl | cases h

theorem outside_of_plain (h : p.plain) (h' : p'.plain) : p.Outside p' := by
  refine ⟨?_, ?_, inside_of_plain h, inside_of_plain h'⟩
  · rintro rfl; cases h
  · rintro e (_ | ⟨-, he⟩)
    · cases h
    · exact .plain h' he

theorem within_counter {amount : Word} {q : CounterPoint} {e : Option (Body × UInt64)}
    (h : (counter amount q).Within e) (q' : CounterPoint) : (counter amount q').Within e := by
  obtain _ | ⟨h, -⟩ := h
  · exact .counter
  · cases h

theorem outside_counter (amount : Word) {q q' : CounterPoint} (hq : q.inside = false)
    (hq' : q'.inside = false) : (counter amount q).Outside (counter amount q') :=
  ⟨nofun, fun _ h => within_counter h q', hq, hq'⟩

/-- Where a task begins that runs this. -/
def start : Option (Body × UInt64) → Point
  | none => .exit
  | some (b, argument) => b.start argument

theorem within_start (e : Option (Body × UInt64)) : (start e).Within e := by
  obtain _ | ⟨_ | _ | _ | _, argument⟩ := e
  · exact .plain rfl nofun
  · exact .plain rfl nofun
  · exact .counter
  · exact .plain rfl nofun
  · exact .plain rfl nofun

theorem inside_start (e : Option (Body × UInt64)) : (start e).inside = false := by
  obtain _ | ⟨_ | _ | _ | _, argument⟩ := e <;> rfl

/-- A call that must not fail does not fail in any body. -/
theorem not_failed {e : Option (Body × UInt64)} (h : p.Within e) (message : String) :
    p ≠ .failed message := by
  rintro rfl
  obtain _ | ⟨h, -⟩ := h
  cases h

end Point

namespace Firmware

variable {f f' : Firmware} {total : Word}

/-! ## The lock -/

/-- **How the lock guards the number.**  While it is free all that was added is there, and nobody
    is inside.  While it is held its owner is inside, and nobody else. -/
inductive Guards (f : Firmware) (total : Word) : Prop
  | free : f.lock = .free → f.counter = total → (∀ i, (f.point i).inside = false) → Guards f total
  | held {t : TaskId} {amount : Word} {q : CounterPoint} : f.lock = .held t →
      f.point t = .counter amount q → q.Has amount total f.counter →
      (∀ i, i ≠ t → (f.point i).inside = false) → Guards f total

theorem inside_of_has {amount number : Word} {q : CounterPoint} (h : q.Has amount total number) :
    q.inside = true := by
  cases q <;> first | rfl | exact h.elim

/-- A task that is inside has the lock. -/
theorem Guards.of_inside (h : f.Guards total) {i : TaskId} (hi : (f.point i).inside = true) :
    ∃ amount q, f.lock = .held i ∧ f.point i = .counter amount q ∧ q.Has amount total f.counter ∧
      ∀ j, j ≠ i → (f.point j).inside = false := by
  cases h with
  | free _ _ hout => rw [hout i] at hi; cases hi
  | @held t amount q hl hp hhas hout =>
    by_cases hit : i = t
    · subst hit; exact ⟨amount, q, hl, hp, hhas, hout⟩
    · rw [hout i hit] at hi; cases hi

/-- What happens outside is of no account. -/
theorem Guards.of_outside (h : f.Guards total) (hl : f'.lock = f.lock) (hc : f'.counter = f.counter)
    (hp : ∀ i, f'.point i = f.point i ∨
      (f.point i).inside = false ∧ (f'.point i).inside = false) : f'.Guards total := by
  have hout : ∀ i, (f.point i).inside = false → (f'.point i).inside = false := by
    intro i hi
    rcases hp i with he | he
    · rw [he]; exact hi
    · exact he.2
  cases h with
  | free hl' hc' hout' =>
    exact .free (hl.trans hl') (hc.trans hc') fun i => hout i (hout' i)
  | @held t amount q hl' hp' hhas hout' =>
    have ht : f'.point t = f.point t := by
      rcases hp t with he | ⟨he, -⟩
      · exact he
      · rw [hp', Point.inside, inside_of_has hhas] at he; cases he
    exact .held (hl.trans hl') (ht.trans hp') (by rw [hc]; exact hhas) fun i hi => hout i (hout' i hi)

/-! ## All that is known -/

/-- A thread of a task is where the body of that task says, and has its number. -/
def Placed (i : TaskId) (t : Thread) : Prop :=
  t.point = .fresh ∨ t.id = i ∧ t.point.Within (made.entryOf i)

/-- The tasks run, each is in its body, and the lock guards the number. -/
structure Counts (f : Firmware) (total : Word) : Prop where
  board : Launched f.board
  placed : ∀ i, Placed i (f.threads.get i)
  guards : f.Guards total

theorem Unused.counts (h : f.Unused) (hb : Launched f.board) : f.Counts 0 := by
  refine ⟨hb, fun i => Or.inl ?_, .free h.lock h.counter fun i => ?_⟩
  · rw [h.fresh]; rfl
  · rw [point, h.fresh]; rfl

/-- The current task knows its number, and says so. -/
def begun (f : Firmware) : Firmware :=
  ({ f with threads := f.threads.setIfInBounds f.current { f.thread with id := f.current.val } } :
    Firmware).log (.entered f.current.val)

theorem thread_begun (f : Firmware) : f.begun.thread = { f.thread with id := f.current.val } :=
  (Table.get_setIfInBounds ..).trans (if_pos rfl)

theorem board_passTo (f : Firmware) {pass : Scheduler Body → Pass Body} {e : Carousel.Event Body}
    (p : Point) (hs : (pass f.board.scheduler).scheduler = f.board.scheduler.after e)
    (hm : (pass f.board.scheduler).stores = f.board.scheduler.stores e) :
    (f.passTo pass p).board = f.board.call e := by
  show ({ f.board with
    scheduler := (pass f.board.scheduler).scheduler
    memory := f.board.memory.storeAll (pass f.board.scheduler).stores } : Board Body Alarm) = _
  rw [hs, hm]; rfl

theorem step_counter {amount : Word} {q : CounterPoint} (ht : f.thread.trap = false)
    (hp : f.thread.point = .counter amount q) : f.step = f.stepCounter amount q := by
  rw [step, if_neg (by rw [ht]; exact Bool.false_ne_true), hp]

namespace Counts

theorem current_lt (h : f.Counts total) : f.current.val < made.count := by
  rw [← h.board.2.count]; exact h.board.1.running.sound.current.made

/-- What happens to the board is of no account, as long as the tasks stay the same. -/
theorem of_board (h : f.Counts total) (hb : f'.board.Untouched)
    (hs : f.board.scheduler.SameTasks f'.board.scheduler) (ht : f'.threads = f.threads)
    (hl : f'.lock = f.lock) (hc : f'.counter = f.counter) : f'.Counts total := by
  refine ⟨⟨hb, h.board.2.trans hs⟩, fun i => ?_, h.guards.of_outside hl hc fun i => Or.inl ?_⟩
  · rw [ht]; exact h.placed i
  · rw [point, point, ht]

/-- The current task goes on to a point of its body. -/
theorem of_thread (h : f.Counts total) {total' : Word} {t : Thread} (hb : f'.board.Untouched)
    (hs : f.board.scheduler.SameTasks f'.board.scheduler)
    (ht : f'.threads = f.threads.setIfInBounds f.current t) (hp : Placed f.current t)
    (hg : f'.Guards total') : f'.Counts total' := by
  refine ⟨⟨hb, h.board.2.trans hs⟩, fun i => ?_, hg⟩
  rw [ht, Table.get_setIfInBounds]
  split_ifs with hi
  · subst hi; exact hp
  · exact h.placed i

/-- It leaves the lock and the number alone, and does so without the lock, or stays where it is. -/
theorem of_quiet (h : f.Counts total) {t : Thread} (hb : f'.board.Untouched)
    (hs : f.board.scheduler.SameTasks f'.board.scheduler)
    (ht : f'.threads = f.threads.setIfInBounds f.current t) (hl : f'.lock = f.lock)
    (hc : f'.counter = f.counter) (hp : Placed f.current t)
    (hq : t.point = f.thread.point ∨
      f.thread.point.inside = false ∧ t.point.inside = false) : f'.Counts total := by
  refine h.of_thread hb hs ht hp (h.guards.of_outside hl hc fun i => ?_)
  rw [point, point, ht, Table.get_setIfInBounds]
  split_ifs with hi
  · subst hi; exact hq
  · exact Or.inl rfl

/-- A task that runs is in its body. -/
theorem ran (h : f.Counts total) (hp : f.thread.point ≠ .fresh) :
    f.thread.id = f.current ∧ f.thread.point.Within (made.entryOf f.current) :=
  (h.placed f.current).resolve_left hp

theorem placed_of_outside (h : f.Counts total) {t : Thread} (hid : t.id = f.thread.id)
    (hp : f.thread.point.Outside t.point) : Placed f.current t := by
  obtain ⟨hi, hw⟩ := h.ran hp.ran
  exact Or.inr ⟨hid.trans hi, hp.leads _ hw⟩

/-! ## Steps outside of the lock -/

theorem goTo (h : f.Counts total) {p : Point} (hp : f.thread.point.Outside p) :
    (f.goTo p).Counts total :=
  h.of_quiet h.board.1 (.refl _) rfl rfl rfl (h.placed_of_outside rfl hp)
    (Or.inr ⟨hp.before, hp.behind⟩)

theorem passTo (h : f.Counts total) {pass : Scheduler Body → Pass Body} {p : Point}
    {e : Carousel.Event Body} (he : e.isCall)
    (hs : (pass f.board.scheduler).scheduler = f.board.scheduler.after e)
    (hm : (pass f.board.scheduler).stores = f.board.scheduler.stores e)
    (hn : (f.board.scheduler.after e).count = f.board.scheduler.count)
    (hp : f.thread.point.Outside p) : (f.passTo pass p).Counts total := by
  have hb := f.board_passTo p hs hm
  refine h.of_quiet ?_ ?_ rfl rfl rfl (h.placed_of_outside rfl hp)
    (Or.inr ⟨hp.before, hp.behind⟩)
  · rw [hb]; exact h.board.1.call he hn
  · rw [hb]; exact .after _ hn

theorem yieldTo (h : f.Counts total) {p : Point} (hp : f.thread.point.Outside p) :
    (f.passTo Kernel.yield p).Counts total :=
  h.passTo (e := .pass .call) trivial rfl rfl (Scheduler.count_pass _ _) hp

theorem sleepTo (h : f.Counts total) (ticks : UInt16) {p : Point}
    (hp : f.thread.point.Outside p) : (f.passTo (Kernel.sleep · ticks) p).Counts total :=
  h.passTo (e := .sleep ticks) trivial rfl rfl (Scheduler.count_pass _ _) hp

theorem noteSwitch (h : f.Counts total) (old : TaskId) : (f.noteSwitch old).Counts total := by
  unfold Firmware.noteSwitch
  split_ifs
  · exact h
  · exact h.of_board (h.board.1.of_same rfl rfl rfl) (.refl _) rfl rfl rfl

/-- The trap costs a task nothing, inside or outside. -/
theorem takeTrap (h : f.Counts total) : f.takeTrap.Counts total := by
  obtain ⟨hb, hs⟩ := h.board.1.requestTrap
  refine noteSwitch (f := { f with
    threads := f.threads.setIfInBounds f.current { f.thread with trap := false }
    board := f.board.requestTrap }) ?_ f.current
  exact h.of_quiet hb hs rfl rfl rfl (h.placed f.current) (Or.inl rfl)

/-- R0 holds the number of the task. -/
theorem number (h : f.Counts total) : (f.board.cpu.get .r0).toNat = f.current.val :=
  h.board.1.number

/-- A task begins as itself. -/
theorem step_fresh (h : f.Counts total) (ht : f.thread.trap = false)
    (hp : f.thread.point = .fresh) :
    f.step = f.begun.goTo (Point.start (made.entryOf f.current)) := by
  unfold Firmware.step
  rw [if_neg (by rw [ht]; exact Bool.false_ne_true), hp, h.number]
  dsimp only
  rw [← begun]
  have hentry : f.begun.board.scheduler.entryOf f.current = made.entryOf f.current :=
    h.board.2.entryOf h.current_lt
  rw [hentry]
  cases made.entryOf f.current <;> rfl

theorem enter (h : f.Counts total) (ht : f.thread.trap = false) (hp : f.thread.point = .fresh) :
    f.step.Counts total := by
  have hbegun : f.begun.Counts total :=
    h.of_quiet (h.board.1.of_same rfl rfl rfl) (.refl _) rfl rfl rfl (Or.inl hp) (Or.inl rfl)
  rw [h.step_fresh ht hp]
  refine hbegun.of_quiet hbegun.board.1 (.refl _) rfl rfl rfl
    (Or.inr ⟨?_, Point.within_start _⟩) (Or.inr ⟨?_, Point.inside_start _⟩)
  · rw [thread_begun]; rfl
  · rw [thread_begun, hp]; rfl

/-- A task that does not count goes on. -/
theorem step_plain (h : f.Counts total) (ht : f.thread.trap = false) (hp : f.thread.point.plain) :
    f.step.Counts total := by
  have hout : ∀ {p : Point}, p.plain → f.thread.point.Outside p := Point.outside_of_plain hp
  unfold Firmware.step
  rw [if_neg (by rw [ht]; exact Bool.false_ne_true)]
  cases hpt : f.thread.point with
  | fresh | counter | failed => rw [hpt] at hp; cases hp
  | idle => exact h
  | receive =>
    have hring : ∀ r, ({ f with ring := r } : Firmware).Counts total := fun _ =>
      h.of_board h.board.1 (.refl _) rfl rfl rfl
    dsimp only
    split_ifs
    · exact (hring _).goTo (hout rfl)
    · exact (hring _).goTo (hout rfl)
  | rest => exact h.sleepTo 1 (hout rfl)
  | received n =>
    have hreceived : ∀ w, ({ f with received := w } : Firmware).Counts total := fun _ =>
      h.of_board h.board.1 (.refl _) rfl rfl rfl
    exact (hreceived _).goTo (hout rfl)
  | greeter left =>
    dsimp only
    split_ifs
    · exact h.goTo (hout rfl)
    · exact h.yieldTo (hout rfl)
  | returned code =>
    have hlog : ∀ line, (f.log line).Counts total := fun _ =>
      h.of_board (h.board.1.of_same rfl rfl rfl) (.refl _) rfl rfl rfl
    exact (hlog _).goTo (hout rfl)
  | exit =>
    obtain ⟨hid, -⟩ := h.ran (hout (p := .exit) rfl).ran
    have hn : (f.board.scheduler.after .exit).count = f.board.scheduler.count := by
      rw [Scheduler.after, Scheduler.exit_rest]
    rw [hid]
    have hexit : ({ f with board := f.board.call .exit } : Firmware).Counts total :=
      h.of_board (h.board.1.call trivial hn) (.after _ hn) rfl rfl rfl
    have hthread : ({ f with board := f.board.call .exit } : Firmware).thread = f.thread :=
      congrArg f.threads.get (Scheduler.current_after f.board.scheduler (e := .exit) trivial)
    exact hexit.goTo (by rw [hthread]; exact hout rfl)
  | parked => exact h.yieldTo (hout rfl)

/-! ## Steps with the lock -/

theorem placed_counter (h : f.Counts total) {amount : Word} {q : CounterPoint}
    (hp : f.thread.point = .counter amount q) (q' : CounterPoint) :
    Placed f.current { f.thread with point := .counter amount q' } := by
  obtain ⟨hi, hw⟩ := h.ran (by rw [hp]; nofun)
  rw [hp] at hw
  exact Or.inr ⟨hi, Point.within_counter hw q'⟩

/-- A task that has the lock afterwards goes on. -/
theorem of_inside (h : f.Counts total) {amount : Word} {q q' : CounterPoint}
    (hp : f.thread.point = .counter amount q) (hb : f'.board = f.board)
    (ht : f'.threads =
      f.threads.setIfInBounds f.current { f.thread with point := .counter amount q' })
    (hl : f'.lock = .held f.current) (hhas : q'.Has amount total f'.counter)
    (hout : ∀ i, i ≠ f.current → (f.point i).inside = false) : f'.Counts total := by
  refine h.of_thread (by rw [hb]; exact h.board.1) (by rw [hb]; exact .refl _) ht
    (h.placed_counter hp q') (.held hl ?_ hhas fun i hi => ?_)
  · rw [point, ht, Table.get_setIfInBounds, if_pos rfl]
  · rw [point, ht, Table.get_setIfInBounds, if_neg hi.symm]; exact hout i hi

/-- The current task is inside, at this point. -/
theorem has (h : f.Counts total) {amount : Word} {q : CounterPoint}
    (hp : f.thread.point = .counter amount q) (hq : q.inside = true) :
    f.lock = .held f.current ∧ q.Has amount total f.counter ∧
      ∀ i, i ≠ f.current → (f.point i).inside = false := by
  have hp' : f.point f.current = .counter amount q := hp
  obtain ⟨amount', q', hl, hp'', hhas, hout⟩ :=
    h.guards.of_inside (i := f.current) (by rw [hp']; exact hq)
  cases hp'.symm.trans hp''
  exact ⟨hl, hhas, hout⟩

/-- A counting task goes on, but does not give the lock back. -/
theorem stepCounter (h : f.Counts total) {amount : Word} {q : CounterPoint}
    (hp : f.thread.point = .counter amount q) (hq : q ≠ .release) :
    (f.stepCounter amount q).Counts total := by
  have hout : ∀ {q' : CounterPoint}, q.inside = false → q'.inside = false →
      f.thread.point.Outside (.counter amount q') := by
    intro q' hin hin'
    rw [hp]; exact Point.outside_counter amount hin hin'
  cases q with
  | acquire =>
    unfold Firmware.stepCounter
    cases h.guards with
    | free hl hc hnone =>
      simp only [hl, Lock.acquire]
      exact h.of_inside hp rfl rfl rfl hc fun i _ => hnone i
    | held hl =>
      simp only [hl, Lock.acquire]
      exact h.goTo (hout rfl rfl)
  | wait => exact h.yieldTo (hout rfl rfl)
  | load =>
    obtain ⟨hl, hhas, hothers⟩ := h.has hp rfl
    exact h.of_inside hp rfl rfl hl ⟨hhas, hhas⟩ hothers
  | store value =>
    obtain ⟨hl, ⟨-, hvalue⟩, hothers⟩ := h.has hp rfl
    exact h.of_inside hp rfl rfl hl (congrArg (· + amount) hvalue) hothers
  | release => exact absurd rfl hq
  | sleep => exact h.sleepTo _ (hout rfl rfl)

/-- It gives the lock back: what it added counts from now on. -/
theorem release (h : f.Counts total) {amount : Word}
    (hp : f.thread.point = .counter amount .release) :
    f.lock = .held f.current ∧ (f.stepCounter amount .release).Counts (total + amount) := by
  obtain ⟨hl, hhas, hothers⟩ := h.has hp rfl
  refine ⟨hl, ?_⟩
  unfold Firmware.stepCounter
  simp only [hl, Lock.release, if_true]
  refine h.of_thread h.board.1 (.refl _) rfl (h.placed_counter hp _) (.free rfl hhas fun i => ?_)
  rw [point, Firmware.goTo, Table.get_setIfInBounds]
  split_ifs with hi
  · rfl
  · exact hothers i (Ne.symm hi)

end Counts

/-! ## From outside -/

/-- What the handler of a device leaves alone. -/
def core (f : Firmware) : Cpu × Memory × Scheduler Body × Lock × Word × Vector Thread maxTasks :=
  (f.board.cpu, f.board.memory, f.board.scheduler, f.lock, f.counter, f.threads)

theorem core_fireAll (dues : List (Timer.Expiry Alarm)) (f : Firmware) :
    (Timer.fireAll (·.board.timers) (fun due f => f.alarm due.payload) dues f).core = f.core := by
  induction dues generalizing f with
  | nil => rfl
  | cons due dues ih =>
    refine (ih _).trans ?_
    dsimp only
    split_ifs
    · cases due.payload; rfl
    · rfl

theorem drive_timerFired (b : Board Body Alarm) :
    ∃ registers events, (Board.drive Peripheral.timerFired b).2 =
      { b with registers := registers, events := events } := by
  show ∃ registers events, (Board.drive
    (if (b.registers.read Peripheral.Register.timerStatus).1 &&& Peripheral.Bit.update = 0
      then .done false
      else .write Peripheral.Register.timerStatus (~~~Peripheral.Bit.update) (.done true))
    { b with registers := (b.registers.read Peripheral.Register.timerStatus).2 }).2 = _
  split_ifs <;> exact ⟨_, _, rfl⟩

theorem core_handle (f : Firmware) (number : Nat) : (f.handle number).core = f.core := by
  unfold handle
  split_ifs
  · obtain ⟨registers, events, hb⟩ := drive_timerFired f.board
    generalize Board.drive Peripheral.timerFired f.board = r at hb ⊢
    obtain ⟨fired, board⟩ := r
    obtain rfl : board = _ := hb
    dsimp only
    split_ifs
    · exact core_fireAll _ _
    · rfl
  · rfl

namespace Counts

/-- An exception whose handler leaves that alone. -/
theorem exception (h : f.Counts total) {handler : Firmware → Firmware}
    (hk : ∀ g, (handler g).core = g.core) : (f.exception handler).Counts total := by
  refine noteSwitch (f := { handler { f with board := f.board.enter } with
    board := (handler { f with board := f.board.enter }).board.finish }) ?_ f.current
  have hcore := hk { f with board := f.board.enter }
  generalize handler { f with board := f.board.enter } = f' at hcore ⊢
  simp only [core, Prod.mk.injEq] at hcore
  obtain ⟨hcpu, hm, hs, hl, hc, ht⟩ := hcore
  obtain ⟨hb, hsame⟩ := h.board.1.finish_of_same hcpu hs hm
  exact h.of_board hb hsame ht hl hc

/-- **Nothing from outside** costs an addition. -/
theorem interrupt (h : f.Counts total) (i : Interrupt) : (f.interrupt i).Counts total := by
  have hpoke : ∀ r, ({ f with board.registers := r } : Firmware).Counts total := fun _ =>
    h.of_board (h.board.1.of_same rfl rfl rfl) (.refl _) rfl rfl rfl
  cases i with
  | line number =>
    show (f.exception (·.handle number)).Counts total
    exact h.exception fun g => core_handle g number
  | timer =>
    unfold Firmware.interrupt
    dsimp only
    split_ifs
    · exact h
    · exact hpoke _
    · exact (hpoke _).exception fun g => core_handle g _
  | tick =>
    unfold Firmware.interrupt
    dsimp only
    split_ifs
    · refine noteSwitch (f := { f with board := f.board.sysTick }) ?_ f.current
      obtain ⟨hb, hsame⟩ := h.board.1.sysTick
      exact h.of_board hb hsame rfl rfl rfl
    · exact h

end Counts

/-! ## Whole runs -/

/-- The task that counts in steps of 1. -/
def countOne : TaskId := 1

/-- The task that counts in steps of 10. -/
def countTen : TaskId := 2

/-- What both of them add for good in something that happens. -/
def gain (f : Firmware) (x : Happening) : Nat :=
  (f.unlocks countOne x).toNat + 10 * (f.unlocks countTen x).toNat

theorem gain_eq_zero {x : Happening} (h : ∀ i, f.unlocks i x = false) : f.gain x = 0 := by
  rw [gain, h, h]; rfl

theorem unlocks_eq_false (h : f.thread.trap = true ∨ ∀ a, f.thread.point ≠ .counter a .release)
    (i : TaskId) : f.unlocks i .goOn = false := by
  unfold unlocks
  dsimp only
  rcases h with h | h
  · simp [h]
  · split
    · next a hp => exact absurd hp (h a)
    · simp

theorem unlocks_release {amount : Word} (ht : f.thread.trap = false)
    (hp : f.thread.point = .counter amount .release) (hl : f.lock = .held f.current) (i : TaskId) :
    f.unlocks i .goOn = (f.current == i) := by
  unfold unlocks
  rw [hp, ht, hl]
  by_cases hi : f.current = i
  · subst hi; simp [Lock.release, Except.isOk, Except.toBool]
  · simp [hi]

/-- Only two tasks count, each in its own steps. -/
theorem amount_eq {i : TaskId} {amount : Word} {q : CounterPoint}
    (h : (Point.counter amount q).Within (made.entryOf i)) :
    amount = UInt32.ofNat ((i == countOne).toNat + 10 * (i == countTen).toNat) := by
  generalize he : made.entryOf i = e at h
  obtain @⟨argument, _⟩ | ⟨h, -⟩ := h
  · rw [entryOf_made] at he
    obtain ⟨_ | _ | _ | _ | _ | n, hi⟩ := i <;> cases he <;> rfl
  · cases h

namespace Counts

theorem step (h : f.Counts total) : f.step.Counts (total + UInt32.ofNat (f.gain .goOn)) := by
  have hquiet : (∀ i, f.unlocks i .goOn = false) → f.step.Counts total →
      f.step.Counts (total + UInt32.ofNat (f.gain .goOn)) := by
    intro hu hs
    rw [gain_eq_zero hu]
    exact (UInt32.add_zero total).symm ▸ hs
  by_cases ht : f.thread.trap = true
  · refine hquiet (unlocks_eq_false (Or.inl ht)) ?_
    rw [Firmware.step, if_pos ht]; exact h.takeTrap
  rw [Bool.not_eq_true] at ht
  cases hp : f.thread.point with
  | fresh => exact hquiet (unlocks_eq_false (Or.inr (by rw [hp]; nofun))) (h.enter ht hp)
  | failed message =>
    obtain ⟨-, hw⟩ := h.ran (by rw [hp]; nofun)
    exact absurd hp (Point.not_failed hw message)
  | counter amount q =>
    by_cases hq : q = .release
    · subst hq
      obtain ⟨hl, hc⟩ := h.release hp
      have hgain : amount = UInt32.ofNat (f.gain .goOn) := by
        rw [gain, unlocks_release ht hp hl, unlocks_release ht hp hl]
        obtain ⟨-, hw⟩ := h.ran (by rw [hp]; nofun)
        rw [hp] at hw
        exact amount_eq hw
      rw [← hgain, step_counter ht hp]; exact hc
    · refine hquiet (unlocks_eq_false (Or.inr fun a ha => ?_)) ?_
      · rw [hp] at ha; cases ha; exact hq rfl
      · rw [step_counter ht hp]; exact h.stepCounter hp hq
  | idle | receive | rest | received | greeter | returned | exit | parked =>
    exact hquiet (unlocks_eq_false (Or.inr (by rw [hp]; nofun)))
      (h.step_plain ht (by rw [hp]; rfl))

/-- **One step of a run.** -/
theorem after (h : f.Counts total) (x : Happening) :
    (f.after x).Counts (total + UInt32.ofNat (f.gain x)) := by
  cases x with
  | goOn => exact h.step
  | interrupt i => exact (UInt32.add_zero total).symm ▸ h.interrupt i
  | spin n =>
    have hspin : ({ f with board := f.board.note (.tick n) } : Firmware).Counts total :=
      h.of_board (h.board.1.of_same rfl rfl rfl) (.refl _) rfl rfl rfl
    exact (UInt32.add_zero total).symm ▸ hspin

/-- **A whole run.** -/
theorem afterAll (h : f.Counts total) (xs : List Happening) :
    (f.afterAll xs).Counts (total + UInt32.ofNat
      (f.unlockCount countOne xs + 10 * f.unlockCount countTen xs)) := by
  induction xs generalizing f total with
  | nil => exact (UInt32.add_zero total).symm ▸ h
  | cons x xs ih =>
    have hsum : f.unlockCount countOne (x :: xs) + 10 * f.unlockCount countTen (x :: xs) =
        f.gain x + ((f.after x).unlockCount countOne xs + 10 * (f.after x).unlockCount countTen xs) := by
      simp only [unlockCount, gain]; omega
    rw [hsum, UInt32.ofNat_add, ← UInt32.add_assoc]
    exact ih (h.after x)

end Counts

/-! ## A round that is disturbed -/

/-- What the steps of a counting task and the tick look at, less what is known of stack pointers. -/
structure At (f : Firmware) (s : Scheduler Body) (ts : Vector Thread maxTasks) (l : Lock)
    (number : Word) : Prop where
  ready : f.board.Ready
  ticking : f.board.registers.value Peripheral.Register.tickControl &&& 3 = 3
  scheduler : f.board.scheduler.blind = s.blind
  threads : f.threads = ts
  lock : f.lock = l
  counter : f.counter = number

namespace At

variable {s : Scheduler Body} {ts : Vector Thread maxTasks} {l : Lock} {number : Word}

theorem current (h : f.At s ts l number) : f.current = s.current := by
  have hblind : f.board.scheduler.blind.current = s.blind.current := by rw [h.scheduler]
  exact hblind

theorem thread (h : f.At s ts l number) : f.thread = ts.get s.current := by
  rw [Firmware.thread, h.current, h.threads]

/-- The current task is at a point, and goes on to another one. -/
theorem goTo (h : f.At s ts l number) {n : Nat} {p : Point} (ht : ts.get s.current = ⟨n, p, false⟩)
    (p' : Point) : (f.goTo p').At s (ts.setIfInBounds s.current ⟨n, p', false⟩) l number := by
  refine ⟨h.ready, h.ticking, h.scheduler, ?_, h.lock, h.counter⟩
  rw [Firmware.goTo, h.thread, ht, h.current, h.threads]

/-- **A counting task goes on.** -/
theorem step (h : f.At s ts l number) {n : Nat} {amount : Word} {q : CounterPoint}
    (ht : ts.get s.current = ⟨n, .counter amount q, false⟩) :
    f.after .goOn = f.stepCounter amount q := by
  rw [← h.thread] at ht
  exact step_counter (congrArg Thread.trap ht) (congrArg Thread.point ht)

theorem acquire (h : f.At s ts .free number) (n : Nat) (amount : Word)
    (ht : ts.get s.current = ⟨n, .counter amount .acquire, false⟩) :
    (f.after .goOn).At s (ts.setIfInBounds s.current ⟨n, .counter amount .load, false⟩)
      (.held s.current) number := by
  have he : f.stepCounter amount .acquire =
      ({ f with lock := .held s.current } : Firmware).goTo (.counter amount .load) := by
    rw [stepCounter, h.lock, h.current]; rfl
  rw [h.step ht, he]
  exact goTo (f := { f with lock := .held s.current })
    ⟨h.ready, h.ticking, h.scheduler, h.threads, rfl, h.counter⟩ ht _

/-- The lock is held. -/
theorem busy {t : TaskId} (h : f.At s ts (.held t) number) (n : Nat) (amount : Word)
    (ht : ts.get s.current = ⟨n, .counter amount .acquire, false⟩) :
    (f.after .goOn).At s (ts.setIfInBounds s.current ⟨n, .counter amount .wait, false⟩)
      (.held t) number := by
  have he : f.stepCounter amount .acquire = f.goTo (.counter amount .wait) := by
    rw [stepCounter, h.lock]; rfl
  rw [h.step ht, he]; exact h.goTo ht _

theorem load (h : f.At s ts l number) (n : Nat) (amount : Word)
    (ht : ts.get s.current = ⟨n, .counter amount .load, false⟩) :
    (f.after .goOn).At s (ts.setIfInBounds s.current ⟨n, .counter amount (.store number), false⟩)
      l number := by
  have he : f.stepCounter amount .load = f.goTo (.counter amount (.store number)) := by
    rw [← h.counter]; rfl
  rw [h.step ht, he]; exact h.goTo ht _

theorem store (h : f.At s ts l number) (n : Nat) (amount value : Word)
    (ht : ts.get s.current = ⟨n, .counter amount (.store value), false⟩) :
    (f.after .goOn).At s (ts.setIfInBounds s.current ⟨n, .counter amount .release, false⟩) l
      (value + amount) := by
  rw [h.step ht]
  exact goTo (f := { f with counter := value + amount })
    ⟨h.ready, h.ticking, h.scheduler, h.threads, h.lock, rfl⟩ ht _

theorem release {t : TaskId} (h : f.At s ts (.held t) number) (hcurrent : s.current = t) (n : Nat)
    (amount : Word) (ht : ts.get s.current = ⟨n, .counter amount .release, false⟩) :
    (f.after .goOn).lock = .free ∧ ∀ i, f.unlocks i .goOn = (t == i) := by
  have hl : f.lock = .held f.current := by rw [h.lock, h.current, hcurrent]
  refine ⟨?_, fun i => ?_⟩
  · rw [h.step ht, stepCounter, hl, Lock.release, if_pos rfl]; rfl
  · rw [← h.thread] at ht
    rw [unlocks_release (congrArg Thread.trap ht) (congrArg Thread.point ht) hl, h.current,
      hcurrent]

theorem quiet (h : f.At s ts l number) (hp : (ts.get s.current).point.releasing = false)
    (i : TaskId) : f.unlocks i .goOn = false := by
  refine unlocks_eq_false (Or.inr fun a ha => ?_) i
  rw [← h.thread, ha] at hp; cases hp

/-- A task that begins is in its body after one step. -/
theorem enter (h : f.At s ts l number) (hc : f.Counts total) (ht : ts.get s.current = .fresh) :
    (f.after .goOn).At s
      (ts.setIfInBounds s.current ⟨s.current, Point.start (made.entryOf s.current), false⟩) l
      number := by
  have hfresh : f.thread = .fresh := h.thread.trans ht
  have hs : f.after .goOn = f.begun.goTo (Point.start (made.entryOf f.current)) :=
    hc.step_fresh (by rw [hfresh]; rfl) (by rw [hfresh]; rfl)
  rw [hs]
  refine ⟨⟨h.ready.handling, h.ready.control, h.ready.primask, h.ready.quiet⟩, h.ticking,
    h.scheduler, ?_, h.lock, h.counter⟩
  show f.begun.threads.setIfInBounds f.current { f.begun.thread with point := _ } = _
  rw [thread_begun, hfresh, ← h.current, ← h.threads]
  exact Vector.setIfInBounds_setIfInBounds _

/-- **The tick** takes the processor from the current task, if it picks another one. -/
theorem tick (h : f.At s ts l number) :
    (f.after (.interrupt .tick)).At (Kernel.Call.tick.onHost s) ts l number := by
  have hready := h.ready.sysTick.1
  have hblind := Board.serve_onHost h.ready h.scheduler Kernel.Call.tick
  have hticking : f.board.sysTick.registers.value Peripheral.Register.tickControl &&& 3 = 3 := by
    rw [Board.Registers.value, f.board.stored_sysTick]; exact h.ticking
  have he : f.after (.interrupt .tick) =
      ({ f with board := f.board.sysTick } : Firmware).noteSwitch f.current := if_pos h.ticking
  rw [he]
  unfold Firmware.noteSwitch
  split_ifs
  · exact ⟨hready, hticking, hblind, h.threads, h.lock, h.counter⟩
  · exact ⟨⟨hready.handling, hready.control, hready.primask, hready.quiet⟩, hticking, hblind,
      h.threads, h.lock, h.counter⟩

end At

/-! ## The number -/

/-- **No addition is lost.**  The demonstration was set up, and since then its tasks have gone on,
    and interrupts have come, in any order.  Whenever the lock is free, the shared number is how
    often the task `count1` has given it back, plus ten times how often `count10` has.  No call
    that must not fail ever fails. -/
theorem counter_exact {registers : Board.Registers} {primask : Word} {f₀ : Firmware}
    (hboot : boot.run (powerOn registers primask) = (.ok (), f₀)) (xs : List Happening) :
    let f := f₀.afterAll xs
    ((f.board.scheduler.task countOne).name = .ofString "count1" ∧
      f.board.scheduler.entryOf countOne = some (.counter, 1)) ∧
    ((f.board.scheduler.task countTen).name = .ofString "count10" ∧
      f.board.scheduler.entryOf countTen = some (.counter, 10)) ∧
    (f.lock = .free → f.counter =
      UInt32.ofNat (f₀.unlockCount countOne xs + 10 * f₀.unlockCount countTen xs)) ∧
    ∀ i message, f.point i ≠ .failed message := by
  intro f
  obtain ⟨hunused, hlaunched⟩ := launched_of_boot hboot
  have h := (hunused.counts hlaunched).afterAll xs
  rw [UInt32.zero_add] at h
  have hsame := h.board.2
  have hname : ∀ i : TaskId, i.val < made.count →
      (f.board.scheduler.task i).name = (made.task i).name := fun i hi =>
    Record.name_eq (hsame.origin i hi)
  refine ⟨⟨(hname _ (by decide)).trans rfl, (hsame.entryOf (by decide)).trans (by decide)⟩,
    ⟨(hname _ (by decide)).trans rfl, (hsame.entryOf (by decide)).trans (by decide)⟩,
    fun hfree => ?_, fun i message => ?_⟩
  · cases h.guards with
    | free _ hc => exact hc
    | held hl => exact nomatch hfree.symm.trans hl
  · rcases h.placed i with hf | ⟨-, hw⟩
    · rw [point, hf]; nofun
    · exact Point.not_failed hw message

/-- The clock is ready at once. -/
def quick : Board.Registers := .powerOn ⟨some 0, some 0, some 0⟩ []

/-- The demonstration, set up on it. -/
def ready : Firmware := (boot.run (powerOn quick 0)).2

theorem boot_ready : boot.run (powerOn quick 0) = (.ok (), ready) :=
  Prod.ext (by decide +kernel) rfl

/-- A tick comes when the first task has read the number, and not yet written it.  The task that it
    gives the processor to begins, and finds the lock held.  Four more ticks give the processor to
    all others in turn, and then the first task goes on. -/
def disturbed : List Happening :=
  [.goOn, .goOn, .goOn, .interrupt .tick, .goOn, .goOn, .interrupt .tick, .interrupt .tick,
    .interrupt .tick, .interrupt .tick, .goOn, .goOn]

/-- After boot the first task has the processor, and no task has begun. -/
theorem at_ready : ready.At ready.board.scheduler (.replicate maxTasks .fresh) .free 0 := by
  obtain ⟨hunused, hlaunched⟩ := launched_of_boot boot_ready
  have hrunning := hlaunched.1.running
  exact ⟨⟨hrunning.thread, hrunning.sound.control, by decide +kernel, by decide +kernel⟩,
    by decide +kernel, rfl, hunused.threads, hunused.lock, hunused.counter⟩

theorem counter_exact_disturbed :
    boot.run (powerOn quick 0) = (.ok (), ready) ∧
      (ready.afterAll (disturbed.take 4)).current = countTen ∧
      (ready.afterAll (disturbed.take 4)).point countOne = .counter 1 (.store 0) ∧
      (ready.afterAll disturbed).lock = .free ∧
      ready.unlockCount countOne disturbed = 1 ∧
      (ready.afterAll disturbed).counter = 1 := by
  have hc₀ := (launched_of_boot boot_ready).1.counts (launched_of_boot boot_ready).2
  -- the first task takes the lock and reads the number
  have h₀ := at_ready
  have h₁ := h₀.enter hc₀ (by decide +kernel)
  have h₂ := h₁.acquire 1 1 (by decide +kernel)
  have h₃ := h₂.load 1 1 (by decide +kernel)
  -- the second one finds the lock held
  have h₄ := h₃.tick
  have h₅ := h₄.enter (hc₀.afterAll (disturbed.take 4)) (by decide +kernel)
  have h₆ := h₅.busy 2 10 (by decide +kernel)
  -- the first one goes on
  have h₁₀ := h₆.tick.tick.tick.tick
  have h₁₁ := h₁₀.store 1 1 0 (by decide +kernel)
  obtain ⟨hfree, hunlocks⟩ := h₁₁.release (by decide +kernel) 1 1 (by decide +kernel)
  have hone : ready.board.scheduler.current = countOne := by decide +kernel
  have hcount : ∀ i, ready.unlockCount i disturbed = (countOne == i).toNat := by
    intro i
    simp only [disturbed, unlockCount]
    rw [h₀.quiet (by decide +kernel), h₁.quiet (by decide +kernel), h₂.quiet (by decide +kernel),
      h₄.quiet (by decide +kernel), h₅.quiet (by decide +kernel), h₁₀.quiet (by decide +kernel),
      hunlocks, hone]
    simp [unlocks]
  have hlock : (ready.afterAll disturbed).lock = .free := by
    simp only [disturbed, afterAll_cons, afterAll_nil]
    exact hfree
  have hthreads : (ready.afterAll (disturbed.take 4)).threads = _ := h₄.threads
  obtain ⟨-, -, hexact, -⟩ := counter_exact boot_ready disturbed
  rw [hcount, hcount] at hexact
  refine ⟨boot_ready, ?_, ?_, hlock, hcount countOne, (hexact hlock).trans (by decide)⟩
  · exact h₄.current.trans (by decide +kernel)
  · rw [point, hthreads]
    decide +kernel

end Firmware

end Carousel.Demo
