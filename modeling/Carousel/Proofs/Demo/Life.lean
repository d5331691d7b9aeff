/-
  Carousel — the tasks of the demonstration run once.

  The demonstration follows its tasks from point to point, and leaves their registers alone.  A
  board goes along with it whose tasks move through straight code.

  * `Point.place`: where a task at a point is in the code that every task starts in;
  * `Along`: a life whose tasks are where those of the demonstration are, over the same scheduler;
  * `Leads`: it goes along when the demonstration goes on, and `Counts.leads_step`,
    `Counts.leads_interrupt` and `Counts.leads_afterAll`: so it does whatever happens;
  * `exists_along`: it does so from the start;
  * `exited_away`: a task that is done and switched out does not run any more.
-/
import Carousel.Proofs.Board.Life
import Carousel.Proofs.Demo.Counter

namespace Carousel.Demo

open Relation

/-! ## Places -/

/-- The point belongs to a body, and not to the one of the idle task. -/
def Point.busy : Point → Bool
  | .fresh | .idle | .exit | .parked => false
  | _ => true

/-- Where task `n` is in the code that every task starts in. -/
def Point.place (n : Nat) : Point → Place Body
  | .fresh => .entered n
  | .exit => .back n
  | .parked => .parked
  | _ => .inBody n

theorem Point.ne_of_busy {p : Point} (h : p.busy) : p ≠ .fresh ∧ p ≠ .idle := by
  constructor
  · rintro rfl; cases h
  · rintro rfl; cases h

theorem Point.place_of_busy {p : Point} (h : p.busy) (n : Nat) : p.place n = .inBody n := by
  cases p <;> first | rfl | cases h

theorem Point.place_start (body : Body) (argument : UInt64) (n : Nat) :
    (body.start argument).place n = .inBody n := by
  cases body <;> rfl

namespace Firmware

/-- Straight code that finds in its table what the tasks run. -/
def line : Code Body Kernel.Image.board.entryPoints := .straight _ made.entryOf

/-- The idle task is idle, if it has run. -/
def Tied (f : Firmware) : Prop := f.point idleTask = .fresh ∨ f.point idleTask = .idle

/-- All tasks of a life are where those of the demonstration are, over the same scheduler. -/
structure Along (f : Firmware) (l : Life Body Alarm) : Prop where
  lives : Life.Lives line l
  untouched : l.board.Untouched
  scheduler : l.board.scheduler = f.board.scheduler
  places : ∀ i : TaskId, i.val < made.count → l.board.IsAt line i ((f.point i).place i)
  tied : f.Tied

/-- A life that goes along with one state can go on, and goes along with the other. -/
def Leads (f f' : Firmware) : Prop :=
  ∀ l, f.Along l → ∃ l', ReflTransGen (Life.Move line) l l' ∧ f'.Along l'

/-- The tasks are where they were. -/
structure Alike (f f' : Firmware) : Prop where
  places : ∀ i, (f'.point i).place i = (f.point i).place i
  tied : f.Tied → f'.Tied

variable {f f' f'' : Firmware} {l : Life Body Alarm} {total : Word}

theorem Leads.refl (f : Firmware) : f.Leads f := fun l h => ⟨l, .refl, h⟩

theorem Leads.trans (h : f.Leads f') (h' : f'.Leads f'') : f.Leads f'' := by
  intro l hl
  obtain ⟨l', hm, hl'⟩ := h l hl
  obtain ⟨l'', hm', hl''⟩ := h' l' hl'
  exact ⟨l'', hm.trans hm', hl''⟩

theorem point_set {t : Thread} (ht : f'.threads = f.threads.setIfInBounds f.current t)
    (i : TaskId) : f'.point i = if f.current = i then t.point else f.point i := by
  rw [point, ht, Table.get_setIfInBounds]
  split_ifs <;> rfl

theorem tied_set {t : Thread} (ht : f'.threads = f.threads.setIfInBounds f.current t)
    (hidle : f.current = idleTask → t.point = .fresh ∨ t.point = .idle) (h : f.Tied) :
    f'.Tied := by
  rw [Tied, point_set ht]
  split_ifs with hi
  · exact hidle hi
  · exact h

namespace Alike

theorem of_threads (ht : f'.threads = f.threads) : f.Alike f' := by
  refine ⟨fun i => ?_, fun h => ?_⟩
  · rw [point, point, ht]
  · rw [Tied, point, ht]; exact h

/-- The current task goes on, but stays in its place. -/
theorem of_thread {t : Thread} (ht : f'.threads = f.threads.setIfInBounds f.current t)
    (hp : t.point.place f.current = f.thread.point.place f.current)
    (hidle : f.current = idleTask → t.point = .fresh ∨ t.point = .idle) : f.Alike f' := by
  refine ⟨fun i => ?_, tied_set ht hidle⟩
  rw [point_set ht]
  split_ifs with hi
  · subst hi; exact hp
  · rfl

end Alike

namespace Along

theorem me (h : f.Along l) : l.me = f.current := congrArg Scheduler.current h.scheduler

theorem number (h : f.Along l) : (l.board.cpu.get .r0).toNat = l.me := h.untouched.number

/-- The life is where the current task is. -/
theorem here (h : f.Along l) (hlt : f.current.val < made.count) :
    line.here l.board = f.thread.point.place l.me := by
  have hat := h.places f.current hlt
  have hcur : f.current = l.board.scheduler.current := h.me.symm
  rw [h.me]
  rw [hcur] at hat
  rw [hat.eq_here, ← hcur]; rfl

theorem ne_idle (h : f.Along l) (hf : f.thread.point ≠ .fresh) (hi : f.thread.point ≠ .idle) :
    f.current ≠ idleTask := by
  intro hc
  have htied := h.tied
  rw [Tied, ← hc] at htied
  exact htied.elim hf hi

theorem ne_idle_of_busy (h : f.Along l) (hp : f.thread.point.busy) : f.current ≠ idleTask :=
  h.ne_idle (Point.ne_of_busy hp).1 (Point.ne_of_busy hp).2

/-- The life goes on, and no task goes to another place. -/
theorem goOn (h : f.Along l) (ha : f.Alike f') {b : Board Body Alarm} {ms : List (Mark Body)}
    (hm : ReflTransGen (Life.Move line) l ⟨b, ms⟩) (hu : b.Untouched)
    (hs : b.scheduler = f'.board.scheduler)
    (hat : ∀ (i : TaskId) (p : Place Body), i.val < made.count → l.board.IsAt line i p →
      b.IsAt line i p) : ∃ l', ReflTransGen (Life.Move line) l l' ∧ f'.Along l' := by
  refine ⟨_, hm, h.lives.run hm, hu, hs, fun i hi => ?_, ha.tied h.tied⟩
  rw [ha.places]
  exact hat i _ hi (h.places i hi)

/-- The current task jumps to another place. -/
theorem jump (h : f.Along l) {b : Board Body Alarm} {ms : List (Mark Body)} {k : Word}
    {t : Thread} (ht : f'.threads = f.threads.setIfInBounds f.current t)
    (hm : ReflTransGen (Life.Move line) l ⟨b.behind Kernel.Image.board.entryPoints k, ms⟩)
    (hu : b.Untouched) (hs : b.scheduler = f'.board.scheduler)
    (hc : b.scheduler.current = f.current)
    (hat : ∀ (i : TaskId) (p : Place Body), i.val < made.count → l.board.IsAt line i p →
      b.IsAt line i p)
    (hk : Place.behind made.entryOf f.current k = t.point.place f.current)
    (hidle : f.current = idleTask → t.point = .fresh ∨ t.point = .idle) :
    ∃ l', ReflTransGen (Life.Move line) l l' ∧ f'.Along l' := by
  have ho := b.ownCode_behind Kernel.Image.board.entryPoints k
  refine ⟨_, hm, h.lives.run hm, hu.ownCode ho rfl rfl, hs, fun i hi => ?_,
    tied_set ht hidle h.tied⟩
  rw [point_set ht]
  split_ifs with hcur
  · subst hcur
    have hhere : line.here (b.behind Kernel.Image.board.entryPoints k) = t.point.place f.current := by
      refine (Code.here_behind b k).trans ?_
      rw [hu.number, hc]; exact hk
    rw [← hhere, ← hc]
    exact Board.isAt_here line _
  · exact (hat i _ hi (h.places i hi)).ownCode hu.running (hc ▸ Ne.symm hcur) ho

end Along

/-- The demonstration goes on, and the life waits. -/
theorem Leads.wait (ha : f.Alike f') (hs : f'.board.scheduler = f.board.scheduler) :
    f.Leads f' :=
  fun _ h => h.goOn ha .refl h.untouched (h.scheduler.trans hs.symm) fun _ _ _ => id

theorem leads_noteSwitch (f : Firmware) (old : TaskId) : f.Leads (f.noteSwitch old) := by
  unfold Firmware.noteSwitch
  split_ifs
  · exact .refl f
  · exact .wait (.of_threads rfl) rfl

/-! ## Steps of bodies -/

theorem threads_goTo (p : Point) (ht : f'.threads = f.threads) (hc : f'.current = f.current) :
    (f'.goTo p).threads = f.threads.setIfInBounds f.current { f.thread with point := p } := by
  rw [Firmware.goTo, thread, ht, hc]; rfl

/-- The current task goes on in its body, which may change what the tasks share. -/
theorem leads_goTo {p : Point} (hb : f'.board = f.board) (ht : f'.threads = f.threads)
    (hp : f.thread.point.busy) (hp' : p.busy) : f.Leads (f'.goTo p) := by
  intro l h
  refine Leads.wait (.of_thread (threads_goTo p ht (by rw [current, current, hb])) ?_
    (absurd · (h.ne_idle_of_busy hp))) (congrArg Board.scheduler hb) l h
  rw [Point.place_of_busy hp]
  exact Point.place_of_busy hp' _

namespace Counts

theorem lt_count (h : f.Counts total) (ha : f.Along l) {i : TaskId} (hi : i.val < made.count) :
    i.val < l.board.scheduler.count := by
  rw [ha.scheduler, h.board.2.count]; exact hi

/-- The current task makes a pass. -/
theorem leads_passTo (h : f.Counts total) {pass : Scheduler Body → Pass Body} {p : Point}
    {e : Carousel.Event Body} (he : e.isCall)
    (hs : (pass f.board.scheduler).scheduler = f.board.scheduler.after e)
    (hstores : (pass f.board.scheduler).stores = f.board.scheduler.stores e)
    (hn : (f.board.scheduler.after e).count = f.board.scheduler.count)
    (hmove : ∀ l, f.Along l → ∃ ms, l.Move line ⟨l.board.call e, ms⟩)
    (hplace : p.place f.current = f.thread.point.place f.current)
    (hf : f.thread.point ≠ .fresh) (hi : f.thread.point ≠ .idle) : f.Leads (f.passTo pass p) := by
  intro l ha
  obtain ⟨ms, hm⟩ := hmove l ha
  refine ha.goOn (.of_thread rfl hplace (absurd · (ha.ne_idle hf hi))) (.single hm) ?_ ?_
    fun i p hi hat => hat.call ha.untouched.running (h.lt_count ha hi) he
  · refine ha.untouched.call he ?_
    rw [ha.scheduler]; exact hn
  · rw [f.board_passTo p hs hstores, Board.scheduler_call, Board.scheduler_call, ha.scheduler]

/-- The current task calls the kernel from its body. -/
theorem leads_call (h : f.Counts total) {pass : Scheduler Body → Pass Body} {p : Point}
    {e : Carousel.Event Body} (hs : (pass f.board.scheduler).scheduler = f.board.scheduler.after e)
    (hstores : (pass f.board.scheduler).stores = f.board.scheduler.stores e)
    (hn : (f.board.scheduler.after e).count = f.board.scheduler.count)
    (hasks : f.current ≠ idleTask → f.board.scheduler.asks e) (hp : f.thread.point.busy)
    (hp' : p.busy) (he : e.isCall) : f.Leads (f.passTo pass p) := by
  obtain ⟨hf, hi⟩ := Point.ne_of_busy hp
  refine h.leads_passTo he hs hstores hn (fun l ha => ⟨_, .call (n := l.me) ?_ ?_⟩) ?_ hf hi
  · rw [ha.here h.current_lt, Point.place_of_busy hp]
  · rw [ha.scheduler]; exact hasks (ha.ne_idle_of_busy hp)
  · rw [Point.place_of_busy hp]; exact Point.place_of_busy hp' _

theorem leads_yieldTo (h : f.Counts total) {p : Point} (hp : f.thread.point.busy)
    (hp' : p.busy) : f.Leads (f.passTo Kernel.yield p) :=
  h.leads_call (e := .pass .call) rfl rfl (Scheduler.count_pass _ _) (fun _ => trivial) hp hp'
    trivial

theorem leads_sleepTo (h : f.Counts total) (ticks : UInt16) {p : Point}
    (hp : f.thread.point.busy) (hp' : p.busy) : f.Leads (f.passTo (Kernel.sleep · ticks) p) :=
  h.leads_call (e := .sleep ticks) rfl rfl (Scheduler.count_pass _ _) id hp hp' trivial

theorem leads_stepCounter (h : f.Counts total) {amount : Word} {q : CounterPoint}
    (hp : f.thread.point = .counter amount q) : f.Leads (f.stepCounter amount q) := by
  have hbusy : f.thread.point.busy := by rw [hp]; rfl
  cases q with
  | acquire =>
    unfold Firmware.stepCounter
    cases f.lock.acquire f.current with
    | ok l => exact leads_goTo rfl rfl hbusy rfl
    | error e =>
      cases e <;> exact leads_goTo rfl rfl hbusy rfl
  | wait => exact h.leads_yieldTo hbusy rfl
  | load => exact leads_goTo rfl rfl hbusy rfl
  | store value => exact leads_goTo rfl rfl hbusy rfl
  | release =>
    unfold Firmware.stepCounter
    cases f.lock.release f.current with
    | ok l => exact leads_goTo rfl rfl hbusy rfl
    | error e => exact leads_goTo rfl rfl hbusy rfl
  | sleep => exact h.leads_sleepTo _ hbusy rfl

/-! ## Steps of the code that every task starts in -/

/-- Every task that was made has something to run. -/
theorem exists_entry : ∀ i : TaskId, i.val < made.count → (made.entryOf i).isSome := by decide

/-- A task begins as itself. -/
theorem leads_enter (h : f.Counts total) (ht : f.thread.trap = false)
    (hp : f.thread.point = .fresh) : f.Leads f.step := by
  have hlt := h.current_lt
  have hbegun : f.Leads f.begun := .wait (.of_thread rfl rfl fun _ => Or.inl hp) rfl
  obtain ⟨⟨body, argument⟩, he⟩ := Option.isSome_iff_exists.1 (exists_entry f.current hlt)
  have hentry : f.board.scheduler.entryOf f.current = some (body, argument) :=
    (h.board.2.entryOf hlt).trans he
  rw [h.step_fresh ht hp, he, Point.start]
  refine hbegun.trans fun l ha => ?_
  have hme : l.me = f.current := ha.me
  have hhere : line.here l.board = .entered l.me := by
    rw [ha.here hlt, thread_begun, hp]; rfl
  have hs : l.board.scheduler.entryOf l.me = some (body, argument) := by
    rw [ha.scheduler, hme]; exact hentry
  have hfound : made.entryOf l.me = some (body, argument) := by
    rw [hme]; exact he
  have hm := Life.begins ha.number hhere hs hfound
  refine ha.jump rfl hm ha.untouched ha.scheduler hme (fun _ _ _ => id)
    (Point.place_start body argument _).symm fun hc => ?_
  have hc : f.current = idleTask := hc
  rw [hc, entryOf_made] at he
  cases he
  exact Or.inr rfl

theorem leads_takeTrap (h : f.Counts total) : f.Leads f.takeTrap := by
  have htaken : f.Leads { f with
      threads := f.threads.setIfInBounds f.current { f.thread with trap := false }
      board := f.board.requestTrap } := by
    intro l ha
    have halike : f.Alike { f with
        threads := f.threads.setIfInBounds f.current { f.thread with trap := false }
        board := f.board.requestTrap } :=
      .of_thread rfl rfl fun hc => by
        have htied := ha.tied
        rw [Tied, ← hc] at htied
        exact htied
    obtain ⟨events, hd⟩ := Board.drive_requestTrap f.board
    have hrequested : ({ f.board with
        registers.trapPending := true
        events := events } : Board Body Alarm).Untouched := h.board.1.of_same rfl rfl rfl
    have hs : f.board.requestTrap.scheduler = f.board.scheduler ∨
        f.board.requestTrap.scheduler = l.board.enter.takeTrap.scheduler := by
      unfold Board.requestTrap
      dsimp only
      rw [hd]
      split_ifs
      · refine Or.inr ?_
        rw [(hrequested.running.trap hrequested.room).1,
          (ha.untouched.running.trap ha.untouched.room).1, ha.scheduler,
          h.board.1.psp_eq ha.untouched ha.scheduler]
      · exact Or.inl rfl
    rcases hs with hs | hs
    · exact Leads.wait halike hs l ha
    · have hpre : l.board.Preempts l.board.enter.takeTrap := .trap ha.untouched.room
      exact ha.goOn halike (.single (.preempt hpre)) ha.untouched.takeTrap hs.symm
        fun i p _ hat => hat.preempt ha.untouched.running hpre
  exact htaken.trans (leads_noteSwitch _ f.current)

theorem leads_returned (h : f.Counts total) {code : Int32}
    (hp : f.thread.point = .returned code) (line : Log.Line) :
    f.Leads ((f.log line).goTo .exit) := by
  intro l ha
  have hne := ha.ne_idle (by rw [hp]; nofun) (by rw [hp]; nofun)
  have hhere : Firmware.line.here l.board = .inBody l.me := by
    rw [ha.here h.current_lt, hp]; rfl
  exact ha.jump (threads_goTo .exit rfl rfl)
    (.single (Life.returns ha.number hhere (ha.me ▸ hne))) ha.untouched ha.scheduler ha.me
    (fun _ _ _ => id) rfl (absurd · hne)

theorem leads_exit (h : f.Counts total) (hp : f.thread.point = .exit) :
    f.Leads (({ f with board.scheduler := f.board.scheduler.exit f.thread.id } : Firmware).goTo
      .parked) := by
  intro l ha
  have hne := ha.ne_idle (by rw [hp]; nofun) (by rw [hp]; nofun)
  obtain ⟨hid, -⟩ := h.ran (by rw [hp]; nofun)
  have hhere : line.here l.board = .back l.me := by
    rw [ha.here h.current_lt, hp]; rfl
  have hcur : (f.board.scheduler.exit f.thread.id).current = f.current := by
    rw [Scheduler.exit_rest]; rfl
  have hcall : (Event.exit : Carousel.Event Body).isCall := trivial
  have hexit : (l.board.call .exit).scheduler = f.board.scheduler.exit f.thread.id := by
    rw [Board.scheduler_call, ha.scheduler, hid]; rfl
  refine ha.jump (b := l.board.call .exit) (threads_goTo .parked rfl hcur)
    (.single (Life.ends hhere)) (ha.untouched.call hcall ?_) hexit ?_
    (fun i p hi hat => hat.call ha.untouched.running (h.lt_count ha hi) hcall) rfl (absurd · hne)
  · rw [Scheduler.after, Scheduler.exit_rest]
  · rw [hexit]; exact hcur

theorem leads_parked (h : f.Counts total) (hp : f.thread.point = .parked) :
    f.Leads (f.passTo Kernel.yield .parked) := by
  have hcall : (Event.pass .call : Carousel.Event Body).isCall := trivial
  refine h.leads_passTo hcall rfl rfl (Scheduler.count_pass _ _) (fun l ha => ⟨_, .yield ?_⟩) ?_ ?_
    ?_
  · rw [ha.here h.current_lt, hp]; rfl
  · rw [hp]
  · rw [hp]; nofun
  · rw [hp]; nofun

/-! ## Whole runs -/

/-- **The current task goes on.** -/
theorem leads_step (h : f.Counts total) : f.Leads f.step := by
  by_cases htrap : f.thread.trap = true
  · rw [Firmware.step, if_pos htrap]; exact h.leads_takeTrap
  rw [Bool.not_eq_true] at htrap
  by_cases hfresh : f.thread.point = .fresh
  · exact h.leads_enter htrap hfresh
  unfold Firmware.step
  rw [if_neg (by rw [htrap]; exact Bool.false_ne_true)]
  cases hp : f.thread.point with
  | fresh => exact absurd hp hfresh
  | idle | failed => exact .refl f
  | counter amount q => exact h.leads_stepCounter hp
  | receive =>
    dsimp only
    split_ifs
    · exact leads_goTo rfl rfl (by rw [hp]; rfl) rfl
    · exact leads_goTo rfl rfl (by rw [hp]; rfl) rfl
  | rest => exact h.leads_sleepTo 1 (by rw [hp]; rfl) rfl
  | received n => exact leads_goTo rfl rfl (by rw [hp]; rfl) rfl
  | greeter left =>
    dsimp only
    split_ifs
    · exact leads_goTo rfl rfl (by rw [hp]; rfl) rfl
    · exact h.leads_yieldTo (by rw [hp]; rfl) rfl
  | returned code => exact h.leads_returned hp _
  | exit => exact h.leads_exit hp
  | parked => exact h.leads_parked hp

theorem leads_exception (h : f.Counts total) {handler : Firmware → Firmware}
    (hk : ∀ g, (handler g).core = g.core) : f.Leads (f.exception handler) := by
  have hfinish : f.Leads { handler { f with board := f.board.enter } with
      board := (handler { f with board := f.board.enter }).board.finish } := by
    have hcore := hk { f with board := f.board.enter }
    generalize handler { f with board := f.board.enter } = f' at hcore ⊢
    simp only [core, Prod.mk.injEq] at hcore
    obtain ⟨hcpu, hm, hs, -, -, hthreads⟩ := hcore
    intro l ha
    -- a device of the life's board whose handler leaves the same registers
    obtain ⟨b, hc', hs', hm', hr'⟩ : ∃ b : Board Body Alarm, b.cpu = l.board.enter.cpu ∧
        b.scheduler = l.board.enter.scheduler ∧ b.memory = l.board.enter.memory ∧
        b.registers = f'.board.registers :=
      ⟨{ l.board.enter with registers := f'.board.registers }, rfl, rfl, rfl, rfl⟩
    have hpre : l.board.Preempts b.finish := .device ha.untouched.room hc' hm' hs'
    refine ha.goOn (.of_threads hthreads) (.single (.preempt hpre))
      (ha.untouched.finish_of_same hc' hs' hm').1 ?_
      fun i p _ hat => hat.preempt ha.untouched.running hpre
    show b.finish.scheduler = f'.board.finish.scheduler
    rw [ha.untouched.scheduler_finish hc' hs' hm', h.board.1.scheduler_finish hcpu hs hm, hr',
      ha.scheduler, h.board.1.psp_eq ha.untouched ha.scheduler]
  exact hfinish.trans (leads_noteSwitch _ f.current)

theorem leads_tick (h : f.Counts total) : f.Leads { f with board := f.board.sysTick } := by
  intro l ha
  -- the trap may be pending already
  let l₁ : Life Body Alarm := { l with board.registers := f.board.registers }
  have houtside : l.Move line l₁ := .outside rfl rfl rfl
  have hu : l₁.board.Untouched := ha.untouched.of_same rfl rfl rfl
  have hpre : l₁.board.Preempts l₁.board.sysTick := .tick hu.room
  have hs : l₁.board.scheduler = f.board.scheduler := ha.scheduler
  have hregisters : l₁.board.registers = f.board.registers := rfl
  have hsame : ∀ {i p}, l.board.IsAt line i p → l₁.board.IsAt line i p := fun hat =>
    hat.of_same rfl rfl rfl
  refine ha.goOn (.of_threads rfl) ((ReflTransGen.single houtside).tail (.preempt hpre))
    hu.sysTick.1 ?_ fun i p _ hat => (hsame hat).preempt hu.running hpre
  show l₁.board.sysTick.scheduler = f.board.sysTick.scheduler
  rw [hu.scheduler_sysTick, h.board.1.scheduler_sysTick, hregisters, hs, h.board.1.psp_eq hu hs]

/-- **Something comes from outside.** -/
theorem leads_interrupt (h : f.Counts total) (i : Interrupt) : f.Leads (f.interrupt i) := by
  have hpoke : ∀ r, f.Leads { f with board.registers := r } := fun _ => .wait (.of_threads rfl) rfl
  have hpoked : ∀ r, ({ f with board.registers := r } : Firmware).Counts total := fun _ =>
    h.of_board (h.board.1.of_same rfl rfl rfl) (.refl _) rfl rfl rfl
  cases i with
  | line number =>
    show f.Leads (f.exception (·.handle number))
    exact h.leads_exception fun g => core_handle g number
  | timer =>
    unfold Firmware.interrupt
    dsimp only
    split_ifs
    · exact .refl f
    · exact hpoke _
    · exact (hpoke _).trans ((hpoked _).leads_exception fun g => core_handle g _)
  | tick =>
    unfold Firmware.interrupt
    dsimp only
    split_ifs
    · exact h.leads_tick.trans (leads_noteSwitch _ f.current)
    · exact .refl f

theorem leads_after (h : f.Counts total) (x : Happening) : f.Leads (f.after x) := by
  cases x with
  | goOn => exact h.leads_step
  | interrupt i => exact h.leads_interrupt i
  | spin n => exact .wait (.of_threads rfl) rfl

theorem leads_afterAll (h : f.Counts total) (xs : List Happening) : f.Leads (f.afterAll xs) := by
  induction xs generalizing f total with
  | nil => exact .refl f
  | cons x xs ih => exact (h.leads_after x).trans (ih (h.after x))

end Counts

/-! ## From the start -/

/-- The demonstration is set up in the calls that a life may begin with. -/
theorem stages_lives : Stages (fun s b => b.scheduler = s ∧ ∃ ms, Life.Boots .board b ms)
    (fun b => ∃ ms, Life.Lives line ⟨b, ms⟩ ∧
      ∀ i : TaskId, i.val < b.scheduler.count → b.IsAt line i (.entered i)) where
  setUp := fun {b} hb => by
    have hs := Board.scheduler_setUp b .board Body.idle
    rw [hb.2] at hs
    exact ⟨hs, _, .setUp Body.idle hb.1⟩
  create := fun {s b} body argument size name ⟨hs, ms, hb⟩ => by
    obtain ⟨hon, -⟩ := hb.booted.prepared.stacked
    have hasks : b.scheduler.asks (.spawn body argument size name) := trivial
    refine ⟨?_, _, (hb.call hasks).main (Board.scheduler_create b ..) ⟨hon.handling, hon.above⟩⟩
    rw [Board.scheduler_create, hs]
  main := fun ⟨hs, ms, hb⟩ hs' hmain =>
    ⟨hs'.trans hs, ms, hb.main hs' (hmain hb.booted.prepared.stacked.1)⟩
  start := fun {b} ⟨hs, ms, hb⟩ => by
    have hbooted := hb.booted
    refine ⟨ms, (Life.Lives.launch hb).move (.outside rfl rfl rfl), fun i hi => ?_⟩
    exact (hbooted.prepared.isAt_start hbooted.entry hbooted.created hi).of_same rfl rfl rfl

/-- **The demonstration is a life**, from the start. -/
theorem exists_along {registers : Board.Registers} {primask : Word} {f₀ : Firmware}
    (hboot : boot.run (powerOn registers primask) = (.ok (), f₀)) : ∃ l, f₀.Along l := by
  obtain ⟨hunused, hlaunched⟩ := launched_of_boot hboot
  obtain ⟨-, ms, hlives, hat⟩ := stages_lives.of_boot hboot
  have hfresh : ∀ i, f₀.point i = .fresh := fun i => by
    rw [point, hunused.fresh]; rfl
  refine ⟨_, hlives, hlaunched.1, rfl, fun i hi => ?_, Or.inl (hfresh _)⟩
  rw [hfresh]
  exact hat i (by rw [hlaunched.2.count]; exact hi)

/-- A task that has ended, and that another task has taken over from, never runs again. -/
theorem exited_away {registers : Board.Registers} {primask : Word} {f₀ : Firmware}
    (hboot : boot.run (powerOn registers primask) = (.ok (), f₀)) (xs ys : List Happening)
    {i : TaskId} (hexited : ((f₀.afterAll xs).board.scheduler.task i).status = .exited)
    (haway : i ≠ (f₀.afterAll xs).current) : i ≠ (f₀.afterAll (xs ++ ys)).current := by
  obtain ⟨hunused, hlaunched⟩ := launched_of_boot hboot
  have hcounts := hunused.counts hlaunched
  obtain ⟨l₀, h₀⟩ := exists_along hboot
  obtain ⟨l, -, h⟩ := hcounts.leads_afterAll xs l₀ h₀
  obtain ⟨l', hm, h'⟩ := (hcounts.afterAll xs).leads_afterAll ys l h
  have hkept := Life.kept_of_lives h.lives
  have happend : f₀.afterAll (xs ++ ys) = (f₀.afterAll xs).afterAll ys := List.foldl_append ..
  rw [happend, ← h'.me]
  rw [← h.scheduler] at hexited
  exact hkept.away (hkept.ended_of_exited hexited) (h.me ▸ haway) hm

end Firmware

end Carousel.Demo
