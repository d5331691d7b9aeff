/-
  Carousel — every body runs once, as itself.

  * `Life`: a board and what was written down of it, `Life.Move` and `Lives`: what may happen on it;
  * `Scheduler.Advances`: how the code that every task starts in goes on, and `Books.advances`: what
    is written down of it is in order;
  * `Life.Kept`: what holds at any time, and `Kept.move`: a move keeps it;
  * `Boots.booted`, `Life.kept_launch`: it holds when the first task is launched;
  * `begins`, `returns` and `ends`: how a task goes through straight code;
  * `runs_once`: no body runs twice, or under another number.
-/
import Carousel.Proofs.Board.Threads

namespace Carousel

open Stack Relation

variable {β κ : Type} {e : EntryPoints}

/-! ## What may happen -/

/-- How the current task goes on by itself, from place to place, and what is written down of it. -/
inductive Scheduler.Advances (s : Scheduler β) : Place β → Place β → List (Mark β) → Prop
  | stay {p : Place β} : Advances s p p []
  | look {n : Nat} : Advances s (.entered n) (.found n (s.entryOf n)) []
  | start {n : Nat} {body : β} {argument : UInt64} :
      Advances s (.given n body argument) (.inBody n) [.began s.current n body argument]
  /-- The idle task never comes to this. -/
  | back {n : Nat} : s.current ≠ idleTask → Advances s (.inBody n) (.back n) [.returned s.current n]

/-- A board, and what was written down, the latest first. -/
structure Life (β κ : Type) where
  board : Board β κ
  marks : List (Mark β)

namespace Life

/-- The task that has the processor. -/
def me (l : Life β κ) : TaskId := l.board.scheduler.current

/-- Something that happens, if tasks start in `code`.  Where the current task is, only its registers
    and its stack say. -/
inductive Move (code : Code β e) : Life β κ → Life β κ → Prop
  | preempt {l : Life β κ} {b : Board β κ} : l.board.Preempts b → Move code l { l with board := b }
  /-- Devices go on, which is no affair of the tasks. -/
  | outside {l : Life β κ} {b : Board β κ} : b.cpu = l.board.cpu → b.memory = l.board.memory →
      b.scheduler = l.board.scheduler → Move code l { l with board := b }
  | code {l : Life β κ} {b : Board β κ} {ms : List (Mark β)} : l.board.OwnCode b →
      l.board.scheduler.Advances (code.here l.board) (code.here b) ms →
      Move code l ⟨b, ms ++ l.marks⟩
  /-- The body calls the kernel. -/
  | call {l : Life β κ} {ev : Event β} {n : Nat} : code.here l.board = .inBody n →
      l.board.scheduler.asks ev →
      Move code l ⟨l.board.call ev, l.board.scheduler.makes ev ++ l.marks⟩
  | exit {l : Life β κ} {b : Board β κ} {n : Nat} : code.here l.board = .back n →
      Board.OwnCode { l.board with scheduler := l.board.scheduler.exit n } b →
      code.here b = .parked → Move code l ⟨b, .ended l.me n :: l.marks⟩
  | yield {l : Life β κ} : code.here l.board = .parked →
      Move code l { l with board := l.board.call (.pass .call) }

/-- The kernel is set up, tasks may have been made, and none runs yet. -/
inductive Boots (image : Kernel.Image) : Board β κ → List (Mark β) → Prop
  | setUp {b : Board β κ} (idle : β) : b.OnMain image →
      Boots image (b.setUp image idle) [.made idleTask idle 0]
  | call {b : Board β κ} {ms : List (Mark β)} {ev : Event β} : Boots image b ms →
      b.scheduler.asks ev → Boots image (b.call ev) (b.scheduler.makes ev ++ ms)
  | main {b b' : Board β κ} {ms : List (Mark β)} : Boots image b ms → b'.scheduler = b.scheduler →
      b'.OnMain image → Boots image b' ms

/-- The first task is launched, and then anything happens. -/
inductive Lives {image : Kernel.Image} (code : Code β image.entryPoints) : Life β κ → Prop
  | launch {b : Board β κ} {ms : List (Mark β)} : Boots image b ms → Lives code ⟨b.start, ms⟩
  | move {l l' : Life β κ} : Lives code l → l.Move code l' → Lives code l'

end Life

/-! ## The code that every task starts in -/

/-- **The current task goes on by itself.**  It comes to a place at which it goes by its own number,
    and what is written down is about this task, and in its place. -/
theorem Books.advances {s : Scheduler β} {ms ms' : List (Mark β)} {p p' : Place β} (h : Books s ms)
    (ho : Orderly ms) (hp : p.Proper ms s.current) (hl : s.Advances p p' ms') :
    Books s (ms' ++ ms) ∧ Orderly (ms' ++ ms) ∧ p'.Proper (ms' ++ ms) s.current ∧
      ∀ m ∈ ms', ∀ i, m.By i → i = s.current := by
  cases hl with
  | stay => exact ⟨h, ho, hp, nofun⟩
  | look =>
    obtain ⟨rfl, hbegan, hended⟩ := hp
    obtain ⟨body, argument, hmade⟩ := h.named h.current_lt
    rw [(h.made hmade).2]
    exact ⟨h, ho, ⟨rfl, hmade, hbegan, hended⟩, nofun⟩
  | start =>
    obtain ⟨rfl, hmade, hbegan, hended⟩ := hp
    refine ⟨h.mark nofun nofun, ⟨⟨rfl, hmade, hbegan⟩, ho⟩, ⟨rfl, ⟨_, _, .head _⟩, fun n hm => ?_⟩,
      fun m hm i hi => ?_⟩
    · exact hended n ((List.mem_cons.1 hm).resolve_left nofun)
    · obtain rfl := List.mem_singleton.1 hm
      exact hi.symm
  | back hidle =>
    obtain ⟨rfl, hbegan, hended⟩ := hp
    refine ⟨h.mark nofun nofun, ⟨⟨rfl, hbegan⟩, ho⟩, ⟨rfl, hidle, .head _, fun n hm => ?_⟩,
      fun m hm i hi => ?_⟩
    · exact hended n ((List.mem_cons.1 hm).resolve_left nofun)
    · obtain rfl := List.mem_singleton.1 hm
      exact hi.symm

/-! ## One move -/

namespace Life

variable {l l' : Life β κ} {i : TaskId} {code : Code β e}

/-- What holds of a life at any time. -/
structure Kept (code : Code β e) (l : Life β κ) : Prop where
  running : l.board.Running
  books : Books l.board.scheduler l.marks
  entry : l.board.scheduler.entryPoints = e
  places : ∀ i : TaskId, i.val < l.board.scheduler.count →
    ∃ p : Place β, l.board.IsAt code i p ∧ p.Proper l.marks i
  orderly : Orderly l.marks

namespace Kept

theorem here (h : l.Kept code) : (code.here l.board).Proper l.marks l.me := by
  obtain ⟨p, hat, hp⟩ := h.places l.me h.books.current_lt
  rw [hat.eq_here]; exact hp

theorem preempt (h : l.Kept code) {b : Board β κ} (hp : l.board.Preempts b) :
    Kept code { l with board := b } := by
  obtain ⟨hr, hs, -⟩ := hp.spec h.running
  obtain ⟨hcount, hentry, -⟩ := hs.rest
  refine ⟨hr, h.books.preempted hs, hentry.trans h.entry, fun i hi => ?_, h.orderly⟩
  obtain ⟨p, hat, hproper⟩ := h.places i (hcount ▸ hi)
  exact ⟨p, hat.preempt h.running hp, hproper⟩

theorem outside (h : l.Kept code) {b : Board β κ} (hc : b.cpu = l.board.cpu)
    (hm : b.memory = l.board.memory) (hs : b.scheduler = l.board.scheduler) :
    Kept code { l with board := b } := by
  refine ⟨⟨h.running.sound.of_same hc hs, ?_⟩, ?_, ?_, fun i hi => ?_, h.orderly⟩
  · show b.cpu.handling = false
    rw [hc]; exact h.running.thread
  · show Books b.scheduler _
    rw [hs]; exact h.books
  · show b.scheduler.entryPoints = e
    rw [hs]; exact h.entry
  · obtain ⟨p, hat, hproper⟩ := h.places i (hs ▸ hi)
    exact ⟨p, hat.of_same hc hm hs, hproper⟩

/-- A call of the kernel leaves the task where it was. -/
theorem call (h : l.Kept code) {ev : Event β} (he : ev.isCall) {ms : List (Mark β)}
    (hb : Books (l.board.scheduler.after ev) (ms ++ l.marks)) (ho : Orderly (ms ++ l.marks))
    (hm : ∀ m ∈ ms, ∃ i body argument, m = .made i body argument) :
    Kept code ⟨l.board.call ev, ms ++ l.marks⟩ := by
  have hby : ∀ i, ∀ m ∈ ms, ¬ m.By i := by
    intro i m hmem
    obtain ⟨j, body, argument, rfl⟩ := hm m hmem
    exact id
  refine ⟨Board.Step.running (.call he) h.running, hb,
    (Scheduler.entryPoints_after _ ev).trans h.entry, fun i hi => ?_, ho⟩
  by_cases hold : i.val < l.board.scheduler.count
  · obtain ⟨p, hat, hproper⟩ := h.places i hold
    exact ⟨p, hat.call h.running hold he, hproper.append (hby i)⟩
  · -- the task has just been made, and nothing is written down of it
    obtain ⟨body, argument, size, name, s', rfl, hs⟩ :=
      Scheduler.spawn_of_made (Nat.not_lt.1 hold) hi
    refine ⟨.entered i, Board.isAt_spawn h.running h.entry hs, Place.Proper.append ?_ (hby i)⟩
    exact ⟨rfl, fun n b a hm => hold (h.books.made (h.orderly.made_of_began hm)).1,
      fun n hm => hold (h.books.ended hm)⟩

/-- The current task goes on to another place. -/
theorem onward (h : l.Kept code) {b : Board β κ} {ms : List (Mark β)} (hr : b.Running)
    (hb : Books b.scheduler (ms ++ l.marks)) (he : b.scheduler.entryPoints = e)
    (hn : b.scheduler.count = l.board.scheduler.count) (hc : b.scheduler.current = l.me)
    (ha : ∀ (i : TaskId) (p : Place β), i.val < l.board.scheduler.count → i ≠ l.me →
      l.board.IsAt code i p → b.IsAt code i p)
    (hp : (code.here b).Proper (ms ++ l.marks) l.me) (ho : Orderly (ms ++ l.marks))
    (hm : ∀ m ∈ ms, ∀ i, m.By i → i = l.me) : Kept code ⟨b, ms ++ l.marks⟩ := by
  refine ⟨hr, hb, he, fun i hi => ?_, ho⟩
  by_cases hme : i = l.me
  · subst hme
    rw [← hc] at hp ⊢
    exact ⟨_, Board.isAt_here code b, hp⟩
  · obtain ⟨p, hat, hproper⟩ := h.places i (hn ▸ hi)
    exact ⟨p, ha i p (hn ▸ hi) hme hat, hproper.append fun m hmem hby => hme (hm m hmem i hby)⟩

theorem exit (h : l.Kept code) {b : Board β κ} {n : Nat} (hb : code.here l.board = .back n)
    (ho : Board.OwnCode { l.board with scheduler := l.board.scheduler.exit n } b)
    (hp : code.here b = .parked) : Kept code ⟨b, .ended l.me n :: l.marks⟩ := by
  have hproper := h.here
  rw [hb] at hproper
  obtain ⟨rfl, hidle, hreturned, hended⟩ := hproper
  have hcall : (Event.exit : Event β).isCall := trivial
  have hexit := Board.Step.running (.call hcall) h.running
  have ho : (l.board.call .exit).OwnCode b := ho
  have hs : b.scheduler = l.board.scheduler.exit l.me := ho.scheduler
  have hcur : (l.board.call .exit).scheduler.current = l.me := Scheduler.current_after _ trivial
  suffices Kept code ⟨b, [.ended l.me l.me] ++ l.marks⟩ from this
  refine h.onward (Board.Step.running (.code ho) hexit) ?_ ?_ ?_ ?_
    (fun i p hi hne hat => ?_) ?_ ⟨⟨rfl, hidle, hreturned, hended⟩, h.orderly⟩ fun m hm i hi => ?_
  · rw [hs]; exact h.books.exit hidle _
  · rw [hs, Scheduler.exit_rest]; exact h.entry
  · rw [hs, Scheduler.exit_rest]
  · rw [ho.scheduler]; exact hcur
  · exact (hat.call h.running hi hcall).ownCode hexit (hcur ▸ hne) ho
  · rw [hp]; exact .head _
  · obtain rfl := List.mem_singleton.1 hm
    exact hi.symm

/-- **A move keeps all of this.** -/
theorem move (h : l.Kept code) (hm : l.Move code l') : l'.Kept code := by
  have hhere := h.here
  cases hm with
  | preempt hp => exact h.preempt hp
  | outside hc hm hs => exact h.outside hc hm hs
  | code ho hl =>
    obtain ⟨hb, horderly, hp, hms⟩ := h.books.advances h.orderly hhere hl
    refine h.onward (Board.Step.running (.code ho) h.running) ?_ ?_ ?_ ?_
      (fun i p _ hne hat => hat.ownCode h.running hne ho) hp horderly hms
    · rw [ho.scheduler]; exact hb
    · rw [ho.scheduler]; exact h.entry
    · rw [ho.scheduler]
    · rw [ho.scheduler]; rfl
  | call hb hasks =>
    have hended := hhere.not_ended (by rw [hb]; nofun)
    exact h.call (Event.isCall_of_asks hasks) (h.books.asks hasks hended)
      (h.orderly.makes h.books _) fun m hm => (h.books.makes _ hm).1
  | exit hb ho hp => exact h.exit hb ho hp
  | yield hp =>
    have hcall : (Event.pass .call : Event β).isCall := trivial
    have hbooks : Books (l.board.scheduler.after (.pass .call)) ([] ++ l.marks) :=
      h.books.pass .call
    exact h.call hcall hbooks h.orderly nofun

end Kept

/-! ## Before the launch -/

/-- What holds while tasks are made and none runs. -/
structure Booted (image : Kernel.Image) (b : Board β κ) (ms : List (Mark β)) : Prop where
  prepared : b.Prepared image
  books : Books b.scheduler ms
  entry : b.scheduler.entryPoints = image.entryPoints
  orderly : Orderly ms
  idle : b.scheduler.current = idleTask
  created : ∀ i : TaskId, i.val < b.scheduler.count → (b.scheduler.task i).status = .created
  marks : ∀ m ∈ ms, ∃ i body argument, m = .made i body argument

variable {image : Kernel.Image}

theorem booted_setUp {b : Board β κ} (hb : b.OnMain image) (idle : β) :
    Booted image (b.setUp image idle) [.made idleTask idle 0] := by
  have hprepared := Board.Prepared.setUp idle hb
  have hstacked := hprepared.stacked.2
  have hrestart := hb.restart_setUp b.scheduler idle
  obtain ⟨-, region, rest, hcut, he⟩ := Scheduler.restart_eq_ok hrestart
  have htask := Scheduler.task_restart hrestart hcut idleTask
  have hsafe := Scheduler.safe_of_underway (.restart hrestart)
  rw [if_pos rfl] at htask
  rw [← Board.scheduler_setUp] at he htask hsafe
  have hcount : (b.setUp image idle).scheduler.count = 1 := by rw [he]
  have hone : ∀ {i : TaskId}, i.val < (b.setUp image idle).scheduler.count → i = idleTask :=
    fun hi => Fin.ext (Nat.lt_one_iff.1 (hcount ▸ hi))
  have hended : ∀ {i : TaskId} {n : Nat}, .ended i n ∉ [Mark.made idleTask idle 0] := fun hm => by
    cases List.mem_singleton.1 hm
  refine ⟨hprepared, ⟨hsafe, ⟨_, hstacked⟩, fun hm => ?_, fun hi => ?_, fun hm => absurd hm hended,
    fun hi => ?_⟩, ?_, ⟨fun b a hm => ?_, trivial⟩, ?_, fun i hi => ?_,
    fun m hm => ⟨_, _, _, List.mem_singleton.1 hm⟩⟩
  · cases List.mem_singleton.1 hm
    refine ⟨by rw [hcount]; decide, ?_⟩
    rw [Scheduler.entryOf, dif_pos (Fin.isLt _), htask]; rfl
  · rw [hone hi]; exact ⟨idle, 0, .head _⟩
  · rw [hone hi, htask]
    exact iff_of_false Bool.false_ne_true fun h => h.elim fun _ => hended
  · rw [he]
  · cases hm
  · rw [he]; rfl
  · rw [hone hi, htask]; rfl

theorem Booted.call {b : Board β κ} {ms : List (Mark β)} (h : Booted image b ms) {ev : Event β}
    (he : b.scheduler.asks ev) : Booted image (b.call ev) (b.scheduler.makes ev ++ ms) := by
  have hcall := Event.isCall_of_asks he
  have hended : ∀ n, .ended b.scheduler.current n ∉ ms := by
    intro n hm
    obtain ⟨i, body, argument, hmade⟩ := h.marks _ hm
    cases hmade
  refine ⟨h.prepared.call hcall, h.books.asks he hended,
    (Scheduler.entryPoints_after _ ev).trans h.entry, h.orderly.makes h.books ev,
    (Scheduler.current_after _ hcall).trans h.idle, fun i hi => ?_, fun m hm => ?_⟩
  · rw [Board.scheduler_call] at hi ⊢
    cases ev with
    | pass trigger =>
      exact Scheduler.created_pass.2 (h.created i (Scheduler.count_pass _ trigger ▸ hi))
    | sleep => exact absurd h.idle he
    | exit | commit => exact he.elim
    | spawn body argument size name =>
      by_cases hold : i.val < b.scheduler.count
      · have htask : (b.scheduler.after (.spawn body argument size name)).task i =
            b.scheduler.task i := (Scheduler.made_serve_spawn hold body argument size name).2
        rw [htask]; exact h.created i hold
      · obtain ⟨_, _, _, _, s', ⟨⟩, hs⟩ := Scheduler.spawn_of_made (Nat.not_lt.1 hold) hi
        rw [Scheduler.after, hs, Scheduler.task_spawn_self hs]; rfl
  · rcases List.mem_append.1 hm with hm | hm
    · exact (h.books.makes ev hm).1
    · exact h.marks m hm

theorem Boots.booted {b : Board β κ} {ms : List (Mark β)} (h : Boots image b ms) :
    Booted image b ms := by
  induction h with
  | setUp idle hb => exact booted_setUp hb idle
  | call _ he ih => exact ih.call he
  | main _ hs hb ih =>
    refine ⟨.main ih.prepared hs hb, ?_, ?_, ih.orderly, ?_, ?_, ih.marks⟩
    · rw [hs]; exact ih.books
    · rw [hs]; exact ih.entry
    · rw [hs]; exact ih.idle
    · rw [hs]; exact ih.created

theorem kept_launch {code : Code β image.entryPoints} {b : Board β κ} {ms : List (Mark β)}
    (h : Boots image b ms) : Kept code ⟨b.start, ms⟩ := by
  have hb := h.booted
  obtain ⟨hs, -⟩ := hb.prepared.start_spec
  obtain ⟨hsound, hthread⟩ := hb.prepared.start
  refine ⟨⟨hsound, hthread⟩, ?_, ?_, fun i hi => ⟨.entered i, ?_, rfl, ?_, ?_⟩, hb.orderly⟩
  · show Books b.start.scheduler _
    rw [hs]; exact hb.books.launch
  · show b.start.scheduler.entryPoints = _
    rw [hs, Scheduler.launch_eq]; exact hb.entry
  · exact hb.prepared.isAt_start hb.entry hb.created hi
  · intro n body argument hm
    obtain ⟨_, _, _, hmade⟩ := hb.marks _ hm
    cases hmade
  · intro n hm
    obtain ⟨_, _, _, hmade⟩ := hb.marks _ hm
    cases hmade

/-! ## Whole lives -/

theorem kept_of_lives {code : Code β image.entryPoints} (h : Lives code l) : l.Kept code := by
  induction h with
  | launch hb => exact kept_launch hb
  | move _ hm ih => exact ih.move hm

theorem Move.marks_subset (hm : l.Move code l') : l.marks ⊆ l'.marks := by
  cases hm with
  | preempt | outside | yield => exact List.Subset.refl _
  | code | call => exact List.subset_append_right _ _
  | exit => exact List.subset_cons_self _ _

/-- A task that has ended and is switched out does not get the processor any more. -/
theorem Kept.away_move (h : l.Kept code) {n : Nat} (hn : .ended i n ∈ l.marks) (hi : i ≠ l.me)
    (hm : l.Move code l') : i ≠ l'.me := by
  cases hm with
  | preempt hpre =>
    obtain ⟨-, hs, -⟩ := hpre.spec h.running
    exact h.books.ne_current hn hi hs
  | outside _ _ hs =>
    rw [me, hs]; exact hi
  | code ho =>
    rw [me, ho.scheduler]; exact hi
  | call _ he =>
    rw [me, Board.scheduler_call, Scheduler.current_after _ (Event.isCall_of_asks he)]; exact hi
  | yield =>
    rw [me, Board.scheduler_call, Scheduler.current_after _ (by trivial)]; exact hi
  | exit _ ho =>
    rw [me, ho.scheduler]
    show i ≠ (l.board.scheduler.exit _).current
    rw [Scheduler.exit_rest]; exact hi

theorem Kept.away (h : l.Kept code) {n : Nat} (he : .ended i n ∈ l.marks) (hi : i ≠ l.me)
    (hr : ReflTransGen (Move code) l l') : i ≠ l'.me := by
  have hall : l'.Kept code ∧ .ended i n ∈ l'.marks ∧ i ≠ l'.me := by
    induction hr with
    | refl => exact ⟨h, he, hi⟩
    | tail _ hm ih =>
      obtain ⟨hk, hended, haway⟩ := ih
      exact ⟨hk.move hm, hm.marks_subset hended, hk.away_move hended haway hm⟩
  exact hall.2.2

/-- Marks of bodies are about the current task, and come when it is at the place for them. -/
theorem Kept.marked (h : l.Kept code) (hm : l.Move code l') {m : Mark β}
    (he : l'.marks = m :: l.marks) :
    match m with
    | .made .. => True
    | .began i n body argument => i = l.me ∧ code.here l.board = .given n body argument
    | .returned i n => i = l.me ∧ code.here l.board = .inBody n
    | .ended i n => i = l.me ∧ code.here l.board = .back n ∧
        l'.board.scheduler = l.board.scheduler.exit n := by
  cases hm with
  | preempt | outside | yield => exact absurd he.symm (List.cons_ne_self _ _)
  | @code b ms ho hl =>
    obtain rfl : ms = [m] := List.append_cancel_right he
    generalize code.here l.board = p at hl ⊢
    generalize code.here b = p' at hl
    cases hl with
    | start => exact ⟨rfl, rfl⟩
    | back => exact ⟨rfl, rfl⟩
  | @call ev =>
    have hmakes : l.board.scheduler.makes ev = [m] := List.append_cancel_right he
    obtain ⟨⟨i, body, argument, rfl⟩, -⟩ := h.books.makes ev (hmakes ▸ List.mem_singleton_self m)
    trivial
  | exit hh ho =>
    obtain ⟨rfl, -⟩ := List.cons.inj he
    exact ⟨rfl, hh, ho.scheduler⟩

/-- What the end of a task does to the table. -/
theorem Kept.ended (h : l.Kept code) (hm : l.Move code l') {n : Nat}
    (he : l'.marks = .ended i n :: l.marks) :
    i = l.me ∧
      l'.board.scheduler.task i = { l.board.scheduler.task i with status := .exited } ∧
      ∀ j, j ≠ i → l'.board.scheduler.task j = l.board.scheduler.task j := by
  obtain ⟨rfl, hb, hs⟩ := h.marked hm he
  have hproper := h.here
  rw [hb] at hproper
  obtain ⟨rfl, -, -, hended⟩ := hproper
  have hgone : (l.board.scheduler.task l.me).status.gone = false :=
    h.books.not_gone h.books.current_lt hended
  have hv : (l.board.scheduler.task l.me).status ≠ .vacant := by
    rintro hv
    rw [hv] at hgone; cases hgone
  rw [hs]
  refine ⟨rfl, ?_, fun j hj => Scheduler.task_exit_of_ne hj⟩
  rw [Scheduler.task_exit, if_pos ⟨rfl, hv⟩]

theorem Kept.ended_of_exited (h : l.Kept code) (hs : (l.board.scheduler.task i).status = .exited) :
    .ended i i ∈ l.marks := by
  have hmade : i.val < l.board.scheduler.count := by
    by_contra hn
    obtain ⟨limit, hst⟩ := h.books.stacked
    rw [hst.vacant i (Nat.not_lt.1 hn)] at hs; cases hs
  obtain ⟨n, hm⟩ := (h.books.gone hmade).1 (by rw [hs]; rfl)
  obtain ⟨later, before, hms⟩ := List.append_of_mem hm
  obtain rfl : n = i := (hms ▸ h.orderly).before.1.1
  exact hm

/-- A task that has the processor at the entry has its number in R0, and its body has not begun. -/
theorem Kept.at_entry (h : l.Kept code) (hpc : l.board.cpu.pc = e.trampoline &&& ~~~1) :
    (l.board.cpu.get .r0).toNat = l.me ∧
      ∀ n body argument, .began l.me n body argument ∉ l.marks := by
  have hhere := h.here
  rw [Code.here, code.entry _ _ _ hpc] at hhere
  exact ⟨hhere.1, hhere.2.1⟩

/-! ## Straight code -/

section
variable {entry : Nat → Option (β × UInt64)}

theorem Lives.run {code : Code β image.entryPoints} (h : Lives code l)
    (hr : ReflTransGen (Move code) l l') : Lives code l' := by
  induction hr with
  | refl => exact h
  | tail _ hm ih => exact ih.move hm

/-- A task at the entry looks up what it runs, and calls it. -/
theorem begins {body : β} {argument : UInt64} (hn : (l.board.cpu.get .r0).toNat = l.me)
    (hh : (Code.straight e entry).here l.board = .entered l.me)
    (hs : l.board.scheduler.entryOf l.me = some (body, argument))
    (hc : entry l.me = some (body, argument)) :
    ReflTransGen (Move (.straight e entry)) l
      ⟨l.board.behind e 4, [.began l.me l.me body argument] ++ l.marks⟩ := by
  have hgiven : (Code.straight e entry).here (l.board.behind e 2) = .given l.me body argument := by
    rw [Code.here_behind, hn]
    exact congrArg (Place.found _) hc
  have hbody : (Code.straight e entry).here (l.board.behind e 4) = .inBody l.me := by
    rw [Code.here_behind, hn]; rfl
  have hlook : l.board.scheduler.Advances ((Code.straight e entry).here l.board)
      ((Code.straight e entry).here (l.board.behind e 2)) [] := by
    have hlook := Scheduler.Advances.look (s := l.board.scheduler) (n := l.me)
    rw [hh, hgiven]
    rwa [hs] at hlook
  have hstart : l.board.scheduler.Advances ((Code.straight e entry).here (l.board.behind e 2))
      ((Code.straight e entry).here (l.board.behind e 4)) [.began l.me l.me body argument] := by
    rw [hgiven, hbody]; exact .start
  have hfound : Move (.straight e entry) l ⟨l.board.behind e 2, [] ++ l.marks⟩ :=
    .code (Board.ownCode_behind _ e 2) hlook
  have hbegun : Move (.straight e entry) ⟨l.board.behind e 2, [] ++ l.marks⟩
      ⟨l.board.behind e 4, [.began l.me l.me body argument] ++ l.marks⟩ :=
    .code (Board.ownCode_behind (l.board.behind e 2) e 4) hstart
  exact (ReflTransGen.single hfound).tail hbegun

/-- Its body returns. -/
theorem returns (hn : (l.board.cpu.get .r0).toNat = l.me)
    (hh : (Code.straight e entry).here l.board = .inBody l.me) (hidle : l.me ≠ idleTask) :
    Move (.straight e entry) l ⟨l.board.behind e 6, [.returned l.me l.me] ++ l.marks⟩ := by
  have hreturn : l.board.scheduler.Advances ((Code.straight e entry).here l.board)
      ((Code.straight e entry).here (l.board.behind e 6)) [.returned l.me l.me] := by
    rw [hh, Code.here_behind, hn]; exact .back hidle
  exact .code (Board.ownCode_behind _ e 6) hreturn

/-- It is marked as done. -/
theorem ends (hh : (Code.straight e entry).here l.board = .back l.me) :
    Move (.straight e entry) l
      ⟨({ l.board with scheduler := l.board.scheduler.exit l.me } : Board β κ).behind e 8,
        .ended l.me l.me :: l.marks⟩ :=
  .exit hh (Board.ownCode_behind _ e 8) (Code.here_behind _ 8)

/-- A task at the entry that nobody disturbs goes through its body and ends. -/
theorem runs_through {b : Board β κ} {ms : List (Mark β)}
    (h : Lives (.straight image.entryPoints entry) ⟨b, ms⟩) {i : TaskId}
    (hi : b.scheduler.current = i) (hidle : i ≠ idleTask)
    (hpc : b.cpu.pc = image.entryPoints.trampoline &&& ~~~1) {body : β} {argument : UInt64}
    (hs : b.scheduler.entryOf i = some (body, argument))
    (hc : entry i = some (body, argument)) :
    Lives (.straight image.entryPoints entry)
      ⟨({ b with scheduler := b.scheduler.exit i } : Board β κ).behind image.entryPoints 8,
        .ended i i :: .returned i i :: .began i i body argument :: ms⟩ := by
  subst hi
  have hnumber := ((kept_of_lives h).at_entry hpc).1
  have hentered : (Code.straight image.entryPoints entry).here b = .entered b.scheduler.current :=
    ((Code.straight image.entryPoints entry).entry _ _ _ hpc).trans (congrArg Place.entered hnumber)
  have hbegun := h.run (begins hnumber hentered hs hc)
  have hhere : ∀ k, (Code.straight image.entryPoints entry).here (b.behind image.entryPoints k) =
      .behind entry b.scheduler.current k := fun k =>
    (Code.here_behind b k).trans (congrArg (Place.behind entry · k) hnumber)
  have hreturned := hbegun.move (returns hnumber (hhere 4) hidle)
  have hended := hreturned.move (ends (hhere 6))
  exact hended

end

/-! ## Once -/

/-- **Every body runs once, as itself.**  The kernel was set up, tasks were made, and the first one
    was launched.  Since then ticks, traps and interrupts of devices have come, and tasks have run
    their own code, made tasks, yielded, slept and ended, in any order; only the idle task neither
    sleeps nor ends.  Every task starts in the same code, and wherever its registers and its stack
    say that it is in this code, it goes on from there.

    A number is given to one task only.  A body is called once for each task, while that task is
    current, and it is the body, with the argument, of the call that made the task; for whenever the
    processor is at the entry of the code, the current task has its own number in R0, and its body
    has not been called.  A task is marked as done by itself after its body has returned, and
    nothing else makes its status `exited`; that leaves all other entries alone.  Once it is switched
    out after that it does not get the processor any more. -/
theorem runs_once {code : Code β image.entryPoints} (h : Lives code l) :
    (∀ later before i body argument, l.marks = later ++ .made i body argument :: before →
      ∀ b a, .made i b a ∉ before) ∧
    (∀ later before (i : TaskId) (n : Nat) body argument,
      l.marks = later ++ .began i n body argument :: before →
      n = i ∧ .made i body argument ∈ before ∧ ∀ n b a, .began i n b a ∉ before) ∧
    (l.board.cpu.pc = image.entryPoints.trampoline &&& ~~~1 →
      (l.board.cpu.get .r0).toNat = l.me ∧
        ∀ n body argument, .began l.me n body argument ∉ l.marks) ∧
    (∀ l' i n body argument, l.Move code l' → l'.marks = .began i n body argument :: l.marks →
      i = l.me) ∧
    (∀ later before (i : TaskId) (n : Nat), l.marks = later ++ .ended i n :: before →
      n = i ∧ i ≠ idleTask ∧ .returned i n ∈ before ∧
        (∃ body argument, .began i n body argument ∈ before) ∧ ∀ n, .ended i n ∉ before) ∧
    (∀ l' i n, l.Move code l' → l'.marks = .ended i n :: l.marks →
      i = l.me ∧
        l'.board.scheduler.task i = { l.board.scheduler.task i with status := .exited } ∧
        ∀ j, j ≠ i → l'.board.scheduler.task j = l.board.scheduler.task j) ∧
    (∀ i, (l.board.scheduler.task i).status = .exited → .ended i i ∈ l.marks) ∧
    ∀ i n, .ended i n ∈ l.marks → i ≠ l.me → ∀ l', ReflTransGen (Move code) l l' → i ≠ l'.me := by
  have hk := kept_of_lives h
  refine ⟨fun later before i body argument hms => ?_, fun later before i n body argument hms => ?_,
    hk.at_entry, fun l' i n body argument hm he => ?_, fun later before i n hms => ?_,
    fun l' i n hm he => hk.ended hm he, fun i hs => hk.ended_of_exited hs,
    fun i n he hi l' hr => hk.away he hi hr⟩
  · exact (hms ▸ hk.orderly).before.1
  · exact (hms ▸ hk.orderly).before.1
  · exact (hk.marked hm he).1
  · obtain ⟨⟨hn, hidle, hreturned, hended⟩, hbefore⟩ := (hms ▸ hk.orderly).before
    exact ⟨hn, hidle, hreturned, hbefore.began_of_returned hreturned, hended⟩

/-! ### One task -/

/-- Straight code with a body that does nothing. -/
def short : Code Unit Kernel.Image.board.entryPoints := .straight _ fun _ => some ((), 0)

theorem boot_twoTasks :
    Boots .board Board.twoTasks [.made 1 () 0, .made idleTask () 0] :=
  .call (.setUp () ⟨rfl, by decide⟩) (show Scheduler.asks _ (.spawn () 0 256 none) from trivial)

/-- The task besides the idle one has ended. -/
def oneEnded : Life Unit Unit where
  board := ({ Board.twoTasks.start with
    scheduler := Board.twoTasks.start.scheduler.exit 1 } : Board Unit Unit).behind
      Kernel.Image.board.entryPoints 8
  marks := [.ended 1 1, .returned 1 1, .began 1 1 () 0, .made 1 () 0, .made idleTask () 0]

theorem lives_oneEnded : Lives short oneEnded := by
  have h : Lives short (⟨Board.twoTasks.start, _⟩ : Life Unit Unit) := .launch boot_twoTasks
  have hfirst : Board.twoTasks.scheduler.launch.2.1.current = 1 := by decide
  have hentry := Board.start_atEntry (b := Board.twoTasks) (by decide) hfirst (by decide)
    (by decide)
  have hme : Board.twoTasks.start.scheduler.current = 1 := by decide
  have hbody : Board.twoTasks.start.scheduler.entryOf 1 = some ((), 0) := by decide
  have hended := runs_through h hme (by decide) hentry.pc hbody rfl
  exact hended

def oneYields : Life Unit Unit := { oneEnded with board := oneEnded.board.call (.pass .call) }

theorem lives_oneYields : Lives short oneYields :=
  lives_oneEnded.move (.yield (Code.here_behind _ 8))

theorem room_oneYields : oneYields.board.Room := ⟨by decide, by decide⟩

/-- The idle task runs. -/
def oneAway : Life Unit Unit := { oneYields with board := oneYields.board.enter.takeTrap }

theorem board_oneAway : oneAway.board = oneYields.board.enter.takeTrap := by rw [oneAway]

theorem lives_oneAway : Lives short oneAway :=
  lives_oneYields.move (.preempt (.trap room_oneYields))

theorem current_oneAway : oneAway.board.scheduler.current = idleTask := by
  have hpending : oneYields.board.scheduler.pending = some idleTask := by decide
  have hrunning := (kept_of_lives lives_oneYields).running
  rw [board_oneAway, hrunning.current_trap room_oneYields, hpending]
  rfl

/-- The trap brings it to the entry, where it has been since it was made. -/
theorem pc_oneAway :
    oneAway.board.cpu.pc = Kernel.Image.board.entryPoints.trampoline &&& ~~~1 := by
  have hbooted := boot_twoTasks.booted
  have hlives : Lives short (⟨Board.twoTasks.start, _⟩ : Life Unit Unit) := .launch boot_twoTasks
  have hrunning := (kept_of_lives hlives).running
  have hstart : Board.twoTasks.start.IsAt short idleTask (.entered 0) :=
    hbooted.prepared.isAt_start hbooted.entry hbooted.created (by decide)
  have hexit : (Event.exit : Event Unit).isCall := trivial
  have hpass : (Event.pass .call : Event Unit).isCall := trivial
  have hended : oneEnded.board.IsAt short idleTask (.entered 0) :=
    (hstart.call hrunning (by decide) hexit).ownCode (Board.Step.running (.call hexit) hrunning)
      (by decide) (Board.ownCode_behind _ _ 8)
  have hyields : oneYields.board.IsAt short idleTask (.entered 0) :=
    hended.call (kept_of_lives lives_oneEnded).running (by decide) hpass
  have haway := hyields.preempt (kept_of_lives lives_oneYields).running (.trap room_oneYields)
  rw [← board_oneAway, ← current_oneAway] at haway
  exact Code.pc_of_entered haway.eq_here

/-- The task ran its body, ended, and yielded to the idle task, which is at the entry now. -/
theorem runs_once_oneAway :
    Lives short oneAway ∧ .made 1 () 0 ∈ oneAway.marks ∧ .returned 1 1 ∈ oneAway.marks ∧
      (oneAway.board.cpu.get .r0).toNat = idleTask ∧
      ∀ l', ReflTransGen (Move short) oneAway l' → 1 ≠ l'.me := by
  obtain ⟨-, hbegan, hentry, -, hended, -, -, haway⟩ := runs_once lives_oneAway
  obtain ⟨-, hmade, -⟩ := hbegan [.ended 1 1, .returned 1 1] _ 1 1 () 0 rfl
  obtain ⟨-, -, hreturned, -⟩ := hended [] _ 1 1 rfl
  obtain ⟨hnumber, -⟩ := hentry pc_oneAway
  have hme : oneAway.me = idleTask := current_oneAway
  rw [hme] at hnumber
  refine ⟨lives_oneAway, ?_, .tail _ hreturned, hnumber, haway 1 1 (.head _) ?_⟩
  · exact .tail _ (.tail _ (.tail _ hmade))
  · rw [hme]; decide

end Life

end Carousel
