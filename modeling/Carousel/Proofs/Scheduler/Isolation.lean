/-
  Carousel — no task is given memory of another one.

  Here the calls come in any order and from anybody, also such as no task would make.

  * `writes`: the words written for a request, and `picked`: the task that it picks;
  * `Carved`: all stacks are cut from one stretch of memory, whole and large enough;
  * `Carved.serve`: no request changes that;
  * `stacks_isolated`: stacks are apart and where they belong, and what is written goes to the
    stack of the task that is picked.
-/
import Carousel.Proofs.Scheduler.Stacks
import Carousel.Proofs.Stack.Frame

namespace Carousel

open Stack

variable {β : Type}

/-- The address is one of the stack's. -/
def Record.Owns (r : Record β) (c : Address) : Prop := r.floor ≤ c.toNat ∧ c.toNat < r.top.toNat

namespace Scheduler

/-- The words that are written for a request. -/
def writes (s : Scheduler β) : Request β → List Store
  | .pass trigger => (s.pass trigger).stores
  | .launch => s.launch.2.2
  | _ => []

/-- The task that a request picks. -/
def picked (s : Scheduler β) : Request β → Option TaskId
  | .pass trigger => (s.pass trigger).pick
  | .launch => some s.launch.2.1.current
  | _ => none

variable {s : Scheduler β} {a : Arena} {i : TaskId}

/-- A task that got what was cut for it keeps at least what was asked for. -/
theorem size_serveAll (hi : i.val < s.count) {a a' : Arena} {size : UInt64}
    (hcut : a.cut size = .ok ((s.task i).stack, a')) (rs : List (Request β)) :
    i.val < (s.serveAll rs).count ∧ size ≤ ((s.serveAll rs).task i).size := by
  obtain ⟨hmade, horigin⟩ := origin_serveAll hi rs
  obtain ⟨-, -, hsize, -⟩ := Arena.cut_eq_ok hcut
  refine ⟨hmade, ?_⟩
  rw [Record.size_eq (Record.stack_eq horigin)]
  exact UInt64.le_iff_toNat_le.2 hsize

/-! ## What is written -/

/-- Nothing is written but the first context of the task that is picked. -/
theorem writes_eq (s : Scheduler β) (r : Request β) :
    s.writes r = [] ∨ ∃ p, s.picked r = some p ∧
      s.writes r = Frame.stores p s.entryPoints (s.task p).top := by
  cases r with
  | pass trigger =>
    rcases stores_pass s trigger with h | ⟨p, hp, -, h⟩
    · exact Or.inl h
    · exact Or.inr ⟨p, hp, h⟩
  | launch => exact Or.inr ⟨_, rfl, stores_launch s⟩
  | spawn | commit | sleepCurrent | exit => exact Or.inl rfl

theorem Stacked.made_of_picked {limit : Nat} (h : s.Stacked limit) {r : Request β} {p : TaskId}
    (hp : s.picked r = some p) : p.val < s.count := by
  cases r with
  | pass trigger =>
    have hpending : (s.pass trigger).scheduler.pending = some p := by
      rw [pending_pass, show (s.pass trigger).pick = some p from hp]; rfl
    have := (h.pass trigger).pending p hpending
    rwa [count_pass] at this
  | launch =>
    have := h.launch.1.current
    rw [count_launch] at this
    obtain rfl := Option.some.inj hp
    exact this
  | spawn | commit | sleepCurrent | exit => cases hp

/-! ## Where stacks come from -/

/-- The stack ends at aligned addresses and is not too small for a task. -/
def Whole (r : Region) : Prop :=
  r.top.toNat % 8 = 0 ∧ r.size.toNat % 8 = 0 ∧ minStackSize ≤ r.size

/-- All stacks are cut from the arena `a`. -/
structure Carved (a : Arena) (s : Scheduler β) : Prop where
  stacked : s.Stacked a.top.toNat
  base : s.arena.base = a.base
  low : a.base.toNat ≤ s.arena.top.toNat
  aligned : s.arena.top.toNat % 8 = 0
  whole : ∀ i : TaskId, i.val < s.count → Whole (s.task i).stack

/-- What is cut off for a task is whole, and leaves what is aligned. -/
theorem whole_cut {a a' : Arena} {size : UInt64} {r : Region} (ha : a.top.toNat % 8 = 0)
    (hmin : minStackSize ≤ size) (h : a.cut size = .ok (r, a')) :
    Whole r ∧ a'.top.toNat % 8 = 0 := by
  obtain ⟨htop, -, hsize, -, hcut⟩ := Arena.cut_eq_ok h
  have h8 := Arena.size_cut h
  rw [UInt64.le_iff_toNat_le] at hmin
  exact ⟨⟨by rw [htop]; exact ha, h8, UInt64.le_iff_toNat_le.2 (hmin.trans hsize)⟩, by omega⟩

namespace Carved

theorem of_same {s' : Scheduler β} (h : s.Carved a) (hst : s'.Stacked a.top.toNat)
    (hn : s'.count = s.count) (ha : s'.arena = s.arena)
    (hs : ∀ i, (s'.task i).stack = (s.task i).stack) : s'.Carved a where
  stacked := hst
  base := by rw [ha]; exact h.base
  low := by rw [ha]; exact h.low
  aligned := by rw [ha]; exact h.aligned
  whole i hi := by rw [hs]; exact h.whole i (hn ▸ hi)

theorem spawn {s' : Scheduler β} (h : s.Carved a) {body : β} {argument size : UInt64}
    {name : Option String} {id : TaskId} (hs : s.spawn body argument size name = .ok (id, s')) :
    s'.Carved a := by
  have hcut := cut_spawn hs
  obtain ⟨hid, hmin, region, arena, -, he⟩ := spawn_eq_ok hs
  obtain ⟨-, hbase, -, hlow, -⟩ := Arena.cut_eq_ok hcut
  obtain ⟨hwhole, haligned⟩ := whole_cut h.aligned hmin hcut
  refine ⟨h.stacked.spawn hs, hbase.trans h.base, ?_, haligned, fun i hi => ?_⟩
  · rw [← h.base, ← hbase]; exact hlow
  · by_cases hne : i = id
    · rw [hne]; exact hwhole
    · have hn : s'.count = s.count + 1 := by rw [he]
      have : i.val ≠ id.val := fun hv => hne (Fin.ext hv)
      rw [task_spawn_of_ne hs hne]
      exact h.whole i (by omega)

/-- **No request changes where stacks come from.** -/
theorem serve (h : s.Carved a) (r : Request β) : (s.serve r).Carved a := by
  have hst := h.stacked
  cases r with
  | spawn => exact serve_spawn_of h fun _ _ hs => h.spawn hs
  | pass trigger =>
    exact h.of_same (hst.pass trigger) (count_pass s trigger) (arena_pass s trigger)
      (stack_pass s trigger)
  | commit sp =>
    refine h.of_same (hst.commit sp) ?_ ?_ (stack_commit s sp)
    · rw [Scheduler.serve, commit_rest]
    · rw [Scheduler.serve, commit_rest]
  | sleepCurrent ticks =>
    exact h.of_same (hst.sleepCurrent ticks) rfl rfl (stack_sleepCurrent s ticks)
  | exit id =>
    refine h.of_same (hst.exit id) ?_ ?_ (stack_exit s id)
    · rw [Scheduler.serve, exit_rest]
    · rw [Scheduler.serve, exit_rest]
  | launch =>
    refine h.of_same hst.launch.1 (count_launch s) ?_ (stack_launch s)
    rw [Scheduler.serve, launch_eq]; rfl

theorem serveAll (h : s.Carved a) (rs : List (Request β)) : (s.serveAll rs).Carved a := by
  induction rs generalizing s with
  | nil => exact h
  | cons r rs ih => exact ih (h.serve r)

theorem restart {entryPoints : EntryPoints} {idle : β} {idleSize : UInt64} {id : TaskId}
    (ha : a.top.toNat % 8 = 0) (h : (s.restart a entryPoints idle idleSize).1 = .ok id) :
    (s.restart a entryPoints idle idleSize).2.Carved a := by
  have hcut := cut_restart h
  obtain ⟨hmin, region, rest, -, he⟩ := restart_eq_ok h
  obtain ⟨-, hbase, -, hlow, -⟩ := Arena.cut_eq_ok hcut
  obtain ⟨hwhole, haligned⟩ := whole_cut ha hmin hcut
  refine ⟨Stacked.restart le_rfl h, hbase, ?_, haligned, fun i hi => ?_⟩
  · rw [← hbase]; exact hlow
  · rw [he] at hi
    rw [Fin.ext (Nat.lt_one_iff.1 hi) (b := idleTask)]
    exact hwhole

/-- **What is written for a request goes to the topmost 64 bytes of the stack of the task that is
    picked.** -/
theorem byte_writes (h : s.Carved a) {r : Request β} {m : Memory} {c : Address}
    (hc : (m.storeAll (s.writes r)).byte c ≠ m.byte c) :
    ∃ p, s.picked r = some p ∧ p.val < s.count ∧ (s.task p).top.toNat ≤ c.toNat + 64 ∧
      c.toNat < (s.task p).top.toNat := by
  rcases writes_eq s r with hw | ⟨p, hp, hw⟩
  · rw [hw] at hc; exact absurd rfl hc
  · have hmade := h.stacked.made_of_picked hp
    have hroom := h.stacked.room hmade
    refine ⟨p, hp, hmade, ?_⟩
    by_contra hn
    rw [hw, Frame.byte_storeAll_stores m p s.entryPoints (by omega) (by omega)] at hc
    exact hc rfl

theorem within (h : s.Carved a) (hi : i.val < s.count) :
    a.base.toNat + (s.task i).size.toNat ≤ (s.task i).top.toNat ∧
      (s.task i).top.toNat ≤ a.top.toNat := by
  have hlow := h.low
  have habove := h.stacked.above i hi
  exact ⟨by omega, h.stacked.below i hi⟩

theorem apart (h : s.Carved a) {j : TaskId} (hi : i.val < s.count) (hj : j.val < s.count)
    (hij : i ≠ j) (c : Address) : ¬ ((s.task i).Owns c ∧ (s.task j).Owns c) := by
  rintro ⟨⟨hlo, hhi⟩, hlo', hhi'⟩
  rcases h.stacked.disjoint hij hi hj with hd | hd
  · omega
  · omega

end Carved

/-- **Stacks are isolated.**  The scheduler is set up over the `length` bytes from `base` on, and
    then gets any requests in any order.  The stacks of all tasks that were made start and end at
    aligned addresses, are at least as large as was asked for and as the least that a task may ask
    for, lie within the bytes that were given, and have no byte in common.  For any further
    request, and whatever memory holds, only bytes among the topmost 64 of the stack of the task
    that is picked change; so none does in the stack of another task or outside the bytes given. -/
theorem stacks_isolated {base : Address} {length : UInt64} {entryPoints : EntryPoints} {idle : β}
    {idleSize : UInt64} {id : TaskId} (hlen : base.toNat + length.toNat < 2 ^ 64)
    (hr : (s.restart (.spanning base length) entryPoints idle idleSize).1 = .ok id)
    (rs : List (Request β)) :
    let first := (s.restart (.spanning base length) entryPoints idle idleSize).2
    let now := first.serveAll rs
    (∀ i : TaskId, i.val < now.count →
      Whole (now.task i).stack ∧ base.toNat + (now.task i).size.toNat ≤ (now.task i).top.toNat ∧
        (now.task i).top.toNat ≤ base.toNat + length.toNat) ∧
    (∀ i j : TaskId, i.val < now.count → j.val < now.count → i ≠ j →
      ∀ c, ¬ ((now.task i).Owns c ∧ (now.task j).Owns c)) ∧
    (idleTask.val < now.count ∧ idleSize ≤ (now.task idleTask).size) ∧
    (∀ before later body argument size name i made,
      rs = before ++ .spawn body argument size name :: later →
      (first.serveAll before).spawn body argument size name = .ok (i, made) →
      i.val < now.count ∧ size ≤ (now.task i).size) ∧
    ∀ (r : Request β) (m : Memory) (c : Address),
      (m.storeAll (now.writes r)).byte c ≠ m.byte c →
      ∃ p, now.picked r = some p ∧ p.val < now.count ∧ (now.task p).Owns c ∧
        (now.task p).top.toNat ≤ c.toNat + 64 ∧
        (∀ j : TaskId, j.val < now.count → j ≠ p → ¬ (now.task j).Owns c) ∧
        base.toNat ≤ c.toNat ∧ c.toNat < base.toNat + length.toNat := by
  intro first now
  obtain ⟨haligned, htop⟩ := Arena.toNat_top_spanning hlen
  have hfirst : first.Carved (.spanning base length) := .restart haligned hr
  have hnow : now.Carved (.spanning base length) := hfirst.serveAll rs
  refine ⟨fun i hi => ?_, fun i j hi hj hij => hnow.apart hi hj hij, ?_, ?_, fun r m c hc => ?_⟩
  · obtain ⟨hlow, hhigh⟩ := hnow.within hi
    exact ⟨hnow.whole i hi, hlow, hhigh.trans htop⟩
  · -- nobody is current but a task that was made, at first the idle task
    have hcount : idleTask.val < first.count := Nat.zero_lt_of_lt hfirst.stacked.current
    exact size_serveAll hcount (cut_restart hr) rs
  · rintro before later body argument size name i made rfl hs
    have hafter : now = made.serveAll later := by
      show first.serveAll _ = _
      rw [serveAll_append, serveAll_cons, serve_spawn hs]
    obtain ⟨hid, -, region, arena, -, he⟩ := spawn_eq_ok hs
    have hi : i.val < made.count := by rw [he, hid]; exact Nat.lt_succ_self _
    rw [hafter]
    exact size_serveAll hi (cut_spawn hs) later
  · obtain ⟨p, hp, hmade, hlo, hhi⟩ := hnow.byte_writes hc
    obtain ⟨hlow, hhigh⟩ := hnow.within hmade
    have hroom := hnow.stacked.room hmade
    have hbase : (Arena.spanning base length).base = base := rfl
    have howns : (now.task p).Owns c := ⟨by omega, hhi⟩
    rw [Record.floor] at hroom
    rw [hbase] at hlow
    refine ⟨p, hp, hmade, howns, hlo, fun j hj hjp ho => ?_, by omega, by omega⟩
    exact hnow.apart hj hmade hjp c ⟨ho, howns⟩

/-- The memory starts at an odd address.  The idle task, which is current, is marked as done, one
    task is refused and another one is made, which the launch picks. -/
theorem stacks_isolated_odd :
    let first := (blank.restart (.spanning 0x20000401 4095) .none () 256).2
    let now := first.serveAll [.exit 0, .spawn () 0 100 none, .spawn () 0 129 none]
    129 ≤ (now.task 1).size ∧ Whole (now.task 1).stack ∧ (now.task 1).Owns 0x200012ff ∧
      ¬ (now.task 0).Owns 0x200012ff ∧
      ((Memory.filled 0xff).storeAll (now.writes .launch)).byte 0x20001300 = 0xff := by
  intro first now
  have hr : (blank.restart (.spanning 0x20000401 4095) .none () 256).1 = .ok idleTask := by
    decide +kernel
  obtain ⟨hstacks, hapart, -, hasked, hwrites⟩ := stacks_isolated (by decide) hr
    [.exit 0, .spawn () 0 100 none, .spawn () 0 129 none]
  have hone : (1 : TaskId).val < now.count := by decide +kernel
  have howns : (now.task 1).Owns 0x200012ff := by
    rw [Record.Owns]; decide +kernel
  have hasks : 129 ≤ (now.task 1).size := by
    have hid : ((first.serveAll [.exit 0, .spawn () 0 100 none]).spawn () 0 129 none).map
        Prod.fst = .ok 1 := by decide +kernel
    cases hs : (first.serveAll [.exit 0, .spawn () 0 100 none]).spawn () 0 129 none with
    | error e => rw [hs] at hid; cases hid
    | ok made =>
      obtain ⟨i, made⟩ := made
      rw [hs] at hid
      obtain rfl : i = 1 := Except.ok.inj hid
      exact (hasked [.exit 0, .spawn () 0 100 none] [] () 0 129 none _ _ rfl hs).2
  refine ⟨hasks, (hstacks 1 hone).1, howns, fun h => ?_, ?_⟩
  · exact hapart 0 1 (by decide +kernel) hone (by decide) _ ⟨h, howns⟩
  · by_contra hc
    obtain ⟨p, hp, -, ⟨-, hlt⟩, -⟩ := hwrites .launch (.filled 0xff) 0x20001300 (by simpa using hc)
    have hpick : now.picked .launch = some 1 := by decide +kernel
    obtain rfl : 1 = p := Option.some.inj (hpick.symm.trans hp)
    have htop : (now.task 1).top = 0x20001300 := by decide +kernel
    exact Nat.lt_irrefl _ (htop ▸ hlt)

end Scheduler

end Carousel
