/-
  Carousel — the core never runs from a clock that is not ready.

  * `Selects`: a write that has the core driven by another clock than the one it starts with;
  * `milestones`: what comes before such a write, and `InOrder`: that it comes in this order;
  * `RunOut`: the wait for the crystal or for the multiplier has come to nothing;
  * `Permitted`: what is asked of each access, and `Outcome`: of all of them together;
  * `meets_turnOn`, `meets_slow`, `meets_configure`, `meets_select`: one part of the start, before
    what comes after it;
  * `startClock_safe`: the start of the clock keeps to all of this, whatever the registers answer;
  * `exists_trace`, `drive_startClock`: so it does on a board.
-/
import Carousel.Board.Machine
import Carousel.Proofs.Bus.Program
import Carousel.Proofs.Word
import Mathlib.Data.List.Forall2

namespace Carousel.Peripheral

open Bus

variable {past : List Access} {marks : List (Access → Prop)} {ready : Word}

/-! ## What is asked -/

/-- The access has the core driven by another clock than the one that it starts with. -/
def Selects : Access → Prop
  | .write r v => r = Register.clockConfig ∧ v &&& Bit.driverMask ≠ 0
  | _ => False

/-- A write of the clock control register that turns a clock on. -/
def TurnsOn (on : Word) (a : Access) : Prop :=
  ∃ v, a = .write Register.clockControl v ∧ v &&& on = on

/-- A read of the clock control register that reports a clock as ready. -/
def Reports (ready : Word) (a : Access) : Prop :=
  ∃ v, a = .read Register.clockControl v ∧ v &&& ready = ready

/-- The flash memory gets the wait states that the core clock needs. -/
def SlowsFlash (a : Access) : Prop :=
  ∃ v, a = .write Register.flashAccess v ∧
    Clock.waitStates coreClockHz = .ok (v &&& Bit.waitStateMask)

/-- The multiplier is configured. -/
def Configures (a : Access) : Prop :=
  ∃ v, a = .write Register.clockConfig v ∧ Clock.pllConfig crystalHz pllFactor = .ok v

/-- What comes before another clock may drive the core. -/
def milestones : List (Access → Prop) :=
  [TurnsOn Bit.crystalOn, Reports Bit.crystalReady, SlowsFlash, Configures, TurnsOn Bit.pllOn,
    Reports Bit.pllReady]

/-- Among the accesses are the marks, in this order. -/
def InOrder (marks : List (Access → Prop)) (log : List Access) : Prop :=
  ∃ made, made.Sublist log ∧ List.Forall₂ (fun mark a => mark a) marks made

/-- What the clock control register is to report: that the crystal is ready, and once the flash
    memory was written, that the multiplier is. -/
def awaited (log : List Access) : Word :=
  if log.any (Access.writes Register.flashAccess) then Bit.pllReady else Bit.crystalReady

/-- The wait for the crystal or for the multiplier has come to nothing. -/
def RunOut (log : List Access) : Prop :=
  patience ≤ streak (Access.vain Register.clockControl (awaited log) (awaited log)) log

/-- Another clock was selected, but the wait for it to drive the core has come to nothing. -/
def Undriven (log : List Access) : Prop :=
  (∃ a ∈ log, Selects a) ∧
    patience ≤ streak (Access.vain Register.clockConfig Bit.drivenByMask Bit.drivenByPll) log

/-- The registers that are accessed. -/
def clockRegisters : List Word :=
  [Register.clockControl, Register.flashAccess, Register.clockConfig]

/-- What is asked of an access after those of `past`. -/
structure Permitted (past : List Access) (a : Access) : Prop where
  /-- Nothing but the three registers, a word at a time. -/
  word : ∃ r ∈ clockRegisters, ∃ v, a = .read r v ∨ a = .write r v
  /-- Another clock is selected once, and after all that has to come before. -/
  selects : Selects a → (∀ b ∈ past, ¬ Selects b) ∧ InOrder milestones past
  /-- Nothing comes after a wait that has come to nothing. -/
  goesOn : ¬ RunOut past
  /-- No register is read more often in a row than a wait may take. -/
  patient : ∀ r v, a = .read r v → streak (Access.reads r) past < patience
  /-- Clock control is written right after it was read, and all that changes is that one of the two
      clocks is on. -/
  control : ∀ v, a = .write Register.clockControl v →
    ∃ u, past.getLast? = some (.read Register.clockControl u) ∧
      (v = u ||| Bit.crystalOn ∨ v = u ||| Bit.pllOn)
  /-- Flash access is written right after it was read, and only its wait states and its prefetch
      change. -/
  flash : ∀ v, a = .write Register.flashAccess v →
    ∃ u, past.getLast? = some (.read Register.flashAccess u) ∧
      v &&& ~~~(Bit.waitStateMask ||| Bit.prefetch) = u &&& ~~~(Bit.waitStateMask ||| Bit.prefetch)
  /-- Clock configuration is written to configure the multiplier, and to have it drive the core.  For
      this it is read right before, and nothing else changes. -/
  config : ∀ v, a = .write Register.clockConfig v →
    Clock.pllConfig crystalHz pllFactor = .ok v ∨
      ∃ u, past.getLast? = some (.read Register.clockConfig u) ∧
        v = u &&& ~~~Bit.driverMask ||| Bit.driverPll

/-- What is asked of all accesses together, and of what they come to. -/
structure Outcome (log : List Access) (result : Except Fault Unit) : Prop where
  /-- If the wait for the crystal or the multiplier comes to nothing, the start fails, and no other
      clock was selected. -/
  runOut : RunOut log → result = .error .hardware ∧ ∀ a ∈ log, ¬ Selects a
  /-- The start succeeds only if another clock was selected, and the last read reports that the
      multiplier drives the core. -/
  driven : result = .ok () → (∃ a ∈ log, Selects a) ∧
    ∃ v, log.getLast? = some (.read Register.clockConfig v) ∧
      v &&& Bit.drivenByMask = Bit.drivenByPll
  /-- It fails only if a wait has come to nothing. -/
  fails : ∀ e, result = .error e → e = .hardware ∧ (RunOut log ∨ Undriven log)

/-! ## The values that are written -/

/-- The wait states fit in their field. -/
theorem waitStates_and_mask {hz states : Word} (h : Clock.waitStates hz = .ok states) :
    states &&& Bit.waitStateMask = states := by
  unfold Clock.waitStates at h
  split_ifs at h <;> cases h <;> rfl

/-- The factor of the multiplier lies above the bits that select what drives the core. -/
theorem shiftLeft_and_driverMask (w : Word) :
    w <<< Clock.pllFactorShift &&& Bit.driverMask = 0 := by
  rw [← UInt32.toNat_inj, UInt32.toNat_and, UInt32.toNat_shiftLeft]
  show (w.toNat <<< 18 % 2 ^ 32) &&& (2 ^ 2 - 1) = 0
  rw [Nat.and_two_pow_sub_one_eq_mod, Nat.shiftLeft_eq]
  omega

/-- To configure the multiplier is not to select it. -/
theorem pllConfig_and_driverMask {hz factor config : Word}
    (h : Clock.pllConfig hz factor = .ok config) : config &&& Bit.driverMask = 0 := by
  unfold Clock.pllConfig at h
  split_ifs at h
  cases h
  rw [Word.or_and_distrib, Word.or_and_distrib, shiftLeft_and_driverMask]
  rfl

/-! ## How far the start has come -/

theorem InOrder.append {log : List Access} (h : InOrder marks log) (more : List Access) :
    InOrder marks (log ++ more) := by
  obtain ⟨made, hsub, hmade⟩ := h
  exact ⟨made, hsub.trans (List.sublist_append_left _ _), hmade⟩

theorem InOrder.next {log : List Access} {mark : Access → Prop} {a : Access}
    (h : InOrder marks log) (ha : mark a) : InOrder (marks ++ [mark]) (log ++ [a]) := by
  obtain ⟨made, hsub, hmade⟩ := h
  exact ⟨made ++ [a], hsub.append (List.Sublist.refl _), List.rel_append hmade (.cons ha .nil)⟩

/-- No other clock is selected yet, the marks were made, and this is what is waited for. -/
structure Stage (marks : List (Access → Prop)) (ready : Word) (past : List Access) : Prop where
  unselected : ∀ a ∈ past, ¬ Selects a
  made : InOrder marks past
  awaits : awaited past = ready

/-- The access leaves what drives the core, and what is waited for. -/
def Leaves (a : Access) : Prop := ¬ Selects a ∧ a.writes Register.flashAccess = false

theorem leaves_read (r v : Word) : Leaves (.read r v) := ⟨id, rfl⟩

theorem leaves_of_vain {r bits wanted : Word} {a : Access} (h : a.vain r bits wanted) :
    Leaves a := by
  cases a with
  | read r' v => exact leaves_read r' v
  | write | writeByte | mask | setMask => cases h

theorem Stage.append {more : List Access} (h : Stage marks ready past)
    (hmore : ∀ a ∈ more, Leaves a) : Stage marks ready (past ++ more) where
  unselected a ha := (List.mem_append.1 ha).elim (h.unselected a) fun ha => (hmore a ha).1
  made := h.made.append more
  awaits := by
    have : more.any (Access.writes Register.flashAccess) = false :=
      List.any_eq_false.2 fun a ha => by simp [(hmore a ha).2]
    rw [← h.awaits, awaited, awaited, List.any_append, this, Bool.or_false]

theorem Stage.next {mark : Access → Prop} {a : Access} (h : Stage marks ready past) (ha : mark a)
    (hleaves : Leaves a) : Stage (marks ++ [mark]) ready (past ++ [a]) where
  unselected := (h.append (List.forall_mem_singleton.2 hleaves)).unselected
  made := h.made.next ha
  awaits := (h.append (List.forall_mem_singleton.2 hleaves)).awaits

/-- No read was last. -/
def Still (past : List Access) : Prop := ∀ r, streak (Access.reads r) past = 0

theorem still_write (r v : Word) : Still (past ++ [.write r v]) := fun _ => streak_of_not rfl

theorem Still.lt_patience (h : Still past) (more : List Access) (hlt : more.length < patience)
    (r : Word) : streak (Access.reads r) (past ++ more) < patience := by
  have := streak_append_le (Access.reads r) past more
  rw [h r, Nat.zero_add] at this
  exact this.trans_lt hlt

theorem not_runOut_of_lt (h : streak (Access.reads Register.clockControl) past < patience) :
    ¬ RunOut past :=
  fun hrun => Nat.not_lt.2 (hrun.trans (streak_le_streak (fun _ => Access.reads_of_vain) past)) h

theorem not_runOut_of_eq (h : streak (Access.reads Register.clockControl) past = 0) :
    ¬ RunOut past := not_runOut_of_lt (h ▸ show 0 < patience by decide)

/-- What was found is not in vain. -/
theorem not_runOut_found {v : Word} (h : awaited past = ready) (hv : v &&& ready = ready) :
    ¬ RunOut (past ++ [.read Register.clockControl v]) := by
  have hawaited : awaited (past ++ [.read Register.clockControl v]) = ready := by
    rw [← h, awaited, awaited, List.any_append]
    simp [Access.writes]
  rw [RunOut, hawaited, streak_of_not (by simp [Access.vain, hv])]
  decide

/-! ## The accesses, one kind after the other -/

theorem permitted_read {r v : Word} (hr : r ∈ clockRegisters) (hrun : ¬ RunOut past)
    (hpatient : streak (Access.reads r) past < patience) : Permitted past (.read r v) where
  word := ⟨r, hr, v, .inl rfl⟩
  selects := False.elim
  goesOn := hrun
  patient := by rintro _ _ ⟨⟩; exact hpatient
  control := nofun
  flash := nofun
  config := nofun

theorem permitted_first {r v : Word} (hr : r ∈ clockRegisters) (hrun : ¬ RunOut past)
    (h : streak (Access.reads r) past = 0) : Permitted past (.read r v) :=
  permitted_read hr hrun (h ▸ show 0 < patience by decide)

/-- A register is read again and again. -/
theorem permitted_again {r v : Word} {vain : List Access} (hr : r ∈ clockRegisters)
    (hstill : Still past) (hlt : vain.length < patience) :
    Permitted (past ++ vain) (.read r v) :=
  permitted_read hr (not_runOut_of_lt (hstill.lt_patience _ hlt _)) (hstill.lt_patience _ hlt _)

theorem permitted_turnOn {on u : Word} (hon : on = Bit.crystalOn ∨ on = Bit.pllOn)
    (hrun : ¬ RunOut (past ++ [.read Register.clockControl u])) :
    Permitted (past ++ [.read Register.clockControl u])
      (.write Register.clockControl (u ||| on)) where
  word := ⟨_, by decide, _, .inr rfl⟩
  selects h := absurd h.1 (by decide)
  goesOn := hrun
  patient := nofun
  control := by
    rintro _ ⟨⟩
    refine ⟨u, List.getLast?_concat, ?_⟩
    rcases hon with rfl | rfl
    · exact .inl rfl
    · exact .inr rfl
  flash := nofun
  config := nofun

theorem permitted_slow {states u : Word} (hstates : states &&& Bit.waitStateMask = states)
    (hrun : ¬ RunOut (past ++ [.read Register.flashAccess u])) :
    Permitted (past ++ [.read Register.flashAccess u])
      (.write Register.flashAccess (u &&& ~~~Bit.waitStateMask ||| states ||| Bit.prefetch)) where
  word := ⟨_, by decide, _, .inr rfl⟩
  selects h := absurd h.1 (by decide)
  goesOn := hrun
  patient := nofun
  control := nofun
  flash := by
    rintro _ ⟨⟩
    exact ⟨u, List.getLast?_concat,
      Word.replace_or_and_rest hstates (by decide) (by decide) (by decide)⟩
  config := nofun

theorem permitted_configure {config : Word}
    (hconfig : Clock.pllConfig crystalHz pllFactor = .ok config) (hrun : ¬ RunOut past) :
    Permitted past (.write Register.clockConfig config) where
  word := ⟨_, by decide, _, .inr rfl⟩
  selects h := absurd (pllConfig_and_driverMask hconfig) h.2
  goesOn := hrun
  patient := nofun
  control := nofun
  flash := nofun
  config := by rintro _ ⟨⟩; exact .inl hconfig

theorem permitted_select {u : Word} (h : Stage milestones ready past)
    (hrun : ¬ RunOut (past ++ [.read Register.clockConfig u])) :
    Permitted (past ++ [.read Register.clockConfig u])
      (.write Register.clockConfig (u &&& ~~~Bit.driverMask ||| Bit.driverPll)) where
  word := ⟨_, by decide, _, .inr rfl⟩
  selects _ :=
    have hread := h.append (List.forall_mem_singleton.2 (leaves_read Register.clockConfig u))
    ⟨hread.unselected, hread.made⟩
  goesOn := hrun
  patient := nofun
  control := nofun
  flash := nofun
  config := by rintro _ ⟨⟩; exact .inr ⟨u, List.getLast?_concat, rfl⟩

/-! ## The parts of the start -/

theorem Stage.outcome_runOut (h : Stage marks ready past) (hrun : RunOut past) :
    Outcome past (.error .hardware) where
  runOut _ := ⟨rfl, h.unselected⟩
  driven := nofun
  fails := by rintro _ ⟨⟩; exact ⟨rfl, .inl hrun⟩

/-- Turn a clock on, and wait for it: for the crystal, and for the multiplier. -/
theorem meets_turnOn {on : Word} {next : ExceptT Fault Program Unit}
    (hon : on = Bit.crystalOn ∨ on = Bit.pllOn) (hstill : Still past)
    (h : Stage marks ready past)
    (hnext : ∀ past, Stage (marks ++ [TurnsOn on] ++ [Reports ready]) ready past → ¬ RunOut past →
      (∀ r, r ≠ Register.clockControl → streak (Access.reads r) past = 0) →
      next.run.Meets Permitted Outcome past) :
    (do
      Program.modify Register.clockControl (· ||| on)
      await Register.clockControl ready ready
      next : ExceptT Fault Program Unit).run.Meets Permitted Outcome past := by
  refine Program.meets_andThen (Program.meets_lift (Program.meets_modify fun u => ⟨?_, ?_, ?_⟩))
  · exact permitted_first (by decide) (not_runOut_of_eq (hstill _)) (hstill _)
  · have hlt := hstill.lt_patience [.read Register.clockControl u] (show 1 < _ by decide)
    exact permitted_turnOn hon (not_runOut_of_lt (hlt _))
  · have hon' : Stage (marks ++ [TurnsOn on]) ready (past ++ [.read Register.clockControl u] ++
        [.write Register.clockControl (u ||| on)]) :=
      (h.append (List.forall_mem_singleton.2 (leaves_read _ _))).next
        ⟨_, rfl, Word.or_and_self _ _⟩ ⟨fun hsel => absurd hsel.1 (by decide), rfl⟩
    have hstill' : Still (past ++ [.read Register.clockControl u] ++
        [.write Register.clockControl (u ||| on)]) := still_write _ _
    generalize past ++ [.read Register.clockControl u] ++
      [.write Register.clockControl (u ||| on)] = past at hon' hstill'
    refine Program.meets_andThen (Program.meets_poll (fun vain v _ hlt => ?_)
      (fun vain v hvain hv => ?_) (fun vain hvain hlen => ?_))
    · exact permitted_again (by decide) hstill' hlt
    · have hvain' := hon'.append fun a ha => leaves_of_vain (hvain a ha)
      exact hnext _ (hvain'.next ⟨v, rfl, hv⟩ (leaves_read _ _))
        (not_runOut_found hvain'.awaits hv)
        fun r hr => streak_of_not (by simp [Access.reads, hr.symm])
    · have hvain' := hon'.append fun a ha => leaves_of_vain (hvain a ha)
      refine hvain'.outcome_runOut ?_
      rw [RunOut, hvain'.awaits, ← hlen]
      exact le_streak_append hvain

/-- The flash memory gets its wait states. -/
theorem meets_slow {states : Word} {next : ExceptT Fault Program Unit}
    (hstates : Clock.waitStates coreClockHz = .ok states) (h : Stage marks ready past)
    (hrun : ¬ RunOut past) (hflash : streak (Access.reads Register.flashAccess) past = 0)
    (hnext : ∀ past, Stage (marks ++ [SlowsFlash]) Bit.pllReady past → Still past →
      next.run.Meets Permitted Outcome past) :
    (do
      Program.modify Register.flashAccess fun v =>
        v &&& ~~~Bit.waitStateMask ||| states ||| Bit.prefetch
      next : ExceptT Fault Program Unit).run.Meets Permitted Outcome past := by
  have hmask := waitStates_and_mask hstates
  refine Program.meets_andThen (Program.meets_lift (Program.meets_modify fun u => ⟨?_, ?_, ?_⟩))
  · exact permitted_first (by decide) hrun hflash
  · exact permitted_slow hmask (not_runOut_of_eq (streak_of_not rfl))
  · refine hnext _ ⟨?_, ?_, ?_⟩ (still_write _ _)
    · have hread := (h.append (List.forall_mem_singleton.2
        (leaves_read Register.flashAccess u))).unselected
      intro a ha
      rcases List.mem_append.1 ha with ha | ha
      · exact hread a ha
      · rw [List.mem_singleton.1 ha]
        exact fun hsel => absurd hsel.1 (by decide)
    · refine (h.made.append _).next ⟨_, rfl, ?_⟩
      rw [Word.replace_or_and hmask (by decide) (by decide)]
      exact hstates
    · simp [awaited, Access.writes]

/-- The multiplier is configured. -/
theorem meets_configure {config : Word} {next : ExceptT Fault Program Unit}
    (hconfig : Clock.pllConfig crystalHz pllFactor = .ok config) (h : Stage marks ready past)
    (hstill : Still past)
    (hnext : ∀ past, Stage (marks ++ [Configures]) ready past → Still past →
      next.run.Meets Permitted Outcome past) :
    (do
      Program.put Register.clockConfig config
      next : ExceptT Fault Program Unit).run.Meets Permitted Outcome past := by
  have hdriver := pllConfig_and_driverMask hconfig
  refine Program.meets_andThen (Program.meets_lift ⟨?_, ?_⟩)
  · exact permitted_configure hconfig (not_runOut_of_eq (hstill _))
  · exact hnext _ (h.next ⟨config, rfl, hconfig⟩ ⟨fun hsel => hsel.2 hdriver, rfl⟩)
      (still_write _ _)

/-- The multiplier is selected, and the start waits for it to drive the core. -/
theorem meets_select (h : Stage milestones ready past) (hrun : ¬ RunOut past)
    (hconfig : streak (Access.reads Register.clockConfig) past = 0) :
    (do
      Program.modify Register.clockConfig fun v => v &&& ~~~Bit.driverMask ||| Bit.driverPll
      await Register.clockConfig Bit.drivenByMask Bit.drivenByPll :
      ExceptT Fault Program Unit).run.Meets Permitted Outcome past := by
  refine Program.meets_andThen (Program.meets_lift (Program.meets_modify fun u => ⟨?_, ?_, ?_⟩))
  · exact permitted_first (by decide) hrun hconfig
  · exact permitted_select h (not_runOut_of_eq (streak_of_not rfl))
  · have hstill : Still (past ++ [.read Register.clockConfig u] ++
        [.write Register.clockConfig (u &&& ~~~Bit.driverMask ||| Bit.driverPll)]) :=
      still_write _ _
    have hselected : ∀ more, ∃ a ∈ past ++ [.read Register.clockConfig u] ++
        [.write Register.clockConfig (u &&& ~~~Bit.driverMask ||| Bit.driverPll)] ++ more,
        Selects a := by
      intro more
      refine ⟨_, List.mem_append_left _ (List.mem_append_right _ (List.mem_singleton_self _)),
        rfl, ?_⟩
      rw [Word.replace_and (by decide) (by decide)]
      decide
    generalize past ++ [.read Register.clockConfig u] ++
      [.write Register.clockConfig (u &&& ~~~Bit.driverMask ||| Bit.driverPll)] = past
      at hstill hselected
    refine Program.meets_poll (fun vain v _ hlt => ?_) (fun vain v hvain hv => ?_)
      (fun vain hvain hlen => ?_)
    · exact permitted_again (by decide) hstill hlt
    · have hrun : ¬ RunOut (past ++ vain ++ [.read Register.clockConfig v]) :=
        not_runOut_of_eq (streak_of_not rfl)
      refine ⟨fun h => absurd h hrun, fun _ => ⟨?_, v, List.getLast?_concat, hv⟩, nofun⟩
      rw [List.append_assoc]
      exact hselected _
    · have hrun : ¬ RunOut (past ++ vain) := not_runOut_of_eq <|
        streak_append_of_not (hstill _) fun a ha =>
          Access.not_reads_of_reads (Access.reads_of_vain (hvain a ha)) (by decide)
      refine ⟨fun h => absurd h hrun, nofun, ?_⟩
      rintro _ ⟨⟩
      refine ⟨rfl, .inr ⟨hselected _, ?_⟩⟩
      rw [← hlen]
      exact le_streak_append hvain

/-! ## The whole -/

theorem stage_start : Stage [] Bit.crystalReady [] where
  unselected := nofun
  made := ⟨[], .slnil, .nil⟩
  awaits := rfl

theorem meets_startClock : startClock.run.Meets Permitted Outcome [] := by
  obtain ⟨config, hconfig⟩ : ∃ config, Clock.pllConfig crystalHz pllFactor = .ok config := ⟨_, rfl⟩
  obtain ⟨states, hstates⟩ : ∃ states, Clock.waitStates coreClockHz = .ok states := ⟨_, rfl⟩
  unfold startClock
  rw [hconfig, hstates]
  refine meets_turnOn (.inl rfl) (fun _ => rfl) stage_start fun past h hrun hothers => ?_
  refine meets_slow hstates h hrun (hothers _ (by decide)) fun past h hstill => ?_
  refine meets_configure hconfig h hstill fun past h hstill => ?_
  refine meets_turnOn (.inr rfl) hstill h fun past h hrun hothers => ?_
  exact meets_select h hrun (hothers _ (by decide))

/-- **The start of the clock** never has the core run from a clock that is not ready: whatever the
    registers answer, each access is as it should be after those before it, and so are all of them
    together with what they come to. -/
theorem startClock_safe (answers : Nat → Word) :
    (∀ before a after, (startClock.run.trace answers).1 = before ++ a :: after →
      Permitted before a) ∧
      Outcome (startClock.run.trace answers).1 (startClock.run.trace answers).2 := by
  obtain ⟨hallowed, houtcome⟩ := meets_startClock.trace answers
  refine ⟨fun before a after hlog => ?_, houtcome⟩
  rw [hlog] at hallowed
  exact hallowed.at

/-- Everything is ready at once: the multiplier is selected by the eleventh of twelve accesses. -/
theorem startClock_safe_readyAtOnce :
    ∃ before a after, (startClock.run.trace fun _ => 0xfffffffb) = (before ++ a :: after, .ok ()) ∧
      before.length = 10 ∧ after.length = 1 ∧ Selects a ∧ Permitted before a :=
  ⟨(startClock.run.trace fun _ => 0xfffffffb).1.take 10, .write Register.clockConfig 0xfffffffa,
    (startClock.run.trace fun _ => 0xfffffffb).1.drop 11, rfl, rfl, rfl, ⟨rfl, by decide⟩,
    (startClock_safe fun _ => 0xfffffffb).1 _ _ _ rfl⟩

end Carousel.Peripheral

/-! ## On a board -/

namespace Carousel.Board

open Bus

variable {α β κ : Type}

/-- What is noted of an access on the board. -/
def noted : Access → Option Event
  | .write r v => some (.wrote r v)
  | .writeByte r v => some (.wroteByte r v)
  | .setMask v => some (.masked v)
  | .read .. | .mask _ => none

/-- What a program does on a board is what it does for some answers. -/
theorem exists_trace (p : Program α) (b : Board β κ) :
    ∃ answers, (p.trace answers).2 = (drive p b).1 ∧
      (drive p b).2.events.toList = b.events.toList ++ (p.trace answers).1.filterMap noted := by
  have hnote : ∀ (b : Board β κ) (e : Event) (events : List Event),
      (b.note e).events.toList ++ events = b.events.toList ++ e :: events := by
    intro b e events
    rw [note, Array.toList_push, List.append_assoc, List.singleton_append]
  induction p generalizing b with
  | done a => exact ⟨fun _ => 0, rfl, (List.append_nil _).symm⟩
  | read r next ih =>
    obtain ⟨answers, hresult, hevents⟩ :=
      ih (b.registers.read r).1 { b with registers := (b.registers.read r).2 }
    exact ⟨fun n => n.casesOn (motive := fun _ => Word) (b.registers.read r).1 answers, hresult,
      hevents⟩
  | write r v next ih =>
    obtain ⟨answers, hresult, hevents⟩ := ih _
    exact ⟨answers, hresult, hevents.trans (hnote _ _ _)⟩
  | writeByte r v next ih =>
    obtain ⟨answers, hresult, hevents⟩ := ih _
    exact ⟨answers, hresult, hevents.trans (hnote _ _ _)⟩
  | mask next ih =>
    obtain ⟨answers, hresult, hevents⟩ := ih b.cpu.primask b
    exact ⟨fun n => n.casesOn (motive := fun _ => Word) b.cpu.primask answers, hresult, hevents⟩
  | setMask v next ih =>
    obtain ⟨answers, hresult, hevents⟩ := ih _
    exact ⟨answers, hresult, hevents.trans (hnote _ _ _)⟩

/-- The start of the clock on a board. -/
theorem drive_startClock (b : Board β κ) :
    ∃ log, (drive Peripheral.startClock.run b).2.events.toList =
        b.events.toList ++ log.filterMap noted ∧
      Program.Allowed Peripheral.Permitted [] log ∧
      Peripheral.Outcome log (drive Peripheral.startClock.run b).1 := by
  obtain ⟨answers, hresult, hevents⟩ := exists_trace Peripheral.startClock.run b
  have h := Peripheral.meets_startClock.trace answers
  rw [hresult] at h
  exact ⟨_, hevents, h⟩

end Carousel.Board
