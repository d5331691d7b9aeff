/-
  Carousel — what a program of register accesses does, whatever the hardware answers.

  * `Access`: one access, with the value that is read or written, and `streak`: how many accesses of
    one kind were the last ones;
  * `Program.trace`: all accesses of a program, and what it comes to, if its reads are answered by
    the values of a sequence;
  * `Program.Meets`: each access is one that is allowed after those before it, and the program comes
    to what it should, for all answers;
  * `meets_bind`, `meets_modify`, `meets_poll`: the rules for this, and `Meets.trace`, which carries
    it over to every sequence of answers.
-/
import Carousel.Bus.Program
import Mathlib.Data.List.Induction
import Mathlib.Data.List.TakeWhile
import Mathlib.Tactic.SplitIfs

namespace Carousel.Bus

/-- One access to a register or to the interrupt mask. -/
inductive Access where
  | read (register value : Word)
  | write (register value : Word)
  | writeByte (register : Word) (value : UInt8)
  | mask (value : Word)
  | setMask (value : Word)
  deriving DecidableEq

namespace Access

/-- A read of a register. -/
def reads (r : Word) : Access → Bool
  | read r' _ => r' == r
  | _ => false

/-- A read of a register that does not find its bits as wanted. -/
def vain (r bits wanted : Word) : Access → Bool
  | read r' v => r' == r && v &&& bits != wanted
  | _ => false

/-- A write to a register. -/
def writes (r : Word) : Access → Bool
  | write r' _ => r' == r
  | writeByte r' _ => r' == r
  | _ => false

theorem reads_of_vain {r bits wanted : Word} {a : Access} (h : a.vain r bits wanted) :
    a.reads r := by
  cases a with
  | read r' v => exact (Bool.and_eq_true_iff.1 h).1
  | write | writeByte | mask | setMask => cases h

theorem not_reads_of_reads {r r' : Word} {a : Access} (h : a.reads r) (hr : r ≠ r') :
    a.reads r' = false := by
  cases a with
  | read r'' v =>
    have : r'' = r := beq_iff_eq.1 h
    exact beq_eq_false_iff_ne.2 (this ▸ hr)
  | write | writeByte | mask | setMask => rfl

end Access

/-- How many accesses of one kind are the last ones. -/
def streak (kind : Access → Bool) (log : List Access) : Nat := (log.reverse.takeWhile kind).length

section
variable {kind : Access → Bool} {log : List Access} {a : Access}

theorem streak_append_singleton :
    streak kind (log ++ [a]) = if kind a then streak kind log + 1 else 0 := by
  simp only [streak, List.reverse_append, List.reverse_singleton, List.singleton_append,
    List.takeWhile_cons]
  split_ifs <;> rfl

theorem streak_of_not (h : kind a = false) : streak kind (log ++ [a]) = 0 := by
  rw [streak_append_singleton, h]; rfl

theorem streak_le_streak {kind' : Access → Bool} (h : ∀ a, kind a → kind' a) (log : List Access) :
    streak kind log ≤ streak kind' log := by
  induction log using List.reverseRecOn with
  | nil => exact Nat.le_refl _
  | append_singleton log a ih =>
    rw [streak_append_singleton, streak_append_singleton]
    split_ifs with ha ha'
    · exact Nat.succ_le_succ ih
    · exact absurd (h a ha) ha'
    · exact Nat.zero_le _
    · exact Nat.le_refl _

/-- It grows by one with each access at most. -/
theorem streak_append_le (kind : Access → Bool) (log more : List Access) :
    streak kind (log ++ more) ≤ streak kind log + more.length := by
  induction more using List.reverseRecOn with
  | nil => rw [List.append_nil]; exact Nat.le_refl _
  | append_singleton more a ih =>
    rw [← List.append_assoc, streak_append_singleton, List.length_append, List.length_singleton]
    split_ifs
    · exact Nat.succ_le_succ ih
    · exact Nat.zero_le _

theorem streak_append_of_not {more : List Access} (h : streak kind log = 0)
    (hmore : ∀ a ∈ more, kind a = false) : streak kind (log ++ more) = 0 := by
  cases more using List.reverseRecOn with
  | nil => rwa [List.append_nil]
  | append_singleton more a =>
    rw [← List.append_assoc]
    exact streak_of_not (hmore a (by simp))

theorem le_streak_append {more : List Access} (h : ∀ a ∈ more, kind a) :
    more.length ≤ streak kind (log ++ more) := by
  rw [streak, List.reverse_append,
    List.takeWhile_append_of_pos fun a ha => h a (List.mem_reverse.1 ha), List.length_append,
    List.length_reverse]
  exact Nat.le_add_right _ _

end

namespace Program

variable {α γ : Type}

/-- The accesses of a program, first to last, and what it comes to: the first value that it reads is
    `answers 0`, the next one `answers 1`, and so on. -/
def trace : Program α → (Nat → Word) → List Access × α
  | done a, _ => ([], a)
  | read r next, answers =>
    let (log, a) := (next (answers 0)).trace fun n => answers (n + 1)
    (.read r (answers 0) :: log, a)
  | write r v next, answers =>
    let (log, a) := next.trace answers
    (.write r v :: log, a)
  | writeByte r v next, answers =>
    let (log, a) := next.trace answers
    (.writeByte r v :: log, a)
  | mask next, answers =>
    let (log, a) := (next (answers 0)).trace fun n => answers (n + 1)
    (.mask (answers 0) :: log, a)
  | setMask v next, answers =>
    let (log, a) := next.trace answers
    (.setMask v :: log, a)

/-- After the accesses of `past`, each further one is allowed by `P` after those before it, and in
    the end `Q` holds of all accesses and of what the program comes to. -/
def Meets (P : List Access → Access → Prop) (Q : List Access → α → Prop) :
    Program α → List Access → Prop
  | done a, past => Q past a
  | read r next, past =>
    ∀ v, P past (.read r v) ∧ (next v).Meets P Q (past ++ [.read r v])
  | write r v next, past => P past (.write r v) ∧ next.Meets P Q (past ++ [.write r v])
  | writeByte r v next, past =>
    P past (.writeByte r v) ∧ next.Meets P Q (past ++ [.writeByte r v])
  | mask next, past => ∀ v, P past (.mask v) ∧ (next v).Meets P Q (past ++ [.mask v])
  | setMask v next, past => P past (.setMask v) ∧ next.Meets P Q (past ++ [.setMask v])

section
variable {P : List Access → Access → Prop} {past : List Access}

/-! ## For all answers -/

/-- After the accesses of `past`, each of those of `log` is allowed by `P` after those before it. -/
def Allowed (P : List Access → Access → Prop) : List Access → List Access → Prop
  | _, [] => True
  | past, a :: log => P past a ∧ Allowed P (past ++ [a]) log

theorem Allowed.at {before : List Access} {a : Access} {after : List Access}
    (h : Allowed P past (before ++ a :: after)) : P (past ++ before) a := by
  induction before generalizing past with
  | nil => rw [List.append_nil]; exact h.1
  | cons b before ih =>
    have := ih h.2
    rwa [List.append_assoc] at this

/-- What a program meets, it meets for every sequence of answers. -/
theorem Meets.trace {Q : List Access → α → Prop} {p : Program α} (h : p.Meets P Q past)
    (answers : Nat → Word) :
    Allowed P past (p.trace answers).1 ∧ Q (past ++ (p.trace answers).1) (p.trace answers).2 := by
  have hcons : ∀ {past log : List Access} {a : Access} {c : α}, P past a →
      Allowed P (past ++ [a]) log ∧ Q (past ++ [a] ++ log) c →
      Allowed P past (a :: log) ∧ Q (past ++ a :: log) c := by
    rintro past log a c ha ⟨hlog, hq⟩
    rw [List.append_assoc] at hq
    exact ⟨⟨ha, hlog⟩, hq⟩
  induction p generalizing past answers with
  | done a =>
    refine ⟨trivial, ?_⟩
    show Q (past ++ []) a
    rw [List.append_nil]; exact h
  | read r next ih => exact hcons (h _).1 (ih _ (h _).2 _)
  | write r v next ih => exact hcons h.1 (ih h.2 _)
  | writeByte r v next ih => exact hcons h.1 (ih h.2 _)
  | mask next ih => exact hcons (h _).1 (ih _ (h _).2 _)
  | setMask v next ih => exact hcons h.1 (ih h.2 _)

/-! ## The rules -/

theorem meets_bind {Q : List Access → γ → Prop} {p : Program α} {f : α → Program γ}
    (h : p.Meets P (fun past a => (f a).Meets P Q past) past) : (p.bind f).Meets P Q past := by
  induction p generalizing past with
  | done a => exact h
  | read r next ih => exact fun v => ⟨(h v).1, ih v (h v).2⟩
  | write r v next ih => exact ⟨h.1, ih h.2⟩
  | writeByte r v next ih => exact ⟨h.1, ih h.2⟩
  | mask next ih => exact fun v => ⟨(h v).1, ih v (h v).2⟩
  | setMask v next ih => exact ⟨h.1, ih h.2⟩

theorem meets_modify {Q : List Access → Unit → Prop} {r : Word} {f : Word → Word}
    (h : ∀ v, P past (.read r v) ∧ P (past ++ [.read r v]) (.write r (f v)) ∧
      Q (past ++ [.read r v] ++ [.write r (f v)]) ()) :
    (modify r f).Meets P Q past := h

/-- A register is read in vain until it is read for the last time. -/
theorem meets_poll {Q : List Access → Except Fault Unit → Prop} {r bits wanted : Word} {n : Nat}
    (hread : ∀ vain v, (∀ a ∈ vain, a.vain r bits wanted) → vain.length < n →
      P (past ++ vain) (.read r v))
    (hfound : ∀ vain v, (∀ a ∈ vain, a.vain r bits wanted) → v &&& bits = wanted →
      Q (past ++ vain ++ [.read r v]) (.ok ()))
    (hgiven : ∀ vain, (∀ a ∈ vain, a.vain r bits wanted) → vain.length = n →
      Q (past ++ vain) (.error .hardware)) :
    (poll r bits wanted n).Meets P Q past := by
  induction n generalizing past with
  | zero =>
    have := hgiven [] nofun rfl
    rwa [List.append_nil] at this
  | succ n ih =>
    intro v
    have hfirst := hread [] v nofun (Nat.succ_pos n)
    rw [List.append_nil] at hfirst
    refine ⟨hfirst, ?_⟩
    dsimp only
    split_ifs with hv
    · have := hfound [] v nofun hv
      rwa [List.append_nil] at this
    · -- what comes after a read in vain, with that read among what was read in vain
      have hvain : ∀ vain, (∀ a ∈ vain, a.vain r bits wanted) →
          ∀ a ∈ Access.read r v :: vain, a.vain r bits wanted := by
        intro vain h
        exact List.forall_mem_cons.2 ⟨by simp [Access.vain, hv], h⟩
      refine ih (fun vain w h hlt => ?_) (fun vain w h hw => ?_) (fun vain h hlen => ?_)
      · have := hread (.read r v :: vain) w (hvain vain h) (Nat.succ_lt_succ hlt)
        rwa [List.append_cons] at this
      · have := hfound (.read r v :: vain) w (hvain vain h) hw
        rwa [List.append_cons past] at this
      · have := hgiven (.read r v :: vain) (hvain vain h) (congrArg Nat.succ hlen)
        rwa [List.append_cons] at this

/-! ## Programs that can fail -/

theorem meets_lift {Q : List Access → Except Fault α → Prop} {p : Program α}
    (h : p.Meets P (fun past a => Q past (.ok a)) past) :
    (liftM p : ExceptT Fault Program α).run.Meets P Q past :=
  meets_bind h

theorem meets_andThen {Q : List Access → Except Fault γ → Prop} {x : ExceptT Fault Program α}
    {f : α → ExceptT Fault Program γ}
    (h : x.run.Meets P (fun past e =>
      match e with
      | .ok a => (f a).run.Meets P Q past
      | .error e => Q past (.error e)) past) :
    (x >>= f).run.Meets P Q past := by
  have hcont : (fun past e => ((ExceptT.bindCont f e : Program _).Meets P Q past)) = fun past e =>
      match e with
      | .ok a => (f a).run.Meets P Q past
      | .error e => Q past (.error e) := by
    funext past e
    cases e <;> rfl
  rw [← hcont] at h
  exact meets_bind h

end

end Program

end Carousel.Bus
