/-
  Carousel — what instructions take from memory and put there.

  * `loads` and `stored`: the words that an instruction loads, by address, and those that it
    stores; `loadsAll`: what code loads;
  * `execute_congr`: an instruction does the same on two memories that hold the same words where
    it loads some;
  * `executeAll_congr`: so does code, and it makes no new difference between the two.
-/
import Carousel.Proofs.Board.Context

namespace Carousel

namespace Memory

/-- The addresses of so many words from an address upwards. -/
def wordsFrom (a : Address) : Nat → List Address
  | 0 => []
  | n + 1 => a :: wordsFrom (a + 4) n

theorem words_eq_of_wordsFrom {m m' : Memory} {a : Address} {n : Nat}
    (h : ∀ w ∈ wordsFrom a n, m'.word w = m.word w) : m'.words a n = m.words a n := by
  induction n generalizing a with
  | zero => rfl
  | succ n ih =>
    rw [words, words, h a List.mem_cons_self, ih fun w hw => h w (List.mem_cons_of_mem _ hw)]

theorem mem_wordsFrom {a w : Address} {n : Nat} (hn : a.toNat + 4 * n ≤ 2 ^ 64)
    (h : w ∈ wordsFrom a n) : a.toNat ≤ w.toNat ∧ w.toNat + 4 ≤ a.toNat + 4 * n := by
  induction n generalizing a with
  | zero => cases h
  | succ n ih =>
    obtain rfl | h := List.mem_cons.1 h
    · omega
    · have h4 : (4 : UInt64).toNat = 4 := rfl
      cases n with
      | zero => cases h
      | succ n =>
        have hnext : (a + 4).toNat = a.toNat + 4 := by rw [UInt64.toNat_add]; omega
        have := ih (by omega) h
        omega

end Memory

namespace Board

open Cpu Memory

variable {β κ : Type}

/-- The stack pointer from which a return takes registers. -/
def returnSp (b : Board β κ) (target : Word) : Word :=
  let control := if target = returnToTask then b.cpu.control ||| 2 else b.cpu.control &&& ~~~2
  ({ b.cpu with handling := false, control := control } : Cpu).sp

/-- The words that an instruction loads. -/
def loads (b : Board β κ) : Instr → List Address
  | .pop list => wordsFrom b.cpu.sp.toUInt64 list.length
  | .ldmia base list => wordsFrom (b.cpu.get base).toUInt64 list.length
  | .bx n =>
    let target := b.cpu.get n
    if b.cpu.handling && (target == returnToTask || target == returnToMain) then
      wordsFrom (b.returnSp target).toUInt64 8
    else []
  | _ => []

def stored (b : Board β κ) : Instr → List Store
  | .push list =>
    let words := list.map b.cpu.get
    Store.list (b.cpu.sp - UInt32.ofNat (4 * words.length)).toUInt64 words
  | .stmdb base list =>
    let words := list.map b.cpu.get
    Store.list (b.cpu.get base - UInt32.ofNat (4 * words.length)).toUInt64 words
  | _ => []

def loadsAll (b : Board β κ) : List Instr → List Address
  | [] => []
  | x :: code => b.loads x ++ (b.execute x).loadsAll code

theorem loadsAll_append (b : Board β κ) (code code' : List Instr) :
    b.loadsAll (code ++ code') = b.loadsAll code ++ (b.executeAll code).loadsAll code' := by
  induction code generalizing b with
  | nil => rfl
  | cons x code ih =>
    rw [List.cons_append, loadsAll, loadsAll, ih, List.append_assoc]; rfl

theorem memory_execute (b : Board β κ) (x : Instr) :
    (b.execute x).memory = b.memory.storeAll (b.stored x) := by
  cases x with
  | bx n => unfold execute; dsimp only; split_ifs <;> rfl
  | _ => rfl

theorem leave_congr {b : Board β κ} {target : Word} {m : Memory}
    (h : ∀ a ∈ wordsFrom (b.returnSp target).toUInt64 8, m.word a = b.memory.word a) :
    ({ b with memory := m } : Board β κ).leave target = { b.leave target with memory := m } := by
  have hwords := words_eq_of_wordsFrom h
  rw [words_eight, words_eight] at hwords
  obtain ⟨hregs, hrest⟩ := List.append_inj hwords rfl
  simp only [List.cons.injEq, and_true] at hrest
  unfold returnSp at hregs hrest
  unfold leave
  simp only [hregs, hrest.1, hrest.2]

/-- **Nothing else of memory matters to an instruction.** -/
theorem execute_congr {b : Board β κ} {x : Instr} {m : Memory}
    (h : ∀ a ∈ b.loads x, m.word a = b.memory.word a) :
    ({ b with memory := m } : Board β κ).execute x =
      { b.execute x with memory := m.storeAll (b.stored x) } := by
  cases x with
  | pop list =>
    unfold execute
    simp only [words_eq_of_wordsFrom h]
    rfl
  | ldmia base list =>
    unfold execute
    simp only [words_eq_of_wordsFrom h]
    rfl
  | bx n =>
    unfold loads at h
    unfold execute
    dsimp only at h ⊢
    split_ifs at h ⊢
    · exact leave_congr h
    · rfl
    · rfl
  | _ => rfl

/-- **Nothing else of memory matters to code**, and where the two memories hold the same before,
    they do afterwards. -/
theorem executeAll_congr {b : Board β κ} {code : List Instr} {m : Memory}
    (h : ∀ a ∈ b.loadsAll code, ∀ c : Address, (c - a).toNat < 4 → m.byte c = b.memory.byte c) :
    ∃ m', ({ b with memory := m } : Board β κ).executeAll code =
        { b.executeAll code with memory := m' } ∧
      ∀ c, m.byte c = b.memory.byte c → m'.byte c = (b.executeAll code).memory.byte c := by
  induction code generalizing b m with
  | nil => exact ⟨m, rfl, fun c hc => hc⟩
  | cons x code ih =>
    have hfirst : ({ b with memory := m } : Board β κ).execute x =
        { b.execute x with memory := m.storeAll (b.stored x) } :=
      execute_congr fun a ha => word_congr (h a (List.mem_append_left _ ha))
    have hkeep : ∀ c, m.byte c = b.memory.byte c →
        (m.storeAll (b.stored x)).byte c = (b.execute x).memory.byte c := by
      intro c hc
      rw [memory_execute]
      exact byte_storeAll_congr _ hc
    obtain ⟨m', hrest, hkeep'⟩ := ih (b := b.execute x) (m := m.storeAll (b.stored x))
      fun a ha c hc => hkeep c (h a (List.mem_append_right _ ha) c hc)
    refine ⟨m', ?_, fun c hc => hkeep' c (hkeep c hc)⟩
    show (({ b with memory := m } : Board β κ).execute x).executeAll code = _
    rw [hfirst]; exact hrest

end Board

end Carousel
