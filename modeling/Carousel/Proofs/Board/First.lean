/-
  Carousel — the first context of a task.

  * `Context.first`: the context that is laid out for a task, and `savedAt_first`: it lies there;
  * `Context.Begins`: a context in which a task has its number and its whole stack.
-/
import Carousel.Proofs.Board.Context
import Carousel.Proofs.Stack.Frame

namespace Carousel.Context

open Stack

/-- The context that is laid out for a task. -/
def first (id : Nat) (e : EntryPoints) (top : Address) : Context where
  reg
    | .r0 => UInt32.ofNat id
    | .lr => e.exit
    | _ => 0
  pc := e.trampoline &&& ~~~1
  xpsr := Frame.initialStatus
  psp := top.toUInt32

/-- The task has its number, and nothing is on its stack. -/
structure Begins (C : Context) (i : TaskId) (top : Address) : Prop where
  number : C.reg .r0 = UInt32.ofNat i
  stack : C.psp.toUInt64 = top

/-- Numbers of tasks fit into registers. -/
theorem toNat_number (i : TaskId) : (UInt32.ofNat i).toNat = i.val :=
  UInt32.toNat_ofNat_of_lt' (Nat.lt_trans i.isLt (by decide))

section
variable {a top : Address}

theorem toNat_toUInt32 (h : a.toNat < 2 ^ 32) : a.toUInt32.toNat = a.toNat := by
  rw [UInt64.toNat_toUInt32, Nat.mod_eq_of_lt h]

theorem toUInt64_toUInt32 (h : a.toNat < 2 ^ 32) : a.toUInt32.toUInt64 = a := by
  rw [← UInt64.toNat_inj, UInt32.toNat_toUInt64, toNat_toUInt32 h]

theorem begins_first (i : TaskId) (e : EntryPoints) (h : top.toNat < 2 ^ 32) :
    (first i e top).Begins i top :=
  ⟨rfl, toUInt64_toUInt32 h⟩

theorem words_first (id : Nat) (e : EntryPoints) (top : Address) :
    Frame.words id e = (first id e top).software ++ (first id e top).hardware := rfl

theorem savedAt_first (m : Memory) (id : Nat) (e : EntryPoints) (hlo : 64 ≤ top.toNat)
    (hhi : top.toNat < 2 ^ 32) :
    (first id e top).SavedAt (m.storeAll (Frame.stores id e top)) (Frame.bottom top).toUInt32 := by
  have hbot : (Frame.bottom top).toNat = top.toNat - 64 := Frame.toNat_bottom hlo
  have hword : (Frame.bottom top).toNat < 2 ^ 32 := by omega
  have hsp := toNat_toUInt32 hword
  have h32 : ((Frame.bottom top).toUInt32 + 32).toUInt64 = Frame.bottom top + 32 := by
    have hn : (32 : Word).toNat = 32 := rfl
    have hn' : (32 : UInt64).toNat = 32 := rfl
    rw [← UInt64.toNat_inj, UInt32.toNat_toUInt64, UInt32.toNat_add, UInt64.toNat_add, hsp]
    omega
  -- the trap and the return each take half of the words
  have hlen : (Frame.words id e).length = 16 := rfl
  have hall := Memory.words_storeAll_list m (Frame.bottom top) (Frame.words id e)
    (by rw [hlen]; decide)
  have hsplit : ∀ m : Memory, m.words (Frame.bottom top) 16 =
      m.words (Frame.bottom top) 8 ++ m.words (Frame.bottom top + 32) 8 := by
    intro m
    simp [Memory.words, UInt64.add_assoc]
  rw [hlen, hsplit] at hall
  generalize hm' : m.storeAll (Store.list (Frame.bottom top) (Frame.words id e)) = m' at hall
  rw [words_first id e top] at hall
  obtain ⟨hsoft, hhard⟩ := List.append_inj hall rfl
  rw [Frame.stores, hm']
  refine ⟨?_, ?_, ?_⟩
  · rw [toUInt64_toUInt32 hword]; exact hsoft
  · rw [h32]; exact hhard
  · have hn : (64 : Word).toNat = 64 := rfl
    rw [← UInt32.toNat_inj, UInt32.toNat_add, hsp, first, toNat_toUInt32 hhi]
    omega

end

end Carousel.Context
