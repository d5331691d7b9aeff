/-
  Carousel — the first context in memory.

  * `toNat_bottom`: where a first context starts, as a number;
  * `byte_storeAll_stores`: laying one out changes nothing but the 64 bytes below the top;
  * `byte_storeAll_stores_congr`: and nothing of what was there is left.
-/
import Carousel.Proofs.Memory
import Carousel.Stack.Frame

namespace Carousel.Stack.Frame

variable {top : Address}

theorem toNat_bottom (h : 64 ≤ top.toNat) : (bottom top).toNat = top.toNat - 64 :=
  UInt64.toNat_sub_of_le _ _ (UInt64.le_iff_toNat_le.2 h)

theorem byte_storeAll_stores (m : Memory) (id : Nat) (e : EntryPoints) (h : 64 ≤ top.toNat)
    {c : Address} (hc : c.toNat + 64 < top.toNat ∨ top.toNat ≤ c.toNat) :
    (m.storeAll (stores id e top)).byte c = m.byte c := by
  have hlen : (words id e).length = 16 := rfl
  have hlt := top.toNat_lt
  have hagree : (m.storeAll (Store.list (bottom top) (words id e))).AgreeOn m c.toNat
      (c.toNat + 1) := by
    refine Memory.agreeOn_storeAll m ?_ ?_
    · rw [toNat_bottom h, hlen]; omega
    · rw [toNat_bottom h, hlen]; omega
  exact hagree c (Nat.le_refl _) (Nat.lt_succ_self _)

theorem byte_storeAll_stores_congr (m m' : Memory) (id : Nat) (e : EntryPoints)
    (h : 64 ≤ top.toNat) {c : Address} (hlo : top.toNat ≤ c.toNat + 64) (hhi : c.toNat < top.toNat) :
    (m.storeAll (stores id e top)).byte c = (m'.storeAll (stores id e top)).byte c := by
  have hlen : (words id e).length = 16 := rfl
  refine Memory.byte_storeAll_list_of_lt m m' (by rw [hlen]; decide) ?_
  have hlt := top.toNat_lt
  rw [hlen, UInt64.toNat_sub, toNat_bottom h]
  omega

end Carousel.Stack.Frame
