/-
  Carousel — words, bit by bit.

  * `or_and_self`, `or_and_not`: bits that are set are set, and the other ones stay;
  * `replace_and`: a field that gets a new value has it;
  * `replace_or_and`, `replace_or_and_rest`: so it does if a bit beside it is set as well, and the
    other bits stay.
-/
import Carousel.Memory

namespace Carousel.Word

theorem or_and_self (w v : Word) : (w ||| v) &&& v = v := by
  apply UInt32.eq_of_toBitVec_eq
  simp only [UInt32.toBitVec_and, UInt32.toBitVec_or]
  ext i hi
  simp only [BitVec.getElem_and, BitVec.getElem_or]
  cases w.toBitVec[i] <;> cases v.toBitVec[i] <;> rfl

theorem or_and_not (w v : Word) : (w ||| v) &&& ~~~v = w &&& ~~~v := by
  apply UInt32.eq_of_toBitVec_eq
  simp only [UInt32.toBitVec_and, UInt32.toBitVec_or, UInt32.toBitVec_not]
  ext i hi
  simp only [BitVec.getElem_and, BitVec.getElem_or, BitVec.getElem_not]
  cases w.toBitVec[i] <;> cases v.toBitVec[i] <;> rfl

theorem or_and_distrib (w v u : Word) : (w ||| v) &&& u = w &&& u ||| v &&& u :=
  UInt32.toBitVec_inj.1 BitVec.and_or_distrib_right

section
variable {w field value bit : Word}

theorem replace_and (hv : value &&& field = value) (hf : ~~~field &&& field = 0) :
    (w &&& ~~~field ||| value) &&& field = value := by
  rw [or_and_distrib, UInt32.and_assoc, hf, hv, UInt32.and_zero, UInt32.zero_or]

theorem replace_or_and (hv : value &&& field = value) (hf : ~~~field &&& field = 0)
    (hb : bit &&& field = 0) : (w &&& ~~~field ||| value ||| bit) &&& field = value := by
  rw [or_and_distrib, replace_and hv hf, hb, UInt32.or_zero]

theorem replace_or_and_rest {rest : Word} (hv : value &&& field = value) (hf : field &&& rest = 0)
    (hb : bit &&& rest = 0) (hr : ~~~field &&& rest = rest) :
    (w &&& ~~~field ||| value ||| bit) &&& rest = w &&& rest := by
  rw [or_and_distrib, or_and_distrib, UInt32.and_assoc, hr, ← hv, UInt32.and_assoc, hf, hb,
    UInt32.and_zero, UInt32.or_zero, UInt32.or_zero]

end

end Carousel.Word
