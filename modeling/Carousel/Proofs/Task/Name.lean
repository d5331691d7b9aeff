/-
  Carousel — what a task's name keeps of a text.

  * `Begins` and `LongestFitting`: the beginnings of a text by whole characters, and the longest one
    that a name has room for;
  * `boundary_iff`: a position is a boundary if such a beginning ends there, and
    `exists_boundary_near`: no boundary is more than three bytes away;
  * `cut_spec`: what the search for a boundary goes past, and where it stops;
  * `ofString_eq` and `toString_whole`: a name holds just the longest beginning that fits, and reads
    back as that;
  * `name_exact`: all of this, and when two names are the same.
-/
import Carousel.Task.Name
import Mathlib.Data.List.Infix
import Mathlib.Tactic.SplitIfs

namespace Carousel.Name

/-! ## Beginnings of a text -/

/-- The text `p` is made of the first characters of `s`. -/
def Begins (p s : String) : Prop := p.toList <+: s.toList

theorem begins_iff {p s : String} : Begins p s ↔ ∃ rest, s = p ++ rest := by
  constructor
  · rintro ⟨rest, h⟩
    refine ⟨String.ofList rest, ?_⟩
    rw [← String.toList_inj, String.toList_append, String.toList_ofList, h]
  · rintro ⟨rest, rfl⟩
    rw [Begins, String.toList_append]
    exact List.prefix_append _ _

theorem Begins.size_le {p s : String} (h : Begins p s) : p.utf8ByteSize ≤ s.utf8ByteSize := by
  obtain ⟨rest, rfl⟩ := begins_iff.1 h
  rw [String.utf8ByteSize_append]
  exact Nat.le_add_right _ _

/-- Of two beginnings of the same text, the one of fewer bytes begins the other one. -/
theorem Begins.of_size_le {p q s : String} (hp : Begins p s) (hq : Begins q s)
    (h : q.utf8ByteSize ≤ p.utf8ByteSize) : Begins q p := by
  rcases List.prefix_or_prefix_of_prefix hq hp with hqp | hpq
  · exact hqp
  · obtain ⟨rest, rfl⟩ := begins_iff.1 hpq
    rw [String.utf8ByteSize_append] at h
    have hrest : rest.utf8ByteSize = 0 := by omega
    rw [String.utf8ByteSize_eq_zero_iff] at hrest
    rw [hrest, String.append_empty]
    exact List.prefix_rfl

/-- The text `p` is the longest beginning of `s` that a name has room for. -/
structure LongestFitting (p s : String) : Prop where
  begins : Begins p s
  fits : p.utf8ByteSize ≤ nameLimit
  longest : ∀ q, Begins q s → q.utf8ByteSize ≤ nameLimit → Begins q p

/-! ## Boundaries -/

/-- No byte of a character is above those that start the longest ones. -/
theorem lt_of_mem_encode {c : Char} {b : UInt8} (h : b ∈ String.utf8EncodeChar c) : b < 0xf8 := by
  have hlt : ∀ n : Nat, n < 0xf8 → UInt8.ofNat n < 0xf8 := by
    intro n hn
    rw [UInt8.lt_iff_toNat_lt, UInt8.toNat_ofNat']
    exact (Nat.mod_le _ _).trans_lt hn
  unfold String.utf8EncodeChar at h
  dsimp only at h
  split_ifs at h <;> simp only [List.mem_cons, List.not_mem_nil, or_false] at h
  · obtain rfl := h
    exact hlt _ (by omega)
  · rcases h with rfl | rfl <;> exact hlt _ (by omega)
  · rcases h with rfl | rfl | rfl <;> exact hlt _ (by omega)
  · rcases h with rfl | rfl | rfl | rfl <;> exact hlt _ (by omega)

theorem getElem_lt (s : String) {n : Nat} (h : n < s.toByteArray.size) :
    s.toByteArray[n] < 0xf8 := by
  have hall : ∀ b ∈ s.toByteArray.data, b < 0xf8 := by
    intro b hb
    rw [← String.utf8Encode_toList, List.utf8Encode, List.data_toByteArray, List.mem_toArray,
      List.mem_flatMap] at hb
    obtain ⟨c, -, hc⟩ := hb
    exact lt_of_mem_encode hc
  exact hall _ (Array.getElem_mem h)

/-- Such a byte starts a character or goes on with one. -/
theorem continues_iff {b : UInt8} (h : b < 0xf8) : continues b ↔ ¬ b.IsUTF8FirstByte := by
  have hall : ∀ n < 256, UInt8.ofNat n < 0xf8 →
      (continues (UInt8.ofNat n) ↔ ¬ (UInt8.ofNat n).IsUTF8FirstByte) := by decide +kernel
  have hb := hall b.toNat b.toNat_lt
  rw [UInt8.ofNat_toNat] at hb
  exact hb h

/-- A boundary is where some first characters of the text end. -/
theorem boundary_iff {s : String} {n : Nat} :
    boundary s.toUTF8 n ↔ ∃ p, Begins p s ∧ p.utf8ByteSize = n := by
  have hvalid : String.Pos.Raw.IsValid s ⟨n⟩ ↔ ∃ p, Begins p s ∧ p.utf8ByteSize = n := by
    rw [String.Pos.Raw.isValid_iff_exists_append]
    simp only [begins_iff]
    constructor
    · rintro ⟨p, rest, hs, hn⟩
      exact ⟨p, ⟨rest, hs⟩, (congrArg String.Pos.Raw.byteIdx hn).symm⟩
    · rintro ⟨p, ⟨rest, hs⟩, rfl⟩
      exact ⟨p, rest, hs, rfl⟩
  have hend : (⟨n⟩ : String.Pos.Raw) = s.rawEndPos ↔ n = s.toByteArray.size :=
    ⟨congrArg String.Pos.Raw.byteIdx, fun h => h ▸ rfl⟩
  rw [← hvalid, String.Pos.Raw.isValid_iff_isUTF8FirstByte, String.toUTF8_eq_toByteArray, boundary,
    hend]
  split_ifs with h
  · rw [Bool.not_eq_true', ← Bool.not_eq_true, continues_iff (getElem_lt s h), not_not]
    constructor
    · intro hb
      exact Or.inr ⟨h, hb⟩
    · rintro (he | ⟨_, hb⟩)
      · exact absurd he h.ne
      · exact hb
  · rw [beq_iff_eq]
    constructor
    · exact Or.inl
    · rintro (he | ⟨hlt, -⟩)
      · exact he
      · exact absurd hlt h

/-! ## The search for a boundary -/

/-- At a position or within the three bytes before it, characters end. -/
theorem exists_prefix_near (cs : List Char) {n : Nat} (h : n ≤ (String.ofList cs).utf8ByteSize) :
    ∃ p, p <+: cs ∧ (String.ofList p).utf8ByteSize ≤ n ∧ n ≤ (String.ofList p).utf8ByteSize + 3 := by
  have hcons : ∀ (c : Char) (cs : List Char),
      (String.ofList (c :: cs)).utf8ByteSize = c.utf8Size + (String.ofList cs).utf8ByteSize := by
    intro c cs
    rw [← List.singleton_append, String.ofList_append, String.utf8ByteSize_append,
      ← String.singleton_eq_ofList, String.utf8ByteSize_singleton]
  induction cs generalizing n with
  | nil =>
    refine ⟨[], List.prefix_rfl, Nat.zero_le _, ?_⟩
    exact h.trans (Nat.le_add_right _ _)
  | cons c cs ih =>
    have hc := c.utf8Size_le_four
    rw [hcons] at h
    by_cases hn : n < c.utf8Size
    · refine ⟨[], List.nil_prefix, Nat.zero_le _, ?_⟩
      show n ≤ 0 + 3
      omega
    · obtain ⟨p, hp, hle, hnear⟩ := ih (n := n - c.utf8Size) (by omega)
      refine ⟨c :: p, (List.prefix_cons_inj c).2 hp, ?_, ?_⟩
      · rw [hcons]; omega
      · rw [hcons]; omega

theorem exists_boundary_near {s : String} {n : Nat} (h : n ≤ s.utf8ByteSize) :
    ∃ k ≤ 3, k ≤ n ∧ boundary s.toUTF8 (n - k) := by
  obtain ⟨p, hp, hle, hnear⟩ := exists_prefix_near s.toList (n := n) (by rwa [String.ofList_toList])
  refine ⟨n - (String.ofList p).utf8ByteSize, by omega, Nat.sub_le _ _, boundary_iff.2 ?_⟩
  exact ⟨String.ofList p, by rwa [Begins, String.toList_ofList], by omega⟩

theorem cut_spec (utf8 : ByteArray) (n : Nat) :
    ∃ k ≤ n, cut utf8 n = n - k ∧ (boundary utf8 (n - k) ∨ n - k = 0) ∧
      ∀ j < k, ¬ boundary utf8 (n - j) := by
  induction n with
  | zero => exact ⟨0, le_rfl, rfl, Or.inr rfl, nofun⟩
  | succ n ih =>
    by_cases hb : boundary utf8 (n + 1)
    · exact ⟨0, Nat.zero_le _, if_pos hb, Or.inl hb, nofun⟩
    · obtain ⟨k, hk, hcut, hstop, hpast⟩ := ih
      refine ⟨k + 1, Nat.succ_le_succ hk, ?_, ?_, ?_⟩
      · rw [cut, if_neg hb, hcut, Nat.add_sub_add_right]
      · rwa [Nat.add_sub_add_right]
      · intro j hj
        cases j with
        | zero => exact hb
        | succ j =>
          rw [Nat.add_sub_add_right]
          exact hpast j (Nat.lt_of_succ_lt_succ hj)

/-- In a text the search goes back by three bytes at most, and stops at the last boundary. -/
theorem cut_text {s : String} {n : Nat} (h : n ≤ s.utf8ByteSize) :
    ∃ k ≤ 3, k ≤ n ∧ cut s.toUTF8 n = n - k ∧ boundary s.toUTF8 (n - k) ∧
      ∀ j < k, ¬ boundary s.toUTF8 (n - j) := by
  obtain ⟨k, hk, hcut, hstop, hpast⟩ := cut_spec s.toUTF8 n
  obtain ⟨near, hnear, hle, hboundary⟩ := exists_boundary_near h
  have hknear : k ≤ near := by
    by_contra hlt
    exact hpast near (Nat.not_le.1 hlt) hboundary
  refine ⟨k, hknear.trans hnear, hk, hcut, ?_, hpast⟩
  rcases hstop with hb | hzero
  · exact hb
  · rw [hzero]
    exact boundary_iff.2 ⟨"", List.nil_prefix, rfl⟩

theorem exists_longestFitting (s : String) :
    ∃ p, LongestFitting p s ∧ p.utf8ByteSize = cut s.toUTF8 (min s.utf8ByteSize nameLimit) := by
  obtain ⟨k, -, hk, hcut, hboundary, hpast⟩ := cut_text (Nat.min_le_left s.utf8ByteSize nameLimit)
  rw [hcut]
  obtain ⟨p, hp, hsize⟩ := boundary_iff.1 hboundary
  refine ⟨p, ⟨hp, ?_, fun q hq hfits => hp.of_size_le hq ?_⟩, hsize⟩
  · rw [hsize]
    exact (Nat.sub_le _ _).trans (Nat.min_le_right _ _)
  · -- a longer one would end where the search went past
    by_contra hlt
    have hq' := hq.size_le
    have hend := hpast (min s.utf8ByteSize nameLimit - q.utf8ByteSize) (by omega)
    rw [Nat.sub_sub_self (le_min hq' hfits)] at hend
    exact hend (boundary_iff.2 ⟨q, hq, rfl⟩)

/-! ## What a name holds -/

/-- The name that holds all of a text. -/
def whole (p : String) : Name := ofBytes p.toUTF8 p.utf8ByteSize

/-- A name holds nothing of the bytes behind those that it is given. -/
theorem ofBytes_append (p rest : String) :
    ofBytes (p ++ rest).toUTF8 p.utf8ByteSize = whole p := by
  unfold whole ofBytes
  congr 1
  refine congrArg Vector.ofFn (funext fun i => ?_)
  rw [String.toUTF8_eq_toByteArray, String.toUTF8_eq_toByteArray, String.toByteArray_append,
    ByteArray.data_append]
  by_cases hi : i.val < p.utf8ByteSize
  · rw [if_pos hi, if_pos hi, Array.getElem?_append_left hi]
  · rw [if_neg hi, if_neg hi]

/-- Bytes that a name has room for are all kept. -/
theorem utf8_ofBytes {b : ByteArray} (h : b.size ≤ nameLimit) : (ofBytes b b.size).utf8 = b := by
  have hsize : b.data.size = b.size := rfl
  refine ByteArray.ext (Array.ext ?_ fun i _ hi => ?_)
  · simp [utf8, ofBytes, hsize, h]
  · have hlt : i < b.size := hi
    simp [utf8, ofBytes, hlt]

theorem utf8_whole {p : String} (h : p.utf8ByteSize ≤ nameLimit) : (whole p).utf8 = p.toUTF8 :=
  utf8_ofBytes h

theorem fromUTF8?_whole {p : String} (h : p.utf8ByteSize ≤ nameLimit) :
    String.fromUTF8? (whole p).utf8 = some p := by
  rw [utf8_whole h, String.toUTF8_eq_toByteArray, String.fromUTF8?, dif_pos p.isValidUTF8]
  rfl

theorem toString_whole {p : String} (h : p.utf8ByteSize ≤ nameLimit) : (whole p).toString = p := by
  rw [toString, fromUTF8?_whole h, Option.getD_some]

/-- **A name holds the longest beginning that it has room for, and nothing else.** -/
theorem ofString_eq (s : String) : ∃ p, LongestFitting p s ∧ ofString s = whole p := by
  obtain ⟨p, hp, hsize⟩ := exists_longestFitting s
  obtain ⟨rest, rfl⟩ := begins_iff.1 hp.begins
  refine ⟨p, hp, ?_⟩
  rw [ofString, ← hsize, ofBytes_append]

/-- A text that fits is the longest beginning of itself. -/
theorem LongestFitting.self {s : String} (h : s.utf8ByteSize ≤ nameLimit) : LongestFitting s s :=
  ⟨List.prefix_rfl, h, fun _ hq _ => hq⟩

/-- There is only one. -/
theorem LongestFitting.eq {p q s : String} (hp : LongestFitting p s) (hq : LongestFitting q s) :
    p = q := by
  have hpq := hq.longest p hp.begins hp.fits
  have hqp := hp.longest q hq.begins hq.fits
  exact String.toList_inj.1 (hpq.eq_of_length_le hqp.length_le)

/-- A name that a task is given for its number is text, of one byte for each character. -/
theorem isValidUTF8_numbered (id : Nat) : (numbered id).utf8.IsValidUTF8 := by
  let digit (n : Nat) : UInt8 := 48 + UInt8.ofNat (n % 10)
  have hpush : ∀ (b : ByteArray) (n : Nat), b.IsValidUTF8 → (b.push (digit n)).IsValidUTF8 := by
    intro b n hb
    have hdigit : ∀ k < 10, (Char.ofNat (48 + k)).utf8Size = 1 ∧
        (Char.ofNat (48 + k)).toUInt8 = 48 + UInt8.ofNat k := by decide
    obtain ⟨hsize, hbyte⟩ := hdigit (n % 10) (Nat.mod_lt _ (by decide))
    have := hb.push hsize
    rwa [hbyte] at this
  have hbytes : (numbered id).utf8 =
      (("Tsk".toUTF8.push (digit (id / 100))).push (digit (id / 10))).push (digit id) :=
    utf8_ofBytes (b := ⟨#[84, 115, 107, digit (id / 100), digit (id / 10), digit id]⟩)
      (show 6 ≤ nameLimit by decide)
  rw [hbytes]
  exact hpush _ _ (hpush _ _ (hpush _ _ "Tsk".isValidUTF8))

/-- **A name is the longest beginning of a text that fits.**  It is made of whole characters, and is
    the text itself exactly if that fits.  The search for its end goes back by three bytes at most
    and not below the start of the text, and stops at the first boundary that it comes to.  What is
    kept is always text, also where a task is named for its number, so that it can be read back.
    Two names are the same exactly if they read the same, and a name that is read back and kept
    again is the same. -/
theorem name_exact (s : String) :
    LongestFitting (ofString s).toString s ∧
    ((ofString s).toString = s ↔ s.utf8ByteSize ≤ nameLimit) ∧
    (let start := min s.utf8ByteSize nameLimit
      ∃ k ≤ 3, k ≤ start ∧ cut s.toUTF8 start = start - k ∧ boundary s.toUTF8 (start - k) ∧
        ∀ j < k, ¬ boundary s.toUTF8 (start - j)) ∧
    String.fromUTF8? (ofString s).utf8 = some (ofString s).toString ∧
    (∀ id, String.fromUTF8? (numbered id).utf8 = some (numbered id).toString) ∧
    (∀ other, ofString s = ofString other ↔ (ofString s).toString = (ofString other).toString) ∧
    ofString (ofString s).toString = ofString s := by
  obtain ⟨p, hp, hname⟩ := ofString_eq s
  have hread : (ofString s).toString = p := by rw [hname, toString_whole hp.fits]
  refine ⟨hread ▸ hp, ⟨fun h => ?_, fun h => ?_⟩, cut_text (Nat.min_le_left _ _), ?_,
    fun id => ?_, fun other => ⟨fun h => by rw [h], fun h => ?_⟩, ?_⟩
  · rw [← h, hread]
    exact hp.fits
  · rw [hread]
    exact hp.eq (.self h)
  · rw [hread, hname]
    exact fromUTF8?_whole hp.fits
  · rw [toString, String.fromUTF8?, dif_pos (isValidUTF8_numbered id)]
    rfl
  · obtain ⟨q, hq, hother⟩ := ofString_eq other
    rw [hother, toString_whole hq.fits, hread] at h
    rw [hname, hother, h]
  · obtain ⟨q, hq, hagain⟩ := ofString_eq p
    rw [hread, hagain, hq.eq (.self hp.fits), hname]

/-- A character of four bytes begins with the sixth one, so that the search goes back by three. -/
theorem name_exact_threeBack :
    "abcde😀".utf8ByteSize = 9 ∧ cut "abcde😀".toUTF8 8 = 8 - 3 ∧
      LongestFitting "abcde" "abcde😀" ∧ ofString "abcde" = ofString "abcde😀" := by
  obtain ⟨hlongest, -, -, -, -, -, hagain⟩ := name_exact "abcde😀"
  have hread : (ofString "abcde😀").toString = "abcde" := by decide +kernel
  rw [hread] at hlongest hagain
  exact ⟨by decide +kernel, by decide +kernel, hlongest, hagain⟩

end Carousel.Name
