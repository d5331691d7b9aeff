/-
  Carousel — a ring buffer is a queue with a capacity.

  * `Call` and `Ring.perform`: the calls of a buffer, and `Ring.touched`: the places of its storage
    that a call reads or writes;
  * `Queue`: a capacity and the bytes that are held, oldest first, with the same calls;
  * `window`: the bytes from a position on, around the end of the storage;
  * `Ring.Valid`: positions and length fit the storage, and `Ring.toQueue`: what the buffer then
    stands for;
  * `Over.putByte`, `Valid.perform`: a byte, and a call, does to the buffer what it does to the
    queue;
  * `serve_eq_queue`: so whoever calls, in any order, cannot tell the two apart.
-/
import Carousel.Ring
import Mathlib.Data.List.DropRight
import Mathlib.Data.List.Range
import Mathlib.Data.Nat.ModEq
import Mathlib.Tactic.SplitIfs

namespace Carousel

/-! ## Calls -/

namespace Ring

/-- What can be asked of a buffer. -/
inductive Call where
  /-- A new buffer over storage, in place of the old one. -/
  | make (storage : Array UInt8)
  | attach (storage : Array UInt8)
  | detach
  | put (dropOldest : Bool) (data : List UInt8)
  | get (out : List UInt8)
  | clear
  | length
  | capacity
  | isEmpty
  | isFull

/-- What is answered. -/
inductive Answer where
  | done (result : Except Fault Unit)
  /-- Storage of that size is given back, if there was any. -/
  | released (size : Option Nat)
  | count (n : Nat)
  /-- Bytes taken, and the reader's memory afterwards. -/
  | taken (n : Nat) (out : List UInt8)
  | flag (b : Bool)

/-- Go on with what a call made, if it made something. -/
def settle {σ : Type} (s : σ) : Except Fault σ → Answer × σ
  | .ok s' => (.done (.ok ()), s')
  | .error e => (.done (.error e), s)

/-- A buffer answers a call. -/
def perform (r : Ring) : Call → Answer × Ring
  | .make storage => settle r (ofStorage storage)
  | .attach storage => settle r (r.attach storage)
  | .detach => (.released (r.detach.1.map Array.size), r.detach.2)
  | .put dropOldest data => (.count (r.put dropOldest data).1, (r.put dropOldest data).2)
  | .get out => (.taken (r.get out).1 (r.get out).2.1, (r.get out).2.2)
  | .clear => (.done (.ok ()), r.clear)
  | .length => (.count r.length, r)
  | .capacity => (.count r.capacity, r)
  | .isEmpty => (.flag r.isEmpty, r)
  | .isFull => (.flag r.isFull, r)

/-- The places that `put` writes. -/
def written (r : Ring) (dropOldest : Bool) : List UInt8 → List Nat
  | [] => []
  | b :: bs =>
    match r.putByte dropOldest b with
    | none => []
    | some r' => r.write :: r'.written dropOldest bs

/-- The places that are read from position `p` on, in storage of that size. -/
def visited (size p : Nat) : Nat → List Nat
  | 0 => []
  | n + 1 => p :: visited size ((p + 1) % size) n

/-- The places of the storage that a call reads or writes. -/
def touched (r : Ring) : Call → List Nat
  | .put dropOldest data => r.written dropOldest data
  | .get out => visited r.capacity r.read (min out.length r.length)
  | _ => []

/-! ## The queue -/

/-- Room for `capacity` bytes, and those that are held, oldest first. -/
structure Queue where
  capacity : Nat
  bytes : List UInt8

namespace Queue

/-- Without storage. -/
def detached : Queue := ⟨0, []⟩

/-- Take storage of that size, and hold nothing yet. -/
def attach (size : Nat) : Except Fault Queue :=
  if size = 0 then .error .parameter else .ok ⟨size, []⟩

/-- Put bytes at the end, and count those that were stored.  The oldest ones make room, or those
    for which there is none are left out.  Without storage nothing is stored. -/
def put (q : Queue) (dropOldest : Bool) (data : List UInt8) : Nat × Queue :=
  if q.capacity = 0 then (0, q)
  else if dropOldest then
    (data.length, { q with bytes := (q.bytes ++ data).rtake q.capacity })
  else
    let n := min data.length (q.capacity - q.bytes.length)
    (n, { q with bytes := q.bytes ++ data.take n })

/-- Take bytes from the front into the front of `out`. -/
def get (q : Queue) (out : List UInt8) : Nat × List UInt8 × Queue :=
  let n := min out.length q.bytes.length
  (n, q.bytes.take n ++ out.drop n, { q with bytes := q.bytes.drop n })

/-- The queue answers a call. -/
def perform (q : Queue) : Call → Answer × Queue
  | .make storage => settle q (attach storage.size)
  | .attach storage => settle q (attach storage.size)
  | .detach => (.released (if q.capacity = 0 then none else some q.capacity), detached)
  | .put dropOldest data => (.count (q.put dropOldest data).1, (q.put dropOldest data).2)
  | .get out => (.taken (q.get out).1 (q.get out).2.1, (q.get out).2.2)
  | .clear => (.done (.ok ()), { q with bytes := [] })
  | .length => (.count q.bytes.length, q)
  | .capacity => (.count q.capacity, q)
  | .isEmpty => (.flag q.bytes.isEmpty, q)
  | .isFull => (.flag (q.bytes.length == q.capacity), q)

/-- Put one byte. -/
def putByte (q : Queue) (dropOldest : Bool) (b : UInt8) : Option Queue :=
  if q.bytes.length < q.capacity then some { q with bytes := q.bytes ++ [b] }
  else if dropOldest then some { q with bytes := q.bytes.tail ++ [b] }
  else none

variable {q : Queue}

/-- Of bytes that are added behind the last `n`, again the last `n`. -/
theorem rtake_append_rtake {α : Type} (n : Nat) (l m : List α) :
    (l.rtake n ++ m).rtake n = (l ++ m).rtake n := by
  simp only [List.rtake, List.drop_append, List.length_append, List.length_drop, List.drop_drop]
  congr 2
  · omega
  · omega

theorem tail_append_of_full (h : q.bytes.length = q.capacity) (hc : 0 < q.capacity) (b : UInt8) :
    q.bytes.tail ++ [b] = (q.bytes ++ [b]).rtake q.capacity := by
  rw [List.rtake, List.length_append, h, List.length_singleton, Nat.add_sub_cancel_left,
    List.drop_one, List.tail_append_of_ne_nil (List.ne_nil_of_length_pos (h ▸ hc))]

theorem put_nil (hq : q.bytes.length ≤ q.capacity) (dropOldest : Bool) :
    q.put dropOldest [] = (0, q) := by
  have hz : q.bytes.length - q.capacity = 0 := by omega
  cases dropOldest <;> simp [put, List.rtake, hz]

/-- Bytes can be put one after the other. -/
theorem put_cons (hc : 0 < q.capacity) (hq : q.bytes.length ≤ q.capacity) (dropOldest : Bool)
    (b : UInt8) (bs : List UInt8) :
    q.put dropOldest (b :: bs) =
      match q.putByte dropOldest b with
      | none => (0, q)
      | some q' => ((q'.put dropOldest bs).1 + 1, (q'.put dropOldest bs).2) := by
  have hne : q.capacity ≠ 0 := hc.ne'
  rw [putByte]
  split_ifs with hroom hdrop
  · cases dropOldest with
    | true =>
      simp only [put, if_neg hne, if_true, List.length_cons, List.append_assoc,
        List.singleton_append]
    | false =>
      have hmin : min (bs.length + 1) (q.capacity - q.bytes.length) =
          min bs.length (q.capacity - (q.bytes.length + 1)) + 1 := by omega
      simp only [put, if_neg hne, Bool.false_eq_true, if_false, List.length_cons,
        List.length_append, List.length_nil, Nat.zero_add, hmin, List.take_succ_cons,
        List.append_assoc, List.singleton_append]
  · have hfull : q.bytes.length = q.capacity := by omega
    subst hdrop
    simp only [put, if_neg hne, if_true, List.length_cons, tail_append_of_full hfull hc,
      rtake_append_rtake, List.append_assoc, List.singleton_append]
  · have hzero : q.capacity - q.bytes.length = 0 := by omega
    rw [Bool.not_eq_true] at hdrop
    subst hdrop
    simp [put, hne, hzero]

end Queue

/-! ## Around the end of the storage -/

/-- The byte `k` places after position `p`. -/
def cell (s : Array UInt8) (p k : Nat) : UInt8 := s.getD ((p + k) % s.size) 0

/-- `n` bytes from position `p` on. -/
def window (s : Array UInt8) (p n : Nat) : List UInt8 := (List.range n).map (cell s p)

section
variable {s : Array UInt8} {p : Nat}

@[simp] theorem length_window (n : Nat) : (window s p n).length = n := by simp [window]

/-- Positions before a full turn are different. -/
theorem wrap_inj {n a b : Nat} (ha : a < n) (hb : b < n) (h : (p + a) % n = (p + b) % n) :
    a = b :=
  (Nat.ModEq.add_left_cancel' p h).eq_of_lt_of_lt ha hb

theorem drop_window (k n : Nat) :
    (window s p n).drop k = window s ((p + k) % s.size) (n - k) := by
  rw [window, window, ← List.map_drop, List.range_eq_range', List.drop_range', Nat.zero_add,
    Nat.mul_one, List.range'_eq_map_range, List.map_map]
  refine List.map_congr_left fun j _ => ?_
  rw [Function.comp_apply, cell, cell, Nat.mod_add_mod, Nat.add_assoc]

theorem take_window (k n : Nat) : (window s p n).take k = window s p (min k n) := by
  rw [window, window, ← List.map_take, List.take_range]

theorem window_succ (hp : p < s.size) (n : Nat) :
    window s p (n + 1) = s.getD p 0 :: window s ((p + 1) % s.size) n := by
  have hdrop := drop_window (s := s) (p := p) 1 (n + 1)
  rw [Nat.add_sub_cancel] at hdrop
  rw [← hdrop, window, List.range_succ_eq_map, List.map_cons, List.drop_one, List.tail_cons, cell,
    Nat.add_zero, Nat.mod_eq_of_lt hp]

/-- A byte that is written behind `n` others comes after them. -/
theorem window_set {n : Nat} (hn : n < s.size) (b : UInt8) :
    window (s.setIfInBounds ((p + n) % s.size) b) p (n + 1) = window s p n ++ [b] := by
  have hpos : 0 < s.size := by omega
  rw [window, window, List.range_succ, List.map_append, List.map_singleton]
  congr 1
  · refine List.map_congr_left fun k hk => ?_
    have hne : (p + n) % s.size ≠ (p + k) % s.size := by
      intro h
      have := wrap_inj hn (by rw [List.mem_range] at hk; omega) h
      rw [List.mem_range] at hk; omega
    simp [cell, hne]
  · simp [cell, Nat.mod_lt _ hpos]

theorem readFrom_eq (hp : p < s.size) (n : Nat) :
    readFrom s p n = (window s p n, (p + n) % s.size) := by
  induction n generalizing p with
  | zero => rw [readFrom, Nat.add_zero, Nat.mod_eq_of_lt hp]; rfl
  | succ n ih =>
    rw [readFrom, ih (Nat.mod_lt _ (by omega)), window_succ hp, Nat.mod_add_mod, Nat.add_assoc,
      Nat.add_comm 1]

theorem visited_lt {size : Nat} (hp : p < size) (n : Nat) : ∀ x ∈ visited size p n, x < size := by
  induction n generalizing p with
  | zero => nofun
  | succ n ih =>
    rw [visited, List.forall_mem_cons]
    exact ⟨hp, ih (Nat.mod_lt _ (by omega))⟩

end

/-! ## What a buffer stands for -/

/-- The buffer lies over storage `s`, and its positions and its length fit. -/
structure Over (r : Ring) (s : Array UInt8) : Prop where
  storage : r.storage = some s
  read : r.read < s.size
  write : r.write = (r.read + r.length) % s.size
  length : r.length ≤ s.size

/-- There is no storage and nothing is held, or all fits the storage. -/
def Valid (r : Ring) : Prop := r = blank ∨ ∃ s, r.Over s

/-- The bytes that are held, oldest first. -/
def contents (r : Ring) : List UInt8 :=
  match r.storage with
  | none => []
  | some s => window s r.read r.length

def toQueue (r : Ring) : Queue := ⟨r.capacity, r.contents⟩

/-- The answers are the same, and the buffer stands for the queue. -/
structure Agrees {α : Type} (x : α × Ring) (y : α × Queue) : Prop where
  answer : x.1 = y.1
  queue : x.2.toQueue = y.2
  valid : x.2.Valid

/-- Without the `k` oldest bytes. -/
def skip (r : Ring) (k : Nat) : Ring :=
  { r with read := (r.read + k) % r.capacity, length := r.length - k }

/-- With one byte more in storage `s`. -/
def push (r : Ring) (s : Array UInt8) (b : UInt8) : Ring :=
  { r with
    storage := some (s.setIfInBounds r.write b)
    write := (r.write + 1) % s.size
    length := r.length + 1 }

namespace Over

variable {r : Ring} {s : Array UInt8}

theorem pos (h : r.Over s) : 0 < s.size := by have := h.read; omega

theorem capacity (h : r.Over s) : r.capacity = s.size := by rw [Ring.capacity, h.storage]

theorem toQueue (h : r.Over s) : r.toQueue = ⟨s.size, window s r.read r.length⟩ := by
  rw [Ring.toQueue, h.capacity, contents, h.storage]

theorem valid (h : r.Over s) : r.Valid := .inr ⟨s, h⟩

theorem skip (h : r.Over s) {k : Nat} (hk : k ≤ r.length) : (r.skip k).Over s := by
  refine ⟨h.storage, ?_, ?_, (Nat.sub_le _ _).trans h.length⟩
  · show (r.read + k) % r.capacity < s.size
    rw [h.capacity]; exact Nat.mod_lt _ h.pos
  · show r.write = ((r.read + k) % r.capacity + (r.length - k)) % s.size
    rw [h.capacity, Nat.mod_add_mod, Nat.add_assoc, Nat.add_sub_cancel' hk, h.write]

theorem toQueue_skip (h : r.Over s) {k : Nat} (hk : k ≤ r.length) :
    (r.skip k).toQueue = ⟨s.size, (window s r.read r.length).drop k⟩ := by
  rw [(h.skip hk).toQueue, drop_window, ← h.capacity]; rfl

theorem push (h : r.Over s) (hroom : r.length < s.size) (b : UInt8) :
    (r.push s b).Over (s.setIfInBounds r.write b) := by
  refine ⟨rfl, ?_, ?_, ?_⟩
  · rw [Array.size_setIfInBounds]; exact h.read
  · show (r.write + 1) % s.size = (r.read + (r.length + 1)) % _
    rw [Array.size_setIfInBounds, h.write, Nat.mod_add_mod, Nat.add_assoc]
  · rw [Array.size_setIfInBounds]; exact hroom

theorem toQueue_push (h : r.Over s) (hroom : r.length < s.size) (b : UInt8) :
    (r.push s b).toQueue = ⟨s.size, window s r.read r.length ++ [b]⟩ := by
  rw [(h.push hroom b).toQueue, Array.size_setIfInBounds, ← window_set hroom, ← h.write]; rfl

/-- A byte is put at the end.  If all places are taken, the oldest byte is dropped before. -/
theorem putByte_eq (h : r.Over s) (dropOldest : Bool) (b : UInt8) :
    r.putByte dropOldest b =
      if r.length < s.size then some (r.push s b)
      else if dropOldest then some ((r.skip 1).push s b)
      else none := by
  have hlen := h.length
  rw [putByte, h.storage]
  dsimp only
  by_cases hroom : r.length < s.size
  · rw [if_pos hroom, if_neg hroom.ne]; rfl
  · have hpos := h.pos
    rw [if_neg hroom, if_pos (by omega)]
    cases dropOldest with
    | false => rfl
    | true =>
      have hlast : r.length - 1 + 1 = r.length := by omega
      rw [if_pos rfl, if_pos rfl, Ring.push, Ring.skip, h.capacity, hlast]

/-- **One byte.**  The buffer stores it when the queue does. -/
theorem putByte (h : r.Over s) (dropOldest : Bool) (b : UInt8) :
    (∃ r' s', r.putByte dropOldest b = some r' ∧ r'.Over s' ∧ s'.size = s.size ∧
      r.toQueue.putByte dropOldest b = some r'.toQueue) ∨
    r.putByte dropOldest b = none ∧ r.toQueue.putByte dropOldest b = none := by
  rw [h.putByte_eq, h.toQueue, Queue.putByte, length_window]
  split_ifs with hroom hdrop
  · exact .inl ⟨_, _, rfl, h.push hroom b, Array.size_setIfInBounds, by rw [h.toQueue_push hroom]⟩
  · -- where the oldest byte was there is room
    have hpos := h.pos
    have hlen := h.length
    have hone : 1 ≤ r.length := by omega
    have hlt : (r.skip 1).length < s.size := by show r.length - 1 < s.size; omega
    have hskip := h.skip hone
    refine .inl ⟨_, _, rfl, hskip.push hlt b, Array.size_setIfInBounds, ?_⟩
    have hq := (hskip.toQueue.symm.trans (h.toQueue_skip hone))
    rw [Queue.mk.injEq] at hq
    rw [hskip.toQueue_push hlt, hq.2, List.drop_one]
  · exact .inr ⟨rfl, rfl⟩

theorem put (h : r.Over s) (dropOldest : Bool) (data : List UInt8) :
    Agrees (r.put dropOldest data) (r.toQueue.put dropOldest data) := by
  induction data generalizing r s with
  | nil =>
    rw [Queue.put_nil (by rw [h.toQueue, length_window]; exact h.length)]
    exact ⟨rfl, rfl, h.valid⟩
  | cons b bs ih =>
    rw [Queue.put_cons (by rw [h.toQueue]; exact h.pos)
      (by rw [h.toQueue, length_window]; exact h.length), Ring.put]
    rcases h.putByte dropOldest b with ⟨r', s', hr, hs, -, hq⟩ | ⟨hr, hq⟩
    · rw [hr, hq]
      obtain ⟨ha, hq', hv⟩ := ih hs
      exact ⟨congrArg (· + 1) ha, hq', hv⟩
    · rw [hr, hq]
      exact ⟨rfl, rfl, h.valid⟩

theorem written_lt (h : r.Over s) (dropOldest : Bool) (data : List UInt8) :
    ∀ p ∈ r.written dropOldest data, p < s.size := by
  induction data generalizing r s with
  | nil => nofun
  | cons b bs ih =>
    rw [written]
    rcases h.putByte dropOldest b with ⟨r', s', hr, hs, hsize, -⟩ | ⟨hr, -⟩
    · rw [hr, List.forall_mem_cons, ← hsize]
      refine ⟨?_, ih hs⟩
      rw [hsize, h.write]; exact Nat.mod_lt _ h.pos
    · rw [hr]; nofun

theorem get (h : r.Over s) (out : List UInt8) :
    r.get out = (min out.length r.length,
      (window s r.read r.length).take (min out.length r.length) ++
        out.drop (min out.length r.length), r.skip (min out.length r.length)) := by
  have hle : min out.length r.length ≤ r.length := Nat.min_le_right _ _
  rw [Ring.get, h.storage]
  dsimp only
  rw [readFrom_eq h.read, take_window, Nat.min_eq_left hle, Ring.skip, h.capacity, h.storage]

theorem clear (h : r.Over s) : r.clear.Over s :=
  ⟨h.storage, h.pos, (Nat.mod_eq_of_lt h.pos).symm, Nat.zero_le _⟩

end Over

namespace Valid

variable {r : Ring}

theorem length_contents (h : r.Valid) : r.contents.length = r.length := by
  rcases h with rfl | ⟨s, hs⟩
  · rfl
  · rw [contents, hs.storage]; exact length_window _

theorem length_le (h : r.Valid) : r.length ≤ r.capacity := by
  rcases h with rfl | ⟨s, hs⟩
  · exact Nat.le_refl 0
  · rw [hs.capacity]; exact hs.length

/-- Storage is refused when it is empty.  Otherwise all that was there before is forgotten. -/
theorem attach (h : r.Valid) (r₀ : Ring) (storage : Array UInt8) :
    Agrees (settle r (r₀.attach storage)) (settle r.toQueue (Queue.attach storage.size)) := by
  rw [Ring.attach, Queue.attach]
  by_cases hz : storage.size = 0
  · rw [if_pos hz, if_pos (Array.isEmpty_iff_size_eq_zero.2 hz)]
    exact ⟨rfl, rfl, h⟩
  · rw [if_neg hz, if_neg (by rwa [Array.isEmpty_iff_size_eq_zero])]
    exact ⟨rfl, rfl, .inr ⟨storage, rfl, Nat.pos_of_ne_zero hz, (Nat.zero_mod _).symm, Nat.zero_le _⟩⟩

theorem detach (h : r.Valid) : Agrees (r.perform .detach) (r.toQueue.perform .detach) := by
  rcases h with rfl | ⟨s, hs⟩
  · exact ⟨rfl, rfl, .inl rfl⟩
  · refine ⟨?_, rfl, .inl rfl⟩
    rw [hs.toQueue]
    show Answer.released (r.storage.map Array.size) = .released (if s.size = 0 then none else s.size)
    rw [hs.storage, if_neg hs.pos.ne']
    rfl

theorem put (h : r.Valid) (dropOldest : Bool) (data : List UInt8) :
    Agrees (r.put dropOldest data) (r.toQueue.put dropOldest data) := by
  rcases h with rfl | ⟨s, hs⟩
  · cases data <;> exact ⟨rfl, rfl, .inl rfl⟩
  · exact hs.put dropOldest data

theorem get (h : r.Valid) (out : List UInt8) :
    Agrees (r.perform (.get out)) (r.toQueue.perform (.get out)) := by
  rcases h with rfl | ⟨s, hs⟩
  · refine ⟨?_, ?_, .inl rfl⟩
    · show Answer.taken 0 out = .taken (min out.length 0) ([].take _ ++ out.drop (min out.length 0))
      rw [Nat.min_zero, List.take_nil]; rfl
    · show blank.toQueue = ⟨0, [].drop _⟩
      rw [List.drop_nil]; rfl
  · have hle : min out.length r.length ≤ r.length := Nat.min_le_right _ _
    rw [perform, Queue.perform, hs.get, hs.toQueue, Queue.get, length_window]
    exact ⟨rfl, hs.toQueue_skip hle, (hs.skip hle).valid⟩

theorem clear (h : r.Valid) : Agrees (r.perform .clear) (r.toQueue.perform .clear) := by
  rcases h with rfl | ⟨s, hs⟩
  · exact ⟨rfl, rfl, .inl rfl⟩
  · refine ⟨rfl, ?_, hs.clear.valid⟩
    show r.clear.toQueue = ⟨r.capacity, []⟩
    rw [hs.clear.toQueue, hs.capacity]; rfl

/-- **One call.** -/
theorem perform (h : r.Valid) (c : Call) : Agrees (r.perform c) (r.toQueue.perform c) := by
  have hlen : r.length = r.toQueue.bytes.length := h.length_contents.symm
  cases c with
  | make storage => exact h.attach blank storage
  | attach storage => exact h.attach r storage
  | detach => exact h.detach
  | put dropOldest data =>
    obtain ⟨hn, hput, hv⟩ := h.put dropOldest data
    exact ⟨congrArg Answer.count hn, hput, hv⟩
  | get out => exact h.get out
  | clear => exact h.clear
  | length => exact ⟨congrArg Answer.count hlen, rfl, h⟩
  | capacity => exact ⟨rfl, rfl, h⟩
  | isEmpty =>
    refine ⟨congrArg Answer.flag ?_, rfl, h⟩
    rw [isEmpty, hlen]
    cases r.toQueue.bytes <;> rfl
  | isFull => exact ⟨congrArg (fun n => Answer.flag (n == r.capacity)) hlen, rfl, h⟩

/-- A call stays inside the storage. -/
theorem touched_lt (h : r.Valid) (c : Call) : ∀ p ∈ r.touched c, p < r.capacity := by
  rcases h with rfl | ⟨s, hs⟩
  · cases c with
    | put dropOldest data => cases data <;> nofun
    | get out =>
      show ∀ p ∈ visited 0 0 (min out.length 0), p < 0
      rw [Nat.min_zero]; nofun
    | _ => nofun
  · rw [hs.capacity]
    cases c with
    | put dropOldest data => exact hs.written_lt dropOldest data
    | get out =>
      show ∀ p ∈ visited r.capacity r.read _, p < s.size
      rw [hs.capacity]
      exact visited_lt hs.read _
    | _ => nofun

end Valid

/-! ## All calls -/

/-- Callers call in any order, tasks and interrupts alike: nothing comes between the parts of one
    call.  Each is told the answers to its own calls. -/
def serve {ι σ : Type} (perform : σ → Call → Answer × σ) (s : σ) :
    List (ι × Call) → List (ι × Answer) × σ
  | [] => ([], s)
  | (i, c) :: calls =>
    let later := serve perform (perform s c).2 calls
    ((i, (perform s c).1) :: later.1, later.2)

theorem serve_agrees {ι : Type} {r : Ring} (h : r.Valid) (calls : List (ι × Call)) :
    Agrees (serve perform r calls) (serve Queue.perform r.toQueue calls) := by
  induction calls generalizing r with
  | nil => exact ⟨rfl, rfl, h⟩
  | cons call calls ih =>
    obtain ⟨i, c⟩ := call
    obtain ⟨ha, hq, hv⟩ := h.perform c
    obtain ⟨has, hlast, hvlast⟩ := ih hv
    rw [hq] at has hlast
    refine ⟨?_, hlast, hvlast⟩
    rw [serve, serve, ha, has]

/-- **A ring buffer is a queue with a capacity.**  Whoever calls a buffer, starting without storage,
    and in whatever order, is answered as by the queue.  After any calls the buffer stands for the
    queue, which holds no more than its capacity; its positions and its length fit the storage,
    and no call reads or writes outside it. -/
theorem serve_eq_queue {ι : Type} (calls : List (ι × Call)) :
    let r := (serve perform blank calls).2
    let q := (serve Queue.perform .detached calls).2
    (serve perform blank calls).1 = (serve Queue.perform .detached calls).1 ∧
      r.toQueue = q ∧ q.bytes.length ≤ q.capacity ∧ r.Valid ∧
      ∀ c, ∀ p ∈ r.touched c, p < q.capacity := by
  intro r q
  obtain ⟨ha, hq, hv⟩ := serve_agrees (.inl rfl : blank.Valid) calls
  have hq : r.toQueue = q := hq
  refine ⟨ha, hq, ?_, hv, fun c => ?_⟩
  · rw [← hq]
    show r.contents.length ≤ r.capacity
    rw [hv.length_contents]
    exact hv.length_le
  · rw [← hq]
    exact hv.touched_lt c

end Ring

end Carousel
