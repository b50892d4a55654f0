import Bnl.Base.Iterator
import Bnl.Library.Run

/-!
# `base::buffers` is a byte queue

Where the sizes are right no iterator passes the end of the list: the loops of `consume` and `concat`, which do
not look for it, stop at what they count, and `operator[]` and `slice` find a buffer where they stop. So the
operations are those on the byte string.

**The law** is `Queue.does_always`, over any calls that may be made, from any list of fragments: each does to
the concatenation what its name says, and no iterator goes past the end. The checked functions answer `none`
where one would; a call may be made where the size it is given is there.

Each checked function is shown to be the unchecked one where it is called so (`consumeChecked_eq` and the like),
and the unchecked ones are related to the byte string by the laws of `Buffer`. Empty fragments may stand
anywhere, which is why `discard` in front of `slice` matters: without it the search may stop at a buffer without
bytes.
-/

namespace Bnl.Base

open Buffers

/-- A buffer is not consumed past its end. -/
theorem Buffer.consumeChecked_eq {b : Buffer} {n : Nat} (h : n ≤ b.size) :
    b.consumeChecked n = some (b.consume n) := if_pos h

theorem Buffer.sliceChecked_eq {b : Buffer} {n : Nat} (h : n ≤ b.size) :
    b.sliceChecked n = some (b.slice n) := if_pos h

namespace Buffers

/-! ## Where the loops stop -/

/-- In front of the first buffer that is not empty. -/
theorem findFirstNotEmpty_eq (passed bs : List Buffer) : findFirstNotEmpty passed bs =
    ⟨passed ++ bs.takeWhile Buffer.empty, bs.dropWhile Buffer.empty⟩ := by
  induction bs generalizing passed with
  | nil =>
    rw [findFirstNotEmpty, List.takeWhile_nil, List.append_nil]
    rfl
  | cons b bs ih =>
    unfold findFirstNotEmpty
    cases h : b.empty with
    | true =>
      rw [List.takeWhile_cons_of_pos h, List.dropWhile_cons_of_pos h, if_neg (by decide), ih, List.append_assoc]
      rfl
    | false =>
      rw [List.takeWhile_cons_of_neg (Bool.eq_false_iff.mp h), List.dropWhile_cons_of_neg (Bool.eq_false_iff.mp h)]
      rw [List.append_nil]
      rfl

/-- In front of the buffer that holds the end of the slice. -/
theorem seekEnd_eq (passed bs : List Buffer) (n : Nat) : seekEnd passed bs n =
    (⟨passed ++ (findEnd bs n).1, (findEnd bs n).2.1⟩, (findEnd bs n).2.2) := by
  induction bs generalizing passed n with
  | nil =>
    rw [seekEnd, findEnd, List.append_nil]
  | cons b bs ih =>
    unfold seekEnd findEnd
    by_cases h : n > b.size
    · rw [if_pos h, if_pos h, ih, List.append_assoc]
      rfl
    · rw [if_neg h, if_neg h, List.append_nil]

/-- In front of the buffer that holds the byte. -/
theorem seekIndex_spec {bs : List Buffer} {i : Nat} (passed : List Buffer)
    (h : i < (bs.flatMap Buffer.bytes).length) : ∃ it b tl k, seekIndex passed bs i = (it, k) ∧
      it.ahead = b :: tl ∧ b.bytes[k]? = (bs.flatMap Buffer.bytes)[i]? := by
  induction bs generalizing passed i with
  | nil => exact absurd h (Nat.not_lt_zero i)
  | cons b bs ih =>
    unfold seekIndex
    rw [List.flatMap_cons, List.length_append] at h
    by_cases hge : i ≥ b.size
    · rw [if_pos hge]
      have hrest : i - b.size < (bs.flatMap Buffer.bytes).length := by
        unfold Buffer.size at hge ⊢
        omega
      obtain ⟨it, b', tl, k, hit, hahead, hbyte⟩ := ih (passed ++ [b]) hrest
      refine ⟨it, b', tl, k, hit, hahead, ?_⟩
      rw [hbyte, List.flatMap_cons, List.getElem?_append_right hge]
      rfl
    · rw [if_neg hge]
      refine ⟨_, b, bs, i, rfl, rfl, ?_⟩
      rw [List.flatMap_cons, List.getElem?_append_left (Nat.lt_of_not_le hge)]

/-- `consume` stops before the end where there are as many bytes as it drops. -/
theorem consumeLoop_eq {bs : List Buffer} {n : Nat} (passed : List Buffer)
    (h : n ≤ (bs.flatMap Buffer.bytes).length) :
    consumeLoop passed bs n = some ⟨passed ++ consumeFrom bs n⟩ := by
  induction bs generalizing passed n with
  | nil =>
    have hzero : n = 0 := Nat.le_zero.mp h
    unfold consumeLoop consumeFrom
    rw [if_neg (not_not_intro hzero), List.append_nil]
  | cons b bs ih =>
    unfold consumeLoop consumeFrom
    by_cases hzero : n = 0
    · rw [if_neg (not_not_intro hzero), if_pos hzero]
    · rw [if_pos hzero, if_neg hzero]
      rw [List.flatMap_cons, List.length_append] at h
      have hrest : n - min n b.size ≤ (bs.flatMap Buffer.bytes).length := by
        unfold Buffer.size
        omega
      dsimp only [Bind.bind]
      rw [Buffer.consumeChecked_eq (Nat.min_le_right n b.size)]
      dsimp only [Option.bind]
      rw [ih (passed ++ [b.consume (min n b.size)]) hrest, List.append_assoc]
      rfl

/-- The loops of `concat` stop at `end`, behind the buffers that lie in front of it. -/
theorem sizeLoop_eq (before rest : List Buffer) (position size : Nat) :
    sizeLoop (position + before.length) position (before ++ rest) size =
      some (size + (before.flatMap Buffer.bytes).length) := by
  induction before generalizing position size with
  | nil =>
    cases rest with
    | nil => exact if_neg (not_not_intro rfl)
    | cons b rest => exact if_neg (not_not_intro rfl)
  | cons b before ih =>
    rw [List.cons_append, sizeLoop, if_pos (by rw [List.length_cons]; omega), List.length_cons,
      Nat.add_comm before.length, ← Nat.add_assoc, ih, List.flatMap_cons, List.length_append, Nat.add_assoc]
    rfl

/-- The loop of `concat` copies the buffers it comes past. The induction is on these. -/
theorem copyLoop_eq (before rest : List Buffer) (position : Nat) (m : Memory) (offset : Nat) :
    copyLoop (position + before.length) position (before ++ rest) m offset =
      some (m.store offset (before.flatMap Buffer.bytes), offset + (before.flatMap Buffer.bytes).length) := by
  induction before generalizing position m offset with
  | nil =>
    cases rest with
    | nil => exact if_neg (not_not_intro rfl)
    | cons b rest => exact if_neg (not_not_intro rfl)
  | cons b before ih =>
    rw [List.cons_append, copyLoop, if_pos (by rw [List.length_cons]; omega), List.length_cons,
      Nat.add_comm before.length, ← Nat.add_assoc, ih, List.flatMap_cons, List.length_append, Nat.add_assoc,
      Memory.store_append]
    rfl

/-- What is copied is what the buffers from `start` to `end` hold, whatever the storage held. -/
theorem concatChecked_eq (storage : Memory) (passed before : List Buffer) {b : Buffer} (tl : List Buffer) {left : Nat}
    (h : left ≤ b.size) :
    concatChecked storage ⟨passed, before ++ b :: tl⟩ ⟨passed ++ before, b :: tl⟩ left =
      some (concat before b left) := by
  have hposition : (Iterator.mk (passed ++ before) (b :: tl)).position = passed.length + before.length :=
    List.length_append
  unfold concatChecked
  rw [hposition]
  dsimp only [Bind.bind, Iterator.position]
  rw [sizeLoop_eq, copyLoop_eq]
  dsimp only [Option.bind, Iterator.deref, List.head?_cons]
  rw [Nat.zero_add, if_pos ⟨h, Nat.le_refl _⟩]
  have hload := Memory.load_store storage 0 (before.flatMap Buffer.bytes ++ b.bytes.take left)
  rw [Memory.store_append, List.length_append, List.length_take_of_le h, Nat.zero_add] at hload
  exact congrArg (fun bs => some (Buffer.mk bs)) hload

/-! ## The operations -/

variable {s : Buffers} {n : Nat}

/-- The byte that `operator[]` finds. -/
theorem getChecked_eq {i : Nat} (h : i < s.size) : s.getChecked i = s.bytes[i]? := by
  have hlt : i < (s.buffers.flatMap Buffer.bytes).length := s.size_eq ▸ h
  obtain ⟨it, b, tl, k, hit, hahead, hbyte⟩ := seekIndex_spec [] hlt
  unfold getChecked
  rw [if_pos h, hit]
  dsimp only [Bind.bind, Iterator.deref]
  rw [hahead]
  exact hbyte

/-- `consume`, of no more than there is. -/
theorem consumeChecked_eq (h : n ≤ s.size) : s.consumeChecked n = some (s.consume n) := by
  unfold consumeChecked
  rw [if_pos h, consumeLoop_eq [] (s.size_eq ▸ h)]
  rfl

/-- A slice within a queue that is not empty. -/
theorem sliceChecked_eq (storage : Memory) (h : n ≤ s.size) (hne : s.size ≠ 0) :
    s.sliceChecked storage n = some (s.slice n) := by
  have hflat : (s.buffers.dropWhile Buffer.empty).flatMap Buffer.bytes = s.bytes :=
    flatMap_dropWhile_empty s.buffers
  rw [size_eq] at h hne
  have hahead : s.buffers.dropWhile Buffer.empty ≠ [] := by
    intro hnil
    rw [hnil] at hflat
    rw [← hflat] at hne
    exact hne rfl
  obtain ⟨first, others, hfirst⟩ := List.exists_cons_of_ne_nil hahead
  obtain ⟨before, rest, left, hend⟩ : ∃ before rest left,
      findEnd (s.buffers.dropWhile Buffer.empty) n = (before, rest, left) := ⟨_, _, _, rfl⟩
  obtain ⟨b, tl, rfl, hsplit, hleft, hsum⟩ := findEnd_spec hend (hflat ▸ h) hahead
  unfold sliceChecked slice
  rw [if_pos (s.size_eq ▸ h), findFirstNotEmpty_eq]
  dsimp only [Bind.bind, Iterator.deref]
  rw [seekEnd_eq, hend, hfirst]
  dsimp only [Option.bind, List.head?_cons]
  cases before with
  | nil =>
    -- the first buffer that is not empty holds it all
    obtain ⟨rfl, rfl⟩ := List.cons.inj (hfirst.symm.trans hsplit)
    rw [List.append_nil, if_pos rfl, Buffer.sliceChecked_eq hleft]
    rfl
  | cons c before =>
    have hposition : ¬ (Iterator.mk ([] ++ s.buffers.takeWhile Buffer.empty) (first :: others)).position =
        (Iterator.mk ([] ++ s.buffers.takeWhile Buffer.empty ++ c :: before) (b :: tl)).position := by
      simp only [Iterator.position, List.length_append, List.length_cons]
      omega
    have hresult : (concat (c :: before) b left).size ≤ s.size := by
      have hlength : (concat (c :: before) b left).size = n := by
        unfold concat Buffer.size
        rw [hsum, List.length_append, List.length_take_of_le hleft]
      rw [hlength, size_eq]
      exact h
    rw [if_neg hposition, ← hfirst, hsplit, concatChecked_eq storage _ _ tl hleft]
    dsimp only
    rw [consumeChecked_eq hresult]
    rfl

/-- `pop`, of a list with bytes. -/
theorem popChecked_eq (h : s.size ≠ 0) : s.popChecked = some s.pop := by
  unfold popChecked pop
  rw [if_pos (Nat.pos_of_ne_zero h)]
  cases hs : s.buffers with
  | nil =>
    refine absurd ?_ h
    unfold size
    rw [hs]
    rfl
  | cons b bs => rfl

end Buffers

/-! ## Runs -/

namespace Queue

/-- A call; `storage` is what the buffer holds that a slice of several buffers is copied to. -/
inductive Op where
  | push (buffer : Buffer)
  | consume (size : Nat)
  | slice (size : Nat) (storage : Memory)
  | pop

/-- The queue, and the buffer that the last call returned. -/
structure State where
  queue : Buffers := {}
  returned : Buffer := {}

/-- One call. -/
def step (t : State) : Op → Option State
  | .push buffer => some { queue := t.queue.push buffer }
  | .consume size => (t.queue.consumeChecked size).map fun queue => { queue }
  | .slice size storage =>
    (t.queue.sliceChecked storage size).map fun (returned, queue) => { queue, returned }
  | .pop => t.queue.popChecked.map fun (returned, queue) => { queue, returned }

/-- The call may be made: there is as much to take as it takes. -/
def Allowed (t : State) : Op → Prop
  | .push _ => True
  | .consume size => size ≤ t.queue.size
  | .slice size _ => size ≤ t.queue.size ∧ t.queue.size ≠ 0
  | .pop => t.queue.size ≠ 0

instance Allowed.decidable : ∀ t op, Decidable (Allowed t op)
  | _, .push _ => isTrue trivial
  | t, .consume size => inferInstanceAs (Decidable (size ≤ t.queue.size))
  | t, .slice size _ => inferInstanceAs (Decidable (size ≤ t.queue.size ∧ t.queue.size ≠ 0))
  | t, .pop => inferInstanceAs (Decidable (t.queue.size ≠ 0))

/-- What the call does, the queue seen as the bytes of its fragments. -/
def Does (t : State) (op : Op) (t' : State) : Prop :=
  match op with
  | .push buffer => t'.queue.bytes = t.queue.bytes ++ buffer.bytes
  | .consume size => t'.queue.bytes = t.queue.bytes.drop size
  | .slice size _ => t'.returned.bytes = t.queue.bytes.take size ∧ t'.queue.bytes = t.queue.bytes.drop size
  | .pop => t.queue.buffers = t'.returned :: t'.queue.buffers

/-- `size()` and `operator[]` are those of the bytes. -/
def Indexed (s : Buffers) : Prop :=
  s.size = s.bytes.length ∧ ∀ i < s.size, ∃ byte, s.bytes[i]? = some byte ∧ s.getChecked i = some byte

/-- Every index below the size is a byte of the string. -/
theorem indexed (s : Buffers) : Indexed s := by
  refine ⟨s.size_eq, fun i hi => ?_⟩
  have hlt : i < s.bytes.length := s.size_eq ▸ hi
  refine ⟨_, List.getElem?_eq_getElem hlt, ?_⟩
  rw [Buffers.getChecked_eq hi, List.getElem?_eq_getElem hlt]

/-- A call that may be made is answered, as on a string of bytes. -/
theorem step_does {t : State} {op : Op} (h : Allowed t op) : ∃ t', step t op = some t' ∧ Does t op t' := by
  cases op with
  | push buffer => exact ⟨_, rfl, Buffers.push_bytes t.queue buffer⟩
  | consume size =>
    refine ⟨{ queue := t.queue.consume size }, ?_, Buffers.consume_bytes t.queue size⟩
    exact congrArg (Option.map _) (Buffers.consumeChecked_eq h)
  | slice size storage =>
    obtain ⟨hsize, hne⟩ := h
    refine ⟨{ queue := (t.queue.slice size).2, returned := (t.queue.slice size).1 }, ?_, ?_⟩
    · exact congrArg (Option.map _) (Buffers.sliceChecked_eq storage hsize hne)
    · have hbytes : t.queue.bytes ≠ [] := by
        intro hnil
        rw [Buffers.size_eq, hnil] at hne
        exact hne rfl
      exact Buffers.slice_bytes (t.queue.size_eq ▸ hsize) hbytes
  | pop =>
    refine ⟨{ queue := t.queue.pop.2, returned := t.queue.pop.1 }, ?_, ?_⟩
    · exact congrArg (Option.map _) (Buffers.popChecked_eq h)
    · obtain ⟨⟨bs⟩, returned⟩ := t
      cases bs with
      | nil => exact absurd rfl h
      | cons b bs => rfl

/-- **A byte queue**: in a run of calls that may be made, from any list of fragments, every call does to the
bytes what it should, and no iterator passes the end. -/
theorem does_always (t : State) (ops : List Op) (h : Run.Meets step Allowed t ops) :
    Indexed t.queue ∧ Run.Always step (fun t op t' => Does t op t' ∧ Indexed t'.queue) t ops := by
  refine ⟨indexed t.queue, Run.always_of_meets (I := fun _ => True) (fun t op _ hallowed => ?_) trivial h⟩
  obtain ⟨t', hstep, hdoes⟩ := step_does hallowed
  exact ⟨t', hstep, ⟨hdoes, indexed t'.queue⟩, trivial⟩

/-- Three fragments, the middle one empty; a slice that ends with the first byte of the last. -/
theorem does_always_slice : Indexed {} ∧ Run.Always step (fun t op t' => Does t op t' ∧ Indexed t'.queue) {}
    [.push ⟨[1, 2]⟩, .push {}, .push ⟨[3, 4]⟩, .slice 3 Memory.zero, .consume 1, .push ⟨[5]⟩, .pop] :=
  does_always {} _ (by decide)

end Queue

end Bnl.Base
