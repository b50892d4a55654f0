import Mathlib.Algebra.GroupWithZero.Nat
import Mathlib.Data.List.Basic
import Mathlib.Data.List.GetD

/-!
# `base::buffer` and `base::buffers`

A `Buffer` is the byte range one `base::buffer` denotes: who owns the storage, and whether it is inline or
shared, is a matter of a lower level. A `Buffers` is the list of `base::buffers`, in list order, empty fragments
included.

Reading outside a buffer is an assertion failure in the source. The functions here are total all the same: an
index past the end reads zero, and what the source would do to an iterator past the end of its list leaves the
list as it is. The decoders never go there.

**The laws** at the end of the file say that a list of buffers is a byte string to every operation: what it
returns, and what it leaves, is what the operation on the concatenation returns and leaves (`get_eq`,
`consume_bytes`, `push_bytes`, `slice_bytes`, `pop_bytes`). The rest of the development speaks of these byte
strings only, but where the fragments themselves matter: which is in the queues of a stream, and in the body
events of a message.
-/

namespace Bnl.Base

/-- The bytes a `base::buffer` covers, from `begin()` to `end()`. -/
structure Buffer where
  bytes : List UInt8 := []
  deriving DecidableEq, Repr, Inhabited

namespace Buffer

/-- `size()`. -/
def size (b : Buffer) : Nat := b.bytes.length

/-- `empty()`. -/
def empty (b : Buffer) : Bool := b.size == 0

/-- `operator[]`; past the end it reads zero. -/
def get (b : Buffer) (index : Nat) : UInt8 := b.bytes.getD index 0

/-- `consume(size)`; more than there is leaves nothing. -/
def consume (b : Buffer) (size : Nat) : Buffer := ⟨b.bytes.drop size⟩

/-- The next `size` bytes, and the buffer that keeps the rest. A slice of no bytes is a buffer of its own, as in
the source. -/
def slice (b : Buffer) (size : Nat) : Buffer × Buffer :=
  if size == 0 then ({}, b) else (⟨b.bytes.take size⟩, b.consume size)

theorem empty_iff {b : Buffer} : b.empty = true ↔ b.bytes = [] := by
  simp [empty, size]

theorem slice_fst_bytes (b : Buffer) (n : Nat) : (b.slice n).1.bytes = b.bytes.take n := by
  cases n <;> simp [slice]

theorem slice_snd_bytes (b : Buffer) (n : Nat) : (b.slice n).2.bytes = b.bytes.drop n := by
  cases n <;> simp [slice, consume]

end Buffer

/-- The list of buffers of a `base::buffers`. Empty buffers may stand anywhere in it; `discard` takes those in
front away. -/
structure Buffers where
  buffers : List Buffer := []
  deriving DecidableEq, Repr, Inhabited

namespace Buffers

/-- The byte string a list of buffers stands for. -/
def bytes (s : Buffers) : List UInt8 := s.buffers.flatMap Buffer.bytes

def size (s : Buffers) : Nat := (s.buffers.map Buffer.size).sum

def empty (s : Buffers) : Bool := s.size == 0

/-- The walk of `operator[]`: skip whole buffers while the index reaches past them. An empty buffer is skipped
by any index. -/
def getFrom : List Buffer → Nat → UInt8
  | [], _ => 0
  | b :: bs, index => if index ≥ b.size then getFrom bs (index - b.size) else b.get index

/-- `operator[]`. -/
def get (s : Buffers) (index : Nat) : UInt8 := getFrom s.buffers index

/-- `discard`: erase the empty buffers at the front. -/
def discard (s : Buffers) : Buffers := ⟨s.buffers.dropWhile Buffer.empty⟩

/-- The loop of `consume`, which takes what it can off each buffer and leaves the emptied ones in the list. -/
def consumeFrom : List Buffer → Nat → List Buffer
  | [], _ => []
  | b :: bs, size =>
    if size = 0 then b :: bs
    else b.consume (min size b.size) :: consumeFrom bs (size - min size b.size)

def consume (s : Buffers) (size : Nat) : Buffers := discard ⟨consumeFrom s.buffers size⟩

def push (s : Buffers) (buffer : Buffer) : Buffers := ⟨s.buffers ++ [buffer]⟩

def pop (s : Buffers) : Buffer × Buffers :=
  match s.buffers with
  | [] => ({}, s)
  | b :: bs => (b, ⟨bs⟩)

def front (s : Buffers) : Buffer := s.buffers.headD {}

def back (s : Buffers) : Buffer := s.buffers.getLastD {}

/-- The search for `end` in `slice`: the buffers that lie wholly in front of it, the list from it on, and how
much of `size` is left there. A slice that ends where a buffer ends has its end in that buffer. -/
def findEnd : List Buffer → Nat → List Buffer × List Buffer × Nat
  | [], left => ([], [], left)
  | b :: bs, left =>
    if left > b.size then
      let (before, rest, left') := findEnd bs (left - b.size)
      (b :: before, rest, left')
    else ([], b :: bs, left)

/-- `concat(start, end, left)`: the buffers from `start` up to `end` and `left` bytes of `end`, copied into one
buffer. -/
def concat (before : List Buffer) (last : Buffer) (left : Nat) : Buffer :=
  ⟨before.flatMap Buffer.bytes ++ last.bytes.take left⟩

/-- The next `size` bytes, and the buffers that keep the rest. Bytes of one buffer are sliced off
it, bytes of several are copied and then consumed. -/
def slice (s : Buffers) (size : Nat) : Buffer × Buffers :=
  let leading := s.buffers.takeWhile Buffer.empty
  match findEnd (s.buffers.dropWhile Buffer.empty) size with
  | ([], b :: rest, left) =>
    let (result, b') := b.slice left
    (result, discard ⟨leading ++ b' :: rest⟩)
  | (before, b :: _, left) =>
    let result := concat before b left
    (result, s.consume result.size)
  -- no buffer holds the end of the slice: the assertion that `end` is in the list
  | (_, [], _) => ({}, s)

/-! ## Buffers as a byte string -/

/-- The size is that of the byte string. -/
theorem size_eq (s : Buffers) : s.size = s.bytes.length := by
  rw [size, bytes, List.length_flatMap]
  rfl

/-- A list is empty where it has no bytes, whatever buffers are in it. -/
theorem empty_iff {s : Buffers} : s.empty = true ↔ s.bytes = [] := by
  rw [empty, beq_iff_eq, size_eq, List.length_eq_zero_iff]

/-- The walk finds the byte of the concatenation. -/
theorem getFrom_eq (bs : List Buffer) (i : Nat) :
    getFrom bs i = (bs.flatMap Buffer.bytes).getD i 0 := by
  induction bs generalizing i with
  | nil => rfl
  | cons b bs ih =>
    rw [getFrom, List.flatMap_cons]
    by_cases h : i ≥ b.size
    · rw [if_pos h, ih, List.getD_append_right _ _ _ _ h]
      rfl
    · rw [if_neg h, List.getD_append _ _ _ _ (Nat.lt_of_not_le h)]
      rfl

/-- `operator[]` is indexing into the byte string. -/
theorem get_eq (s : Buffers) (i : Nat) : s.get i = s.bytes.getD i 0 := getFrom_eq s.buffers i

/-- Buffers without bytes contribute none. -/
theorem flatMap_dropWhile_empty (bs : List Buffer) :
    (bs.dropWhile Buffer.empty).flatMap Buffer.bytes = bs.flatMap Buffer.bytes := by
  induction bs with
  | nil => rfl
  | cons b bs ih =>
    cases h : b.empty with
    | true => simp [h, ih, Buffer.empty_iff.mp h]
    | false => simp [h]

theorem flatMap_takeWhile_empty (bs : List Buffer) :
    (bs.takeWhile Buffer.empty).flatMap Buffer.bytes = [] := by
  induction bs with
  | nil => rfl
  | cons b bs ih =>
    cases h : b.empty with
    | true => simp [h, ih, Buffer.empty_iff.mp h]
    | false => simp [h]

@[simp] theorem discard_bytes (s : Buffers) : s.discard.bytes = s.bytes :=
  flatMap_dropWhile_empty s.buffers

/-- The loop takes the bytes off the concatenation. The induction is on the list, with what is left to consume. -/
theorem consumeFrom_bytes (bs : List Buffer) (n : Nat) :
    (consumeFrom bs n).flatMap Buffer.bytes = (bs.flatMap Buffer.bytes).drop n := by
  induction bs generalizing n with
  | nil => simp [consumeFrom]
  | cons b bs ih =>
    rw [consumeFrom]
    split
    · next h => rw [h, List.drop_zero]
    · next h =>
      rw [List.flatMap_cons, List.flatMap_cons, ih, List.drop_append]
      rcases Nat.le_total n b.size with hle | hle
      · simp only [Nat.min_eq_left hle, Buffer.consume, Nat.sub_self]
        rw [show n - b.bytes.length = 0 from Nat.sub_eq_zero_of_le hle]
      · simp only [Buffer.consume, Buffer.size] at hle ⊢
        rw [Nat.min_eq_right hle, List.drop_length, List.drop_of_length_le hle]

/-- `consume` drops from the byte string. -/
theorem consume_bytes (s : Buffers) (n : Nat) : (s.consume n).bytes = s.bytes.drop n := by
  rw [consume, discard_bytes]
  exact consumeFrom_bytes s.buffers n

/-- What is pushed comes last. -/
theorem push_bytes (s : Buffers) (b : Buffer) : (s.push b).bytes = s.bytes ++ b.bytes := by
  simp [push, bytes]

/-- Where `findEnd` stops: `size` bytes are the buffers before it and `left` bytes of its own. Where there are
that many bytes, it stops at a buffer. -/
theorem findEnd_spec {bs before rest : List Buffer} {n left : Nat}
    (h : findEnd bs n = (before, rest, left)) (hn : n ≤ (bs.flatMap Buffer.bytes).length)
    (hbs : bs ≠ []) :
    ∃ b tl, rest = b :: tl ∧ bs = before ++ rest ∧ left ≤ b.size ∧
      n = (before.flatMap Buffer.bytes).length + left := by
  induction bs generalizing n before with
  | nil => exact absurd rfl hbs
  | cons b bs ih =>
    rw [findEnd] at h
    split at h
    · next hgt =>
      simp only [List.flatMap_cons, List.length_append] at hn
      simp only [Buffer.size] at hgt h
      cases bs with
      | nil =>
        simp only [List.flatMap_nil, List.length_nil] at hn
        omega
      | cons b' bs' =>
        match hf : findEnd (b' :: bs') (n - b.bytes.length) with
        | (before', rest', left') =>
          rw [hf] at h
          simp only [Prod.mk.injEq] at h
          obtain ⟨rfl, rfl, rfl⟩ := h
          obtain ⟨c, tl, hr, hb, hl, hsum⟩ := ih hf (by omega) (List.cons_ne_nil _ _)
          refine ⟨c, tl, hr, by rw [hb]; rfl, hl, ?_⟩
          simp only [List.flatMap_cons, List.length_append]
          omega
    · next hle =>
      cases h
      exact ⟨b, bs, rfl, rfl, Nat.not_lt.mp hle, by simp⟩

/-- `slice` splits the byte string: what it returns, then what it keeps. On a list without bytes the source
fails its assertion, so there the law has nothing to say. -/
theorem slice_bytes {s : Buffers} {n : Nat} (hn : n ≤ s.bytes.length) (hs : s.bytes ≠ []) :
    (s.slice n).1.bytes = s.bytes.take n ∧ (s.slice n).2.bytes = s.bytes.drop n := by
  have hflat : (s.buffers.dropWhile Buffer.empty).flatMap Buffer.bytes = s.bytes :=
    flatMap_dropWhile_empty s.buffers
  have hne : s.buffers.dropWhile Buffer.empty ≠ [] := by
    intro h
    rw [h] at hflat
    exact hs hflat.symm
  match hf : findEnd (s.buffers.dropWhile Buffer.empty) n with
  | (before, rest, left) =>
    obtain ⟨b, tl, rfl, hsplit, hleft, hsum⟩ := findEnd_spec hf (by rw [hflat]; exact hn) hne
    have hbytes : s.bytes = before.flatMap Buffer.bytes ++ (b.bytes ++ tl.flatMap Buffer.bytes) := by
      rw [← hflat, hsplit, List.flatMap_append, List.flatMap_cons]
    cases before with
    | nil =>
      simp only [List.flatMap_nil, List.nil_append, List.length_nil, Nat.zero_add] at hbytes hsum
      subst hsum
      simp only [slice, hf, discard_bytes]
      constructor
      · rw [Buffer.slice_fst_bytes, hbytes, List.take_append_of_le_length hleft]
      · simp only [bytes, List.flatMap_append, List.flatMap_cons, flatMap_takeWhile_empty,
          Buffer.slice_snd_bytes, List.nil_append]
        rw [← List.drop_append_of_le_length hleft]
        exact congrArg (List.drop n) hbytes.symm
    | cons c before =>
      have hresult : (concat (c :: before) b left).bytes = s.bytes.take n := by
        rw [hbytes, hsum, List.take_append, List.take_of_length_le (by omega),
          Nat.add_sub_cancel_left, List.take_append_of_le_length hleft]
        rfl
      simp only [slice, hf]
      refine ⟨hresult, ?_⟩
      rw [consume_bytes, Buffer.size, hresult, List.length_take, Nat.min_eq_left hn]

/-- Popping takes the first fragment off the byte string. -/
theorem pop_bytes (s : Buffers) : s.pop.1.bytes ++ s.pop.2.bytes = s.bytes := by
  cases s with
  | mk bs => cases bs <;> rfl

end Buffers

end Bnl.Base
