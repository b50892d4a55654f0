import Mathlib.Data.List.Basic
import Mathlib.Data.List.GetD

/-!
# Byte-addressed memory

What an encoder that is handed a pointer writes to. `set` writes one byte, `store` a list of bytes from an
address on, `load` reads a range back.

**The law** is the shape of a specification: an encoder is described by one equation, that the memory it leaves
is `store mem dest bytes`. Then it writes `bytes` (`load_store`) and touches nothing in front of them and
nothing behind (`get_store_of_lt`, `get_store_of_ge`). `store_append` puts encoders one behind another, and
`set_store_cons` and `modify_head` account for a byte that is written twice, as where flag bits are set first
and the value is put beside them later.

**What it does not establish.** Every address is there. That an encoder stays inside the allocation it was
handed is said by the length of `bytes`, and compared with the size of the allocation where that is known.
-/

/-- A byte at every address. Nothing is said of what is allocated. -/
def Memory : Type := Nat → UInt8

namespace Memory

/-- Memory that holds zero everywhere: what an encoder finds where nothing is said of the bytes before. -/
def zero : Memory := fun _ => 0

/-- The byte at an address. -/
def get (m : Memory) (a : Nat) : UInt8 := m a

/-- Write one byte. -/
def set (m : Memory) (a : Nat) (b : UInt8) : Memory := fun i => if i = a then b else m i

/-- Write bytes at `a` and at the addresses after it, the first byte first. -/
def store (m : Memory) (a : Nat) : List UInt8 → Memory
  | [] => m
  | b :: bs => store (m.set a b) (a + 1) bs

/-- The `n` bytes from `a` on. -/
def load (m : Memory) (a : Nat) : Nat → List UInt8
  | 0 => []
  | n + 1 => m.get a :: load m (a + 1) n

/-- Two memories with the same bytes are one. -/
@[ext] theorem ext {m m' : Memory} (h : ∀ i, m.get i = m'.get i) : m = m' := funext h

/-- What was written is read. -/
@[simp] theorem get_set_self (m : Memory) (a : Nat) (b : UInt8) : (m.set a b).get a = b :=
  if_pos rfl

/-- A byte elsewhere stays. -/
theorem get_set_of_ne {m : Memory} {a i : Nat} {b : UInt8} (h : i ≠ a) :
    (m.set a b).get i = m.get i := if_neg h

/-- The last write to an address counts. -/
@[simp] theorem set_set (m : Memory) (a : Nat) (b c : UInt8) :
    (m.set a b).set a c = m.set a c := by
  ext i
  by_cases h : i = a
  · subst h
    rw [get_set_self, get_set_self]
  · rw [get_set_of_ne h, get_set_of_ne h, get_set_of_ne h]

/-- The first byte of a list is written first. -/
theorem store_cons (m : Memory) (a : Nat) (b : UInt8) (bs : List UInt8) :
    m.store a (b :: bs) = (m.set a b).store (a + 1) bs := rfl

/-- One byte, as a list. -/
theorem store_singleton (m : Memory) (a : Nat) (b : UInt8) : m.store a [b] = m.set a b := rfl

/-- A list in two parts: the second is stored behind the first. -/
theorem store_append (m : Memory) (a : Nat) (bs cs : List UInt8) :
    m.store a (bs ++ cs) = (m.store a bs).store (a + bs.length) cs := by
  induction bs generalizing m a with
  | nil => rfl
  | cons b bs ih =>
    rw [List.cons_append, store_cons, ih, store_cons, List.length_cons]
    rw [Nat.add_assoc, Nat.add_comm 1]

/-- Bytes in front of a stored list stay. -/
theorem get_store_of_lt {m : Memory} {a i : Nat} {bs : List UInt8} (h : i < a) :
    (m.store a bs).get i = m.get i := by
  induction bs generalizing m a with
  | nil => rfl
  | cons b bs ih =>
    rw [store_cons, ih (by omega), get_set_of_ne (by omega)]

/-- Bytes behind a stored list stay. -/
theorem get_store_of_ge {m : Memory} {a i : Nat} {bs : List UInt8} (h : a + bs.length ≤ i) :
    (m.store a bs).get i = m.get i := by
  induction bs generalizing m a with
  | nil => rfl
  | cons b bs ih =>
    simp only [List.length_cons] at h
    rw [store_cons, ih (by omega), get_set_of_ne (by omega)]

/-- Storing a list into two memories that agree from its address on. -/
theorem get_store_congr {m m' : Memory} {a i : Nat} {bs : List UInt8} (hi : a ≤ i)
    (h : ∀ j, a ≤ j → m.get j = m'.get j) : (m.store a bs).get i = (m'.store a bs).get i := by
  induction bs generalizing m m' a with
  | nil => exact h i hi
  | cons b bs ih =>
    rw [store_cons, store_cons]
    rcases Nat.eq_or_lt_of_le hi with rfl | hlt
    · rw [get_store_of_lt (Nat.lt_succ_self a), get_store_of_lt (Nat.lt_succ_self a),
        get_set_self, get_set_self]
    · exact ih hlt fun j hj => by
        rw [get_set_of_ne (by omega), get_set_of_ne (by omega), h j (by omega)]

/-- Reading back what was stored. -/
@[simp] theorem load_store (m : Memory) (a : Nat) (bs : List UInt8) :
    (m.store a bs).load a bs.length = bs := by
  induction bs generalizing m a with
  | nil => rfl
  | cons b bs ih =>
    rw [List.length_cons, load, store_cons, ih, get_store_of_lt (Nat.lt_succ_self a), get_set_self]

/-- A first byte set before the list that overwrites it is stored does not count. -/
theorem set_store_cons (m : Memory) (a : Nat) (b c : UInt8) (bs : List UInt8) :
    (m.set a b).store a (c :: bs) = m.store a (c :: bs) := by
  rw [store_cons, set_set, store_cons]

/-- Reading and rewriting the first byte of a stored list: how a flag is put into a byte that holds a value
already. -/
theorem modify_head (m : Memory) (a : Nat) (b : UInt8) (bs : List UInt8) (f : UInt8 → UInt8) :
    (m.store a (b :: bs)).set a (f ((m.store a (b :: bs)).get a)) = m.store a (f b :: bs) := by
  have hget (c : UInt8) : (m.store a (c :: bs)).get a = c := by
    rw [store_cons, get_store_of_lt (Nat.lt_succ_self a), get_set_self]
  rw [hget]
  refine Memory.ext fun i => ?_
  by_cases h : i = a
  · subst h
    rw [get_set_self, hget]
  · rw [get_set_of_ne h, store_cons, store_cons]
    rcases Nat.lt_or_gt_of_ne h with hlt | hgt
    · rw [get_store_of_lt (by omega), get_store_of_lt (by omega), get_set_of_ne h, get_set_of_ne h]
    · refine get_store_congr hgt fun j hj => ?_
      have hj : a + 1 ≤ j := hj
      rw [get_set_of_ne (by omega), get_set_of_ne (by omega)]

@[simp] theorem length_load (m : Memory) (a n : Nat) : (m.load a n).length = n := by
  induction n generalizing a with
  | zero => rfl
  | succ n ih => rw [load, List.length_cons, ih]

/-- The front of what is read. -/
theorem take_load (m : Memory) (a n k : Nat) : (m.load a n).take k = m.load a (min k n) := by
  induction n generalizing a k with
  | zero =>
    rw [Nat.min_zero]
    exact List.take_nil
  | succ n ih =>
    cases k with
    | zero =>
      rw [Nat.zero_min]
      rfl
    | succ k => rw [load, List.take_succ_cons, ih, Nat.succ_min_succ, load]

/-- What is read behind the front. -/
theorem drop_load (m : Memory) (a n k : Nat) : (m.load a n).drop k = m.load (a + k) (n - k) := by
  induction k generalizing a n with
  | zero => rfl
  | succ k ih =>
    cases n with
    | zero =>
      rw [Nat.zero_sub]
      exact List.drop_nil
    | succ n => rw [load, List.drop_succ_cons, ih, Nat.succ_sub_succ, Nat.add_assoc, Nat.add_comm 1]

end Memory
