import Mathlib.Algebra.Group.Nat.Defs
import Mathlib.Data.Fintype.Basic
import Mathlib.Data.List.Basic

/-!
# Bytes as numbers

A byte list read as a base-256 numeral, most significant byte first (`ofBytes`), and the low digits of a number
written as such a list (`toBytes`).

**The law** (`ofBytes_toBytes`): what was written reads as the number, as far as the digits go. `ofBytes_append`
takes a numeral apart at any byte, and is how an integer that straddles two pieces of input is read.

The rest turns the bit operations of a program into arithmetic: `or_eq_add` says that an `or` of disjoint bits
is a sum, and the masks and shifts follow. A fact about one byte is checked on all 256 of them through
`forall_byte`, so no proof enumerates bytes itself.
-/

namespace Bytes

/-- The number that the bytes denote, most significant first: the empty list is zero, and leading zeros count
for nothing. -/
def ofBytes : List UInt8 → Nat
  | [] => 0
  | b :: bs => b.toNat * 256 ^ bs.length + ofBytes bs

/-- The low `n` base-256 digits of `x`, most significant first. Digits above the `n`-th are lost, as in a store
to a narrower field. -/
def toBytes : Nat → Nat → List UInt8
  | 0, _ => []
  | n + 1, x => UInt8.ofNat (x / 256 ^ n) :: toBytes n x

@[simp] theorem ofBytes_nil : ofBytes [] = 0 := rfl

@[simp] theorem ofBytes_cons (b : UInt8) (bs : List UInt8) :
    ofBytes (b :: bs) = b.toNat * 256 ^ bs.length + ofBytes bs := rfl

/-- A numeral cut in two: the front part counts for as many bytes as come behind it. -/
theorem ofBytes_append (a b : List UInt8) :
    ofBytes (a ++ b) = ofBytes a * 256 ^ b.length + ofBytes b := by
  induction a with
  | nil => simp
  | cons x xs ih =>
    rw [List.cons_append, ofBytes_cons, ofBytes_cons, ih, List.length_append, Nat.pow_add,
      Nat.add_mul, Nat.mul_assoc, Nat.add_assoc]

@[simp] theorem length_toBytes (n x : Nat) : (toBytes n x).length = n := by
  induction n with
  | zero => rfl
  | succ n ih => rw [toBytes, List.length_cons, ih]

/-- Writing and reading keeps the digits written. The induction takes the most significant digit off, which is
why the modulus is that of the digits left. -/
theorem ofBytes_toBytes (n x : Nat) : ofBytes (toBytes n x) = x % 256 ^ n := by
  induction n with
  | zero => rw [Nat.pow_zero, Nat.mod_one]; rfl
  | succ n ih =>
    rw [toBytes, ofBytes_cons, ih, length_toBytes, Nat.pow_succ, Nat.mod_mul]
    have hb : (UInt8.ofNat (x / 256 ^ n)).toNat = x / 256 ^ n % 256 := UInt8.toNat_ofNat'
    rw [hb, Nat.mul_comm, Nat.add_comm]

/-- A decidable fact about a byte, from its 256 cases. -/
theorem forall_byte {p : UInt8 → Prop} (h : ∀ i : Fin 256, p (UInt8.ofNat i.val)) (b : UInt8) :
    p b := by
  have hb := h ⟨b.toNat, b.toNat_lt⟩
  rwa [UInt8.ofNat_toNat] at hb

/-- The top bit of a byte, as a bound on its value. -/
theorem and_128 : ∀ b : UInt8, b &&& 128 = 128 ↔ 128 ≤ b.toNat := forall_byte (by decide +kernel)

/-- What a mask leaves below the top bit. -/
theorem and_127 : ∀ b : UInt8, (b &&& 127).toNat = b.toNat % 128 :=
  forall_byte (by decide +kernel)

/-- Disjoint bits: `or` is addition. Every place where a program sets flag bits beside a value comes down to
this. -/
theorem or_eq_add {x y k : Nat} (hx : x % 2 ^ k = 0) (hy : y < 2 ^ k) : x ||| y = x + y := by
  obtain ⟨q, rfl⟩ := Nat.dvd_of_mod_eq_zero hx
  exact (Nat.two_pow_add_eq_or_of_lt hy q).symm

/-- One byte put below the bytes that are there. -/
theorem or_byte (k : Nat) {x : Nat} (b : UInt8) (hx : x % 2 ^ (k + 8) = 0) :
    x ||| b.toNat <<< k = x + b.toNat * 2 ^ k := by
  rw [Nat.shiftLeft_eq]
  refine or_eq_add hx ?_
  rw [Nat.pow_add, Nat.mul_comm]
  exact Nat.mul_lt_mul_of_pos_left b.toNat_lt (Nat.two_pow_pos k)

/-- A shifted byte that stays inside the word. -/
theorem shiftLeft_mod (b : UInt8) {k n : Nat} (h : k + 8 ≤ n) :
    b.toNat <<< k % 2 ^ n = b.toNat <<< k := by
  refine Nat.mod_eq_of_lt ?_
  rw [Nat.shiftLeft_eq]
  calc b.toNat * 2 ^ k < 2 ^ 8 * 2 ^ k := Nat.mul_lt_mul_of_pos_right b.toNat_lt (Nat.two_pow_pos k)
    _ = 2 ^ (k + 8) := by rw [Nat.pow_add, Nat.mul_comm]
    _ ≤ 2 ^ n := Nat.pow_le_pow_right (by decide) h

end Bytes
