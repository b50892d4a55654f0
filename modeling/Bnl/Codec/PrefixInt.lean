import Bnl.Base.Sequence
import Bnl.Base.Types

/-!
# `qpack::prefix_int`

An integer whose first bits share a byte with flags. `width` is the source's `prefix`, the number of bits of the
first byte the integer may use. A number that fits in them with one value to spare is written there; else they
are all set, and what is above that follows seven bits a byte, low ones first, the high bit set where another
byte comes.

Both loops are by well-founded recursion on the number, which a round divides by 128. The decoder's takes fuel:
a round reads a byte, so the size of the input is enough, and running out of fuel is running out of input.

The decoder adds up as the source does: a product of 32 bits, shifted by a count that C++ leaves undefined from
32 on, added to 64 bits that wrap. So it reads some long encodings as other numbers than they stand for; where
it does is a law and not a hypothesis.
-/

namespace Bnl.Http3.Qpack.PrefixInt

open Bnl.Base

/-- `(1U << prefix) - 1`, cut to a byte: the bits the integer may use. -/
def prefixMax (width : UInt8) : UInt8 := ((1 : UInt32) <<< width.toUInt32 - 1).toUInt8

/-- The loop of `encoded_size`: how many bytes follow the one that holds the last seven bits. -/
def encodedSizeLoop (value : UInt64) (encodedSize : Nat) : Nat :=
  if 128 ≤ value then encodedSizeLoop (value / 128) (encodedSize + 1) else encodedSize
termination_by value.toNat
decreasing_by
  rename_i h
  have hle : 128 ≤ value.toNat := UInt64.le_iff_toNat_le.mp h
  rw [UInt64.toNat_div]
  exact Nat.div_lt_self (by omega) (by decide)

/-- `encoded_size(value, prefix)`: one byte, or one for the prefix and those of the loop. -/
def encodedSize (value : UInt64) (width : UInt8) : Nat :=
  let prefixMax := (prefixMax width).toUInt64
  if value < prefixMax then 1 else encodedSizeLoop (value - prefixMax) 1 + 1

/-- The loop of `encode` and the byte after it: where the next byte goes, and the memory. -/
def encodeLoop (m : Memory) (dest : Nat) (value : UInt64) : Nat × Memory :=
  if 128 ≤ value then
    encodeLoop (m.set dest (value % 128 + 128).toUInt8) (dest + 1) (value / 128)
  else (dest + 1, m.set dest value.toUInt8)
termination_by value.toNat
decreasing_by
  rename_i h
  have hle : 128 ≤ value.toNat := UInt64.le_iff_toNat_le.mp h
  rw [UInt64.toNat_div]
  exact Nat.div_lt_self (by omega) (by decide)

/-- `encode(dest, value, prefix)`: the first byte keeps its bits above the prefix. -/
def encode (m : Memory) (dest : Nat) (value : UInt64) (width : UInt8) : Nat × Memory :=
  let prefixMax := prefixMax width
  if value < prefixMax.toUInt64 then
    (1, m.set dest ((m.get dest &&& ~~~prefixMax) ||| value.toUInt8))
  else
    let m := m.set dest (m.get dest ||| prefixMax)
    let (last, m) := encodeLoop m (dest + 1) (value - prefixMax.toUInt64)
    (last - dest, m)

section Decode

variable {σ β : Type} [Storage β] [Sequence σ β]

/-- `uint8_decode(encoded)`: the next byte. -/
def uint8Decode : Reader Error σ UInt8 := fun encoded =>
  if Sequence.empty encoded then (.error .incomplete, encoded)
  else (.ok (Sequence.head encoded), Sequence.consume encoded 1)

/-- `(byte & 127U) * (1U << offset)`, an `unsigned` product added to a `uint64_t`. The shift is
undefined in C++ from offset 32 on; it is read here as the machine's, which takes the count
modulo 32. -/
def contribution (byte : UInt8) (offset : UInt64) : UInt64 :=
  ((byte &&& 127).toUInt32 * ((1 : UInt32) <<< offset.toUInt32)).toUInt64

/-- The loop of `decode`. Each round reads a byte, so it ends within the size of the input. -/
def decodeLoop : Nat → UInt64 → UInt64 → Reader Error σ UInt64
  | 0, _, _ => throw .incomplete
  | fuel + 1, result, offset => do
    let byte ← uint8Decode
    let result := result + contribution byte offset
    if byte &&& 128 = 128 then decodeLoop fuel result (offset + 7) else pure result

/-- What `decode` reads, on an input of `size` bytes. -/
def decodeResult (width : UInt8) (size : Nat) : Reader Error σ UInt64 := do
  let byte ← uint8Decode
  let prefixMax := (prefixMax width).toUInt64
  let result := byte.toUInt64 &&& prefixMax
  if prefixMax ≤ result then decodeLoop size result 0 else pure result

/-- `decode`. It reads from `encoded` itself: the lookahead it makes is never moved, and what was
read before an error stays read. -/
def decode (width : UInt8) : Reader Error σ UInt64 := fun encoded =>
  let lookahead := Sequence.lookahead encoded
  match decodeResult width (Sequence.size encoded) encoded with
  | (.error e, encoded) => (.error e, encoded)
  | (.ok result, encoded) => (.ok result, Sequence.consume encoded lookahead.consumed)

end Decode

end Bnl.Http3.Qpack.PrefixInt
