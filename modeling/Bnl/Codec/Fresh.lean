import Bnl.Base.Storage
import Bnl.Codec.Literal

/-!
# Encoding into a buffer of its own

What a buffer holds that was made by `buffer(size)`, and the parts of `qpack` that write to such a buffer
without having set anything in it. `varint`, `frame` and `qpack::encoder` have theirs beside their encoders, on
a storage nothing is said of.

A short buffer lies inside the object, in a union with the pointer that a long one keeps, and the constructor
clears the pointer. So the first eight bytes of a short buffer are zero, and what else is in it, or in a block
of the heap, is whatever was there. Where a value depends on these bytes, the model gives the dependence and
`host.storage` is arbitrary.
-/

namespace Bnl

open Base

/-- The bytes of `buffer(size)`. In a short buffer `rc_(nullptr)` clears those that the pointer lies over;
nothing else is set. -/
def Host.buffer (host : Host) (size : Nat) : Memory := fun i =>
  if Storage.Buffer.sso size ∧ i < 8 then 0 else host.storage.get i

namespace Http3.Qpack

/-- `encode(value, prefix)`: into a buffer of its own. -/
def PrefixInt.encodeBuffer (host : Host) (value : UInt64) (width : UInt8) : Buffer :=
  let encodedSize := encodedSize value width
  let (_, m) := encode (host.buffer encodedSize) 0 value width
  ⟨m.load 0 encodedSize⟩

/-- `encode(string)`: into a buffer of its own. -/
def Huffman.encodeBuffer (host : Host) (string : List UInt8) : Buffer :=
  let encodedSize := encodedSize string
  let (_, m) := encode (host.buffer encodedSize) 0 string
  ⟨m.load 0 encodedSize⟩

/-- `encode(literal, prefix)`: into a buffer of its own. -/
def Literal.encodeBuffer (host : Host) (literal : List UInt8) (width : UInt8) : Buffer :=
  let encodedSize := encodedSize literal width
  let (_, m) := encode (host.buffer encodedSize) 0 literal width
  ⟨m.load 0 encodedSize⟩

end Http3.Qpack

end Bnl
