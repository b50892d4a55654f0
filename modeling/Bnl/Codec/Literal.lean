import Bnl.Codec.Huffman
import Bnl.Codec.PrefixInt

/-!
# `qpack::literal`

A string: a flag above the prefix that says whether it is Huffman coded, the size of what follows as a prefix
integer, and the string. The encoder takes the Huffman form where it is shorter, and the plain form where the
two are of one size.

Both the flag and the prefix go into a byte the caller has set: the bits above the flag are the caller's, the
flag's own bit must be clear. The decoder reads through a lookahead and consumes it all at once, so an error
leaves the input as it was.
-/

namespace Bnl.Http3.Qpack.Literal

open Bnl.Base

/-- The size of the shorter form of the string, without the prefix integer in front. -/
def literalEncodedSize (literal : List UInt8) : Nat :=
  let huffmanEncodedSize := Huffman.encodedSize literal
  if huffmanEncodedSize < literal.length then huffmanEncodedSize else literal.length

/-- `encoded_size`, in natural numbers as `huffman::encoded_size` is; see `SizeT.Literal.encodedSize`. -/
def encodedSize (literal : List UInt8) (width : UInt8) : Nat :=
  PrefixInt.encodedSize (UInt64.ofNat (literalEncodedSize literal)) width +
    literalEncodedSize literal

/-- `encode(dest, literal, prefix)`. The flag is set only for the Huffman form: the caller has
cleared it. -/
def encode (m : Memory) (dest : Nat) (literal : List UInt8) (width : UInt8) : Nat × Memory :=
  let literalEncodedSize := literalEncodedSize literal
  if literalEncodedSize < literal.length then
    let m := m.set dest (m.get dest ||| ((1 : UInt32) <<< width.toUInt32).toUInt8)
    let (n, m) := PrefixInt.encode m dest (UInt64.ofNat literalEncodedSize) width
    let (k, m) := Huffman.encode m (dest + n) literal
    (n + k, m)
  else
    let (n, m) := PrefixInt.encode m dest (UInt64.ofNat literalEncodedSize) width
    let m := m.store (dest + n) literal
    (n + literal.length, m)

section Decode

variable {σ β : Type} [Storage β] [Sequence σ β]

/-- `static_cast<uint8_t>(*lookahead >> prefix) & 0x01`. -/
def flag (first width : UInt8) : Bool :=
  (first.toUInt32 >>> width.toUInt32).toUInt8 &&& 0x01 == 1

/-- The plain form: the next `size` bytes of the lookahead, one after another. -/
def plainDecode (size : Nat) : Reader Error (Lookahead β) (List UInt8) := fun lookahead =>
  (.ok ((List.range size).map lookahead.get), lookahead.consume size)

/-- What `decode` reads through its lookahead, after it has looked at the flag. -/
def decodeBody (isHuffman : Bool) (width : UInt8) : Reader Error (Lookahead β) (List UInt8) := do
  let literalEncodedSize ← PrefixInt.decode width
  let lookahead ← get
  if lookahead.size < literalEncodedSize.toNat then throw .incomplete
  else
    let boundedEncodedSize := literalEncodedSize.toNat
    if isHuffman then Huffman.decode boundedEncodedSize else plainDecode boundedEncodedSize

/-- `decode(encoded, prefix)`. The flag is read from the first byte before the integer is. -/
def decode (width : UInt8) : Reader Error σ (List UInt8) := fun encoded =>
  let lookahead := Sequence.lookahead encoded
  if Sequence.empty lookahead then (.error .incomplete, encoded)
  else
    let isHuffman := flag (Sequence.head lookahead) width
    match decodeBody isHuffman width lookahead with
    | (.error e, _) => (.error e, encoded)
    | (.ok literal, lookahead) => (.ok literal, Sequence.consume encoded lookahead.consumed)

end Decode

end Bnl.Http3.Qpack.Literal
