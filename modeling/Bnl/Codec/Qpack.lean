import Bnl.Codec.Literal
import Bnl.Codec.Qpack.DecodeGenerated
import Bnl.Codec.Qpack.EncodeGenerated

/-!
# `qpack::encoder` and `qpack::decoder`

A header block is two bytes of prefix and one instruction for each header. Both sides remember whether the
prefix is behind them, and count bytes. There is no dynamic table: the prefix is zero, and every index is into
the static table.

The encoder asks `find_index` for the header, which knows names and values by their hashes only, and writes one
of three forms: an index, an index for the name and a literal value, or two literals. The decoder takes the form
from the first byte of the line, with the masks of the generated source, which are not those of the encoder.

The hash is a field of `host`. Nothing here says that it tells two names apart; where that is needed it is a
hypothesis.
-/

namespace Bnl.Http3.Qpack

open Bnl.Base Table.Fixed

/-- `encoder::state` and `decoder::state`. -/
inductive State where
  | blockPrefix
  | header
  deriving DecidableEq, Repr

/-- `QPACK_PREFIX_ENCODED_SIZE`. -/
def qpackPrefixEncodedSize : Nat := 2

/-! ## Encoding -/

/-- `qpack::encoder`. -/
structure Encoder where
  state : State := .blockPrefix
  count : Nat := 0
  deriving DecidableEq, Repr

/-- An index into the static table for name and value. -/
def indexedHeaderFieldPrefix : UInt8 := 0xc0
/-- An index into the static table for the name. -/
def literalWithNameReferencePrefix : UInt8 := 0x50
/-- No index at all. -/
def literalWithoutNameReferencePrefix : UInt8 := 0x20
/-- What the value's byte is set to before the literal goes in. -/
def literalNoPrefix : UInt8 := 0x00

namespace Encoder

/-- `encoded_size(header)`: the size `encode` will write, with that of the prefix where it is still to come. A
name with an upper case letter is refused. -/
def encodedSize (host : Host) (e : Encoder) (header : Header) : Except Error Nat :=
  if !headerIsLowercase header then .error .malformedHeader
  else
    let encodedSize := if e.state = .blockPrefix then qpackPrefixEncodedSize else 0
    match findIndex host.xxh64 header with
    | (.headerValue, index) => .ok (encodedSize + PrefixInt.encodedSize index.toUInt64 6)
    | (.headerOnly, index) =>
      .ok (encodedSize + PrefixInt.encodedSize index.toUInt64 4 +
        Literal.encodedSize header.value 7)
    | (.missing, _) =>
      .ok (encodedSize + Literal.encodedSize header.name 3 + Literal.encodedSize header.value 7)

/-- The switch of `encode`: where the instruction ends, and the memory. -/
def encodeInstruction (host : Host) (m : Memory) (dest : Nat) (header : Header) : Nat × Memory :=
  match findIndex host.xxh64 header with
  | (.headerValue, index) =>
    let m := m.set dest indexedHeaderFieldPrefix
    let (n, m) := PrefixInt.encode m dest index.toUInt64 6
    (dest + n, m)
  | (.headerOnly, index) =>
    let m := m.set dest literalWithNameReferencePrefix
    let (n, m) := PrefixInt.encode m dest index.toUInt64 4
    let dest := dest + n
    let m := m.set dest literalNoPrefix
    let (n, m) := Literal.encode m dest header.value 7
    (dest + n, m)
  | (.missing, _) =>
    let m := m.set dest literalWithoutNameReferencePrefix
    let (n, m) := Literal.encode m dest header.name 3
    let dest := dest + n
    let m := m.set dest literalNoPrefix
    let (n, m) := Literal.encode m dest header.value 7
    (dest + n, m)

/-- `encode(dest, header)`. -/
def encode (host : Host) (e : Encoder) (m : Memory) (start : Nat) (header : Header) :
    Nat × Memory × Encoder :=
  let (dest, m) :=
    if e.state = .blockPrefix then
      (start + qpackPrefixEncodedSize, m.store start (List.replicate qpackPrefixEncodedSize 0))
    else (start, m)
  let (dest, m) := encodeInstruction host m dest header
  let encodedSize := dest - start
  (encodedSize, m, { state := .header, count := e.count + encodedSize })

/-- `encode(header)`: into a buffer of its own. -/
def encodeBuffer (host : Host) (e : Encoder) (header : Header) : Except Error Buffer × Encoder :=
  match e.encodedSize host header with
  | .error error => (.error error, e)
  | .ok encodedSize =>
    let (_, m, e) := e.encode host host.storage 0 header
    (.ok ⟨m.load 0 encodedSize⟩, e)

end Encoder

/-! ## Decoding -/

/-- `qpack::decoder`. -/
structure Decoder where
  state : State := .blockPrefix
  count : Nat := 0
  deriving DecidableEq, Repr

section Decode

variable {σ β : Type} [Storage β] [Sequence σ β]

/-- The switch of `decode`, on the first byte of the line. The index is narrowed to a byte before
it is looked up. -/
def lineDecode (first : UInt8) : Reader Error (Lookahead β) Header :=
  match findType first with
  | .headerValue =>
    -- the 'S' (static table) bit
    if first &&& 0x40 = 0 then throw .qpackDecompressionFailed
    else do
      let index ← PrefixInt.decode 6
      match findHeaderValue index.toUInt8 with
      | none => throw .qpackDecompressionFailed
      | some header => pure header
  | .headerOnly =>
    if first &&& 0x10 = 0 then throw .qpackDecompressionFailed
    else do
      let index ← PrefixInt.decode 4
      match findHeaderOnly index.toUInt8 with
      | none => throw .qpackDecompressionFailed
      | some name =>
        let value ← Literal.decode 7
        pure ⟨name, value⟩
  | .missing => do
    let name ← Literal.decode 3
    let value ← Literal.decode 7
    if headerIsLowercase ⟨name, value⟩ then pure ⟨name, value⟩ else throw .malformedHeader
  | .unknown => throw .qpackDecompressionFailed

namespace Decoder

/-- `decode`, the block prefix behind it. -/
def decodeHeader (d : Decoder) (encoded : σ) : Except Error Header × Decoder × σ :=
  let lookahead := Sequence.lookahead encoded
  if Sequence.empty lookahead then (.error .incomplete, d, encoded)
  else
    match lineDecode (Sequence.head lookahead) lookahead with
    | (.error e, _) => (.error e, d, encoded)
    | (.ok header, lookahead) =>
      (.ok header, { d with count := d.count + lookahead.consumed },
        Sequence.consume encoded lookahead.consumed)

/-- `decode`. The prefix is consumed as soon as it is there, whatever becomes of the header. -/
def decode (d : Decoder) (encoded : σ) : Except Error Header × Decoder × σ :=
  match d.state with
  | .blockPrefix =>
    if Sequence.size encoded < qpackPrefixEncodedSize then (.error .incomplete, d, encoded)
    else
      decodeHeader { state := .header, count := d.count + qpackPrefixEncodedSize }
        (Sequence.consume encoded qpackPrefixEncodedSize)
  | .header => d.decodeHeader encoded

end Decoder

end Decode

end Bnl.Http3.Qpack
