import Bnl.Codec.Qpack

/-!
# `qpack::encoder`, in `size_t`

The functions that announce and write a header once more, with sizes as the code has them: sums of `size_t` and
a `uint64_t` count, which wrap at 2^64. The functions of the same names without `SizeT` count in natural
numbers. They are what these come to for strings whose bits can be counted, and what the rest of the development
speaks of; that the two agree there is a theorem, and the bound it takes is stated with it.

What is shared: the memory that is written to, whose addresses are numbers, and the encoders of prefix integers
and of Huffman codes, which take no sum of sizes.
-/

namespace Bnl.Http3.Qpack.SizeT

open Bnl.Base Table.Fixed

/-- `huffman::encoded_size`. -/
def Huffman.encodedSize (string : List UInt8) : UInt64 :=
  let numBits := string.foldl
    (fun n byte => n + UInt64.ofNat (Qpack.Huffman.encodingSymbol byte.toNat).numBits) 0
  -- pad the prefix of EOS (256)
  (numBits + 7) / 8

/-- The size of the shorter form, where the comparison is of `size_t` too: a Huffman size that has wrapped looks
short. -/
def Literal.literalEncodedSize (literal : List UInt8) : UInt64 :=
  let huffmanEncodedSize := Huffman.encodedSize literal
  if huffmanEncodedSize < UInt64.ofNat literal.length then huffmanEncodedSize
  else UInt64.ofNat literal.length

/-- `literal::encoded_size`. -/
def Literal.encodedSize (literal : List UInt8) (width : UInt8) : UInt64 :=
  UInt64.ofNat (PrefixInt.encodedSize (literalEncodedSize literal) width) + literalEncodedSize literal

/-- `literal::encode(dest, literal, prefix)`. -/
def Literal.encode (m : Memory) (dest : Nat) (literal : List UInt8) (width : UInt8) : UInt64 × Memory :=
  let literalEncodedSize := literalEncodedSize literal
  if literalEncodedSize < UInt64.ofNat literal.length then
    let m := m.set dest (m.get dest ||| ((1 : UInt32) <<< width.toUInt32).toUInt8)
    let (n, m) := PrefixInt.encode m dest literalEncodedSize width
    let (k, m) := Qpack.Huffman.encode m (dest + n) literal
    (UInt64.ofNat (n + k), m)
  else
    let (n, m) := PrefixInt.encode m dest literalEncodedSize width
    let m := m.store (dest + n) literal
    (UInt64.ofNat (n + literal.length), m)

/-- `qpack::encoder`. -/
structure Encoder where
  state : State := .blockPrefix
  count : UInt64 := 0
  deriving DecidableEq, Repr

namespace Encoder

/-- `encoded_size(header)`: what the encoder announces, a sum that wraps. -/
def encodedSize (host : Host) (e : Encoder) (header : Header) : Except Error UInt64 :=
  if !headerIsLowercase header then .error .malformedHeader
  else
    let encodedSize : UInt64 :=
      if e.state = .blockPrefix then UInt64.ofNat qpackPrefixEncodedSize else 0
    match findIndex host.xxh64 header with
    | (.headerValue, index) =>
      .ok (encodedSize + UInt64.ofNat (PrefixInt.encodedSize index.toUInt64 6))
    | (.headerOnly, index) =>
      .ok (encodedSize + UInt64.ofNat (PrefixInt.encodedSize index.toUInt64 4) +
        Literal.encodedSize header.value 7)
    | (.missing, _) =>
      .ok (encodedSize + Literal.encodedSize header.name 3 + Literal.encodedSize header.value 7)

/-- The switch of `encode`: where the instruction ends, and the memory. -/
def encodeInstruction (host : Host) (m : Memory) (dest : Nat) (header : Header) : Nat × Memory :=
  match findIndex host.xxh64 header with
  | (.headerValue, index) =>
    let m := m.set dest indexedHeaderFieldPrefix
    let (n, m) := PrefixInt.encode m dest index.toUInt64 6
    (dest + n, m)
  | (.headerOnly, index) =>
    let m := m.set dest literalWithNameReferencePrefix
    let (n, m) := PrefixInt.encode m dest index.toUInt64 4
    let dest := dest + n
    let m := m.set dest literalNoPrefix
    let (n, m) := Literal.encode m dest header.value 7
    (dest + n.toNat, m)
  | (.missing, _) =>
    let m := m.set dest literalWithoutNameReferencePrefix
    let (n, m) := Literal.encode m dest header.name 3
    let dest := dest + n.toNat
    let m := m.set dest literalNoPrefix
    let (n, m) := Literal.encode m dest header.value 7
    (dest + n.toNat, m)

/-- `encode(dest, header)`. -/
def encode (host : Host) (e : Encoder) (m : Memory) (start : Nat) (header : Header) :
    UInt64 × Memory × Encoder :=
  let (dest, m) :=
    if e.state = .blockPrefix then
      (start + qpackPrefixEncodedSize, m.store start (List.replicate qpackPrefixEncodedSize 0))
    else (start, m)
  let (dest, m) := encodeInstruction host m dest header
  let encodedSize := UInt64.ofNat (dest - start)
  (encodedSize, m, { state := .header, count := e.count + encodedSize })

/-- `encode(header)`: into a buffer of its own, of the size that was announced. -/
def encodeBuffer (host : Host) (e : Encoder) (header : Header) : Except Error Buffer × Encoder :=
  match e.encodedSize host header with
  | .error error => (.error error, e)
  | .ok encodedSize =>
    let (_, m, e) := e.encode host host.storage 0 header
    (.ok ⟨m.load 0 encodedSize.toNat⟩, e)

end Encoder

end Bnl.Http3.Qpack.SizeT
