import Bnl.Base.Sequence
import Bnl.Base.Types
import Bnl.Codec.Huffman.DecodeGenerated
import Bnl.Codec.Huffman.EncodeGenerated

/-!
# `qpack::huffman`

The encoder shifts each code into the bytes at `dest`, `rem_bits` of the current byte still free, and fills the
last byte with the first bits of the code that ends a string. The decoder walks the automaton over the half
bytes twice, first to count the symbols and to see that the string is well formed, then to write them; the
second walk looks at no flag but `symbol`.

The codes and the automaton are generated sources, kept as tables of their own modules. A table lookup past the
end is not in the source's domain: the functions here answer a node that fails there, and the decoder never
asks.

What is not modelled is the order of the writes within a byte string that is being decoded: the second walk is
the list of the symbols it writes.
-/

namespace Bnl.Http3.Qpack.Huffman

open Bnl.Base

/-! ## Encoding -/

/-- `encoding::table[i]`. -/
def encodingSymbol (i : Nat) : Encoding.Symbol := Encoding.table.getD i ⟨0, 0⟩

/-- `encoded_size(string)`, its sum in natural numbers: a `size_t` wraps from 2^64 bits on, which no string that
fits in a memory has. `SizeT.Huffman.encodedSize` is the sum that wraps. -/
def encodedSize (string : List UInt8) : Nat :=
  let numBits := string.foldl (fun n byte => n + (encodingSymbol byte.toNat).numBits) 0
  -- pad the prefix of EOS (256)
  (numBits + 7) / 8

/-- The `while (num_bits > 8)` of `symbol_encode` and the byte after it. -/
def symbolEncodeLoop (m : Memory) (dest : Nat) (code : UInt32) (numBits : Nat) :
    Memory × Nat × Nat :=
  if 8 < numBits then
    let m := m.set dest (code >>> UInt32.ofNat (numBits - numBits % 8)).toUInt8
    symbolEncodeLoop m (dest + 1) code (numBits - 8)
  else (m.set dest code.toUInt8, dest, numBits)

/-- `symbol_encode`: the memory, where the next bit goes, and the bits free there. -/
def symbolEncode (m : Memory) (dest remBits : Nat) (symbol : Encoding.Symbol) :
    Memory × Nat × Nat :=
  let code := symbol.code
  let numBits := symbol.numBits
  let m := if remBits = 8 then m.set dest 0 else m
  let (m, dest, remBits) :=
    if numBits ≤ remBits then
      let m := m.set dest (m.get dest ||| (code <<< UInt32.ofNat (remBits - numBits)).toUInt8)
      (m, dest, remBits - numBits)
    else
      let m := m.set dest (m.get dest ||| (code >>> UInt32.ofNat (numBits - remBits)).toUInt8)
      let dest := dest + 1
      let numBits := numBits - remBits
      -- align the code to the MSB byte boundary
      let code := if numBits &&& 7 ≠ 0 then code <<< UInt32.ofNat (8 - (numBits &&& 7)) else code
      let (m, dest, numBits) := symbolEncodeLoop m dest code numBits
      (m, dest, 8 - numBits)
  if remBits = 0 then (m, dest + 1, 8) else (m, dest, remBits)

/-- The loop of `encode` over the string. -/
def encodeLoop : List UInt8 → Memory → Nat → Nat → Memory × Nat × Nat
  | [], m, dest, remBits => (m, dest, remBits)
  | byte :: string, m, dest, remBits =>
    let (m, dest, remBits) := symbolEncode m dest remBits (encodingSymbol byte.toNat)
    encodeLoop string m dest remBits

/-- `encode(dest, string)`. -/
def encode (m : Memory) (dest : Nat) (string : List UInt8) : Nat × Memory :=
  let (m, last, remBits) := encodeLoop string m dest 8
  if remBits < 8 then
    -- 256 is the terminal symbol, pad with its prefix
    let symbol := encodingSymbol 256
    let m := m.set last
      (m.get last ||| (symbol.code >>> UInt32.ofNat (symbol.numBits - remBits)).toUInt8)
    (last + 1 - dest, m)
  else (last - dest, m)

/-! ## Decoding -/

/-- `decoding::table[state][bits]`. -/
def decodingNode (state bits : UInt8) : Decoding.Node :=
  (Decoding.table.getD state.toNat []).getD bits.toNat ⟨0, Decoding.Flag.failed, 0⟩

/-- `node.flags & flag`. -/
def Decoding.Node.has (node : Decoding.Node) (flag : UInt8) : Bool := node.flags &&& flag != 0

section Decode

variable {σ β : Type} [Storage β] [Sequence σ β]

/-- The loop of `decoded_size`, `left` bytes before its end. -/
def decodedSizeLoop (encoded : σ) : (left i : Nat) → (state : UInt8) → (accept : Bool) →
    (decodedSize : Nat) → Except Error Nat
  | 0, _, _, accept, decodedSize =>
    if accept then .ok decodedSize else .error .qpackDecompressionFailed
  | left + 1, i, state, _, decodedSize =>
    let first := decodingNode state (Sequence.get encoded i >>> 4)
    if first.has Decoding.Flag.failed then .error .qpackDecompressionFailed
    else
      let decodedSize := if first.has Decoding.Flag.symbol then decodedSize + 1 else decodedSize
      let second := decodingNode first.state (Sequence.get encoded i &&& 0xf)
      if second.has Decoding.Flag.failed then .error .qpackDecompressionFailed
      else
        let decodedSize := if second.has Decoding.Flag.symbol then decodedSize + 1 else decodedSize
        decodedSizeLoop encoded left (i + 1) second.state (second.has Decoding.Flag.accepted)
          decodedSize

/-- `decoded_size(encoded, encoded_size)`: the number of symbols, an error where the string is not well formed.
A string of no bytes is none: it has not reached an accepting state. -/
def decodedSize (encoded : σ) (encodedSize : Nat) : Except Error Nat :=
  if Sequence.size encoded < encodedSize then .error .incomplete
  else decodedSizeLoop encoded encodedSize 0 0 false 0

/-- The loop of `decode`: the symbols written, in order. -/
def decodeLoop (encoded : σ) : (left i : Nat) → (state : UInt8) → List UInt8
  | 0, _, _ => []
  | left + 1, i, state =>
    let first := decodingNode state (Sequence.get encoded i >>> 4)
    let second := decodingNode first.state (Sequence.get encoded i &&& 0xf)
    (if first.has Decoding.Flag.symbol then [first.symbol] else []) ++
      (if second.has Decoding.Flag.symbol then [second.symbol] else []) ++
      decodeLoop encoded left (i + 1) second.state

/-- `decode`. The string has the size counted first; what is not written in it stays zero. -/
def decode (encodedSize : Nat) : Reader Error σ (List UInt8) := fun encoded =>
  match decodedSize encoded encodedSize with
  | .error e => (.error e, encoded)
  | .ok decodedSize =>
    let written := decodeLoop encoded encodedSize 0 0
    let decoded := written ++ List.replicate (decodedSize - written.length) 0
    (.ok decoded, Sequence.consume encoded encodedSize)

end Decode

end Bnl.Http3.Qpack.Huffman
