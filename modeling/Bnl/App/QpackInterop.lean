import Bnl.Codec.Qpack

/-!
# `qpack-interop-encode` and `qpack-interop-decode`

The two programs between a text with lists of headers and a file with blocks. The files are byte strings here:
what is read of one, and what is written to the other before the program ends, with its exit status. A write
with a negative count is `none`.

A block in the file is eight bytes of id, four of size and the block itself. The encoder numbers the lists from
one and narrows the size to what four bytes hold; the decoder reads the id and does not look at it. Between the
two lies the text: a list is the lines up to an empty one, a line is a name, a tab and a value, and what begins
with a hash sign is a comment.

The names of the files, and what is read of them at once, are not here.
-/

namespace Bnl.App.QpackInterop

open Bnl.Base Bnl.Http3

/-! ## `qpack-interop-encode` -/

/-- `id_encode`: network order. -/
def idEncode (id : UInt64) : Buffer :=
  ⟨[(id >>> 56).toUInt8, (id >>> 48).toUInt8, (id >>> 40).toUInt8, (id >>> 32).toUInt8, (id >>> 24).toUInt8,
    (id >>> 16).toUInt8, (id >>> 8).toUInt8, (id >>> 0).toUInt8]⟩

/-- `size_encode`: network order. -/
def sizeEncode (encodedSize : UInt32) : Buffer :=
  ⟨[(encodedSize >>> 24).toUInt8, (encodedSize >>> 16).toUInt8, (encodedSize >>> 8).toUInt8,
    (encodedSize >>> 0).toUInt8]⟩

/-- `write`: the size is narrowed to an `int32_t`. -/
def write (dest : List UInt8) (encoded : Buffer) : Option (List UInt8) :=
  if encoded.size < 2 ^ 31 then some (dest ++ encoded.bytes) else none

/-- The loop of `encode` over the headers. -/
def encodeHeaders (host : Host) : Qpack.Encoder → List Header → Except Error (List Buffer) × Qpack.Encoder
  | qpack, [] => (.ok [], qpack)
  | qpack, header :: headers =>
    match qpack.encodeBuffer host header with
    | (.error error, qpack) => (.error error, qpack)
    | (.ok buffer, qpack) =>
      match encodeHeaders host qpack headers with
      | (.error error, qpack) => (.error error, qpack)
      | (.ok buffers, qpack) => (.ok (buffer :: buffers), qpack)

/-- `encode`. A size that does not fit is logged and narrowed. -/
def encode (host : Host) (id : UInt64) (headers : List Header) (output : List UInt8) :
    Option (Except Error Unit × List UInt8) :=
  match encodeHeaders host {} headers with
  | (.error error, _) => some (.error error, output)
  | (.ok buffers, qpack) => do
    let output ← write output (idEncode id)
    let output ← write output (sizeEncode (UInt32.ofNat qpack.count))
    let output ← buffers.foldlM write output
    some (.ok (), output)

/-- The lines `std::getline` reads off a text. -/
def lines : List UInt8 → List (List UInt8)
  | [] => []
  | byte :: text =>
    if byte = 0x0a then [] :: lines text
    else
      match lines text with
      | [] => [[byte]]
      | line :: rest => (byte :: line) :: rest

/-- The loop of `main`. Headers behind the last empty line are never encoded. -/
def encodeLoop (host : Host) : List (List UInt8) → (id : UInt64) → (headers : List Header) →
    (output : List UInt8) → Option (Nat × List UInt8)
  | [], _, _, output => some (0, output)
  | [] :: rest, id, headers, output =>
    if headers.isEmpty then encodeLoop host rest id headers output
    else
      match encode host id headers output with
      | none => none
      | some (.error _, output) => some (1, output)
      | some (.ok (), output) => encodeLoop host rest (id + 1) [] output
  | (first :: line) :: rest, id, headers, output =>
    if first = 0x23 then encodeLoop host rest id headers output
    else
      match (first :: line).findIdx? (· == 0x09) with
      | none => some (1, output)
      | some i =>
        encodeLoop host rest id (headers ++ [⟨(first :: line).take i, (first :: line).drop (i + 1)⟩]) output

/-- `main` of the encoder. -/
def encodeMain (host : Host) (input : List UInt8) : Option (Nat × List UInt8) := encodeLoop host (lines input) 1 [] []

/-! ## `qpack-interop-decode` -/

/-- `id_decode`. -/
def idDecode (encoded : Buffer) : Except Error UInt64 × Buffer :=
  if encoded.size < 8 then (.error .incomplete, encoded)
  else
    (.ok ((encoded.get 0).toUInt64 <<< 56 ||| (encoded.get 1).toUInt64 <<< 48 ||| (encoded.get 2).toUInt64 <<< 40 |||
      (encoded.get 3).toUInt64 <<< 32 ||| (encoded.get 4).toUInt64 <<< 24 ||| (encoded.get 5).toUInt64 <<< 16 |||
      (encoded.get 6).toUInt64 <<< 8 ||| (encoded.get 7).toUInt64 <<< 0), encoded.consume 8)

/-- `size_decode`. -/
def sizeDecode (encoded : Buffer) : Except Error UInt32 × Buffer :=
  if encoded.size < 4 then (.error .incomplete, encoded)
  else
    (.ok ((encoded.get 0).toUInt32 <<< 24 ||| (encoded.get 1).toUInt32 <<< 16 ||| (encoded.get 2).toUInt32 <<< 8 |||
      (encoded.get 3).toUInt32 <<< 0), encoded.consume 4)

/-- `write`: the headers as lines, and an empty one. -/
def writeHeaders (headers : List Header) : List UInt8 :=
  headers.flatMap (fun header => header.name ++ 0x09 :: (header.value ++ [0x0a])) ++ [0x0a]

/-- The loop of `decode`, as long as `fuel` lasts: a header takes a byte at least. -/
def decodeHeaders (encodedSize : Nat) : (fuel : Nat) → Qpack.Decoder → Buffer →
    Option (Except Error (List Header) × Buffer)
  | 0, _, _ => none
  | fuel + 1, qpack, encoded =>
    if qpack.count = encodedSize then some (.ok [], encoded)
    else
      match qpack.decode encoded with
      | (.error error, _, encoded) => some (.error error, encoded)
      | (.ok header, qpack, encoded) =>
        match decodeHeaders encodedSize fuel qpack encoded with
        | none => none
        | some (.error error, encoded) => some (.error error, encoded)
        | some (.ok headers, encoded) => some (.ok (header :: headers), encoded)

/-- `decode`: the rest of the file, and what it adds to the output. -/
def decode (encoded : Buffer) (output : List UInt8) : Option (Except Error Unit × Buffer × List UInt8) :=
  match idDecode encoded with
  | (.error error, encoded) => some (.error error, encoded, output)
  | (.ok _, encoded) =>
    match sizeDecode encoded with
    | (.error error, encoded) => some (.error error, encoded, output)
    | (.ok encodedSize, encoded) =>
      match decodeHeaders encodedSize.toNat (encoded.size + 1) {} encoded with
      | none => none
      | some (.error error, encoded) => some (.error error, encoded, output)
      | some (.ok headers, encoded) => some (.ok (), encoded, output ++ writeHeaders headers)

/-- The loop of `main`, as long as `fuel` lasts: a block takes twelve bytes at least. -/
def decodeLoop : (fuel : Nat) → (encoded : Buffer) → (output : List UInt8) → Option (Nat × List UInt8)
  | 0, _, _ => none
  | fuel + 1, encoded, output =>
    if encoded.empty then some (0, output)
    else
      match decode encoded output with
      | none => none
      | some (.error _, _, output) => some (1, output)
      | some (.ok (), encoded, output) => decodeLoop fuel encoded output

/-- `main` of the decoder. -/
def decodeMain (input : List UInt8) : Option (Nat × List UInt8) := decodeLoop (input.length + 1) ⟨input⟩ []

end Bnl.App.QpackInterop
