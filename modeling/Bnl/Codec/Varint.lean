import Bnl.Base.Sequence
import Bnl.Base.Types

/-!
# `http3::varint`

The variable-length integer of QUIC: the two high bits of the first byte say how many bytes there are, one, two,
four or eight, and what is left of them is the number in network order.

The four encoders and the four decoders are the source's own, a shift for each byte. An encoder sets the first
byte and puts the header into it afterwards, so what was at `dest` before is gone.

A number of 2^62 or more has no encoding: `encoded_size` answers `varint_overflow`. A decoder that has not all
the bytes answers `incomplete` and consumes nothing. There is no other error.
-/

namespace Bnl.Http3.Varint

open Bnl.Base

/-- `encoded_size(varint)`: how many bytes the number takes. -/
def encodedSize (varint : UInt64) : Except Error Nat :=
  if varint < 0x40 then .ok 1
  else if varint < (0x40 : UInt64) <<< 8 then .ok 2
  else if varint < (0x40 : UInt64) <<< 24 then .ok 4
  else if varint < (0x40 : UInt64) <<< 56 then .ok 8
  else .error .varintOverflow

/-- The header of one byte, `0b00`. -/
def uint8Header : UInt8 := 0x00
/-- The header of two bytes, `0b01`. -/
def uint16Header : UInt8 := 0x40
/-- The header of four bytes, `0b10`. -/
def uint32Header : UInt8 := 0x80
/-- The header of eight bytes, `0b11`. -/
def uint64Header : UInt8 := 0xc0

/-- `uint8_encode(dest, number)`: one byte. -/
def uint8Encode (m : Memory) (dest : Nat) (number : UInt8) : Memory :=
  let m := m.set dest (number >>> 0)
  m.set dest (m.get dest ||| uint8Header)

/-- `uint16_encode(dest, number)`: two bytes, the high one first, and the header into that. -/
def uint16Encode (m : Memory) (dest : Nat) (number : UInt16) : Memory :=
  let m := m.set dest (number >>> 8).toUInt8
  let m := m.set (dest + 1) (number >>> 0).toUInt8
  m.set dest (m.get dest ||| uint16Header)

/-- `uint32_encode(dest, number)`: four bytes. -/
def uint32Encode (m : Memory) (dest : Nat) (number : UInt32) : Memory :=
  let m := m.set dest (number >>> 24).toUInt8
  let m := m.set (dest + 1) (number >>> 16).toUInt8
  let m := m.set (dest + 2) (number >>> 8).toUInt8
  let m := m.set (dest + 3) (number >>> 0).toUInt8
  m.set dest (m.get dest ||| uint32Header)

/-- `uint64_encode(dest, number)`: eight bytes. -/
def uint64Encode (m : Memory) (dest : Nat) (number : UInt64) : Memory :=
  let m := m.set dest (number >>> 56).toUInt8
  let m := m.set (dest + 1) (number >>> 48).toUInt8
  let m := m.set (dest + 2) (number >>> 40).toUInt8
  let m := m.set (dest + 3) (number >>> 32).toUInt8
  let m := m.set (dest + 4) (number >>> 24).toUInt8
  let m := m.set (dest + 5) (number >>> 16).toUInt8
  let m := m.set (dest + 6) (number >>> 8).toUInt8
  let m := m.set (dest + 7) (number >>> 0).toUInt8
  m.set dest (m.get dest ||| uint64Header)

/-- `encode(dest, varint)`: the bytes written and the memory they were written to. -/
def encode (m : Memory) (dest : Nat) (varint : UInt64) : Except Error (Nat × Memory) := do
  let varintSize ← encodedSize varint
  match varintSize with
  | 1 => pure (varintSize, uint8Encode m dest varint.toUInt8)
  | 2 => pure (varintSize, uint16Encode m dest varint.toUInt16)
  | 4 => pure (varintSize, uint32Encode m dest varint.toUInt32)
  | 8 => pure (varintSize, uint64Encode m dest varint)
  | _ => pure (varintSize, m)

/-- `encode(varint)`: into a buffer of its own. -/
def encodeBuffer (host : Host) (varint : UInt64) : Except Error Buffer := do
  let encodedSize ← encodedSize varint
  let (_, m) ← encode host.storage 0 varint
  pure ⟨m.load 0 encodedSize⟩

section Decode

variable {β : Type} [Storage β]

/-- `uint8_decode(lookahead)`: the number without the header's two bits, and the lookahead behind it. -/
def uint8Decode (lookahead : Lookahead β) : UInt8 × Lookahead β :=
  let result := lookahead.get 0 &&& 0x3f
  (result, lookahead.consume 1)

/-- `uint16_decode(lookahead)`. -/
def uint16Decode (lookahead : Lookahead β) : UInt16 × Lookahead β :=
  let result := (lookahead.get 0).toUInt16 <<< 8 ||| (lookahead.get 1).toUInt16 <<< 0
  (result &&& 0x3fff, lookahead.consume 2)

/-- `uint32_decode(lookahead)`. -/
def uint32Decode (lookahead : Lookahead β) : UInt32 × Lookahead β :=
  let result := (lookahead.get 0).toUInt32 <<< 24 ||| (lookahead.get 1).toUInt32 <<< 16 |||
    (lookahead.get 2).toUInt32 <<< 8 ||| (lookahead.get 3).toUInt32 <<< 0
  (result &&& 0x3fffffff, lookahead.consume 4)

/-- `uint64_decode(lookahead)`. -/
def uint64Decode (lookahead : Lookahead β) : UInt64 × Lookahead β :=
  let result := (lookahead.get 0).toUInt64 <<< 56 ||| (lookahead.get 1).toUInt64 <<< 48 |||
    (lookahead.get 2).toUInt64 <<< 40 ||| (lookahead.get 3).toUInt64 <<< 32 |||
    (lookahead.get 4).toUInt64 <<< 24 ||| (lookahead.get 5).toUInt64 <<< 16 |||
    (lookahead.get 6).toUInt64 <<< 8 ||| (lookahead.get 7).toUInt64 <<< 0
  (result &&& 0x3fffffffffffffff, lookahead.consume 8)

variable {σ : Type} [Sequence σ β]

/-- `decode(encoded)`: looks ahead for as many bytes as the first announces, and consumes them only when they
are all there. -/
def decode : Reader Error σ UInt64 := fun encoded =>
  let lookahead := Sequence.lookahead encoded
  if Sequence.empty lookahead then (.error .incomplete, encoded)
  else
    let header := Sequence.head lookahead >>> 6
    -- varint size = 2^header
    let varintSize := 1 <<< header.toNat
    if lookahead.size < varintSize then (.error .incomplete, encoded)
    else
      let (varint, lookahead) : UInt64 × Lookahead β :=
        match varintSize with
        | 1 => ((uint8Decode lookahead).1.toUInt64, (uint8Decode lookahead).2)
        | 2 => ((uint16Decode lookahead).1.toUInt64, (uint16Decode lookahead).2)
        | 4 => ((uint32Decode lookahead).1.toUInt64, (uint32Decode lookahead).2)
        | 8 => uint64Decode lookahead
        | _ => (0, lookahead)
      (.ok varint, Sequence.consume encoded lookahead.consumed)

end Decode

end Bnl.Http3.Varint
