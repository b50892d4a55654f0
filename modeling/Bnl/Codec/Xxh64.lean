import Mathlib.Data.List.Basic

/-!
# XXH64 with seed 0

The xxHash dependency, as published: four lanes over stripes of 32 bytes, the rest in words of eight, of four
and of one byte, and a final mix. `find_index` calls it with seed 0 only, so the seed is left out.

The laws take the hash as a parameter and say what they need of it. This function is what the parameter stands
for: the witnesses are evaluated with it, the generated tables hold its values, and the collision it has with a
name of the static table is found with it.
-/

namespace Bnl.Xxh64

/-- `XXH_PRIME64_1`. -/
def prime1 : UInt64 := 0x9E3779B185EBCA87
/-- `XXH_PRIME64_2`. -/
def prime2 : UInt64 := 0xC2B2AE3D27D4EB4F
/-- `XXH_PRIME64_3`. -/
def prime3 : UInt64 := 0x165667B19E3779F9
/-- `XXH_PRIME64_4`. -/
def prime4 : UInt64 := 0x85EBCA77C2B2AE63
/-- `XXH_PRIME64_5`. -/
def prime5 : UInt64 := 0x27D4EB2F165667C5

/-- `XXH_rotl64(x, r)`. -/
def rotl (x r : UInt64) : UInt64 := x <<< r ||| x >>> (64 - r)

/-- Bytes in little-endian order. -/
def read : List UInt8 → UInt64
  | [] => 0
  | b :: bs => b.toUInt64 ||| read bs <<< 8

/-- `XXH64_round`: one lane of a stripe into its accumulator. -/
def round (acc lane : UInt64) : UInt64 := rotl (acc + lane * prime2) 31 * prime1

/-- `XXH64_mergeRound`: an accumulator into the hash. -/
def mergeRound (acc lane : UInt64) : UInt64 := (acc ^^^ round 0 lane) * prime1 + prime4

/-- The four accumulators after `n` stripes, and the bytes behind them. -/
def stripes : Nat → UInt64 × UInt64 × UInt64 × UInt64 → List UInt8 →
    (UInt64 × UInt64 × UInt64 × UInt64) × List UInt8
  | 0, acc, input => (acc, input)
  | n + 1, (a, b, c, d), input =>
    stripes n (round a (read (input.take 8)), round b (read ((input.drop 8).take 8)),
      round c (read ((input.drop 16).take 8)), round d (read ((input.drop 24).take 8)))
      (input.drop 32)

/-- The rest, less than four bytes, one at a time. -/
def finishBytes : UInt64 → List UInt8 → UInt64
  | acc, [] => acc
  | acc, b :: input => finishBytes (rotl (acc ^^^ b.toUInt64 * prime5) 11 * prime1) input

/-- The rest, less than eight bytes: four at once where there are four. -/
def finishHalf : UInt64 → List UInt8 → UInt64
  | acc, a :: b :: c :: d :: input =>
    finishBytes (rotl (acc ^^^ read [a, b, c, d] * prime1) 23 * prime2 + prime3) input
  | acc, input => finishBytes acc input

/-- The rest, less than 32 bytes: eight at once while there are eight. -/
def finishWords : UInt64 → List UInt8 → UInt64
  | acc, a :: b :: c :: d :: e :: f :: g :: h :: input =>
    finishWords (rotl (acc ^^^ round 0 (read [a, b, c, d, e, f, g, h])) 27 * prime1 + prime4) input
  | acc, input => finishHalf acc input

/-- `XXH64_avalanche`, the final mix. -/
def avalanche (acc : UInt64) : UInt64 :=
  let acc := (acc ^^^ acc >>> 33) * prime2
  let acc := (acc ^^^ acc >>> 29) * prime3
  acc ^^^ acc >>> 32

/-- `XXH64(data, size, 0)`. -/
def xxh64 (input : List UInt8) : UInt64 :=
  let size := UInt64.ofNat input.length
  if 32 ≤ input.length then
    let ((a, b, c, d), rest) :=
      stripes (input.length / 32) (prime1 + prime2, prime2, 0, 0 - prime1) input
    let acc := rotl a 1 + rotl b 7 + rotl c 12 + rotl d 18
    let acc := mergeRound (mergeRound (mergeRound (mergeRound acc a) b) c) d
    avalanche (finishWords (acc + size) rest)
  else avalanche (finishWords (prime5 + size) input)

end Bnl.Xxh64
