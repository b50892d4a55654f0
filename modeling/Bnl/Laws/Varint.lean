import Bnl.Codec.Varint
import Bnl.Library.Bytes

/-!
# Laws of `varint`

A varint is a numeral in network byte order whose two top bits are the logarithm of its size. The decoder is the
parser of that numeral, the encoder writes its shortest form, and the two undo each other below 2^62.

**The laws** are `decode_eq`, that the decoder answers what `parser` does and consumes what it read, on any
sequence of bytes; `encode_eq`, that the encoder stores `bytes`; and `parser_bytes`, that the one takes what the
other writes. Code that calls `varint` is reasoned about with these three and the parser's rules, and its shifts
are not looked at again.

The shifts are dealt with size by size, once each way: `uint8_value` to `uint64_value` say that what a decoder
assembles is the number its bytes are in base 256, `digits_one` to `digits_eight` that what an encoder takes
apart is. Both go through `Bytes`, where a number and its digits are the library's.
-/

namespace Bnl.Http3.Varint

open Incremental Bnl.Base Bytes

/-- The varint as a parser of bytes. -/
def parser : Parser Error UInt8 UInt64 := do
  let first ← Parser.item .incomplete
  let rest ← Parser.take .incomplete (2 ^ (first.toNat / 64) - 1)
  pure (UInt64.ofNat (ofBytes (first :: rest) % 2 ^ (8 * (rest.length + 1) - 2)))

/-- More input changes no answer but `incomplete`. -/
theorem parser_stable : Stable .incomplete parser :=
  Stable.item.bind fun _ => (Stable.take _).map _

/-- Nothing is not a varint. -/
theorem parser_nil : parser [] = .error .incomplete := rfl

/-- Less than the first byte announces is not a varint yet. -/
theorem parser_cons_short {first : UInt8} {tl : List UInt8}
    (h : tl.length + 1 < 2 ^ (first.toNat / 64)) : parser (first :: tl) = .error .incomplete := by
  show (Parser.take Error.incomplete _ >>= _) tl = _
  exact Parser.bind_error (Parser.take_of_gt (by omega))

/-- As many bytes as the first announces are one, and what is behind them stays. -/
theorem parser_cons {first : UInt8} {bs : List UInt8}
    (h : bs.length + 1 = 2 ^ (first.toNat / 64)) (rest : List UInt8) :
    parser (first :: (bs ++ rest)) =
      .ok (UInt64.ofNat (ofBytes (first :: bs) % 2 ^ (8 * (bs.length + 1) - 2)), rest) := by
  show (Parser.take Error.incomplete _ >>= _) (bs ++ rest) = _
  rw [show 2 ^ (first.toNat / 64) - 1 = bs.length by omega, Parser.bind_ok Parser.take_append]
  rfl

/-- Where there are bytes enough, a varint is read. -/
theorem parser_ok_of_length {first : UInt8} {tl : List UInt8}
    (h : 2 ^ (first.toNat / 64) ≤ tl.length + 1) : ∃ v rest, parser (first :: tl) = .ok (v, rest) := by
  have hpos := Nat.two_pow_pos (first.toNat / 64)
  have hlength : (tl.take (2 ^ (first.toNat / 64) - 1)).length + 1 = 2 ^ (first.toNat / 64) := by
    rw [List.length_take]
    omega
  have hp := parser_cons hlength (tl.drop (2 ^ (first.toNat / 64) - 1))
  rw [List.take_append_drop] at hp
  exact ⟨_, _, hp⟩

/-- A varint that is short of the bytes `more` takes them for the last ones of its number. -/
theorem parser_straddles {first : UInt8} {tl more : List UInt8}
    (h : (tl ++ more).length + 1 = 2 ^ (first.toNat / 64)) (rest : List UInt8) :
    ∃ v, parser (first :: tl ++ (more ++ rest)) = .ok (v, rest) ∧
      v.toNat % 256 ^ more.length = ofBytes more % 256 ^ more.length := by
  have hp := parser_cons h rest
  rw [List.append_assoc] at hp
  refine ⟨_, hp, ?_⟩
  have hlog : first.toNat / 64 ≤ 3 := by
    have := first.toNat_lt
    omega
  have hle : (tl ++ more).length + 1 ≤ 2 ^ 3 := h ▸ Nat.pow_le_pow_right (by decide) hlog
  rw [List.length_append] at hle
  have hbytes : 256 ^ more.length = 2 ^ (8 * more.length) := (Nat.pow_mul 2 8 more.length).symm
  have hword : 256 ^ more.length ∣ 2 ^ 64 := by
    rw [hbytes]
    exact Nat.pow_dvd_pow 2 (by omega)
  have hbits : 256 ^ more.length ∣ 2 ^ (8 * ((tl ++ more).length + 1) - 2) := by
    rw [hbytes, List.length_append]
    exact Nat.pow_dvd_pow 2 (by omega)
  rw [UInt64.toNat_ofNat', Nat.mod_mod_of_dvd _ hword, Nat.mod_mod_of_dvd _ hbits,
    ← List.cons_append, ofBytes_append, Nat.mul_comm, Nat.mul_add_mod]

/-! ## Decoding -/

/-- One byte: the six bits behind the header. -/
theorem uint8_value (a : UInt8) :
    (a &&& 0x3f).toUInt64 = UInt64.ofNat (ofBytes [a] % 2 ^ 6) := by
  apply UInt64.toNat.inj
  rw [UInt8.toNat_toUInt64, UInt8.toNat_and]
  rw [show (0x3f : UInt8).toNat = 2 ^ 6 - 1 from rfl, Nat.and_two_pow_sub_one_eq_mod]
  simp only [ofBytes_cons, ofBytes_nil, List.length_nil, UInt64.toNat_ofNat']
  omega

/-- Two bytes: the value of their base 256 numeral, less its top bits. -/
theorem uint16_value (a b : UInt8) :
    ((a.toUInt16 <<< 8 ||| b.toUInt16 <<< 0) &&& 0x3fff).toUInt64 =
      UInt64.ofNat (ofBytes [a, b] % 2 ^ 14) := by
  apply UInt64.toNat.inj
  have ha := a.toNat_lt
  have hb := b.toNat_lt
  simp only [UInt16.toNat_toUInt64, UInt16.toNat_and, UInt16.toNat_or, UInt16.toNat_shiftLeft,
    UInt8.toNat_toUInt16, UInt16.reduceToNat, Nat.reduceMod]
  simp (disch := decide) only [shiftLeft_mod]
  rw [or_byte 0 b (by omega), Nat.shiftLeft_eq]
  rw [show (16383 : Nat) = 2 ^ 14 - 1 from rfl, Nat.and_two_pow_sub_one_eq_mod]
  simp only [ofBytes_cons, ofBytes_nil, List.length_cons, List.length_nil, UInt64.toNat_ofNat']
  omega

theorem uint32_value (a b c d : UInt8) :
    ((a.toUInt32 <<< 24 ||| b.toUInt32 <<< 16 ||| c.toUInt32 <<< 8 ||| d.toUInt32 <<< 0) &&&
        0x3fffffff).toUInt64 = UInt64.ofNat (ofBytes [a, b, c, d] % 2 ^ 30) := by
  apply UInt64.toNat.inj
  have ha := a.toNat_lt
  have hb := b.toNat_lt
  have hc := c.toNat_lt
  have hd := d.toNat_lt
  simp only [UInt32.toNat_toUInt64, UInt32.toNat_and, UInt32.toNat_or, UInt32.toNat_shiftLeft,
    UInt8.toNat_toUInt32, UInt32.reduceToNat, Nat.reduceMod]
  simp (disch := decide) only [shiftLeft_mod]
  rw [or_byte 16 b (by omega), or_byte 8 c (by omega), or_byte 0 d (by omega), Nat.shiftLeft_eq]
  rw [show (1073741823 : Nat) = 2 ^ 30 - 1 from rfl, Nat.and_two_pow_sub_one_eq_mod]
  simp only [ofBytes_cons, ofBytes_nil, List.length_cons, List.length_nil, UInt64.toNat_ofNat']
  omega

theorem uint64_value (a b c d e f g h : UInt8) :
    ((a.toUInt64 <<< 56 ||| b.toUInt64 <<< 48 ||| c.toUInt64 <<< 40 ||| d.toUInt64 <<< 32 |||
        e.toUInt64 <<< 24 ||| f.toUInt64 <<< 16 ||| g.toUInt64 <<< 8 ||| h.toUInt64 <<< 0) &&&
        0x3fffffffffffffff) = UInt64.ofNat (ofBytes [a, b, c, d, e, f, g, h] % 2 ^ 62) := by
  apply UInt64.toNat.inj
  have ha := a.toNat_lt
  have hb := b.toNat_lt
  have hc := c.toNat_lt
  have hd := d.toNat_lt
  have he := e.toNat_lt
  have hf := f.toNat_lt
  have hg := g.toNat_lt
  have hh := h.toNat_lt
  simp only [UInt64.toNat_and, UInt64.toNat_or, UInt64.toNat_shiftLeft, UInt8.toNat_toUInt64,
    UInt64.reduceToNat, Nat.reduceMod]
  simp (disch := decide) only [shiftLeft_mod]
  rw [or_byte 48 b (by omega), or_byte 40 c (by omega), or_byte 32 d (by omega),
    or_byte 24 e (by omega), or_byte 16 f (by omega), or_byte 8 g (by omega),
    or_byte 0 h (by omega), Nat.shiftLeft_eq]
  rw [show (4611686018427387903 : Nat) = 2 ^ 62 - 1 from rfl, Nat.and_two_pow_sub_one_eq_mod]
  simp only [ofBytes_cons, ofBytes_nil, List.length_cons, List.length_nil, UInt64.toNat_ofNat']
  omega

section Decode

variable {σ β : Type} [Storage β] [Sequence σ β]

/-- The switch over the size, on a lookahead that holds that many bytes. -/
def decodeSized (varintSize : Nat) (lookahead : Lookahead β) : UInt64 × Lookahead β :=
  match varintSize with
  | 1 => ((uint8Decode lookahead).1.toUInt64, (uint8Decode lookahead).2)
  | 2 => ((uint16Decode lookahead).1.toUInt64, (uint16Decode lookahead).2)
  | 4 => ((uint32Decode lookahead).1.toUInt64, (uint32Decode lookahead).2)
  | 8 => uint64Decode lookahead
  | _ => (0, lookahead)

/-- The decoder on an input that is not empty, with the switch over the size as a function. -/
theorem decode_cons {s : σ} {first : UInt8} {tl : List UInt8}
    (h : Sequence.bytes s = first :: tl) :
    decode s = if tl.length + 1 < 2 ^ (first.toNat / 64) then (.error .incomplete, s) else
      let r := decodeSized (2 ^ (first.toNat / 64)) (Sequence.lookahead s)
      (.ok r.1, Sequence.consume s r.2.consumed) := by
  have hl : (Sequence.lookahead s).bytes = first :: tl := by rw [Sequence.lookahead_bytes, h]
  have hne : Sequence.empty (Sequence.lookahead s) = false :=
    Sequence.empty_eq_false.mpr (by rw [Lookahead.sequence_bytes, hl]; exact List.cons_ne_nil _ _)
  have hhead : Sequence.head (Sequence.lookahead s) = first := Sequence.head_eq hl
  have hsize : (Sequence.lookahead s).size = tl.length + 1 := by
    rw [Lookahead.size_eq, hl, List.length_cons]
  have hshift : 1 <<< (first >>> 6).toNat = 2 ^ (first.toNat / 64) := by
    rw [UInt8.toNat_shiftRight, Nat.shiftLeft_eq, Nat.one_mul]
    exact congrArg (2 ^ ·) (Nat.shiftRight_eq_div_pow first.toNat 6)
  rw [decode]
  simp only [hne, hhead, hsize, hshift]
  rfl

/-- On bytes that are all there, the switch returns the value of the numeral. -/
theorem decodeSized_eq {l : Lookahead β} {first : UInt8} {bs rest : List UInt8}
    (h : l.bytes = first :: (bs ++ rest)) (hlen : bs.length + 1 = 2 ^ (first.toNat / 64)) :
    decodeSized (2 ^ (first.toNat / 64)) l =
      (UInt64.ofNat (ofBytes (first :: bs) % 2 ^ (8 * (bs.length + 1) - 2)),
        l.consume (bs.length + 1)) := by
  have hget (i : Nat) : l.get i = (first :: (bs ++ rest)).getD i 0 := by
    rw [← Lookahead.sequence_get, Sequence.get_eq, Lookahead.sequence_bytes, h]
  rw [← hlen]
  have hk : first.toNat / 64 < 4 := Nat.div_lt_of_lt_mul first.toNat_lt
  match hk' : first.toNat / 64, hk with
  | 0, _ =>
    rw [hk'] at hlen
    match bs, hlen with
    | [], _ =>
      simp only [decodeSized, uint8Decode, hget]
      exact congrArg (·, l.consume 1) (uint8_value first)
  | 1, _ =>
    rw [hk'] at hlen
    match bs, hlen with
    | [b], _ =>
      simp only [decodeSized, uint16Decode, hget]
      exact congrArg (·, l.consume 2) (uint16_value first b)
  | 2, _ =>
    rw [hk'] at hlen
    match bs, hlen with
    | [b, c, d], _ =>
      simp only [decodeSized, uint32Decode, hget]
      exact congrArg (·, l.consume 4) (uint32_value first b c d)
  | 3, _ =>
    rw [hk'] at hlen
    match bs, hlen with
    | [b, c, d, e, f, g, h], _ =>
      simp only [decodeSized, uint64Decode, hget]
      exact congrArg (·, l.consume 8) (uint64_value first b c d e f g h)

/-- **The decoder is the parser.** -/
theorem decode_eq (s : σ) : decode s = Sequence.read parser s := by
  match hb : Sequence.bytes s with
  | [] =>
    have hempty : Sequence.empty (Sequence.lookahead s) = true :=
      Sequence.empty_iff.mpr (by rw [Lookahead.sequence_bytes, Sequence.lookahead_bytes, hb])
    rw [decode, if_pos hempty, Sequence.read_error (by rw [hb]; exact parser_nil)]
  | first :: tl =>
    rw [decode_cons hb]
    split
    · next hshort => rw [Sequence.read_error (by rw [hb]; exact parser_cons_short hshort)]
    · next hlong =>
      obtain ⟨bs, rest, rfl, hlen⟩ : ∃ bs rest, tl = bs ++ rest ∧
          bs.length + 1 = 2 ^ (first.toNat / 64) := by
        refine ⟨tl.take (2 ^ (first.toNat / 64) - 1), tl.drop (2 ^ (first.toNat / 64) - 1),
          (List.take_append_drop _ _).symm, ?_⟩
        have := Nat.two_pow_pos (first.toNat / 64)
        rw [List.length_take]
        omega
      have hl : (Sequence.lookahead s).bytes = first :: (bs ++ rest) := by
        rw [Sequence.lookahead_bytes, hb]
      have hp := parser_cons hlen rest
      rw [Sequence.read_ok (by rw [hb]; exact hp), decodeSized_eq hl hlen, hb]
      simp only [Lookahead.consume_consumed, Sequence.lookahead_consumed, List.length_cons,
        List.length_append]
      rw [show bs.length + rest.length + 1 - rest.length = 0 + (bs.length + 1) by omega]

end Decode

/-! ## Encoding -/

/-- The logarithm of the shortest size. -/
def sizeLog (varint : UInt64) : Nat :=
  if varint < 0x40 then 0
  else if varint < (0x40 : UInt64) <<< 8 then 1
  else if varint < (0x40 : UInt64) <<< 24 then 2
  else 3

/-- The shortest varint for a number below 2^62. -/
def bytes (varint : UInt64) : List UInt8 :=
  let k := sizeLog varint
  toBytes (2 ^ k) (varint.toNat + k * 2 ^ (8 * 2 ^ k - 2))

/-- It has one of the four sizes. -/
theorem length_bytes (varint : UInt64) : (bytes varint).length = 2 ^ sizeLog varint :=
  length_toBytes _ _

/-- The four sizes, with the numbers they are for. -/
theorem sizeLog_cases {varint : UInt64} (h : varint.toNat < 2 ^ 62) :
    (sizeLog varint = 0 ∧ encodedSize varint = .ok 1 ∧ varint.toNat < 2 ^ 6) ∨
    (sizeLog varint = 1 ∧ encodedSize varint = .ok 2 ∧ varint.toNat < 2 ^ 14) ∨
    (sizeLog varint = 2 ∧ encodedSize varint = .ok 4 ∧ varint.toNat < 2 ^ 30) ∨
    (sizeLog varint = 3 ∧ encodedSize varint = .ok 8 ∧ varint.toNat < 2 ^ 62) := by
  unfold sizeLog encodedSize
  by_cases h₁ : varint < 0x40
  · exact .inl ⟨if_pos h₁, if_pos h₁, UInt64.lt_iff_toNat_lt.mp h₁⟩
  by_cases h₂ : varint < (0x40 : UInt64) <<< 8
  · simp only [if_neg h₁, if_pos h₂]
    exact .inr (.inl ⟨trivial, trivial, UInt64.lt_iff_toNat_lt.mp h₂⟩)
  by_cases h₃ : varint < (0x40 : UInt64) <<< 24
  · simp only [if_neg h₁, if_neg h₂, if_pos h₃]
    exact .inr (.inr (.inl ⟨trivial, trivial, UInt64.lt_iff_toNat_lt.mp h₃⟩))
  · have h₄ : varint < (0x40 : UInt64) <<< 56 := UInt64.lt_iff_toNat_lt.mpr h
    simp only [if_neg h₁, if_neg h₂, if_neg h₃, if_pos h₄]
    exact .inr (.inr (.inr ⟨trivial, trivial, h⟩))

/-- `encoded_size` is the size of the shortest form. -/
theorem encodedSize_eq {varint : UInt64} (h : varint.toNat < 2 ^ 62) :
    encodedSize varint = .ok (bytes varint).length := by
  rw [length_bytes]
  rcases sizeLog_cases h with ⟨hk, hs, -⟩ | ⟨hk, hs, -⟩ | ⟨hk, hs, -⟩ | ⟨hk, hs, -⟩ <;>
  rw [hs, hk] <;>
  rfl

/-- From 2^62 on there is none. -/
theorem encodedSize_overflow {varint : UInt64} (h : 2 ^ 62 ≤ varint.toNat) :
    encodedSize varint = .error .varintOverflow := by
  have hge {n : UInt64} (hn : n.toNat ≤ 2 ^ 62) : ¬ varint < n := by
    rw [UInt64.lt_iff_toNat_lt]
    omega
  rw [encodedSize, if_neg (hge (by decide)), if_neg (hge (by decide)), if_neg (hge (by decide)),
    if_neg (hge (by decide))]

/-- The size bits over a first byte that leaves them free. -/
theorem or_header {x k : Nat} (hx : x < 64) : x ||| 64 * k = x + 64 * k := by
  rw [Nat.or_comm, or_eq_add (k := 6) (Nat.mul_mod_right 64 k) hx, Nat.add_comm]

/-- Two writes to one byte are one. -/
theorem uint8Encode_eq (m : Memory) (dest : Nat) (number : UInt8) :
    uint8Encode m dest number = m.store dest [number >>> 0 ||| uint8Header] :=
  m.modify_head dest _ [] (· ||| uint8Header)

/-- The first byte is written twice; what stays is both. -/
theorem uint16Encode_eq (m : Memory) (dest : Nat) (number : UInt16) :
    uint16Encode m dest number = m.store dest
      [(number >>> 8).toUInt8 ||| uint16Header, (number >>> 0).toUInt8] :=
  m.modify_head dest _ [_] (· ||| uint16Header)

/-- The same for four bytes. -/
theorem uint32Encode_eq (m : Memory) (dest : Nat) (number : UInt32) :
    uint32Encode m dest number = m.store dest
      [(number >>> 24).toUInt8 ||| uint32Header, (number >>> 16).toUInt8,
       (number >>> 8).toUInt8, (number >>> 0).toUInt8] :=
  m.modify_head dest _ [_, _, _] (· ||| uint32Header)

/-- The same for eight bytes. -/
theorem uint64Encode_eq (m : Memory) (dest : Nat) (number : UInt64) :
    uint64Encode m dest number = m.store dest
      [(number >>> 56).toUInt8 ||| uint64Header, (number >>> 48).toUInt8,
       (number >>> 40).toUInt8, (number >>> 32).toUInt8, (number >>> 24).toUInt8,
       (number >>> 16).toUInt8, (number >>> 8).toUInt8, (number >>> 0).toUInt8] :=
  m.modify_head dest _ [_, _, _, _, _, _, _] (· ||| uint64Header)

/-- A byte is its number. -/
theorem eq_ofNat {b : UInt8} {x : Nat} (h : b.toNat = x % 256) : b = UInt8.ofNat x :=
  UInt8.toNat.inj (h.trans UInt8.toNat_ofNat'.symm)

/-- One byte is a numeral of one digit, the header zero. -/
theorem digits_one (v : UInt64) :
    [v.toUInt8 >>> 0 ||| uint8Header] = toBytes 1 v.toNat := by
  refine congrArg (· :: []) (eq_ofNat ?_)
  simp [uint8Header]

/-- Two bytes with the header 1 are a numeral of two digits. -/
theorem digits_two {v : UInt64} (hv : v.toNat < 2 ^ 14) :
    [(v.toUInt16 >>> 8).toUInt8 ||| uint16Header, (v.toUInt16 >>> 0).toUInt8] =
      toBytes 2 (v.toNat + 1 * 2 ^ 14) := by
  simp only [toBytes, List.cons.injEq]
  refine ⟨eq_ofNat ?_, eq_ofNat ?_, trivial⟩ <;>
    simp only [uint16Header, UInt8.toNat_or, UInt16.toNat_toUInt8, UInt16.toNat_shiftRight,
      UInt64.toNat_toUInt16, UInt16.reduceToNat, UInt8.reduceToNat, Nat.shiftRight_eq_div_pow,
      Nat.reduceMod]
  · rw [show (64 : Nat) = 64 * 1 from rfl, or_header (by omega)]
    omega
  · omega

/-- Four bytes with the header 2 are a numeral of four digits. -/
theorem digits_four {v : UInt64} (hv : v.toNat < 2 ^ 30) :
    [(v.toUInt32 >>> 24).toUInt8 ||| uint32Header, (v.toUInt32 >>> 16).toUInt8,
      (v.toUInt32 >>> 8).toUInt8, (v.toUInt32 >>> 0).toUInt8] =
      toBytes 4 (v.toNat + 2 * 2 ^ 30) := by
  simp only [toBytes, List.cons.injEq]
  refine ⟨eq_ofNat ?_, eq_ofNat ?_, eq_ofNat ?_, eq_ofNat ?_, trivial⟩ <;>
    simp only [uint32Header, UInt8.toNat_or, UInt32.toNat_toUInt8, UInt32.toNat_shiftRight,
      UInt64.toNat_toUInt32, UInt32.reduceToNat, UInt8.reduceToNat, Nat.shiftRight_eq_div_pow,
      Nat.reduceMod]
  · rw [show (128 : Nat) = 64 * 2 from rfl, or_header (by omega)]
    omega
  all_goals omega

/-- Eight bytes with the header 3 are a numeral of eight digits. -/
theorem digits_eight {v : UInt64} (hv : v.toNat < 2 ^ 62) :
    [(v >>> 56).toUInt8 ||| uint64Header, (v >>> 48).toUInt8, (v >>> 40).toUInt8,
      (v >>> 32).toUInt8, (v >>> 24).toUInt8, (v >>> 16).toUInt8, (v >>> 8).toUInt8,
      (v >>> 0).toUInt8] = toBytes 8 (v.toNat + 3 * 2 ^ 62) := by
  simp only [toBytes, List.cons.injEq]
  refine ⟨eq_ofNat ?_, eq_ofNat ?_, eq_ofNat ?_, eq_ofNat ?_, eq_ofNat ?_, eq_ofNat ?_,
    eq_ofNat ?_, eq_ofNat ?_, trivial⟩ <;>
    simp only [uint64Header, UInt8.toNat_or, UInt64.toNat_toUInt8, UInt64.toNat_shiftRight,
      UInt64.reduceToNat, UInt8.reduceToNat, Nat.shiftRight_eq_div_pow,
      Nat.reduceMod]
  · rw [show (192 : Nat) = 64 * 3 from rfl, or_header (by omega)]
    omega
  all_goals omega

/-- The switch over the size writes the numeral. -/
theorem encode_eq {varint : UInt64} (h : varint.toNat < 2 ^ 62) (m : Memory) (dest : Nat) :
    encode m dest varint = .ok ((bytes varint).length, m.store dest (bytes varint)) := by
  have hstore {n : Nat} {m' : Memory} {bs bs' : List UInt8} (hm : m' = m.store dest bs)
      (hb : bs = bs') : (Except.ok (n, m') : Except Error _) = .ok (n, m.store dest bs') := by
    rw [hm, hb]
  rw [length_bytes]
  rcases sizeLog_cases h with ⟨hk, hs, hv⟩ | ⟨hk, hs, hv⟩ | ⟨hk, hs, hv⟩ | ⟨hk, hs, hv⟩ <;>
    rw [encode, hs, bytes, hk]
  · exact hstore (uint8Encode_eq ..) (digits_one varint)
  · exact hstore (uint16Encode_eq ..) (digits_two hv)
  · exact hstore (uint32Encode_eq ..) (digits_four hv)
  · exact hstore (uint64Encode_eq ..) (digits_eight hv)

/-- A buffer of its own holds just the numeral. -/
theorem encodeBuffer_eq {varint : UInt64} (h : varint.toNat < 2 ^ 62) (host : Host) :
    encodeBuffer host varint = .ok ⟨bytes varint⟩ := by
  rw [encodeBuffer, encodedSize_eq h]
  show (encode host.storage 0 varint >>= _) = _
  rw [encode_eq h]
  exact congrArg (fun bs => Except.ok (Buffer.mk bs)) (Memory.load_store _ _ _)

/-- There is no buffer for a number that has no size. -/
theorem encodeBuffer_overflow {varint : UInt64} (h : 2 ^ 62 ≤ varint.toNat) (host : Host) :
    encodeBuffer host varint = .error .varintOverflow := by
  rw [encodeBuffer, encodedSize_overflow h]
  rfl

/-- A numeral with its size in the top bits is parsed, in any of the four sizes. -/
theorem parser_toBytes {n k v : Nat} (hn : n + 1 = 2 ^ k) (hk : k < 4) (hv : v < 64 * 256 ^ n)
    (rest : List UInt8) :
    parser (toBytes (n + 1) (v + k * (64 * 256 ^ n)) ++ rest) = .ok (UInt64.ofNat v, rest) := by
  have hpos : 0 < 256 ^ n := Nat.pow_pos (by decide)
  have hhead : (v + k * (64 * 256 ^ n)) / 256 ^ n = v / 256 ^ n + k * 64 := by
    rw [← Nat.mul_assoc, Nat.add_mul_div_right _ _ hpos]
  have hlt : v / 256 ^ n < 64 := Nat.div_lt_of_lt_mul (by rw [Nat.mul_comm]; exact hv)
  have hfirst : (UInt8.ofNat ((v + k * (64 * 256 ^ n)) / 256 ^ n)).toNat / 64 = k := by
    rw [hhead, UInt8.toNat_ofNat']
    generalize v / 256 ^ n = digit at hlt
    omega
  have hlen : (toBytes n (v + k * (64 * 256 ^ n))).length + 1 =
      2 ^ ((UInt8.ofNat ((v + k * (64 * 256 ^ n)) / 256 ^ n)).toNat / 64) := by
    rw [hfirst, length_toBytes, hn]
  rw [toBytes, List.cons_append, parser_cons hlen, ← toBytes, ofBytes_toBytes, length_toBytes]
  have hbits : 2 ^ (8 * (n + 1) - 2) = 64 * 256 ^ n := by
    rw [show 8 * (n + 1) - 2 = 8 * n + 6 by omega, Nat.pow_add, Nat.pow_mul, Nat.mul_comm]
  have hmod : (v + k * (64 * 256 ^ n)) % 256 ^ (n + 1) = v + k * (64 * 256 ^ n) := by
    refine Nat.mod_eq_of_lt ?_
    have := Nat.mul_le_mul_right (64 * 256 ^ n) (Nat.le_of_lt_succ hk)
    rw [Nat.pow_succ]
    omega
  rw [hbits, hmod, Nat.add_mul_mod_self_right, Nat.mod_eq_of_lt hv]

/-- **Decoding undoes encoding.** -/
theorem parser_bytes {varint : UInt64} (h : varint.toNat < 2 ^ 62) (rest : List UInt8) :
    parser (bytes varint ++ rest) = .ok (varint, rest) := by
  have hv : UInt64.ofNat varint.toNat = varint := UInt64.ofNat_toNat
  rcases sizeLog_cases h with ⟨hk, -, hlt⟩ | ⟨hk, -, hlt⟩ | ⟨hk, -, hlt⟩ | ⟨hk, -, hlt⟩ <;>
    rw [bytes, hk]
  · exact (parser_toBytes (n := 0) (k := 0) rfl (by decide) hlt rest).trans (by rw [hv])
  · exact (parser_toBytes (n := 1) (k := 1) rfl (by decide) hlt rest).trans (by rw [hv])
  · exact (parser_toBytes (n := 3) (k := 2) rfl (by decide) hlt rest).trans (by rw [hv])
  · exact (parser_toBytes (n := 7) (k := 3) rfl (by decide) hlt rest).trans (by rw [hv])

end Bnl.Http3.Varint
