import Bnl.Codec.PrefixInt
import Bnl.Library.Bytes

/-!
# Laws of `prefix_int`

The decoder as a parser, the encoder as the bytes it writes, and the round trip. The decoder adds its digits
with 32-bit arithmetic, so the round trip is for numbers below 2^32.

**The laws** are `decode_follows`, that on a lookahead the decoder answers what `parser` does and leaves what it
leaves; `encode_eq`, that the encoder stores `bytes`, which keep the flags above the prefix; and `parser_bytes`,
the round trip. The loops of both are by induction, the decoder's on its fuel with the sum and the offset as
they are, the encoder's on the number.

The decoder is not transparent as the other decoders are: an error leaves consumed what it read, and so
`decode_follows` is about lookaheads, which the callers throw away then. What a sequence itself is left with is
in `Exact`, with what is read of numbers from 2^32 on.
-/

namespace Bnl.Http3.Qpack.PrefixInt

open Incremental Bnl.Base Bytes

/-- The bytes after a full prefix. -/
def tail (result offset : UInt64) : Parser Error UInt8 UInt64
  | [] => .error .incomplete
  | byte :: rest =>
    if byte &&& 128 = 128 then tail (result + contribution byte offset) (offset + 7) rest
    else .ok (result + contribution byte offset, rest)

/-- The integer as a parser of bytes. -/
def parser (width : UInt8) : Parser Error UInt8 UInt64 := do
  let byte ← Parser.item .incomplete
  let result := byte.toUInt64 &&& (prefixMax width).toUInt64
  if (prefixMax width).toUInt64 ≤ result then tail result 0 else pure result

/-- The parser on an input that is not empty. -/
theorem parser_cons (width byte : UInt8) (b : List UInt8) : parser width (byte :: b) =
    if (prefixMax width).toUInt64 ≤ (byte &&& prefixMax width).toUInt64 then
      tail (byte &&& prefixMax width).toUInt64 0 b
    else .ok ((byte &&& prefixMax width).toUInt64, b) := by
  rw [UInt8.toUInt64_and]
  show (ite _ _ _ : Parser Error UInt8 UInt64) b = _
  split <;> rfl

/-- The digits as a fold over the sum and the offset. -/
theorem tail_eq_foldWhile (result offset : UInt64) : tail result offset =
    (Parser.foldWhile .incomplete (fun byte => byte &&& 128 == 128)
      (fun s byte => (s.1 + contribution byte s.2, s.2 + 7)) (result, offset) >>= fun s =>
        pure s.1) := by
  funext b
  rw [Parser.bind_apply]
  induction b generalizing result offset with
  | nil => rfl
  | cons byte b ih =>
    rw [tail, Parser.foldWhile]
    by_cases hmore : byte &&& 128 = 128
    · rw [if_pos hmore, if_pos (beq_iff_eq.mpr hmore), ih]
    · rw [if_neg hmore, if_neg (fun h => hmore (beq_iff_eq.mp h))]
      rfl

/-- More input changes no answer but `incomplete`. -/
theorem tail_stable (result offset : UInt64) : Stable .incomplete (tail result offset) := by
  rw [tail_eq_foldWhile]
  exact (Stable.foldWhile _ _ _).map _

theorem parser_stable (width : UInt8) : Stable .incomplete (parser width) :=
  Stable.item.bind fun _ => Stable.ite (tail_stable _ _) (Stable.pure _)

/-- The only error is `incomplete`. -/
theorem parser_patient (width : UInt8) : Patient .incomplete (parser width) := by
  have htail (result offset : UInt64) : Patient .incomplete (tail result offset) := by
    rw [tail_eq_foldWhile]
    exact (Patient.foldWhile _ _ _ _).bind fun _ => FailsWith.pure _
  exact (Patient.item _).bind fun _ => (htail _ _).ite (FailsWith.pure _)

/-! ## Decoding -/

section Decode

variable {β : Type} [Storage β]

theorem uint8Decode_nil {l : Lookahead β} (h : l.bytes = []) :
    uint8Decode l = (.error .incomplete, l) := by
  rw [uint8Decode, if_pos (Sequence.empty_iff.mpr h)]

theorem uint8Decode_cons {l : Lookahead β} {byte : UInt8} {rest : List UInt8}
    (h : l.bytes = byte :: rest) : uint8Decode l = (.ok byte, l.consume 1) := by
  have hne : Sequence.empty l = false :=
    Sequence.empty_eq_false.mpr (by rw [Lookahead.sequence_bytes, h]; exact List.cons_ne_nil _ _)
  rw [uint8Decode, hne, Sequence.head_eq h]
  rfl

/-- A byte is read as the parser reads it. -/
theorem uint8Decode_follows (l : Lookahead β) :
    Lookahead.Follows (Parser.item .incomplete) l (uint8Decode l) := by
  match hb : l.bytes with
  | [] => exact Lookahead.follows_error (by rw [hb]; rfl) (by rw [uint8Decode_nil hb])
  | byte :: rest =>
    have hitem : Parser.item Error.incomplete l.bytes = .ok (byte, rest) := by
      rw [hb]
      rfl
    refine Lookahead.follows_ok hitem ?_
    rw [uint8Decode_cons hb, hb, List.length_cons, Nat.add_sub_cancel_left]

/-- A read byte is gone from the lookahead. -/
theorem uint8Decode_length {l l' : Lookahead β} {byte : UInt8}
    (h : uint8Decode l = (.ok byte, l')) : l'.bytes.length + 1 = l.bytes.length := by
  match hb : l.bytes with
  | [] =>
    rw [uint8Decode_nil hb] at h
    cases h
  | b :: rest =>
    rw [uint8Decode_cons hb] at h
    cases h
    rw [Lookahead.consume_bytes, hb]
    rfl

/-- One round of `tail`. -/
theorem tail_eq (result offset : UInt64) :
    tail result offset = Parser.item .incomplete >>= fun byte =>
      if byte &&& 128 = 128 then tail (result + contribution byte offset) (offset + 7)
      else pure (result + contribution byte offset) := by
  funext b
  cases b with
  | nil => rfl
  | cons byte rest =>
    show tail result offset (byte :: rest) = (ite _ _ _ : Parser Error UInt8 UInt64) rest
    rw [tail]
    split <;> rfl

/-- The loop reads what `tail` reads. -/
theorem decodeLoop_follows {fuel : Nat} {l : Lookahead β} (result offset : UInt64)
    (hfuel : l.bytes.length < fuel) :
    Lookahead.Follows (tail result offset) l (decodeLoop fuel result offset l) := by
  induction fuel generalizing l result offset with
  | zero => exact absurd hfuel (Nat.not_lt_zero _)
  | succ fuel ih =>
    rw [tail_eq, decodeLoop]
    refine (uint8Decode_follows l).bind Stable.item
      (fun _ => Stable.ite (tail_stable _ _) (Stable.pure _)) fun byte l' hl' => ?_
    split
    · have := uint8Decode_length hl'
      exact ih _ _ (by omega)
    · exact Lookahead.follows_pure _

/-- **The decoder reads what the parser reads.** -/
theorem decode_follows (l : Lookahead β) (width : UInt8) :
    Lookahead.Follows (parser width) l (decode width l) := by
  have hdecode : decode width l = decodeResult width (Sequence.size l) l := by
    unfold decode
    rcases decodeResult width (Sequence.size l) l with ⟨_ | _, l'⟩
    · rfl
    · exact congrArg (fun n => (_, Sequence.consume l' n)) (Sequence.lookahead_consumed l)
  rw [hdecode]
  refine (uint8Decode_follows l).bind Stable.item
    (fun _ => Stable.ite (tail_stable _ _) (Stable.pure _)) fun byte l' hl' => ?_
  have hread := uint8Decode_length hl'
  have hsize : l'.bytes.length < Sequence.size l := by
    rw [Lookahead.sequence_size, Lookahead.size_eq]
    omega
  by_cases hfull : (prefixMax width).toUInt64 ≤ byte.toUInt64 &&& (prefixMax width).toUInt64
  · simp only [if_pos hfull]
    exact decodeLoop_follows _ _ hsize
  · simp only [if_neg hfull]
    exact Lookahead.follows_pure _

end Decode

/-! ## Encoding -/

/-- The bytes after a full prefix: seven bits each, lowest first. -/
def digits (value : UInt64) : List UInt8 :=
  if 128 ≤ value then (value % 128 + 128).toUInt8 :: digits (value / 128) else [value.toUInt8]
termination_by value.toNat
decreasing_by
  rename_i h
  have hle : 128 ≤ value.toNat := UInt64.le_iff_toNat_le.mp h
  rw [UInt64.toNat_div]
  exact Nat.div_lt_self (by omega) (by decide)

/-- Seven bits, and the flag that others follow. -/
theorem digits_of_ge {value : UInt64} (h : 128 ≤ value) :
    digits value = (value % 128 + 128).toUInt8 :: digits (value / 128) := by
  rw [digits, if_pos h]

/-- The last digit has no flag. -/
theorem digits_of_lt {value : UInt64} (h : ¬ 128 ≤ value) : digits value = [value.toUInt8] := by
  rw [digits, if_neg h]

/-- A digit that others follow. -/
theorem digit_more (value : UInt64) : (value % 128 + 128).toUInt8.toNat = value.toNat % 128 + 128 := by
  rw [UInt64.toNat_toUInt8, UInt64.toNat_add, UInt64.toNat_mod]
  simp only [UInt64.reduceToNat]
  omega

/-- The last digit. -/
theorem digit_last {value : UInt64} (h : ¬ 128 ≤ value) : value.toUInt8.toNat = value.toNat := by
  rw [UInt64.le_iff_toNat_le] at h
  rw [UInt64.toNat_toUInt8]
  exact Nat.mod_eq_of_lt (Nat.lt_trans (Nat.lt_of_not_le h) (by decide))

/-- What the encoder writes where `first` was: the bits of `first` above the prefix stay. -/
def bytes (first : UInt8) (value : UInt64) (width : UInt8) : List UInt8 :=
  if value < (prefixMax width).toUInt64 then [(first &&& ~~~(prefixMax width)) ||| value.toUInt8]
  else (first ||| prefixMax width) :: digits (value - (prefixMax width).toUInt64)

/-- The loop stores the digits and ends behind them. -/
theorem encodeLoop_eq (m : Memory) (dest : Nat) (value : UInt64) :
    encodeLoop m dest value = (dest + (digits value).length, m.store dest (digits value)) := by
  induction value using digits.induct generalizing m dest with
  | case1 value h ih =>
    rw [encodeLoop, if_pos h, ih, digits_of_ge h, List.length_cons, Memory.store_cons]
    rw [Nat.add_assoc, Nat.add_comm 1]
  | case2 value h =>
    rw [encodeLoop, if_neg h, digits_of_lt h]
    rfl

/-- **The encoder writes the bytes**, and keeps what was above the prefix in the first one. -/
theorem encode_eq (m : Memory) (dest : Nat) (value : UInt64) (width : UInt8) :
    encode m dest value width =
      ((bytes (m.get dest) value width).length,
        m.store dest (bytes (m.get dest) value width)) := by
  rw [encode, bytes]
  dsimp only
  split
  · rfl
  · rw [encodeLoop_eq, List.length_cons, Memory.store_cons]
    dsimp only
    rw [show dest + 1 + _ - dest = (digits (value - (prefixMax width).toUInt64)).length + 1 by omega]

/-- There is a first byte. -/
theorem bytes_ne_nil (first : UInt8) (value : UInt64) (width : UInt8) :
    bytes first value width ≠ [] := by
  rw [bytes]
  split <;> exact List.cons_ne_nil _ _

/-- A first byte set before the integer is written over it does not count. -/
theorem set_store (m : Memory) (dest : Nat) (b first : UInt8) (value : UInt64) (width : UInt8) :
    (m.set dest b).store dest (bytes first value width) =
      m.store dest (bytes first value width) := by
  obtain ⟨c, cs, h⟩ := List.exists_cons_of_ne_nil (bytes_ne_nil first value width)
  rw [h, Memory.set_store_cons]

/-- The loop of `encoded_size` counts the digits. -/
theorem encodedSizeLoop_eq (value : UInt64) (n : Nat) :
    encodedSizeLoop value n + 1 = n + (digits value).length := by
  induction value using digits.induct generalizing n with
  | case1 value h ih =>
    rw [encodedSizeLoop, if_pos h, ih, digits_of_ge h, List.length_cons]
    omega
  | case2 value h =>
    rw [encodedSizeLoop, if_neg h, digits_of_lt h]
    rfl

/-- **`encoded_size` announces what is written**, whatever was in the first byte. -/
theorem encodedSize_eq (first : UInt8) (value : UInt64) (width : UInt8) :
    encodedSize value width = (bytes first value width).length := by
  rw [encodedSize, bytes]
  split
  · rfl
  · rw [encodedSizeLoop_eq, List.length_cons, Nat.add_comm]

/-! ## The round trip -/

/-- A digit at an offset below 32 is weighed as written, if the product stays below 2^32. -/
theorem contribution_eq {byte : UInt8} {k : Nat} (hk : k < 32)
    (h : byte.toNat % 128 * 2 ^ k < 2 ^ 32) :
    (contribution byte (UInt64.ofNat k)).toNat = byte.toNat % 128 * 2 ^ k := by
  have hk' : (UInt64.ofNat k).toUInt32.toNat % 32 = k := by
    rw [UInt64.toNat_toUInt32, UInt64.toNat_ofNat']
    omega
  have hone : (1 <<< k) % 2 ^ 32 = 2 ^ k := by
    rw [Nat.one_shiftLeft]
    exact Nat.mod_eq_of_lt (Nat.pow_lt_pow_right (by decide) hk)
  rw [contribution, UInt32.toNat_toUInt64, UInt32.toNat_mul, UInt8.toNat_toUInt32, and_127,
    UInt32.toNat_shiftLeft, hk', show (1 : UInt32).toNat = 1 from rfl, hone, Nat.mod_eq_of_lt h]

/-- The digits of a number read back, whatever stands in front of them. -/
theorem tail_digits {value result : UInt64} {j : Nat} (hj : j ≤ 4)
    (hv : value.toNat < 2 ^ (32 - 7 * j))
    (hr : result.toNat + value.toNat * 2 ^ (7 * j) < 2 ^ 64) (rest : List UInt8) :
    tail result (UInt64.ofNat (7 * j)) (digits value ++ rest) =
      .ok (UInt64.ofNat (result.toNat + value.toNat * 2 ^ (7 * j)), rest) := by
  have hbits : 2 ^ (32 - 7 * j) * 2 ^ (7 * j) = 2 ^ 32 := by
    rw [← Nat.pow_add, show 32 - 7 * j + 7 * j = 32 by omega]
  induction value using digits.induct generalizing result j with
  | case1 value h ih =>
    have hge : 128 ≤ value.toNat := UInt64.le_iff_toNat_le.mp h
    have hj3 : j ≤ 3 := by
      by_contra hcon
      obtain rfl : j = 4 := by omega
      omega
    have hbyte := digit_more value
    have hsplit : value.toNat % 128 * 2 ^ (7 * j) + value.toNat / 128 * 2 ^ (7 * (j + 1)) =
        value.toNat * 2 ^ (7 * j) := by
      rw [show 7 * (j + 1) = 7 + 7 * j by omega, Nat.pow_add, ← Nat.mul_assoc, ← Nat.add_mul]
      rw [show (2 : Nat) ^ 7 = 128 from rfl, Nat.add_comm, Nat.div_add_mod']
    have hcon : (contribution (value % 128 + 128).toUInt8 (UInt64.ofNat (7 * j))).toNat =
        value.toNat % 128 * 2 ^ (7 * j) := by
      have hdigit : (value % 128 + 128).toUInt8.toNat % 128 = value.toNat % 128 := by omega
      rw [← hdigit]
      refine contribution_eq (by omega) ?_
      rw [hdigit, ← hbits]
      exact Nat.mul_lt_mul_of_pos_right (by omega) (Nat.two_pow_pos _)
    have hresult : (result + contribution (value % 128 + 128).toUInt8 (UInt64.ofNat (7 * j))).toNat =
        result.toNat + value.toNat % 128 * 2 ^ (7 * j) := by
      rw [UInt64.toNat_add, hcon]
      omega
    have hoffset : UInt64.ofNat (7 * j) + 7 = UInt64.ofNat (7 * (j + 1)) := by
      rw [show 7 * (j + 1) = 7 * j + 7 by omega, UInt64.ofNat_add]
      rfl
    have hdiv : (value / 128).toNat = value.toNat / 128 := by rw [UInt64.toNat_div]; rfl
    have hvdiv : (value / 128).toNat < 2 ^ (32 - 7 * (j + 1)) := by
      rw [hdiv]
      refine Nat.div_lt_of_lt_mul ?_
      rwa [show (128 : Nat) = 2 ^ 7 from rfl, ← Nat.pow_add,
        show 7 + (32 - 7 * (j + 1)) = 32 - 7 * j by omega]
    rw [digits_of_ge h, List.cons_append, tail, if_pos ((and_128 _).mpr (by omega)), hoffset]
    rw [ih (by omega) hvdiv (by rw [hresult, hdiv]; omega)
      (by rw [← Nat.pow_add, show 32 - 7 * (j + 1) + 7 * (j + 1) = 32 by omega])]
    rw [hresult, hdiv, Nat.add_assoc, hsplit]
  | case2 value h =>
    have hlt : value.toNat < 128 := by
      rw [UInt64.le_iff_toNat_le] at h
      exact Nat.lt_of_not_le h
    have hbyte := digit_last h
    have hdigit : value.toUInt8.toNat % 128 = value.toNat := by omega
    have hcon : (contribution value.toUInt8 (UInt64.ofNat (7 * j))).toNat =
        value.toNat * 2 ^ (7 * j) := by
      rw [contribution_eq (by omega)] <;> rw [hdigit]
      rw [← hbits]
      exact Nat.mul_lt_mul_of_pos_right hv (Nat.two_pow_pos _)
    rw [digits_of_lt h, List.cons_append, tail, if_neg (by rw [and_128]; omega)]
    refine congrArg (fun v => Except.ok (v, rest)) (UInt64.toNat.inj ?_)
    rw [UInt64.toNat_add, hcon, UInt64.toNat_ofNat']

/-- The prefix is all ones. -/
theorem prefixMax_spec (width : UInt8) : ∃ k ≤ 8, (prefixMax width).toNat = 2 ^ k - 1 := by
  have h : ∀ w : UInt8, ∃ k : Fin 9, (prefixMax w).toNat = 2 ^ k.val - 1 :=
    forall_byte (by decide +kernel)
  obtain ⟨k, hk⟩ := h width
  exact ⟨k.val, Nat.le_of_lt_succ k.isLt, hk⟩

/-- A byte below the mask keeps all its bits under it. -/
theorem and_prefixMax {width byte : UInt8} (h : byte.toNat < (prefixMax width).toNat) :
    byte &&& prefixMax width = byte := by
  obtain ⟨k, -, hk⟩ := prefixMax_spec width
  apply UInt8.toNat.inj
  rw [UInt8.toNat_and, hk, Nat.and_two_pow_sub_one_eq_mod]
  exact Nat.mod_eq_of_lt (by omega)

/-- Under the mask the second is seen. -/
theorem mask_or (a b m : UInt8) : ((a &&& ~~~m) ||| b) &&& m = b &&& m := by
  apply UInt8.toBitVec_inj.mp
  ext i hi
  simp only [UInt8.toBitVec_and, UInt8.toBitVec_or, UInt8.toBitVec_not, BitVec.getElem_and,
    BitVec.getElem_or, BitVec.getElem_not]
  cases m.toBitVec[i] <;> simp

/-- A full prefix is seen as the mask. -/
theorem or_mask (a m : UInt8) : (a ||| m) &&& m = m := by
  apply UInt8.toBitVec_inj.mp
  ext i hi
  simp only [UInt8.toBitVec_and, UInt8.toBitVec_or, BitVec.getElem_and, BitVec.getElem_or]
  cases m.toBitVec[i] <;> simp

/-- Above the mask the first is seen. -/
theorem mask_or_not {a b m : UInt8} (h : b &&& m = b) :
    ((a &&& ~~~m) ||| b) &&& ~~~m = a &&& ~~~m := by
  rw [← h]
  apply UInt8.toBitVec_inj.mp
  ext i hi
  simp only [UInt8.toBitVec_and, UInt8.toBitVec_or, UInt8.toBitVec_not, BitVec.getElem_and,
    BitVec.getElem_or, BitVec.getElem_not]
  cases m.toBitVec[i] <;> simp

/-- Above the mask a full prefix changes nothing. -/
theorem or_mask_not (a m : UInt8) : (a ||| m) &&& ~~~m = a &&& ~~~m := by
  apply UInt8.toBitVec_inj.mp
  ext i hi
  simp only [UInt8.toBitVec_and, UInt8.toBitVec_or, UInt8.toBitVec_not, BitVec.getElem_and,
    BitVec.getElem_or, BitVec.getElem_not]
  cases m.toBitVec[i] <;> simp

/-- The first byte written has the bits above the prefix of the byte that was there. -/
theorem bytes_head (first : UInt8) (value : UInt64) (width : UInt8) :
    ∃ byte tl, bytes first value width = byte :: tl ∧
      byte &&& ~~~(prefixMax width) = first &&& ~~~(prefixMax width) := by
  rw [bytes]
  split
  · next h =>
    refine ⟨_, [], rfl, mask_or_not (and_prefixMax ?_)⟩
    have hlt : value.toNat < (prefixMax width).toNat := by
      rw [← UInt8.toNat_toUInt64]
      exact UInt64.lt_iff_toNat_lt.mp h
    rw [UInt64.toNat_toUInt8]
    exact Nat.lt_of_le_of_lt (Nat.mod_le _ _) hlt
  · exact ⟨_, _, rfl, or_mask_not _ _⟩

/-- A value below the mask is below it as a number. -/
theorem toNat_lt_prefixMax {value : UInt64} {width : UInt8} (h : value < (prefixMax width).toUInt64) :
    value.toNat < (prefixMax width).toNat := by
  have hmax : (prefixMax width).toUInt64.toNat = (prefixMax width).toNat := UInt8.toNat_toUInt64 _
  rw [← hmax]
  exact UInt64.lt_iff_toNat_lt.mp h

/-- A value that the prefix holds is a byte. -/
theorem toNat_toUInt8_of_lt {value : UInt64} {width : UInt8} (h : value < (prefixMax width).toUInt64) :
    value.toUInt8.toNat = value.toNat := by
  have hlt := toNat_lt_prefixMax h
  have hbyte := (prefixMax width).toNat_lt
  rw [UInt64.toNat_toUInt8]
  omega

/-- **Decoding undoes encoding**, where what goes behind the prefix is below 2^32. -/
theorem parser_bytes {first width : UInt8} {value : UInt64}
    (hv : value.toNat < 2 ^ 32 + (prefixMax width).toNat) (rest : List UInt8) :
    parser width (bytes first value width ++ rest) = .ok (value, rest) := by
  have hmax : (prefixMax width).toUInt64.toNat = (prefixMax width).toNat := UInt8.toNat_toUInt64 _
  rw [bytes]
  split
  · next hlt =>
    have hlt' := toNat_lt_prefixMax hlt
    have hsmall := toNat_toUInt8_of_lt hlt
    have hback : value.toUInt8.toUInt64 = value :=
      UInt64.toNat.inj (by rw [UInt8.toNat_toUInt64, hsmall])
    rw [List.singleton_append, parser_cons, mask_or, and_prefixMax (by omega), hback,
      if_neg (by rw [UInt64.not_le]; exact hlt)]
  · next hge =>
    have hge' : (prefixMax width).toNat ≤ value.toNat := by
      rw [← hmax]
      exact UInt64.le_iff_toNat_le.mp (UInt64.not_lt.mp hge)
    have hsub : (value - (prefixMax width).toUInt64).toNat =
        value.toNat - (prefixMax width).toNat := by
      rw [UInt64.toNat_sub_of_le _ _ (UInt64.not_lt.mp hge), hmax]
    have hlt := value.toNat_lt
    rw [List.cons_append, parser_cons, or_mask, if_pos (UInt64.le_refl _)]
    refine (tail_digits (j := 0) (by decide) (by omega) (by rw [hsub, hmax]; omega) rest).trans ?_
    refine congrArg (fun v => Except.ok (v, rest)) (UInt64.toNat.inj ?_)
    rw [UInt64.toNat_ofNat', hsub, hmax]
    omega

end Bnl.Http3.Qpack.PrefixInt
