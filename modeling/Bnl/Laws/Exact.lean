import Bnl.Laws.Written

/-!
# Exact prefix integers

The decoder weighs each digit by `1U << offset`, in an `unsigned`. An integer is read as it is written where
every digit is weighed below 2^32. Where one is not, the integer is read too small or the shift is undefined,
and the encoder writes such integers as well.

**The law** is `exact_iff`. Of the encoder's integers those below 2^32 behind the prefix read back. Of all
inputs it says when whatever is read is the number that was written: when no more than five digits follow the
prefix and the fifth is below sixteen, which is a condition on the bytes. `written` is the integer as the format
defines it, in natural numbers, and no arithmetic of the decoder's enters it.

The proof compares the two sums digit by digit. A digit contributes what it is worth or less
(`contribution_le`), so the decoder's sum is at most the number and equal only where no digit loses anything
(`tail_le`); a digit that loses nothing is worth less than 2^32, and offsets grow by seven.

A shift by 32 or more is undefined in C++. It is read as the machine's, and an input that reaches one is not
exact here whatever it is read as.
-/

namespace Bnl.Http3.Qpack.PrefixInt

open Incremental Bnl.Base Bytes

/-! ## Decoding from any sequence -/

section Decode

variable {σ β α γ : Type} [Storage β] [Sequence σ β]

/-- The answer is the parser's, and what it read is gone; where it fails, all is. -/
def Reads (p : Parser Error UInt8 α) (s : σ) (r : Except Error α × σ) : Prop :=
  match p (Sequence.bytes s) with
  | .ok (a, rest) => r.1 = .ok a ∧ Sequence.bytes r.2 = rest
  | .error e => r.1 = .error e ∧ Sequence.bytes r.2 = []

/-- A reader that answers at once reads nothing. -/
theorem reads_pure (a : α) (s : σ) : Reads (pure a : Parser Error UInt8 α) s (.ok a, s) := ⟨rfl, rfl⟩

/-- Two readers, one after the other. -/
theorem Reads.bind {p : Parser Error UInt8 α} {f : α → Parser Error UInt8 γ} {x : Reader Error σ α}
    {k : α → Reader Error σ γ} {s : σ} (hx : Reads p s (x s))
    (hk : ∀ a s', x s = (.ok a, s') → Reads (f a) s' (k a s')) : Reads (p >>= f) s ((x >>= k) s) := by
  rw [Reader.bind_apply]
  unfold Reads at hx ⊢
  rcases hxs : x s with ⟨v, s'⟩
  rw [hxs] at hx
  cases hp : p (Sequence.bytes s) with
  | error e =>
    rw [hp] at hx
    obtain ⟨rfl, hnil⟩ := hx
    rw [Parser.bind_error hp]
    exact ⟨rfl, hnil⟩
  | ok q =>
    obtain ⟨a, rest⟩ := q
    rw [hp] at hx
    obtain ⟨rfl, hrest⟩ := hx
    have hnext := hk a s' hxs
    unfold Reads at hnext
    rw [hrest] at hnext
    rw [Parser.bind_ok hp]
    exact hnext

/-- A byte, or nothing where there is none. -/
theorem uint8Decode_reads (s : σ) : Reads (Parser.item .incomplete) s (uint8Decode s) := by
  unfold Reads uint8Decode
  match hb : Sequence.bytes s with
  | [] =>
    rw [if_pos (Sequence.empty_iff.mpr hb)]
    exact ⟨rfl, hb⟩
  | byte :: rest =>
    have hne : Sequence.empty s = false :=
      Sequence.empty_eq_false.mpr (by rw [hb]; exact List.cons_ne_nil _ _)
    rw [if_neg (Bool.not_eq_true _ ▸ hne)]
    refine ⟨congrArg Except.ok (Sequence.head_eq hb), ?_⟩
    show Sequence.bytes (Sequence.consume s 1) = rest
    rw [Sequence.consume_eq, hb]
    rfl

/-- A byte that was read is gone. -/
theorem length_of_uint8Decode {s s' : σ} {byte : UInt8} (h : uint8Decode s = (.ok byte, s')) :
    (Sequence.bytes s').length + 1 = (Sequence.bytes s).length := by
  have hreads := uint8Decode_reads s
  unfold Reads at hreads
  rw [h] at hreads
  match hb : Sequence.bytes s with
  | [] =>
    rw [hb] at hreads
    cases hreads.1
  | b :: rest =>
    rw [hb] at hreads
    rw [hreads.2]
    rfl

/-- The loop takes the digits, to the end of the input where there is no last one. The induction is on the fuel. -/
theorem decodeLoop_reads {fuel : Nat} {s : σ} (result offset : UInt64)
    (hfuel : (Sequence.bytes s).length < fuel) :
    Reads (tail result offset) s (decodeLoop fuel result offset s) := by
  induction fuel generalizing s result offset with
  | zero => exact absurd hfuel (Nat.not_lt_zero _)
  | succ fuel ih =>
    rw [tail_eq, decodeLoop]
    refine (uint8Decode_reads s).bind fun byte s' hs' => ?_
    split
    · have := length_of_uint8Decode hs'
      exact ih _ _ (by omega)
    · exact reads_pure _ _

/-- **What the decoder takes from a sequence**: the integer, or all of it. -/
theorem decode_reads (width : UInt8) (s : σ) : Reads (parser width) s (decode width s) := by
  have hresult : Reads (parser width) s (decodeResult width (Sequence.size s) s) := by
    refine (uint8Decode_reads s).bind fun byte s' hs' => ?_
    have hread := length_of_uint8Decode hs'
    by_cases hfull : (prefixMax width).toUInt64 ≤ byte.toUInt64 &&& (prefixMax width).toUInt64
    · simp only [if_pos hfull]
      refine decodeLoop_reads _ _ ?_
      rw [Sequence.size_eq]
      omega
    · simp only [if_neg hfull]
      exact reads_pure _ _
  unfold decode
  rcases hr : decodeResult width (Sequence.size s) s with ⟨v | v, s'⟩
  · rw [hr] at hresult
    exact hresult
  · rw [hr] at hresult
    dsimp only
    rw [Sequence.lookahead_consumed]
    unfold Reads at hresult ⊢
    split at hresult
    · refine ⟨hresult.1, ?_⟩
      show Sequence.bytes (Sequence.consume s' 0) = _
      rw [Sequence.consume_eq, List.drop_zero]
      exact hresult.2
    · cases hresult.1

end Decode

/-! ## Digits and their weights -/

/-- The bytes behind a full first byte. -/
def tailBytes : List UInt8 → List UInt8
  | [] => []
  | byte :: rest => if byte &&& 128 = 128 then byte :: tailBytes rest else [byte]

/-- The bytes of the integer behind its first. -/
def behind (width : UInt8) : List UInt8 → List UInt8
  | [] => []
  | byte :: rest => if prefixMax width ≤ byte &&& prefixMax width then tailBytes rest else []

/-- The digit is weighed as it is written. -/
def Weighs (o : Nat) (digit : UInt8) : Prop :=
  (contribution digit (UInt64.ofNat o)).toNat = digit.toNat % 128 * 2 ^ o

/-- No digit is weighed for more than it is. -/
theorem contribution_le (digit : UInt8) (o : Nat) :
    (contribution digit (UInt64.ofNat o)).toNat ≤ digit.toNat % 128 * 2 ^ o := by
  have hshift : (UInt64.ofNat o).toUInt32.toNat % 32 ≤ o := by
    rw [UInt64.toNat_toUInt32, UInt64.toNat_ofNat']
    omega
  rw [contribution, UInt32.toNat_toUInt64, UInt32.toNat_mul, UInt8.toNat_toUInt32, and_127,
    UInt32.toNat_shiftLeft, show (1 : UInt32).toNat = 1 from rfl, Nat.one_shiftLeft]
  refine Nat.le_trans (Nat.mod_le _ _) (Nat.mul_le_mul_left _ ?_)
  exact Nat.le_trans (Nat.mod_le _ _) (Nat.pow_le_pow_right (by decide) hshift)

/-- The product has 32 bits, so a digit that is weighed right is worth less than 2^32. -/
theorem Weighs.lt {o : Nat} {digit : UInt8} (h : Weighs o digit) : digit.toNat % 128 * 2 ^ o < 2 ^ 32 := by
  unfold Weighs at h
  rw [← h, contribution, UInt32.toNat_toUInt64]
  exact UInt32.toNat_lt _

/-- And one that is worth less than that is weighed right, if the shift is defined. -/
theorem weighs_of_lt {o : Nat} {digit : UInt8} (ho : o < 32) (h : digit.toNat % 128 * 2 ^ o < 2 ^ 32) :
    Weighs o digit := contribution_eq ho h

/-- What is read is never too large, and right only where each digit is weighed as it is written. -/
theorem tail_le {result : UInt64} {r o n : Nat} {v : UInt64} {b rest rest' : List UInt8}
    (hv : tail result (UInt64.ofNat o) b = .ok (v, rest)) (hn : writtenTail r o b = .ok (n, rest'))
    (hr : result.toNat ≤ r) : v.toNat ≤ n ∧ (v.toNat = n → result.toNat = r ∧
      ∀ i digit, (tailBytes b)[i]? = some digit → Weighs (o + 7 * i) digit) := by
  induction b generalizing result r o with
  | nil => cases hv
  | cons byte b ih =>
    have hle := contribution_le byte o
    have hsum : (result + contribution byte (UInt64.ofNat o)).toNat ≤
        result.toNat + (contribution byte (UInt64.ofNat o)).toNat := by
      rw [UInt64.toNat_add]
      exact Nat.mod_le _ _
    have heq (h : (result + contribution byte (UInt64.ofNat o)).toNat = r + byte.toNat % 128 * 2 ^ o) :
        result.toNat = r ∧ Weighs o byte := ⟨by omega, by unfold Weighs; omega⟩
    rw [tail] at hv
    rw [writtenTail] at hn
    unfold tailBytes
    by_cases hmore : byte &&& 128 = 128
    · rw [if_pos hmore] at hv hn ⊢
      have hoffset : UInt64.ofNat o + 7 = UInt64.ofNat (o + 7) := by
        rw [UInt64.ofNat_add]
        rfl
      rw [hoffset] at hv
      obtain ⟨hvn, hright⟩ := ih hv hn (by omega)
      refine ⟨hvn, fun h => ?_⟩
      obtain ⟨hfirst, hrest⟩ := hright h
      refine ⟨(heq hfirst).1, fun i digit hi => ?_⟩
      cases i with
      | zero =>
        cases hi
        exact (heq hfirst).2
      | succ i =>
        rw [show o + 7 * (i + 1) = o + 7 + 7 * i by omega]
        exact hrest i digit hi
    · rw [if_neg hmore] at hv hn ⊢
      cases hv
      cases hn
      refine ⟨by omega, fun h => ⟨(heq h).1, fun i digit hi => ?_⟩⟩
      cases i with
      | zero =>
        cases hi
        exact (heq h).2
      | succ i => cases hi

/-- Where each digit is weighed as it is written, so is the sum. -/
theorem tail_eq_of_weighs {result : UInt64} {r o n : Nat} {v : UInt64} {b rest rest' : List UInt8}
    (hv : tail result (UInt64.ofNat o) b = .ok (v, rest)) (hn : writtenTail r o b = .ok (n, rest'))
    (hr : result.toNat = r) (hlt : n < 2 ^ 64)
    (hweighs : ∀ i digit, (tailBytes b)[i]? = some digit → Weighs (o + 7 * i) digit) :
    v.toNat = n := by
  induction b generalizing result r o with
  | nil => cases hv
  | cons byte b ih =>
    unfold tailBytes at hweighs
    rw [tail] at hv
    rw [writtenTail] at hn
    have hsum (hbyte : Weighs o byte) (hle : r + byte.toNat % 128 * 2 ^ o ≤ n) :
        (result + contribution byte (UInt64.ofNat o)).toNat = r + byte.toNat % 128 * 2 ^ o := by
      unfold Weighs at hbyte
      rw [UInt64.toNat_add, hr, hbyte]
      exact Nat.mod_eq_of_lt (Nat.lt_of_le_of_lt hle hlt)
    by_cases hmore : byte &&& 128 = 128
    · rw [if_pos hmore] at hv hn hweighs
      have hoffset : UInt64.ofNat o + 7 = UInt64.ofNat (o + 7) := by
        rw [UInt64.ofNat_add]
        rfl
      rw [hoffset] at hv
      refine ih hv hn (hsum (hweighs 0 byte rfl) (writtenTail_ge hn)) fun i digit hi => ?_
      rw [show o + 7 + 7 * i = o + 7 * (i + 1) by omega]
      exact hweighs (i + 1) digit hi
    · rw [if_neg hmore] at hv hn hweighs
      cases hv
      cases hn
      exact hsum (hweighs 0 byte rfl) (Nat.le_refl _)

/-- Digits that are weighed below 2^32 sum up to less than their number times that. -/
theorem writtenTail_le {r o n : Nat} {b rest : List UInt8} (hn : writtenTail r o b = .ok (n, rest))
    (hlt : ∀ i digit, (tailBytes b)[i]? = some digit → digit.toNat % 128 * 2 ^ (o + 7 * i) < 2 ^ 32) :
    n ≤ r + (tailBytes b).length * 2 ^ 32 := by
  induction b generalizing r o with
  | nil => cases hn
  | cons byte b ih =>
    unfold tailBytes at hlt ⊢
    rw [writtenTail] at hn
    by_cases hmore : byte &&& 128 = 128
    · rw [if_pos hmore] at hn hlt ⊢
      have hfirst := hlt 0 byte rfl
      have hrest := ih hn fun i digit hi => by
        rw [show o + 7 + 7 * i = o + 7 * (i + 1) by omega]
        exact hlt (i + 1) digit hi
      rw [List.length_cons]
      rw [Nat.mul_zero, Nat.add_zero] at hfirst
      omega
    · rw [if_neg hmore] at hn hlt ⊢
      have hfirst := hlt 0 byte rfl
      cases hn
      rw [Nat.mul_zero, Nat.add_zero] at hfirst
      rw [List.length_singleton]
      omega

/-! ## Digits of a number -/

/-- The digits end with the one that says so. -/
theorem tailBytes_digits (value : UInt64) (rest : List UInt8) :
    tailBytes (digits value ++ rest) = digits value := by
  induction value using digits.induct with
  | case1 value h ih =>
    rw [digits_of_ge h, List.cons_append, tailBytes, if_pos, ih]
    rw [and_128, digit_more]
    exact Nat.le_add_left _ _
  | case2 value h =>
    rw [digits_of_lt h, List.singleton_append, tailBytes, if_neg]
    rw [and_128, digit_last h]
    exact fun hle => h (UInt64.le_iff_toNat_le.mpr hle)

/-- The digits of a number, as they are written, are the number. -/
theorem writtenTail_digits (value : UInt64) (r o : Nat) (rest : List UInt8) :
    writtenTail r o (digits value ++ rest) = .ok (r + value.toNat * 2 ^ o, rest) := by
  induction value using digits.induct generalizing r o with
  | case1 value h ih =>
    have hdigit : (value.toNat % 128 + 128) % 128 = value.toNat % 128 := by omega
    have hsplit : value.toNat % 128 * 2 ^ o + value.toNat / 128 * 2 ^ (o + 7) = value.toNat * 2 ^ o := by
      rw [Nat.add_comm o, Nat.pow_add, ← Nat.mul_assoc, ← Nat.add_mul]
      rw [show (2 : Nat) ^ 7 = 128 from rfl, Nat.add_comm, Nat.div_add_mod']
    rw [digits_of_ge h, List.cons_append, writtenTail, if_pos, ih, digit_more, hdigit, UInt64.toNat_div,
      Nat.add_assoc]
    · exact congrArg (fun n => Except.ok (r + n, rest)) hsplit
    · rw [and_128, digit_more]
      exact Nat.le_add_left _ _
  | case2 value h =>
    have hlt : value.toNat < 128 := Nat.lt_of_not_le fun hle => h (UInt64.le_iff_toNat_le.mpr hle)
    rw [digits_of_lt h, List.singleton_append, writtenTail, if_neg, digit_last h, Nat.mod_eq_of_lt hlt]
    rw [and_128, digit_last h]
    exact Nat.not_le.mpr hlt

/-- A number whose digits are all weighed as they are written is below 2^32. -/
theorem lt_of_digits_weigh {value : UInt64} {o : Nat}
    (h : ∀ i digit, (digits value)[i]? = some digit → Weighs (o + 7 * i) digit) :
    value.toNat * 2 ^ o < 2 ^ 32 := by
  induction value using digits.induct generalizing o with
  | case1 value hge ih =>
    rw [digits_of_ge hge] at h
    have hrest := ih (o := o + 7) fun i digit hi => by
      rw [show o + 7 + 7 * i = o + 7 * (i + 1) by omega]
      exact h (i + 1) digit hi
    have hle : 128 ≤ value.toNat := UInt64.le_iff_toNat_le.mp hge
    rw [UInt64.toNat_div] at hrest
    have hpos : 1 ≤ value.toNat / 128 := Nat.div_pos hle (by decide)
    -- 2^(o + 7) divides 2^32, so the rest is below it by that much
    have hpow : 2 ^ (o + 7) < 2 ^ 32 := Nat.lt_of_le_of_lt (Nat.le_mul_of_pos_left _ hpos) hrest
    have ho : o + 7 ≤ 32 := Nat.le_of_lt ((Nat.pow_lt_pow_iff_right (by decide)).mp hpow)
    have hbits : 2 ^ (32 - (o + 7)) * 2 ^ (o + 7) = 2 ^ 32 := by rw [← Nat.pow_add, Nat.sub_add_cancel ho]
    have hquot : value.toNat / 128 < 2 ^ (32 - (o + 7)) := by
      rw [← hbits] at hrest
      exact Nat.lt_of_mul_lt_mul_right hrest
    calc value.toNat * 2 ^ o < (value.toNat / 128 + 1) * 128 * 2 ^ o :=
          Nat.mul_lt_mul_of_pos_right (by omega) (Nat.two_pow_pos o)
      _ = (value.toNat / 128 + 1) * 2 ^ (o + 7) := by
          rw [Nat.mul_assoc, Nat.add_comm o, Nat.pow_add]
      _ ≤ 2 ^ (32 - (o + 7)) * 2 ^ (o + 7) := Nat.mul_le_mul_right _ hquot
      _ = 2 ^ 32 := hbits
  | case2 value hlt =>
    rw [digits_of_lt hlt] at h
    have hfirst := (h 0 _ rfl).lt
    have hval : value.toNat < 128 := Nat.lt_of_not_le fun hle => hlt (UInt64.le_iff_toNat_le.mpr hle)
    rwa [digit_last hlt, Nat.mod_eq_of_lt hval, Nat.mul_zero, Nat.add_zero] at hfirst

/-- What stands behind the first byte of an integer that the prefix does not hold. -/
theorem behind_bytes (first : UInt8) (value : UInt64) (width : UInt8) (rest : List UInt8)
    (h : ¬ value < (prefixMax width).toUInt64) :
    behind width (bytes first value width ++ rest) = digits (value - (prefixMax width).toUInt64) := by
  rw [bytes, if_neg h, List.cons_append, behind, or_mask, if_pos (UInt8.le_refl _), tailBytes_digits]

/-- What the encoder writes is the number, by the format. -/
theorem written_bytes (first : UInt8) (value : UInt64) (width : UInt8) (rest : List UInt8) :
    written width (bytes first value width ++ rest) = .ok (value.toNat, rest) := by
  have hmax : (prefixMax width).toUInt64.toNat = (prefixMax width).toNat := UInt8.toNat_toUInt64 _
  by_cases h : value < (prefixMax width).toUInt64
  · have hlt := toNat_lt_prefixMax h
    have hsmall := toNat_toUInt8_of_lt h
    rw [bytes, if_pos h, List.singleton_append, written, mask_or, and_prefixMax (by omega), if_neg, hsmall]
    rw [UInt8.le_iff_toNat_le, hsmall]
    exact Nat.not_le.mpr hlt
  · have hle := UInt64.not_lt.mp h
    have hge : (prefixMax width).toNat ≤ value.toNat := hmax ▸ UInt64.le_iff_toNat_le.mp hle
    rw [bytes, if_neg h, List.cons_append, written, or_mask, if_pos (UInt8.le_refl _),
      writtenTail_digits, UInt64.toNat_sub_of_le _ _ hle, hmax, Nat.pow_zero, Nat.mul_one,
      Nat.add_sub_cancel' hge]

/-! ## What is read as it is written -/

/-- An integer whose prefix is full is read by the loop. -/
theorem tail_of_parse {width byte : UInt8} {b rest : List UInt8} {v : UInt64}
    (hfull : prefixMax width ≤ byte &&& prefixMax width)
    (h : parser width (byte :: b) = .ok (v, rest)) :
    tail (prefixMax width).toUInt64 (UInt64.ofNat 0) b = .ok (v, rest) := by
  have hfirst : byte &&& prefixMax width = prefixMax width := by
    refine UInt8.le_antisymm (UInt8.le_iff_toNat_le.mpr ?_) hfull
    rw [UInt8.toNat_and]
    exact Nat.and_le_right
  rw [parser_cons, if_pos (UInt8.toUInt64_le.mpr hfull), hfirst] at h
  exact h

/-- An integer that is read right has all its digits weighed as they are written. -/
theorem weighs_of_parse {width : UInt8} {b rest rest' : List UInt8} {v : UInt64}
    (hv : parser width b = .ok (v, rest)) (hn : written width b = .ok (v.toNat, rest')) :
    ∀ i digit, (behind width b)[i]? = some digit → Weighs (7 * i) digit := by
  intro i digit hi
  cases b with
  | nil => cases hi
  | cons byte b =>
    rw [behind] at hi
    rw [written] at hn
    by_cases hfull : prefixMax width ≤ byte &&& prefixMax width
    · rw [if_pos hfull] at hi hn
      have hright := (tail_le (tail_of_parse hfull hv) hn (Nat.le_of_eq (UInt8.toNat_toUInt64 _))).2 rfl
      rw [← Nat.zero_add (7 * i)]
      exact hright.2 i digit hi
    · rw [if_neg hfull] at hi
      cases hi

/-- An integer whose digits are few and small is read right. -/
theorem parser_eq_of_weighs {width : UInt8} {b rest rest' : List UInt8} {v : UInt64} {n : Nat}
    (hv : parser width b = .ok (v, rest)) (hn : written width b = .ok (n, rest'))
    (hlength : (behind width b).length ≤ 5)
    (hlt : ∀ i digit, (behind width b)[i]? = some digit → digit.toNat % 128 * 2 ^ (7 * i) < 2 ^ 32) :
    v.toNat = n := by
  cases b with
  | nil => cases hn
  | cons byte b =>
    by_cases hfull : prefixMax width ≤ byte &&& prefixMax width
    · have hbehind : behind width (byte :: b) = tailBytes b := if_pos hfull
      rw [hbehind] at hlength hlt
      rw [written, if_pos hfull] at hn
      have hlt' : ∀ i digit, (tailBytes b)[i]? = some digit →
          digit.toNat % 128 * 2 ^ (0 + 7 * i) < 2 ^ 32 := fun i digit hi => by
        rw [Nat.zero_add]
        exact hlt i digit hi
      have hbound : n < 2 ^ 64 := by
        have hle := writtenTail_le hn hlt'
        have := (prefixMax width).toNat_lt
        omega
      refine tail_eq_of_weighs (tail_of_parse hfull hv) hn (UInt8.toNat_toUInt64 _) hbound
        fun i digit hi => weighs_of_lt ?_ (hlt' i digit hi)
      have := (List.getElem?_eq_some_iff.mp hi).1
      omega
    · rw [written, if_neg hfull] at hn
      rw [parser_cons, if_neg (fun hle => hfull (UInt8.toUInt64_le.mp hle))] at hv
      cases hn
      cases hv
      exact UInt8.toNat_toUInt64 _

/-! ## Exact integers -/

/-- The encoder writes the bytes it announced and keeps the bits above the prefix of the first one, and
the decoder reads the value from what is written and leaves what stands behind it. -/
structure RoundTrips (m : Memory) (dest : Nat) (value : UInt64) (width : UInt8) (suffix : List UInt8) :
    Prop where
  size : (encode m dest value width).1 = encodedSize value width
  frame : ∀ i, i < dest ∨ dest + encodedSize value width ≤ i →
    (encode m dest value width).2.get i = m.get i
  first : (encode m dest value width).2.get dest &&& ~~~(prefixMax width) =
    m.get dest &&& ~~~(prefixMax width)
  decoded : ∀ {σ β : Type} [Storage β] [Sequence σ β] (s : σ),
    Sequence.bytes s = (encode m dest value width).2.load dest (encodedSize value width) ++ suffix →
      ∃ s', decode width s = (.ok value, s') ∧ Sequence.bytes s' = suffix

/-- A value that is read is the integer that is gone from the sequence, and no product was cut off and
no shift undefined. -/
def Exact (width : UInt8) (b : List UInt8) : Prop :=
  ∀ {σ β : Type} [Storage β] [Sequence σ β] (s : σ), Sequence.bytes s = b →
    ∀ value s', decode width s = (.ok value, s') →
      written width b = .ok (value.toNat, Sequence.bytes s') ∧
      ∀ i digit, (behind width b)[i]? = some digit →
        7 * i < 32 ∧ digit.toNat % 128 * 2 ^ (7 * i) < 2 ^ 32

/-- An integer that ends within the bytes has at most five behind its first, and the fifth is small. -/
def Small (width : UInt8) (b : List UInt8) : Prop :=
  ∀ n rest, written width b = .ok (n, rest) →
    (behind width b).length ≤ 5 ∧ ∀ digit, (behind width b)[4]? = some digit → digit.toNat % 128 < 16

/-- What the encoder leaves in the memory it announced. -/
theorem encode_store (m : Memory) (dest : Nat) (value : UInt64) (width : UInt8) :
    (encode m dest value width).2.load dest (encodedSize value width) =
      bytes (m.get dest) value width := by
  rw [encode_eq, encodedSize_eq (m.get dest), Memory.load_store]

/-- The integers of the encoder that read back. -/
theorem roundTrips_iff (m : Memory) (dest : Nat) (value : UInt64) (width : UInt8) (suffix : List UInt8) :
    RoundTrips m dest value width suffix ↔ value.toNat < 2 ^ 32 + (prefixMax width).toNat := by
  constructor
  · intro h
    obtain ⟨s', hs', hsuffix⟩ := h.decoded (⟨bytes (m.get dest) value width ++ suffix⟩ : Buffer)
      (by rw [encode_store]; rfl)
    have hreads := decode_reads width (⟨bytes (m.get dest) value width ++ suffix⟩ : Buffer)
    rw [hs'] at hreads
    obtain ⟨v, hv⟩ := parser_of_written (written_bytes (m.get dest) value width suffix)
    have hvalue : v = value := by
      unfold Reads at hreads
      rw [show Sequence.bytes (⟨bytes (m.get dest) value width ++ suffix⟩ : Buffer) =
        bytes (m.get dest) value width ++ suffix from rfl, hv] at hreads
      exact (Except.ok.inj hreads.1).symm
    subst hvalue
    have hweighs := weighs_of_parse hv (written_bytes (m.get dest) v width suffix)
    have hmax : (prefixMax width).toUInt64.toNat = (prefixMax width).toNat := UInt8.toNat_toUInt64 _
    by_cases hlt : v < (prefixMax width).toUInt64
    · have := UInt64.lt_iff_toNat_lt.mp hlt
      omega
    · rw [behind_bytes _ _ _ _ hlt] at hweighs
      have hbound := lt_of_digits_weigh (o := 0) fun i digit hi => by
        rw [Nat.zero_add]
        exact hweighs i digit hi
      rw [UInt64.toNat_sub_of_le _ _ (UInt64.not_lt.mp hlt), hmax] at hbound
      omega
  · intro hlt
    refine ⟨?_, fun i hi => ?_, ?_, fun s hs => ?_⟩
    · rw [encode_eq, encodedSize_eq (m.get dest)]
    · rw [encodedSize_eq (m.get dest)] at hi
      rw [encode_eq]
      rcases hi with hi | hi
      · exact Memory.get_store_of_lt hi
      · exact Memory.get_store_of_ge hi
    · obtain ⟨byte, tl, hbytes, hhead⟩ := bytes_head (m.get dest) value width
      rw [encode_eq, hbytes]
      rw [show (m.store dest (byte :: tl)).get dest = byte by
        rw [Memory.store_cons, Memory.get_store_of_lt (Nat.lt_succ_self _), Memory.get_set_self]]
      exact hhead
    · rw [encode_store] at hs
      have hreads := decode_reads width s
      unfold Reads at hreads
      rw [hs, parser_bytes hlt] at hreads
      exact ⟨_, Prod.ext hreads.1 rfl, hreads.2⟩

/-- The inputs that are read as they are written. -/
theorem exact_iff_small (width : UInt8) (b : List UInt8) : Exact width b ↔ Small width b := by
  constructor
  · intro h n rest hn
    obtain ⟨v, hv⟩ := parser_of_written hn
    have hreads := decode_reads width (⟨b⟩ : Buffer)
    unfold Reads at hreads
    rw [show Sequence.bytes (⟨b⟩ : Buffer) = b from rfl, hv] at hreads
    obtain ⟨-, hdigits⟩ := h (⟨b⟩ : Buffer) rfl v _ (Prod.ext hreads.1 rfl)
    refine ⟨Nat.le_of_not_lt fun hlong => ?_, fun digit hi => ?_⟩
    · have := (hdigits 5 _ (List.getElem?_eq_getElem hlong)).1
      omega
    · have := (hdigits 4 digit hi).2
      omega
  · intro h σ β _ _ s hs v s' hv
    have hreads := decode_reads width s
    unfold Reads at hreads
    rw [hs, hv] at hreads
    cases hp : parser width b with
    | error e =>
      rw [hp] at hreads
      cases hreads.1
    | ok q =>
      obtain ⟨v', rest⟩ := q
      rw [hp] at hreads
      obtain ⟨rfl, hrest⟩ : v = v' ∧ Sequence.bytes s' = rest := ⟨Except.ok.inj hreads.1, hreads.2⟩
      obtain ⟨n, hn⟩ := written_of_read hp
      obtain ⟨hlength, hfifth⟩ := h n rest hn
      have hdigits : ∀ i digit, (behind width b)[i]? = some digit →
          7 * i < 32 ∧ digit.toNat % 128 * 2 ^ (7 * i) < 2 ^ 32 := by
        intro i digit hi
        have hlt := (List.getElem?_eq_some_iff.mp hi).1
        refine ⟨by omega, ?_⟩
        by_cases hi4 : i = 4
        · subst hi4
          have := hfifth digit hi
          omega
        · have hpow : 2 ^ (7 * i) ≤ 2 ^ 21 := Nat.pow_le_pow_right (by decide) (by omega)
          have hmod : digit.toNat % 128 < 128 := Nat.mod_lt _ (by decide)
          calc digit.toNat % 128 * 2 ^ (7 * i) ≤ 128 * 2 ^ 21 :=
                Nat.mul_le_mul (Nat.le_of_lt hmod) hpow
            _ < 2 ^ 32 := by decide
      refine ⟨?_, hdigits⟩
      rw [parser_eq_of_weighs hp hn hlength fun i digit hi => (hdigits i digit hi).2, hrest]
      exact hn

/-- **Which prefix integers are exact**: those of the encoder up to 2^32 behind the prefix, and those of
any sequence that have no more than 32 bits there. -/
theorem exact_iff (width : UInt8) :
    (∀ m dest value suffix, RoundTrips m dest value width suffix ↔
      value.toNat < 2 ^ 32 + (prefixMax width).toNat) ∧
    ∀ b, Exact width b ↔ Small width b :=
  ⟨fun m dest value suffix => roundTrips_iff m dest value width suffix, exact_iff_small width⟩

/-- 2^32 behind a prefix of five bits is written and read back as nothing. -/
theorem exact_not : ¬ RoundTrips Memory.zero 0 4294967327 5 [] := by
  intro h
  obtain ⟨s', hs', -⟩ := h.decoded (⟨[0x1f, 0x80, 0x80, 0x80, 0x80, 0x10]⟩ : Buffer) (by decide +kernel)
  have hread : (decode 5 (⟨[0x1f, 0x80, 0x80, 0x80, 0x80, 0x10]⟩ : Buffer)).1 = .ok 31 := by
    decide
  rw [hs'] at hread
  cases hread

end Bnl.Http3.Qpack.PrefixInt
