import Bnl.Laws.Literal

/-!
# Integers and literals as they are written

The decoder of a prefix integer adds up its digits in machine words. What a peer wrote has no such bounds:
`PrefixInt.written` reads the same bytes in ℕ. Both readings take the same bytes, and they agree below 2^32;
where a literal's size is read as it was written, the literal is too.

The idea of the proof: both readings stop at the first byte without the high bit, whatever they have added up,
so they differ in the sum alone. The shift of the code is one of 32 bits and may lose some from the fifth digit
on; of a number below 2^32 there are none to lose.

**What it does not establish.** Nothing is said here of numbers from 2^32 on: `Exact` says which of them are
read as they were written.
-/

namespace Bnl.Http3.Qpack

open Incremental Bnl.Base Bytes

namespace PrefixInt

/-- The digits behind a full first byte, in ℕ. -/
def writtenTail (result offset : Nat) : Parser Error UInt8 Nat
  | [] => .error .incomplete
  | byte :: rest =>
    if byte &&& 128 = 128 then
      writtenTail (result + byte.toNat % 128 * 2 ^ offset) (offset + 7) rest
    else .ok (result + byte.toNat % 128 * 2 ^ offset, rest)

/-- The integer as it is written, of whatever size. -/
def written (width : UInt8) : Parser Error UInt8 Nat
  | [] => .error .incomplete
  | byte :: rest =>
    if prefixMax width ≤ byte &&& prefixMax width then writtenTail (prefixMax width).toNat 0 rest
    else .ok ((byte &&& prefixMax width).toNat, rest)

/-- Both readings of the digits end at the same byte. -/
theorem tail_rest {result offset : UInt64} {b : List UInt8} {v : UInt64} {rest : List UInt8}
    (h : tail result offset b = .ok (v, rest)) (r o : Nat) :
    ∃ n, writtenTail r o b = .ok (n, rest) := by
  induction b generalizing result offset r o with
  | nil => cases h
  | cons byte b ih =>
    rw [tail] at h
    rw [writtenTail]
    split at h
    · next hb =>
      rw [if_pos hb]
      exact ih h _ _
    · next hb =>
      cases h
      exact ⟨_, if_neg hb⟩

/-- The reading in ℕ ends where the code does. -/
theorem writtenTail_rest {r o : Nat} {b : List UInt8} {n : Nat} {rest : List UInt8}
    (h : writtenTail r o b = .ok (n, rest)) (result offset : UInt64) :
    ∃ v, tail result offset b = .ok (v, rest) := by
  induction b generalizing result offset r o with
  | nil => cases h
  | cons byte b ih =>
    rw [writtenTail] at h
    rw [tail]
    split at h
    · next hb =>
      rw [if_pos hb]
      exact ih h _ _
    · next hb =>
      cases h
      exact ⟨_, if_neg hb⟩

theorem writtenTail_ge {r o : Nat} {b : List UInt8} {n : Nat} {rest : List UInt8}
    (h : writtenTail r o b = .ok (n, rest)) : r ≤ n := by
  induction b generalizing r o with
  | nil => cases h
  | cons byte b ih =>
    rw [writtenTail] at h
    split at h
    · have := ih h
      omega
    · cases h
      exact Nat.le_add_right _ _

/-- **Both readings take the same bytes.** -/
theorem written_of_read {width : UInt8} {b rest : List UInt8} {v : UInt64}
    (h : parser width b = .ok (v, rest)) : ∃ n, written width b = .ok (n, rest) := by
  cases b with
  | nil => cases h
  | cons byte b =>
    rw [parser_cons] at h
    rw [written]
    by_cases hfull : prefixMax width ≤ byte &&& prefixMax width
    · rw [if_pos (UInt8.toUInt64_le.mpr hfull)] at h
      rw [if_pos hfull]
      exact tail_rest h _ _
    · rw [if_neg (fun hle => hfull (UInt8.toUInt64_le.mp hle))] at h
      rw [if_neg hfull]
      cases h
      exact ⟨_, rfl⟩

/-- What can be read in ℕ, the code reads too. -/
theorem parser_of_written {width : UInt8} {b rest : List UInt8} {n : Nat}
    (h : written width b = .ok (n, rest)) : ∃ v, parser width b = .ok (v, rest) := by
  cases b with
  | nil => cases h
  | cons byte b =>
    rw [written] at h
    rw [parser_cons]
    by_cases hfull : prefixMax width ≤ byte &&& prefixMax width
    · rw [if_pos hfull] at h
      rw [if_pos (UInt8.toUInt64_le.mpr hfull)]
      exact writtenTail_rest h _ _
    · rw [if_neg hfull] at h
      rw [if_neg (fun hle => hfull (UInt8.toUInt64_le.mp hle))]
      cases h
      exact ⟨_, rfl⟩

/-- A digit of zero adds nothing, however far it is shifted. -/
theorem contribution_zero {byte : UInt8} (h : byte.toNat % 128 = 0) (offset : UInt64) :
    contribution byte offset = 0 := by
  have hbyte : byte &&& 127 = 0 := UInt8.toNat.inj (by rw [and_127, h]; rfl)
  rw [contribution, hbyte]
  show ((0 : UInt32) * _).toUInt64 = 0
  rw [UInt32.zero_mul]
  rfl

/-- From offset 32 on a digit of a number below 2^32 is zero, so the shift does not count. -/
theorem tail_eq_written {r o : Nat} {b rest rest' : List UInt8} {n : Nat} {v result offset : UInt64}
    (hn : writtenTail r o b = .ok (n, rest)) (hv : tail result offset b = .ok (v, rest'))
    (hlt : n < 2 ^ 32) (hr : result.toNat = r) (ho : o < 32 → offset = UInt64.ofNat o) :
    v.toNat = n := by
  induction b generalizing r o result offset with
  | nil => cases hn
  | cons byte b ih =>
    have hle : r + byte.toNat % 128 * 2 ^ o ≤ n := by
      rw [writtenTail] at hn
      split at hn
      · exact writtenTail_ge hn
      · cases hn
        exact Nat.le_refl _
    have hsum : (result + contribution byte offset).toNat = r + byte.toNat % 128 * 2 ^ o := by
      have hc : (contribution byte offset).toNat = byte.toNat % 128 * 2 ^ o := by
        by_cases hsmall : o < 32
        · rw [ho hsmall, contribution_eq hsmall (by omega)]
        · have hzero : byte.toNat % 128 = 0 := by
            refine Nat.eq_zero_of_not_pos fun hpos => ?_
            have hpow : 2 ^ 32 ≤ 2 ^ o := Nat.pow_le_pow_right (by decide) (Nat.not_lt.mp hsmall)
            have := Nat.le_mul_of_pos_left (2 ^ o) hpos
            omega
          rw [contribution_zero hzero, hzero, Nat.zero_mul]
          rfl
      rw [UInt64.toNat_add, hr, hc]
      exact Nat.mod_eq_of_lt (by omega)
    rw [writtenTail] at hn
    rw [tail] at hv
    split at hn
    · next hb =>
      rw [if_pos hb] at hv
      refine ih hn hv hsum fun ho' => ?_
      rw [ho (by omega), UInt64.ofNat_add]
      rfl
    · next hb =>
      rw [if_neg hb] at hv
      cases hn
      cases hv
      exact hsum

/-- **Below 2^32 an integer is read as it was written.** -/
theorem parser_eq_written {width : UInt8} {b rest rest' : List UInt8} {n : Nat} {v : UInt64}
    (hn : written width b = .ok (n, rest)) (hv : parser width b = .ok (v, rest'))
    (hlt : n < 2 ^ 32) : v.toNat = n := by
  cases b with
  | nil => cases hn
  | cons byte b =>
    rw [written] at hn
    rw [parser_cons] at hv
    by_cases hfull : prefixMax width ≤ byte &&& prefixMax width
    · rw [if_pos hfull] at hn
      rw [if_pos (UInt8.toUInt64_le.mpr hfull)] at hv
      have hfirst : byte &&& prefixMax width = prefixMax width := by
        refine UInt8.le_antisymm (UInt8.le_iff_toNat_le.mpr ?_) hfull
        rw [UInt8.toNat_and]
        exact Nat.and_le_right
      refine tail_eq_written hn hv hlt ?_ fun _ => rfl
      rw [hfirst, UInt8.toNat_toUInt64]
    · rw [if_neg hfull] at hn
      rw [if_neg (fun hle => hfull (UInt8.toUInt64_le.mp hle))] at hv
      cases hn
      cases hv
      exact UInt8.toNat_toUInt64 _

/-- The reading in ℕ as a loop over bytes with the high bit. -/
theorem writtenTail_eq_foldWhile (r o : Nat) : writtenTail r o =
    (Parser.foldWhile .incomplete (fun byte => byte &&& 128 == 128)
      (fun s byte => (s.1 + byte.toNat % 128 * 2 ^ s.2, s.2 + 7)) (r, o) >>= fun s =>
        pure s.1) := by
  funext b
  rw [Parser.bind_apply]
  induction b generalizing r o with
  | nil => rfl
  | cons byte b ih =>
    rw [writtenTail, Parser.foldWhile]
    by_cases hmore : byte &&& 128 = 128
    · rw [if_pos hmore, if_pos (beq_iff_eq.mpr hmore), ih]
    · rw [if_neg hmore, if_neg (fun h => hmore (beq_iff_eq.mp h))]
      rfl

/-- Bytes behind the number do not change it. -/
theorem writtenTail_stable (r o : Nat) : Stable .incomplete (writtenTail r o) := by
  rw [writtenTail_eq_foldWhile]
  exact (Stable.foldWhile _ _ _).map _

/-- Nor where there is no digit behind the first byte. -/
theorem written_stable (width : UInt8) : Stable .incomplete (written width) := by
  have hbind : written width = (Parser.item .incomplete >>= fun byte =>
      if prefixMax width ≤ byte &&& prefixMax width then writtenTail (prefixMax width).toNat 0
      else pure (byte &&& prefixMax width).toNat) := by
    funext b
    cases b with
    | nil => rfl
    | cons byte b =>
      rw [written, Parser.bind_ok (Parser.item_cons _ _ _)]
      split <;> rfl
  rw [hbind]
  exact Stable.item.bind fun _ => Stable.ite (writtenTail_stable _ _) (Stable.pure _)

end PrefixInt

/-! ## Literals -/

/-- Two strings of bytes that decode to the same symbols are equally long: their padding is shorter
than a byte. -/
theorem Huffman.decodeBytes_length {p q v : List UInt8} (hp : decodeBytes p = some v)
    (hq : decodeBytes q = some v) : p.length = q.length := by
  obtain ⟨-, pad, hpad, hpb⟩ := decodeBytes_iff.mp hp
  obtain ⟨-, pad', hpad', hqb⟩ := decodeBytes_iff.mp hq
  have h₁ := congrArg List.length hpb
  have h₂ := congrArg List.length hqb
  rw [length_bytesBits, List.length_append] at h₁ h₂
  have := hpad.1
  have := hpad'.1
  omega

namespace Literal

/-- A string of the size written in front of it. -/
def writtenBody (isHuffman : Bool) (width : UInt8) : Parser Error UInt8 (List UInt8) := do
  let literalEncodedSize ← PrefixInt.written width
  if isHuffman then Huffman.parser literalEncodedSize
  else Parser.take .incomplete literalEncodedSize

/-- The literal as it is written. -/
def written (width : UInt8) : Parser Error UInt8 (List UInt8) :=
  Parser.peek .incomplete fun first => writtenBody (flag first width) width

/-- Bytes behind a literal do not change it. -/
theorem written_stable (width : UInt8) : Stable .incomplete (written width) :=
  Stable.peek (fun _ => (PrefixInt.written_stable width).bind fun _ => stringParser_stable _ _)
    fun _ _ h => nomatch h

/-- The size of a literal is read as it was written. -/
def SizeExact (width : UInt8) (b : List UInt8) : Prop :=
  ∀ size n rest rest', PrefixInt.parser width b = .ok (size, rest) →
    PrefixInt.written width b = .ok (n, rest') → size.toNat = n

/-- Two sizes that take the same bytes for the same string are one. -/
theorem stringParser_length {isHuffman : Bool} {n m : Nat} {b v r r' : List UInt8}
    (h : (if isHuffman then Huffman.parser n else Parser.take .incomplete n) b = .ok (v, r))
    (h' : (if isHuffman then Huffman.parser m else Parser.take .incomplete m) b = .ok (v, r')) :
    n = m := by
  cases isHuffman with
  | true =>
    obtain ⟨hn, hd, -⟩ := Huffman.parser_eq_ok.mp h
    obtain ⟨hm, hd', -⟩ := Huffman.parser_eq_ok.mp h'
    have hlen := Huffman.decodeBytes_length hd hd'
    rwa [List.length_take_of_le hn, List.length_take_of_le hm] at hlen
  | false =>
    have hlen {k : Nat} {r : List UInt8} (hk : Parser.take Error.incomplete k b = .ok (v, r)) :
        v.length = k := by
      by_cases hle : k ≤ b.length
      · rw [Parser.take_of_le hle] at hk
        cases hk
        exact List.length_take_of_le hle
      · rw [Parser.take_of_gt (Nat.not_le.mp hle)] at hk
        cases hk
    exact (hlen h).symm.trans (hlen h')

/-- **A literal read is a literal written**, if its size is read as it was written. -/
theorem written_of_read {width : UInt8} {b v rest : List UInt8}
    (h : parser width b = .ok (v, rest)) (hsize : SizeExact width b) :
    written width b = .ok (v, rest) := by
  cases b with
  | nil => cases h
  | cons first b =>
    obtain ⟨size, mid, hint, hstr⟩ := Parser.bind_eq_ok.mp
      (show bodyParser (flag first width) width (first :: b) = .ok (v, rest) from h)
    obtain ⟨n, hn⟩ := PrefixInt.written_of_read hint
    refine Parser.bind_eq_ok.mpr ⟨n, mid, hn, ?_⟩
    rw [← hsize size n mid mid hint hn]
    exact hstr

/-- Both ways of reading the size give this string only if they give one size. -/
theorem sizeExact_of_written {width : UInt8} {b v rest rest' : List UInt8}
    (h : parser width b = .ok (v, rest)) (hw : written width b = .ok (v, rest')) :
    SizeExact width b := by
  intro size n r r' hint hn
  cases b with
  | nil => cases h
  | cons first b =>
    obtain ⟨size', mid, hint', hstr⟩ := Parser.bind_eq_ok.mp
      (show bodyParser (flag first width) width (first :: b) = .ok (v, rest) from h)
    obtain ⟨n', mid', hn', hstr'⟩ := Parser.bind_eq_ok.mp
      (show writtenBody (flag first width) width (first :: b) = .ok (v, rest') from hw)
    rw [hint] at hint'
    rw [hn] at hn'
    cases hint'
    cases hn'
    obtain ⟨n₁, hn₁⟩ := PrefixInt.written_of_read hint
    rw [hn] at hn₁
    cases hn₁
    exact stringParser_length hstr hstr'

end Literal

end Bnl.Http3.Qpack
