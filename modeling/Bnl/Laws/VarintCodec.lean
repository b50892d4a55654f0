import Bnl.Laws.Varint

/-!
# The varint codec

A number below 2^62 is written in the least of the four sizes and reads back in front of any suffix, but from no
proper part of what was written. Whatever is read is the numeral of the bytes it was read from.

**The law** is `codec_exact`. Its first part is about all numbers, its second about those with no size, and its
third about all inputs, of which the encoder writes some: a number may be read from more bytes than it needs.
`Least` and `Denotes` are said without the encoder and the decoder, as the format says them.

The encoder's bytes come from `encode_eq`, and the reads from the parser: that the one in front is read from
`parser_bytes`, that no proper part is from `Stable`, since a prefix that read as something would have to read
as the same when the rest is there.
-/

namespace Bnl.Http3.Varint

open Incremental Bnl.Base Bytes

/-! ## Reading -/

/-- The bytes are one varint of this value, of whatever size. -/
structure Denotes (used : List UInt8) (varint : UInt64) : Prop where
  size : ∃ first tl, used = first :: tl ∧ used.length = 2 ^ (first.toNat / 64)
  value : varint.toNat = ofBytes used % 2 ^ (8 * used.length - 2)

/-- The bits behind the two length bits are less than 62. -/
theorem Denotes.lt {used : List UInt8} {varint : UInt64} (h : Denotes used varint) :
    varint.toNat < 2 ^ 62 := by
  obtain ⟨first, tl, -, hlength⟩ := h.size
  have hlog : first.toNat / 64 ≤ 3 := by
    have := first.toNat_lt
    omega
  have hle : used.length ≤ 2 ^ 3 := hlength ▸ Nat.pow_le_pow_right (by decide) hlog
  rw [h.value]
  refine Nat.lt_of_lt_of_le (Nat.mod_lt _ (Nat.two_pow_pos _)) ?_
  exact Nat.pow_le_pow_right (by decide) (by omega)

/-- A parse finds no whole varint, or reads the one in front. -/
theorem parser_cases (b : List UInt8) : parser b = .error .incomplete ∨
    ∃ used rest varint, b = used ++ rest ∧ parser b = .ok (varint, rest) ∧ Denotes used varint := by
  cases b with
  | nil => exact .inl parser_nil
  | cons first tl =>
    by_cases hshort : tl.length + 1 < 2 ^ (first.toNat / 64)
    · exact .inl (parser_cons_short hshort)
    · have hpos := Nat.two_pow_pos (first.toNat / 64)
      let bs := tl.take (2 ^ (first.toNat / 64) - 1)
      have hlength : bs.length + 1 = 2 ^ (first.toNat / 64) := by
        rw [List.length_take]
        omega
      have hsplit : bs ++ tl.drop (2 ^ (first.toNat / 64) - 1) = tl := List.take_append_drop _ tl
      have hparse := parser_cons hlength (tl.drop (2 ^ (first.toNat / 64) - 1))
      rw [hsplit] at hparse
      refine .inr ⟨first :: bs, _, _, congrArg (first :: ·) hsplit.symm, hparse, ⟨first, bs, rfl, hlength⟩, ?_⟩
      -- the bits that are left fit in a word
      rw [UInt64.toNat_ofNat', List.length_cons]
      refine Nat.mod_eq_of_lt (Nat.lt_of_lt_of_le (Nat.mod_lt _ (Nat.two_pow_pos _)) ?_)
      have hlog : first.toNat / 64 ≤ 3 := by
        have := first.toNat_lt
        omega
      have hle : bs.length + 1 ≤ 2 ^ 3 := hlength ▸ Nat.pow_le_pow_right (by decide) hlog
      exact Nat.pow_le_pow_right (by decide) (by omega)

/-- No proper part of what is read in whole can be read. -/
theorem parser_cut {b p : List UInt8} {varint : UInt64} (h : parser b = .ok (varint, []))
    (hp : p <+: b) (hne : p ≠ b) : parser p = .error .incomplete := by
  obtain ⟨more, rfl⟩ := hp
  rcases parser_cases p with hshort | ⟨used, rest, varint', -, hread, -⟩
  · exact hshort
  · have hmore := parser_stable.append_ok hread more
    have hrest : rest ++ more = [] := congrArg Prod.snd (Except.ok.inj (hmore.symm.trans h))
    rw [(List.append_eq_nil_iff.mp hrest).2, List.append_nil] at hne
    exact absurd rfl hne

/-! ## Sizes -/

/-- How many bits a varint of this many bytes has for the number. -/
def bits (n : Nat) : Nat := 8 * n - 2

/-- The least of the four sizes that can hold the number. -/
structure Least (n : Nat) (varint : UInt64) : Prop where
  mem : n ∈ [1, 2, 4, 8]
  holds : varint.toNat < 2 ^ bits n
  least : ∀ k ∈ [1, 2, 4, 8], varint.toNat < 2 ^ bits k → n ≤ k

/-- What is written takes the least size. -/
theorem least_length {varint : UInt64} (h : varint.toNat < 2 ^ 62) : Least (bytes varint).length varint := by
  have h₆ : varint < 0x40 ↔ varint.toNat < 2 ^ 6 := UInt64.lt_iff_toNat_lt
  have h₁₄ : varint < (0x40 : UInt64) <<< 8 ↔ varint.toNat < 2 ^ 14 := UInt64.lt_iff_toNat_lt
  have h₃₀ : varint < (0x40 : UInt64) <<< 24 ↔ varint.toNat < 2 ^ 30 := UInt64.lt_iff_toNat_lt
  -- a smaller size does not hold the number
  have hleast {n : Nat} (hn : n ≤ 8) (h₁ : 1 < n → 2 ^ 6 ≤ varint.toNat)
      (h₂ : 2 < n → 2 ^ 14 ≤ varint.toNat) (h₄ : 4 < n → 2 ^ 30 ≤ varint.toNat) :
      ∀ k ∈ [1, 2, 4, 8], varint.toNat < 2 ^ bits k → n ≤ k := by
    simp only [List.forall_mem_cons, bits]
    refine ⟨?_, ?_, ?_, fun _ => hn, List.forall_mem_nil _⟩ <;> omega
  rw [length_bytes]
  unfold sizeLog
  simp only [h₆, h₁₄, h₃₀]
  split
  · next hlt => exact ⟨by decide, hlt, hleast (by decide) (absurd · (by decide)) (absurd · (by decide))
      (absurd · (by decide))⟩
  next h₁ =>
  have h₁ : 2 ^ 6 ≤ varint.toNat := Nat.not_lt.mp h₁
  split
  · next hlt => exact ⟨by decide, hlt, hleast (by decide) (fun _ => h₁) (absurd · (by decide)) (absurd · (by decide))⟩
  next h₂ =>
  have h₂ : 2 ^ 14 ≤ varint.toNat := Nat.not_lt.mp h₂
  split
  · next hlt => exact ⟨by decide, hlt, hleast (by decide) (fun _ => h₁) (fun _ => h₂) (absurd · (by decide))⟩
  next h₄ =>
  have h₄ : 2 ^ 30 ≤ varint.toNat := Nat.not_lt.mp h₄
  exact ⟨by decide, h, hleast (by decide) (fun _ => h₁) (fun _ => h₂) (fun _ => h₄)⟩

/-! ## The codec -/

section Codec

variable {σ β : Type} [Storage β] [Sequence σ β]

/-- What was written reads back, in front of any suffix, and no proper part of it reads as anything. -/
def Reads (σ : Type) {β : Type} [Storage β] [Sequence σ β] (written : List UInt8) (varint : UInt64) : Prop :=
  (∀ (s : σ) (suffix : List UInt8), Sequence.bytes s = written ++ suffix →
      (decode s).1 = .ok varint ∧ Sequence.bytes (decode s).2 = suffix) ∧
    ∀ s : σ, Sequence.bytes s <+: written → Sequence.bytes s ≠ written → decode s = (.error .incomplete, s)

/-- What was written reads back, and no part of it does. -/
theorem reads_bytes {varint : UInt64} (h : varint.toNat < 2 ^ 62) : Reads σ (bytes varint) varint := by
  refine ⟨fun s suffix hs => ?_, fun s hprefix hne => ?_⟩
  · have hread : parser (Sequence.bytes s) = .ok (varint, suffix) := by
      rw [hs]
      exact parser_bytes h suffix
    rw [decode_eq]
    refine ⟨?_, Sequence.read_rest parser_stable hread⟩
    rw [Sequence.read_ok hread]
  · have hwhole : parser (bytes varint) = .ok (varint, []) := by
      have hnil := parser_bytes h []
      rwa [List.append_nil] at hnil
    rw [decode_eq]
    exact Sequence.read_error (parser_cut hwhole hprefix hne)

/-- What is read is what the bytes that are consumed denote. -/
theorem denotes_of_decode {s : σ} {varint : UInt64} (h : (decode s).1 = .ok varint) :
    ∃ used, Sequence.bytes s = used ++ Sequence.bytes (decode s).2 ∧ Denotes used varint := by
  rw [decode_eq] at h ⊢
  rcases parser_cases (Sequence.bytes s) with hshort | ⟨used, rest, varint', hs, hread, hdenotes⟩
  · rw [Sequence.read_error hshort] at h
    cases h
  · rw [Sequence.read_rest parser_stable hread]
    rw [Sequence.read_ok hread] at h
    cases h
    exact ⟨used, hs, hdenotes⟩

/-- **The codec is exact**: the least size, read back in whole only; an overflow from 2^62 on; and any varint
that is read is the big-endian value of its bytes without the length bits. -/
theorem codec_exact (σ : Type) {β : Type} [Storage β] [Sequence σ β] :
    (∀ varint : UInt64, varint.toNat < 2 ^ 62 → ∃ n written, encodedSize varint = .ok n ∧
        (∀ host : Host, encodeBuffer host varint = .ok ⟨written⟩) ∧
        (∀ (m : Memory) (dest : Nat), encode m dest varint = .ok (n, m.store dest written)) ∧
        written.length = n ∧ Least n varint ∧ Reads σ written varint) ∧
      (∀ varint : UInt64, 2 ^ 62 ≤ varint.toNat → encodedSize varint = .error .varintOverflow ∧
        (∀ host : Host, encodeBuffer host varint = .error .varintOverflow) ∧
        ∀ (m : Memory) (dest : Nat), encode m dest varint = .error .varintOverflow) ∧
      ∀ (s : σ) (varint : UInt64), (decode s).1 = .ok varint → varint.toNat < 2 ^ 62 ∧
        ∃ used, Sequence.bytes s = used ++ Sequence.bytes (decode s).2 ∧ Denotes used varint := by
  refine ⟨fun varint h => ?_, fun varint h => ?_, fun s varint h => ?_⟩
  · exact ⟨_, bytes varint, encodedSize_eq h, encodeBuffer_eq h, encode_eq h, rfl, least_length h, reads_bytes h⟩
  · refine ⟨encodedSize_overflow h, encodeBuffer_overflow h, fun m dest => ?_⟩
    unfold encode
    rw [encodedSize_overflow h]
    rfl
  · obtain ⟨used, hs, hdenotes⟩ := denotes_of_decode h
    exact ⟨hdenotes.lt, used, hs, hdenotes⟩

end Codec

/-- 300 takes two bytes, 2^62 none. -/
theorem codec_exact_300 : (∃ n written, encodedSize 300 = .ok n ∧
      (∀ host : Host, encodeBuffer host 300 = .ok ⟨written⟩) ∧
      (∀ (m : Memory) (dest : Nat), encode m dest 300 = .ok (n, m.store dest written)) ∧
      written.length = n ∧ Least n 300 ∧ Reads Buffers written 300) ∧
    encodedSize 0x4000000000000000 = .error .varintOverflow ∧
    ((0x0f : UInt64).toNat < 2 ^ 62 ∧ ∃ used, Sequence.bytes (σ := Buffer) ⟨[0x40, 0x0f, 7]⟩ =
      used ++ Sequence.bytes (decode (σ := Buffer) ⟨[0x40, 0x0f, 7]⟩).2 ∧ Denotes used 0x0f) :=
  ⟨(codec_exact Buffers).1 300 (by decide), ((codec_exact Buffers).2.1 0x4000000000000000 (by decide)).1,
    (codec_exact Buffer).2.2 ⟨[0x40, 0x0f, 7]⟩ 0x0f rfl⟩

end Bnl.Http3.Varint
