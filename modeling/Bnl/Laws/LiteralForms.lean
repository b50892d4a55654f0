import Bnl.Laws.Exact

/-!
# The two forms of a literal

The encoder takes the shorter form, and what it writes reads back. The decoder takes both forms of every string
but the empty one: no bytes are no Huffman code to it.

**The laws** are `reads_back`, of the encoder, and `accepts_iff`, of the decoder. The first says everything of
one string that a caller relies on: the size that was announced, the memory around it, the bits above the flag,
which form it is, and that the decoder takes just that. The second is about encodings the encoder need not have
made: `Form` is either form, with any integer that stands for the size and any padding of ones.

The Huffman decoder answers by the automaton, so `accepts_iff` rests on what the automaton accepts
(`decodeBytes_iff`). The empty string fails there because an empty run has ended in no accepting state; its
plain form is taken.

A string with longer codes is not spoken of in `reads_back`. There the encoder may write other bits than it
means to, which is the subject of `HuffmanEncode`.
-/

namespace Bnl.Http3.Qpack.Literal

open Incremental Bnl.Base Bytes PrefixCode Huffman

/-! ## What the encoder writes -/

/-- The bits of the first byte above the flag. -/
def above (width byte : UInt8) : Nat := byte.toNat / 2 ^ (width.toNat + 1)

/-- The bits above the flag, bit by bit. -/
theorem above_eq {width byte byte' : UInt8} (h : ∀ k, width.toNat < k →
    byte.toNat.testBit k = byte'.toNat.testBit k) : above width byte = above width byte' := by
  refine Nat.eq_of_testBit_eq fun k => ?_
  unfold above
  rw [Nat.testBit_div_two_pow, Nat.testBit_div_two_pow]
  exact h _ (by omega)

/-- The bits of a byte above a prefix are those that its mask leaves. -/
theorem testBit_of_mask {width byte byte' : UInt8} (hw : width.toNat < 8)
    (h : byte &&& ~~~(PrefixInt.prefixMax width) = byte' &&& ~~~(PrefixInt.prefixMax width)) {k : Nat}
    (hk : width.toNat ≤ k) : byte.toNat.testBit k = byte'.toNat.testBit k := by
  by_cases hk8 : k < 8
  · have hmask : (~~~ PrefixInt.prefixMax width).toNat.testBit k = true := by
      have hall : ∀ w k : Fin 8, w.val ≤ k.val →
          (~~~ PrefixInt.prefixMax (UInt8.ofNat w.val)).toNat.testBit k.val = true := by
        decide
      have := hall ⟨width.toNat, hw⟩ ⟨k, hk8⟩ hk
      rwa [UInt8.ofNat_toNat] at this
    have hbit := congrArg (fun b : UInt8 => b.toNat.testBit k) h
    rwa [UInt8.toNat_and, UInt8.toNat_and, Nat.testBit_and, Nat.testBit_and, hmask, Bool.and_true,
      Bool.and_true] at hbit
  · have hpow : 2 ^ 8 ≤ 2 ^ k := Nat.pow_le_pow_right (by decide) (Nat.not_lt.mp hk8)
    rw [Nat.testBit_lt_two_pow (Nat.lt_of_lt_of_le byte.toNat_lt hpow),
      Nat.testBit_lt_two_pow (Nat.lt_of_lt_of_le byte'.toNat_lt hpow)]

/-- The flag is written in its own bit. -/
theorem testBit_flagBit {width : UInt8} (hw : width.toNat < 8) {k : Nat} (hk : width.toNat < k) :
    (flagBit width).toNat.testBit k = false := by
  have hall : ∀ w : Fin 8, (flagBit (UInt8.ofNat w.val)).toNat = 2 ^ w.val := by decide
  have hflag := hall ⟨width.toNat, hw⟩
  rw [UInt8.ofNat_toNat] at hflag
  rw [hflag, Nat.testBit_two_pow]
  exact decide_eq_false (Nat.ne_of_lt hk)

/-- The first byte of what is written: the flag says which form follows, and the bits above it stay. -/
theorem bytes_first {width : UInt8} (hw : width.toNat < 8) (first : UInt8) (literal : List UInt8)
    (hclear : flag first width = false) : ∃ byte tl, bytes first literal width = byte :: tl ∧
      (flag byte width = true ↔ Huffman.encodedSize literal < literal.length) ∧
      above width byte = above width first := by
  have hform : literalEncodedSize literal < literal.length ↔ Huffman.encodedSize literal < literal.length := by
    rw [literalEncodedSize]
    split
    · next h => exact ⟨fun _ => h, fun _ => h⟩
    · next h => exact ⟨fun hlt => absurd hlt (Nat.lt_irrefl _), fun hlt => absurd hlt h⟩
  have hint (f : UInt8) (value : UInt64) : ∃ byte tl, PrefixInt.bytes f value width = byte :: tl ∧
      flag byte width = flag f width ∧ ∀ k, width.toNat ≤ k → byte.toNat.testBit k = f.toNat.testBit k := by
    obtain ⟨byte, tl, hb, hmask⟩ := PrefixInt.bytes_head f value width
    obtain ⟨byte', tl', hb', hflag⟩ := flag_bytes hw f value
    rw [hb] at hb'
    cases hb'
    exact ⟨byte, tl, hb, hflag, fun k hk => testBit_of_mask hw hmask hk⟩
  unfold bytes
  by_cases hlt : literalEncodedSize literal < literal.length
  · rw [if_pos hlt]
    obtain ⟨byte, tl, hb, hflag, hbits⟩ :=
      hint (first ||| flagBit width) (UInt64.ofNat (literalEncodedSize literal))
    refine ⟨byte, tl ++ Huffman.wire literal, by rw [hb]; rfl,
      ⟨fun _ => hform.mp hlt, fun _ => hflag.trans (flag_set hw first)⟩, above_eq fun k hk => ?_⟩
    rw [hbits k (Nat.le_of_lt hk), UInt8.toNat_or, Nat.testBit_or, testBit_flagBit hw hk, Bool.or_false]
  · rw [if_neg hlt]
    obtain ⟨byte, tl, hb, hflag, hbits⟩ := hint first (UInt64.ofNat (literalEncodedSize literal))
    refine ⟨byte, tl ++ literal, by rw [hb]; rfl, ⟨fun h => ?_, fun h => absurd (hform.mpr h) hlt⟩,
      above_eq fun k hk => hbits k (Nat.le_of_lt hk)⟩
    rw [hflag, hclear] at h
    cases h

/-- What stands behind the size: the form that the flag tells. -/
def form (literal : List UInt8) : List UInt8 :=
  if Huffman.encodedSize literal < literal.length then Huffman.wire literal else literal

/-- Behind the size stands the form. -/
theorem bytes_form (first : UInt8) (literal : List UInt8) (width : UInt8) :
    (bytes first literal width).drop (PrefixInt.encodedSize (UInt64.ofNat (form literal).length) width) =
      form literal := by
  have hdrop (f : UInt8) (n : Nat) (b : List UInt8) :
      (PrefixInt.bytes f (UInt64.ofNat n) width ++ b).drop (PrefixInt.encodedSize (UInt64.ofNat n) width) = b := by
    rw [PrefixInt.encodedSize_eq f]
    exact List.drop_left
  have hsize : literalEncodedSize literal =
      if Huffman.encodedSize literal < literal.length then Huffman.encodedSize literal
      else literal.length := rfl
  unfold bytes form
  rw [hsize]
  by_cases hlt : Huffman.encodedSize literal < literal.length
  · rw [if_pos hlt, if_pos hlt, if_pos hlt, ← Huffman.encodedSize_eq literal]
    exact hdrop _ _ _
  · rw [if_neg hlt, if_neg hlt, if_neg (Nat.lt_irrefl _)]
    exact hdrop _ _ _

theorem decode_of_parse {σ β : Type} [Storage β] [Sequence σ β] {width : UInt8} {s : σ}
    {literal rest : List UInt8} (h : parser width (Sequence.bytes s) = .ok (literal, rest)) :
    ∃ s', decode width s = (.ok literal, s') ∧ Sequence.bytes s' = rest := by
  obtain ⟨c, hc⟩ := (parser_stable width).splits h
  rw [decode_eq, Sequence.read_ok h]
  refine ⟨_, rfl, ?_⟩
  rw [Sequence.consume_eq, hc, List.length_append, Nat.add_sub_cancel, List.drop_left]

/-- **A literal reads back where it was written**: the encoder fills what it announced with the shorter
form, keeps the bits above the flag, and the decoder takes that and no more. -/
theorem reads_back {σ β : Type} [Storage β] [Sequence σ β] (literal : List UInt8)
    (hlength : literal.length < 2 ^ 32) (hshort : Short literal) (width : UInt8)
    (hwidth : 1 ≤ width.toNat ∧ width.toNat ≤ 7) (m : Memory) (dest : Nat)
    (hclear : (m.get dest).toNat.testBit width.toNat = false) :
    let r := encode m dest literal width
    r.1 = encodedSize literal width ∧
    (∀ i, i < dest ∨ dest + encodedSize literal width ≤ i → r.2.get i = m.get i) ∧
    above width (r.2.get dest) = above width (m.get dest) ∧
    ((r.2.get dest).toNat.testBit width.toNat = true ↔ Huffman.encodedSize literal < literal.length) ∧
    (r.2.load dest r.1).drop (PrefixInt.encodedSize (UInt64.ofNat (form literal).length) width) =
      form literal ∧
    ∀ (s : σ) (suffix : List UInt8), Sequence.bytes s = r.2.load dest r.1 ++ suffix →
      ∃ s', decode width s = (.ok literal, s') ∧ Sequence.bytes s' = suffix := by
  have hw : width.toNat < 8 := by omega
  rw [← flag_eq hw] at hclear
  obtain ⟨byte, tl, hbytes, hform, habove⟩ := bytes_first hw (m.get dest) literal hclear
  have hfirst : (m.store dest (bytes (m.get dest) literal width)).get dest = byte := by
    rw [hbytes, Memory.store_cons, Memory.get_store_of_lt (Nat.lt_succ_self _), Memory.get_set_self]
  rw [encode_eq, encodedSize_eq (m.get dest)]
  dsimp only
  rw [hfirst, Memory.load_store, ← flag_eq hw]
  refine ⟨rfl, fun i hi => ?_, habove, hform, bytes_form _ _ _,
    fun s suffix hs => ?_⟩
  · rcases hi with hi | hi
    · exact Memory.get_store_of_lt hi
    · exact Memory.get_store_of_ge hi
  · have hread : parser width (Sequence.bytes s) = .ok (literal, suffix) := by
      rw [hs]
      exact parser_bytes hshort hlength hw hclear suffix
    exact decode_of_parse hread

/-- Three letters of five bits each, in the Huffman form. -/
theorem reads_back_aaa : ∃ s', decode 7 (⟨[0x82, 0x18, 0xc7, 0xff]⟩ : Buffer) = (.ok [97, 97, 97], s') ∧
    Sequence.bytes s' = [0xff] :=
  (reads_back [97, 97, 97] (by decide) (by decide) 7 (by decide) Memory.zero 0 (by decide)).2.2.2.2.2
    (⟨[0x82, 0x18, 0xc7, 0xff]⟩ : Buffer) [0xff] (by decide +kernel)

/-! ## What the decoder takes -/

/-- Some bytes are an integer behind a prefix, with this flag. -/
def Sized (width : UInt8) (isHuffman : Bool) (size : Nat) (c : List UInt8) : Prop :=
  PrefixInt.written width c = .ok (size, []) ∧
    ∃ first tl, c = first :: tl ∧ first.toNat.testBit width.toNat = isHuffman

/-- A string that is not empty has bits. -/
theorem message_ne_nil {literal : List UInt8} (h : literal ≠ []) : message symbolBits literal ≠ [] := by
  obtain ⟨byte, tl, rfl⟩ := List.exists_cons_of_ne_nil h
  intro hnil
  have hlen := congrArg List.length hnil
  have := (symbol_fits byte).1
  rw [message_cons, List.length_append, symbolBits, length_bits, List.length_nil] at hlen
  omega

/-- The two forms of a string, with any bits above the flag. -/
inductive Form (width : UInt8) (literal : List UInt8) : List UInt8 → Prop where
  | plain {c : List UInt8} (hsize : Sized width false literal.length c)
      (hlength : literal.length < 2 ^ 32) : Form width literal (c ++ literal)
  | huffman {c body : List UInt8} {pad : List Bool} (hsize : Sized width true body.length c)
      (hlength : body.length < 2 ^ 32) (hpad : Ones pad)
      (hbits : bytesBits body = message symbolBits literal ++ pad) : Form width literal (c ++ body)

/-- The decoder takes each form of the string from any sequence, and what stands behind it stays. -/
def Accepts (width : UInt8) (literal : List UInt8) : Prop :=
  ∀ e, Form width literal e → ∀ {σ β : Type} [Storage β] [Sequence σ β] (s : σ) (suffix : List UInt8),
    Sequence.bytes s = e ++ suffix →
      ∃ s', decode width s = (.ok literal, s') ∧ Sequence.bytes s' = suffix

/-- The parser behind the flag and the size. -/
theorem parser_sized {width : UInt8} (hw : width.toNat < 8) {isHuffman : Bool} {size : Nat}
    {c : List UInt8} (h : Sized width isHuffman size c) (hsize : size < 2 ^ 32) (b : List UInt8) :
    parser width (c ++ b) =
      (if isHuffman then Huffman.parser size else Parser.take .incomplete size) b := by
  obtain ⟨hwritten, first, tl, rfl, hflag⟩ := h
  rw [← flag_eq hw] at hflag
  obtain ⟨v, hv⟩ := PrefixInt.parser_of_written hwritten
  have hvalue := PrefixInt.parser_eq_written hwritten hv hsize
  have hint : PrefixInt.parser width (first :: tl ++ b) = .ok (v, b) :=
    (PrefixInt.parser_stable width).append_ok hv b
  show bodyParser (flag first width) width (first :: tl ++ b) = _
  rw [bodyParser, Parser.bind_ok hint, hvalue, hflag]

/-- The flag of an empty Huffman string, and its size. -/
theorem sized_empty {width : UInt8} (hwidth : 1 ≤ width.toNat ∧ width.toNat ≤ 7) :
    Sized width true 0 [flagBit width] := by
  have hall : ∀ w : Fin 8, 1 ≤ w.val →
      PrefixInt.written (UInt8.ofNat w.val) [flagBit (UInt8.ofNat w.val)] = .ok (0, []) ∧
      (flagBit (UInt8.ofNat w.val)).toNat.testBit w.val = true := by decide
  obtain ⟨hwritten, hflag⟩ := hall ⟨width.toNat, by omega⟩ hwidth.1
  rw [UInt8.ofNat_toNat] at hwritten hflag
  exact ⟨hwritten, _, _, rfl, hflag⟩

/-- **The decoder takes both forms of every string but the empty one.** -/
theorem accepts_iff (width : UInt8) (hwidth : 1 ≤ width.toNat ∧ width.toNat ≤ 7) (literal : List UInt8) :
    Accepts width literal ↔ literal ≠ [] := by
  have hw : width.toNat < 8 := by omega
  constructor
  · rintro h rfl
    have hform : Form width [] ([flagBit width] ++ []) :=
      .huffman (sized_empty hwidth) (by decide) (show Ones [] from ⟨by decide, rfl⟩) rfl
    obtain ⟨s', hs', -⟩ := h _ hform (⟨[flagBit width]⟩ : Buffer) [] rfl
    have hread : parser width (Sequence.bytes (⟨[flagBit width]⟩ : Buffer)) =
        .error .qpackDecompressionFailed :=
      parser_sized hw (sized_empty hwidth) (by decide) []
    rw [decode_eq, Sequence.read_error hread] at hs'
    cases hs'
  · intro hne e hform σ β _ _ s suffix hs
    apply decode_of_parse
    rw [hs]
    cases hform with
    | plain hsize hlength =>
      rw [List.append_assoc, parser_sized hw hsize hlength]
      exact Parser.take_append
    | @huffman c body pad hsize hlength hpad hbits =>
      have hbody : body ≠ [] := by
        rintro rfl
        exact message_ne_nil hne (List.append_eq_nil_iff.mp hbits.symm).1
      rw [List.append_assoc, parser_sized hw hsize hlength, if_pos rfl]
      refine parser_eq_ok.mpr ⟨?_, ?_, List.drop_left⟩
      · rw [List.length_append]
        exact Nat.le_add_right _ _
      · rw [List.take_left]
        exact decodeBytes_iff.mpr ⟨hbody, pad, hpad, hbits⟩

/-- Any other string is taken. -/
theorem accepts_a : Accepts 7 [97] := (accepts_iff 7 (by decide) [97]).mpr (List.cons_ne_nil _ _)

/-- The empty string in the Huffman form: the flag, and no bytes. -/
theorem accepts_not : ¬ Accepts 7 [] := by
  intro h
  have hform : Form 7 [] ([0x80] ++ []) :=
    .huffman ⟨by decide, _, _, rfl, by decide⟩ (by decide) (show Ones [] from ⟨by decide, rfl⟩) rfl
  obtain ⟨s', hs', -⟩ := h _ hform (⟨[0x80]⟩ : Buffer) [] rfl
  have hread : (decode 7 (⟨[0x80]⟩ : Buffer)).1 = .error .qpackDecompressionFailed := by decide
  rw [hs'] at hread
  cases hread

end Bnl.Http3.Qpack.Literal
