import Bnl.Codec.Literal
import Bnl.Laws.HuffmanEncode
import Bnl.Laws.PrefixInt

/-!
# Laws of `literal`

The decoder as a parser, the bytes the encoder writes, and the round trip for strings whose bytes have codes of
at most 15 bits.

**The laws** are `decode_eq`, that the decoder is `parser` on any sequence; `encode_eq`, that the encoder stores
`bytes`, and `encodedSize_eq`, that it announced as many; and `parser_bytes`, that the one takes what the other
writes. Both follow from those of `PrefixInt` and `Huffman`. What is left to show is the flag: it is in a bit
the prefix integer keeps (`flag_bytes`), it is set where the form is Huffman's (`flag_set`), and it is read
before the integer is (`bodyParser`).

The bound on the codes is that of the Huffman round trip, which is not for all strings; the plain form has none
of its own.
-/

namespace Bnl.Http3.Qpack.Literal

open Incremental Bnl.Base Bytes

/-- The string behind a flag that has been read. -/
def bodyParser (isHuffman : Bool) (width : UInt8) : Parser Error UInt8 (List UInt8) := do
  let literalEncodedSize ← PrefixInt.parser width
  if isHuffman then Huffman.parser literalEncodedSize.toNat
  else Parser.take .incomplete literalEncodedSize.toNat

/-- The literal as a parser of bytes. -/
def parser (width : UInt8) : Parser Error UInt8 (List UInt8) :=
  Parser.peek .incomplete fun first => bodyParser (flag first width) width

/-- More input changes no answer but `incomplete`, in either form. -/
theorem stringParser_stable (isHuffman : Bool) (n : Nat) : Stable Error.incomplete
    (if isHuffman then Huffman.parser n else Parser.take .incomplete n) :=
  Stable.ite (Huffman.parser_stable n) (Stable.take n)

theorem bodyParser_stable (isHuffman : Bool) (width : UInt8) :
    Stable .incomplete (bodyParser isHuffman width) :=
  (PrefixInt.parser_stable width).bind fun _ => stringParser_stable _ _

theorem parser_stable (width : UInt8) : Stable .incomplete (parser width) :=
  Stable.peek (fun _ => bodyParser_stable _ _) fun _ _ h => nomatch h

/-! ## Decoding -/

section Decode

variable {β : Type} [Storage β]

/-- The plain form is that many bytes. -/
theorem plainDecode_follows (l : Lookahead β) {n : Nat} (h : n ≤ l.bytes.length) :
    Lookahead.Follows (Parser.take Error.incomplete n) l (plainDecode n l) := by
  refine Lookahead.follows_ok (Parser.take_of_le h) ?_
  have hbytes : (List.range n).map l.get = l.bytes.take n := by
    refine List.ext_getElem (by rw [List.length_map, List.length_range, List.length_take,
      Nat.min_eq_left h]) fun i hi hi' => ?_
    rw [List.getElem_map, List.getElem_range, List.getElem_take, ← Lookahead.sequence_get,
      Sequence.get_eq, Lookahead.sequence_bytes]
    rw [List.length_map, List.length_range] at hi
    exact List.getD_eq_getElem _ _ (by omega)
  rw [plainDecode, hbytes, List.length_drop, Nat.sub_sub_self h]

/-- Behind the flag the decoder reads what the parser does. -/
theorem decodeBody_follows (l : Lookahead β) (isHuffman : Bool) (width : UInt8) :
    Lookahead.Follows (bodyParser isHuffman width) l (decodeBody isHuffman width l) := by
  refine (PrefixInt.decode_follows l width).bind (PrefixInt.parser_stable width)
    (fun _ => stringParser_stable _ _) fun n l' _ => ?_
  have hget : (do
      let lookahead ← get
      if lookahead.size < n.toNat then throw .incomplete
      else if isHuffman then Huffman.decode n.toNat else plainDecode n.toNat :
        Reader Error (Lookahead β) (List UInt8)) l' =
      (if l'.size < n.toNat then (throw .incomplete : Reader Error (Lookahead β) (List UInt8))
        else if isHuffman then Huffman.decode n.toNat else plainDecode n.toNat) l' := rfl
  refine Eq.mpr (congrArg (Lookahead.Follows _ l') hget) ?_
  rw [Lookahead.size_eq]
  by_cases hsize : l'.bytes.length < n.toNat
  · rw [if_pos hsize]
    refine Lookahead.follows_error ?_ rfl
    cases isHuffman with
    | true => exact Parser.bind_error (Parser.take_of_gt hsize)
    | false => exact Parser.take_of_gt hsize
  · rw [if_neg hsize]
    cases isHuffman with
    | true =>
      have hread := Huffman.decode_eq n.toNat l'
      exact Eq.mpr (congrArg (Lookahead.Follows _ l') hread) Lookahead.follows_read
    | false => exact plainDecode_follows l' (Nat.not_lt.mp hsize)

variable {σ : Type} [Sequence σ β]

/-- **The decoder is the parser.** -/
theorem decode_eq (width : UInt8) (s : σ) : decode width s = Sequence.read (parser width) s := by
  have hl : (Sequence.lookahead s).bytes = Sequence.bytes s := Sequence.lookahead_bytes s
  match hb : Sequence.bytes s with
  | [] =>
    have hempty : Sequence.empty (Sequence.lookahead s) = true :=
      Sequence.empty_iff.mpr (by rw [Lookahead.sequence_bytes, hl, hb])
    rw [decode, if_pos hempty, Sequence.read_error (by rw [hb]; rfl)]
  | first :: tl =>
    have hne : Sequence.empty (Sequence.lookahead s) = false :=
      Sequence.empty_eq_false.mpr (by rw [Lookahead.sequence_bytes, hl, hb]; exact List.cons_ne_nil _ _)
    have hhead : Sequence.head (Sequence.lookahead s) = first := Sequence.head_eq (hl.trans hb)
    have hbody := decodeBody_follows (Sequence.lookahead s) (flag first width) width
    have hparser : parser width (Sequence.bytes s) =
        bodyParser (flag first width) width (Sequence.bytes s) := by
      rw [hb]
      rfl
    rw [decode]
    simp only [hne, hhead]
    rw [if_neg Bool.false_ne_true]
    cases hp : bodyParser (flag first width) width (Sequence.bytes s) with
    | error e =>
      obtain ⟨l', hd⟩ := hbody.stops (by rw [hl, hp])
      rw [Sequence.read_error (hparser.trans hp), hd]
    | ok q =>
      obtain ⟨v, rest⟩ := q
      rw [hbody.of_ok (by rw [hl, hp]), Sequence.read_ok (hparser.trans hp)]
      dsimp only
      rw [Lookahead.consume_consumed, Sequence.lookahead_consumed, Nat.zero_add, hl]

end Decode

/-! ## Encoding -/

/-- The flag bit of a literal, set. -/
def flagBit (width : UInt8) : UInt8 := ((1 : UInt32) <<< width.toUInt32).toUInt8

/-- What the encoder writes where `first` was. -/
def bytes (first : UInt8) (literal : List UInt8) (width : UInt8) : List UInt8 :=
  if literalEncodedSize literal < literal.length then
    PrefixInt.bytes (first ||| flagBit width) (UInt64.ofNat (literalEncodedSize literal)) width ++
      Huffman.wire literal
  else
    PrefixInt.bytes first (UInt64.ofNat (literalEncodedSize literal)) width ++ literal

/-- Of the two forms the shorter one is written, the plain one where they are equal. -/
theorem literalEncodedSize_cases (literal : List UInt8) :
    (literalEncodedSize literal < literal.length ∧
      literalEncodedSize literal = (Huffman.wire literal).length) ∨
    (¬ literalEncodedSize literal < literal.length ∧
      literalEncodedSize literal = literal.length) := by
  rw [literalEncodedSize]
  split
  · next h => exact .inl ⟨h, Huffman.encodedSize_eq literal⟩
  · exact .inr ⟨Nat.lt_irrefl _, rfl⟩

/-- **The encoder writes the bytes**, and keeps what was above the flag in the first one. -/
theorem encode_eq (literal : List UInt8) (m : Memory) (dest : Nat) (width : UInt8) :
    encode m dest literal width =
      ((bytes (m.get dest) literal width).length,
        m.store dest (bytes (m.get dest) literal width)) := by
  rw [encode, bytes]
  dsimp only
  split
  · rw [PrefixInt.encode_eq, Memory.get_set_self]
    dsimp only
    rw [Huffman.encode_eq, PrefixInt.set_store, List.length_append, Memory.store_append]
    rfl
  · rw [PrefixInt.encode_eq]
    dsimp only
    rw [List.length_append, Memory.store_append]

/-- **`encoded_size` announces what is written.** -/
theorem encodedSize_eq (first : UInt8) (literal : List UInt8) (width : UInt8) :
    encodedSize literal width = (bytes first literal width).length := by
  rw [encodedSize, bytes]
  rcases literalEncodedSize_cases literal with ⟨hlt, hsize⟩ | ⟨hlt, hsize⟩
  · rw [if_pos hlt, List.length_append, ← PrefixInt.encodedSize_eq, ← hsize]
  · rw [if_neg hlt, List.length_append, ← PrefixInt.encodedSize_eq, ← hsize]

/-- There is a first byte. -/
theorem bytes_ne_nil (first : UInt8) (literal : List UInt8) (width : UInt8) :
    bytes first literal width ≠ [] := by
  rw [bytes]
  split <;> exact List.append_ne_nil_of_left_ne_nil (PrefixInt.bytes_ne_nil _ _ _) _

/-- A first byte set before the literal is written over it does not count. -/
theorem set_store (m : Memory) (dest : Nat) (b first : UInt8) (literal : List UInt8)
    (width : UInt8) : (m.set dest b).store dest (bytes first literal width) =
      m.store dest (bytes first literal width) := by
  obtain ⟨c, cs, h⟩ := List.exists_cons_of_ne_nil (bytes_ne_nil first literal width)
  rw [h, Memory.set_store_cons]

/-! ## The round trip -/

/-- The flag is the bit above the prefix. -/
theorem flag_eq {width : UInt8} (hw : width.toNat < 8) (first : UInt8) :
    flag first width = first.toNat.testBit width.toNat := by
  have h : ∀ w : Fin 8, ∀ b : Fin 256, flag (UInt8.ofNat b.val) (UInt8.ofNat w.val) =
      b.val.testBit w.val := by decide +kernel
  have := h ⟨width.toNat, hw⟩ ⟨first.toNat, first.toNat_lt⟩
  rwa [UInt8.ofNat_toNat, UInt8.ofNat_toNat] at this

/-- The mask of a prefix that fits in a byte. -/
theorem prefixMax_toNat {width : UInt8} (hw : width.toNat < 8) :
    (PrefixInt.prefixMax width).toNat = 2 ^ width.toNat - 1 := by
  have h : ∀ w : Fin 8, (PrefixInt.prefixMax (UInt8.ofNat w.val)).toNat = 2 ^ w.val - 1 := by
    decide
  have := h ⟨width.toNat, hw⟩
  rwa [UInt8.ofNat_toNat] at this

/-- The prefix integer leaves the flag alone. -/
theorem flag_bytes {width : UInt8} (hw : width.toNat < 8) (first : UInt8) (value : UInt64) :
    ∃ byte tl, PrefixInt.bytes first value width = byte :: tl ∧
      flag byte width = flag first width := by
  have hmax := prefixMax_toNat hw
  have hpow := Nat.two_pow_pos width.toNat
  have hclear {x : Nat} (hx : x ≤ 2 ^ width.toNat - 1) : x.testBit width.toNat = false :=
    Nat.testBit_lt_two_pow (by omega)
  rw [PrefixInt.bytes]
  split
  · next hlt =>
    refine ⟨_, [], rfl, ?_⟩
    have hv : value.toNat < (PrefixInt.prefixMax width).toNat := by
      rw [← UInt8.toNat_toUInt64]
      exact UInt64.lt_iff_toNat_lt.mp hlt
    have hv8 : value.toUInt8.toNat ≤ 2 ^ width.toNat - 1 := by
      rw [UInt64.toNat_toUInt8]
      have := Nat.mod_le value.toNat (2 ^ 8)
      omega
    have hnot : (~~~ PrefixInt.prefixMax width).toNat.testBit width.toNat = true := by
      have h : ∀ w : Fin 8, (~~~ PrefixInt.prefixMax (UInt8.ofNat w.val)).toNat.testBit w.val = true := by
        decide
      have := h ⟨width.toNat, hw⟩
      rwa [UInt8.ofNat_toNat] at this
    rw [flag_eq hw, flag_eq hw, UInt8.toNat_or, Nat.testBit_or, UInt8.toNat_and, Nat.testBit_and,
      hclear hv8, hnot, Bool.and_true, Bool.or_false]
  · refine ⟨_, _, rfl, ?_⟩
    rw [flag_eq hw, flag_eq hw, UInt8.toNat_or, Nat.testBit_or, hclear (Nat.le_of_eq hmax), Bool.or_false]

/-- A flag that was set is read as set. -/
theorem flag_set {width : UInt8} (hw : width.toNat < 8) (first : UInt8) :
    flag (first ||| flagBit width) width = true := by
  have h : ∀ w : Fin 8, (flagBit (UInt8.ofNat w.val)).toNat.testBit w.val = true := by
    decide
  have hbit := h ⟨width.toNat, hw⟩
  rw [UInt8.ofNat_toNat] at hbit
  rw [flag_eq hw, UInt8.toNat_or, Nat.testBit_or]
  rw [hbit, Bool.or_true]

/-- The first byte written has the bits above the prefix of the byte that was there, the flag
aside. -/
theorem bytes_head (first : UInt8) (literal : List UInt8) (width : UInt8) :
    ∃ byte tl, bytes first literal width = byte :: tl ∧
      (byte &&& ~~~(PrefixInt.prefixMax width) = first &&& ~~~(PrefixInt.prefixMax width) ∨
        byte &&& ~~~(PrefixInt.prefixMax width) =
          (first ||| flagBit width) &&& ~~~(PrefixInt.prefixMax width)) := by
  unfold bytes
  split
  · obtain ⟨byte, tl, hb, hm⟩ := PrefixInt.bytes_head (first ||| flagBit width)
      (UInt64.ofNat (literalEncodedSize literal)) width
    exact ⟨byte, tl ++ Huffman.wire literal, by rw [hb]; rfl, .inr hm⟩
  · obtain ⟨byte, tl, hb, hm⟩ := PrefixInt.bytes_head first
      (UInt64.ofNat (literalEncodedSize literal)) width
    exact ⟨byte, tl ++ literal, by rw [hb]; rfl, .inl hm⟩

/-- **Decoding undoes encoding**, where the flag was clear. -/
theorem parser_bytes {literal : List UInt8} {first width : UInt8} (hs : Huffman.Short literal)
    (hlen : literal.length < 2 ^ 32) (hw : width.toNat < 8) (hclear : flag first width = false)
    (rest : List UInt8) :
    parser width (bytes first literal width ++ rest) = .ok (literal, rest) := by
  have hsize : literalEncodedSize literal ≤ literal.length := by
    rw [literalEncodedSize]
    split <;> omega
  have hnat : (UInt64.ofNat (literalEncodedSize literal)).toNat = literalEncodedSize literal := by
    rw [UInt64.toNat_ofNat']
    omega
  have hstart (f : UInt8) (b : List UInt8) : ∃ byte tl,
      PrefixInt.bytes f (UInt64.ofNat (literalEncodedSize literal)) width ++ b = byte :: tl ∧
      flag byte width = flag f width := by
    obtain ⟨byte, tl, hb, hf⟩ := flag_bytes hw f (UInt64.ofNat (literalEncodedSize literal))
    exact ⟨byte, tl ++ b, by rw [hb]; rfl, hf⟩
  have hread (f : UInt8) (b : List UInt8) :
      parser width (PrefixInt.bytes f (UInt64.ofNat (literalEncodedSize literal)) width ++ b) =
        (if flag f width then Huffman.parser (literalEncodedSize literal)
          else Parser.take .incomplete (literalEncodedSize literal)) b := by
    obtain ⟨byte, tl, hb, hf⟩ := hstart f b
    have hpeek : parser width (PrefixInt.bytes f (UInt64.ofNat (literalEncodedSize literal)) width ++ b) =
        bodyParser (flag byte width) width
          (PrefixInt.bytes f (UInt64.ofNat (literalEncodedSize literal)) width ++ b) := by
      rw [hb]
      rfl
    rw [hpeek, hf, bodyParser, Parser.bind_ok (PrefixInt.parser_bytes (by omega) b), hnat]
  rw [bytes]
  rcases literalEncodedSize_cases literal with ⟨hlt, heq⟩ | ⟨hlt, heq⟩
  · rw [if_pos hlt, List.append_assoc, hread, flag_set hw, if_pos rfl, heq]
    refine Huffman.parser_wire hs ?_ rest
    rintro rfl
    exact Nat.not_lt_zero _ hlt
  · rw [if_neg hlt, List.append_assoc, hread, hclear, if_neg Bool.false_ne_true, heq]
    exact Parser.take_append

end Bnl.Http3.Qpack.Literal
