import Bnl.Codec.Qpack
import Bnl.Laws.Literal
import Bnl.Laws.StaticTable

/-!
# Laws of `qpack::encoder` and `qpack::decoder`

A line of a header block is one instruction: an index, a name by index with a value, or a name and a value. The
decoder of a line is a parser of bytes; the encoder writes the bytes of an instruction; and the parser reads an
instruction back as the header it denotes. This file is the decoder's side.

**The laws** are `Decoder.decode_bytes`, that on any sequence the decoder answers what `decodeBytes` does on its
bytes; `decodeBytes_resumes`, that a decoder that was short of bytes goes on where it stopped; and
`decodeBytes_count`, that it counts what it uses up. An error has used up the block prefix at most, and is one
of three (`LineError`).

The stability of a line is that of its parts, one form after the other. The form is in the first byte, which is
looked at and not consumed (`Parser.peek`).
-/

namespace Bnl.Http3.Qpack

open Incremental Bnl.Base Bytes Table.Fixed

/-! ## Decoding a line -/

/-- A line as a parser, its first byte known. -/
def lineParser (first : UInt8) : Parser Error UInt8 Header :=
  match findType first with
  | .headerValue =>
    if first &&& 0x40 = 0 then Parser.fail .qpackDecompressionFailed
    else do
      let index ← PrefixInt.parser 6
      match findHeaderValue index.toUInt8 with
      | none => Parser.fail .qpackDecompressionFailed
      | some header => pure header
  | .headerOnly =>
    if first &&& 0x10 = 0 then Parser.fail .qpackDecompressionFailed
    else do
      let index ← PrefixInt.parser 4
      match findHeaderOnly index.toUInt8 with
      | none => Parser.fail .qpackDecompressionFailed
      | some name => do
        let value ← Literal.parser 7
        pure ⟨name, value⟩
  | .missing => do
    let name ← Literal.parser 3
    let value ← Literal.parser 7
    if headerIsLowercase ⟨name, value⟩ then pure ⟨name, value⟩ else Parser.fail .malformedHeader
  | .unknown => Parser.fail .qpackDecompressionFailed

/-- A line as a parser. -/
def line : Parser Error UInt8 Header := Parser.peek .incomplete lineParser

/-- Behind an index nothing is read. -/
theorem indexed_stable (index : UInt64) : Stable Error.incomplete
    (match findHeaderValue index.toUInt8 with
      | none => Parser.fail .qpackDecompressionFailed
      | some header => pure header : Parser Error UInt8 Header) := by
  cases findHeaderValue index.toUInt8 with
  | none => exact Stable.fail _
  | some header => exact Stable.pure _

/-- Behind the index of a name a value is read. -/
theorem nameReference_stable (index : UInt64) : Stable Error.incomplete
    (match findHeaderOnly index.toUInt8 with
      | none => Parser.fail .qpackDecompressionFailed
      | some name => do
        let value ← Literal.parser 7
        pure ⟨name, value⟩ : Parser Error UInt8 Header) := by
  cases findHeaderOnly index.toUInt8 with
  | none => exact Stable.fail _
  | some name => exact (Literal.parser_stable 7).map _

/-- The check of a name reads nothing. -/
theorem lowercase_stable (header : Header) : Stable Error.incomplete
    (if headerIsLowercase header then pure header else Parser.fail .malformedHeader :
      Parser Error UInt8 Header) :=
  Stable.ite (Stable.pure _) (Stable.fail _)

/-- More input changes no line but one that is short, its first byte known. -/
theorem lineParser_stable (first : UInt8) : Stable .incomplete (lineParser first) := by
  unfold lineParser
  cases findType first with
  | headerValue =>
    exact Stable.ite (Stable.fail _) ((PrefixInt.parser_stable 6).bind indexed_stable)
  | headerOnly =>
    exact Stable.ite (Stable.fail _) ((PrefixInt.parser_stable 4).bind nameReference_stable)
  | missing =>
    exact (Literal.parser_stable 3).bind fun _ =>
      (Literal.parser_stable 7).bind fun _ => lowercase_stable _
  | unknown => exact Stable.fail _

/-- No line is empty. -/
theorem lineParser_nil (first : UInt8) (header : Header) :
    lineParser first [] ≠ .ok (header, []) := by
  intro h
  unfold lineParser at h
  cases ht : findType first with
  | headerValue =>
    rw [ht] at h
    dsimp only at h
    split at h <;> cases h
  | headerOnly =>
    rw [ht] at h
    dsimp only at h
    split at h <;> cases h
  | missing =>
    rw [ht] at h
    cases h
  | unknown =>
    rw [ht] at h
    cases h

/-- More input changes no line but one that is short. -/
theorem line_stable : Stable .incomplete line := Stable.peek lineParser_stable lineParser_nil

/-- What a line that cannot be read is answered with. -/
def LineError (e : Error) : Prop :=
  e = .incomplete ∨ e = .qpackDecompressionFailed ∨ e = .malformedHeader

/-- What a literal fails with. -/
theorem literal_failsWith (width : UInt8) : FailsWith LineError (Literal.parser width) := by
  have hinc : LineError .incomplete := .inl rfl
  have hfailed : LineError .qpackDecompressionFailed := .inr (.inl rfl)
  refine FailsWith.peek hinc fun first => ?_
  have hsize : FailsWith LineError (PrefixInt.parser width) :=
    fun b e h => .inl (PrefixInt.parser_patient width b e h)
  refine hsize.bind fun n => FailsWith.ite ?_ (FailsWith.take hinc _)
  refine (FailsWith.take hinc _).bind fun bs => ?_
  cases Huffman.decodeBytes bs with
  | some xs => exact FailsWith.pure xs
  | none => exact FailsWith.fail hfailed

/-- **A line fails with one of three errors.** -/
theorem line_failsWith : FailsWith LineError line := by
  have hfailed : LineError .qpackDecompressionFailed := .inr (.inl rfl)
  have hindex (width : UInt8) : FailsWith LineError (PrefixInt.parser width) :=
    fun b e h => .inl (PrefixInt.parser_patient width b e h)
  refine FailsWith.peek (.inl rfl) fun first => ?_
  unfold lineParser
  cases findType first with
  | headerValue =>
    refine FailsWith.ite (FailsWith.fail hfailed) ((hindex 6).bind fun index => ?_)
    cases findHeaderValue index.toUInt8 with
    | none => exact FailsWith.fail hfailed
    | some header => exact FailsWith.pure header
  | headerOnly =>
    refine FailsWith.ite (FailsWith.fail hfailed) ((hindex 4).bind fun index => ?_)
    cases findHeaderOnly index.toUInt8 with
    | none => exact FailsWith.fail hfailed
    | some name => exact (literal_failsWith 7).bind fun _ => FailsWith.pure _
  | missing =>
    exact (literal_failsWith 3).bind fun _ => (literal_failsWith 7).bind fun _ =>
      FailsWith.ite (FailsWith.pure _) (FailsWith.fail (.inr (.inr rfl)))
  | unknown => exact FailsWith.fail hfailed

/-- A line takes a byte at least. -/
theorem line_lt {b rest : List UInt8} {header : Header} (h : line b = .ok (header, rest)) :
    rest.length < b.length :=
  line_stable.length_lt (fun _ h => nomatch h) h

section Decode

variable {β : Type} [Storage β]

/-- On a lookahead a literal is read as the parser reads it. -/
theorem literal_follows (l : Lookahead β) (width : UInt8) :
    Lookahead.Follows (Literal.parser width) l (Literal.decode width l) :=
  Eq.mpr (congrArg (Lookahead.Follows _ l) (Literal.decode_eq width l)) Lookahead.follows_read

theorem lineDecode_follows (l : Lookahead β) (first : UInt8) :
    Lookahead.Follows (lineParser first) l (lineDecode first l) := by
  unfold lineParser lineDecode
  cases findType first with
  | headerValue =>
    dsimp only
    split
    · exact Lookahead.follows_fail _ _
    · refine (PrefixInt.decode_follows l 6).bind (PrefixInt.parser_stable 6) indexed_stable
        fun index l' _ => ?_
      cases findHeaderValue index.toUInt8 with
      | none => exact Lookahead.follows_fail _ _
      | some header => exact Lookahead.follows_pure _
  | headerOnly =>
    dsimp only
    split
    · exact Lookahead.follows_fail _ _
    · refine (PrefixInt.decode_follows l 4).bind (PrefixInt.parser_stable 4) nameReference_stable
        fun index l' _ => ?_
      cases findHeaderOnly index.toUInt8 with
      | none => exact Lookahead.follows_fail _ _
      | some name =>
        exact (literal_follows l' 7).bind (Literal.parser_stable 7) (fun _ => Stable.pure _)
          fun value l'' _ => Lookahead.follows_pure _
  | missing =>
    refine (literal_follows l 3).bind (Literal.parser_stable 3)
      (fun _ => (Literal.parser_stable 7).bind fun _ => lowercase_stable _) fun name l' _ => ?_
    refine (literal_follows l' 7).bind (Literal.parser_stable 7)
      (fun _ => lowercase_stable _) fun value l'' _ => ?_
    split
    · exact Lookahead.follows_pure _
    · exact Lookahead.follows_fail _ _
  | unknown => exact Lookahead.follows_fail _ _

end Decode

namespace Decoder

/-- `decodeHeader` on a byte list. -/
def decodeHeaderBytes (d : Decoder) (b : List UInt8) :
    Except Error Header × Decoder × List UInt8 :=
  match line b with
  | .ok (header, rest) => (.ok header, { d with count := d.count + (b.length - rest.length) }, rest)
  | .error e => (.error e, d, b)

/-- `decode` on a byte list. -/
def decodeBytes (d : Decoder) (b : List UInt8) : Except Error Header × Decoder × List UInt8 :=
  match d.state with
  | .blockPrefix =>
    if b.length < qpackPrefixEncodedSize then (.error .incomplete, d, b)
    else decodeHeaderBytes { state := .header, count := d.count + qpackPrefixEncodedSize }
      (b.drop qpackPrefixEncodedSize)
  | .header => d.decodeHeaderBytes b

theorem decodeHeaderBytes_lt {d d' : Decoder} {b rest : List UInt8} {header : Header}
    (h : d.decodeHeaderBytes b = (.ok header, d', rest)) : rest.length < b.length := by
  unfold decodeHeaderBytes at h
  split at h
  · next hl =>
    cases h
    exact line_lt hl
  · cases h

theorem decodeHeaderBytes_le (d : Decoder) (b : List UInt8) :
    (d.decodeHeaderBytes b).2.2.length ≤ b.length := by
  unfold decodeHeaderBytes
  split
  · next hl => exact Nat.le_of_lt (line_lt hl)
  · exact Nat.le_refl _

/-- A header takes something, the block prefix aside. -/
theorem decodeBytes_lt {d d' : Decoder} {b rest : List UInt8} {header : Header}
    (h : d.decodeBytes b = (.ok header, d', rest)) : rest.length < b.length := by
  unfold decodeBytes at h
  split at h
  · split at h
    · cases h
    · exact Nat.lt_of_lt_of_le (decodeHeaderBytes_lt h) (List.length_drop ▸ Nat.sub_le _ _)
  · exact decodeHeaderBytes_lt h

/-- No call adds bytes, whatever it answers. -/
theorem decodeBytes_le (d : Decoder) (b : List UInt8) :
    (d.decodeBytes b).2.2.length ≤ b.length := by
  unfold decodeBytes
  split
  · split
    · exact Nat.le_refl _
    · exact Nat.le_trans (decodeHeaderBytes_le _ _) (List.length_drop ▸ Nat.sub_le _ _)
  · exact decodeHeaderBytes_le _ _

/-- `decode` uses up what it counts. -/
theorem decodeBytes_count {d d' : Decoder} {b rest : List UInt8} {r : Except Error Header}
    (h : d.decodeBytes b = (r, d', rest)) :
    ∃ used, b = used ++ rest ∧ d'.count = d.count + used.length := by
  have hheader {d : Decoder} {b : List UInt8} (h : d.decodeHeaderBytes b = (r, d', rest)) :
      ∃ used, b = used ++ rest ∧ d'.count = d.count + used.length := by
    unfold decodeHeaderBytes at h
    split at h
    · next hl =>
      cases h
      obtain ⟨used, rfl⟩ := line_stable.splits hl
      refine ⟨used, rfl, ?_⟩
      simp only [List.length_append, Nat.add_sub_cancel]
    · cases h
      exact ⟨[], rfl, rfl⟩
  unfold decodeBytes at h
  split at h
  · split at h
    · cases h
      exact ⟨[], rfl, rfl⟩
    · next hlen =>
      obtain ⟨used, hused, hcount⟩ := hheader h
      refine ⟨b.take qpackPrefixEncodedSize ++ used, ?_, ?_⟩
      · rw [List.append_assoc, ← hused, List.take_append_drop]
      · rw [hcount, List.length_append, List.length_take, Nat.min_eq_left (Nat.not_lt.mp hlen),
          ← Nat.add_assoc]
  · exact hheader h

/-- Every error of the decoder is that of a line. -/
theorem decodeBytes_failsWith {d d' : Decoder} {b rest : List UInt8} {e : Error}
    (h : d.decodeBytes b = (.error e, d', rest)) : LineError e := by
  have hheader {d : Decoder} {b : List UInt8} (h : d.decodeHeaderBytes b = (.error e, d', rest)) :
      LineError e := by
    unfold decodeHeaderBytes at h
    split at h
    · cases h
    · next hl =>
      cases h
      exact line_failsWith _ _ hl
  unfold decodeBytes at h
  split at h
  · split at h
    · cases h
      exact .inl rfl
    · exact hheader h
  · exact hheader h

/-- A decoder goes on where it stopped, the block prefix behind it. -/
theorem decodeHeaderBytes_resumes (d : Decoder) (hd : d.state = .header) (b c : List UInt8) :
    Resumes .incomplete decodeBytes d b c := by
  have heq (b : List UInt8) : d.decodeBytes b = d.decodeHeaderBytes b := by
    unfold decodeBytes
    rw [hd]
  constructor
  · intro header d' rest h
    rw [heq, decodeHeaderBytes] at h
    rw [heq, decodeHeaderBytes]
    split at h
    · next hl =>
      cases h
      rw [line_stable.append_ok hl c]
      dsimp only
      rw [List.length_append, List.length_append, Nat.add_sub_add_right]
    · cases h
  · intro d' rest h
    rw [heq, decodeHeaderBytes] at h
    split at h
    · cases h
    · cases h
      rfl
  · intro e d' rest h hne
    rw [heq, decodeHeaderBytes] at h
    rw [heq, decodeHeaderBytes]
    split at h
    · cases h
    · next hl =>
      cases h
      rw [line_stable.append_error hl hne c]

/-- **A decoder goes on where it stopped**, the block prefix used up or not. -/
theorem decodeBytes_resumes (d : Decoder) (b c : List UInt8) :
    Resumes .incomplete decodeBytes d b c := by
  cases hd : d.state with
  | header => exact d.decodeHeaderBytes_resumes hd b c
  | blockPrefix =>
    by_cases hlen : b.length < qpackPrefixEncodedSize
    · have hshort : d.decodeBytes b = (.error .incomplete, d, b) := by
        unfold decodeBytes
        rw [hd]
        exact if_pos hlen
      constructor
      · intro header d' rest h
        rw [hshort] at h
        cases h
      · intro d' rest h
        rw [hshort] at h
        cases h
        rfl
      · intro e d' rest h hne
        rw [hshort] at h
        cases h
        exact absurd rfl hne
    · let d₁ : Decoder := { state := .header, count := d.count + qpackPrefixEncodedSize }
      have hnext {b : List UInt8} (hlen : ¬ b.length < qpackPrefixEncodedSize) :
          d.decodeBytes b = d₁.decodeBytes (b.drop qpackPrefixEncodedSize) := by
        conv => lhs; unfold decodeBytes
        rw [hd]
        exact if_neg hlen
      have hdrop : (b ++ c).drop qpackPrefixEncodedSize = b.drop qpackPrefixEncodedSize ++ c :=
        List.drop_append_of_le_length (Nat.not_lt.mp hlen)
      have hlong : ¬ (b ++ c).length < qpackPrefixEncodedSize := by
        rw [List.length_append]
        omega
      have hres := d₁.decodeHeaderBytes_resumes rfl (b.drop qpackPrefixEncodedSize) c
      constructor
      · intro header d' rest h
        rw [hnext hlong, hdrop]
        exact hres.ok (hnext hlen ▸ h)
      · intro d' rest h
        rw [hnext hlong, hdrop]
        exact hres.short (hnext hlen ▸ h)
      · intro e d' rest h hne
        rw [hnext hlong, hdrop]
        exact hres.error (hnext hlen ▸ h) hne

variable {σ β : Type} [Storage β] [Sequence σ β]

/-- A line on a sequence. -/
theorem decodeHeader_bytes (d : Decoder) (s : σ) :
    Sequence.onBytes (d.decodeHeader s) = d.decodeHeaderBytes (Sequence.bytes s) := by
  have hl : (Sequence.lookahead s).bytes = Sequence.bytes s := Sequence.lookahead_bytes s
  unfold decodeHeader decodeHeaderBytes
  match hb : Sequence.bytes s with
  | [] =>
    have hempty : Sequence.empty (Sequence.lookahead s) = true :=
      Sequence.empty_iff.mpr (by rw [Lookahead.sequence_bytes, hl, hb])
    refine (congrArg Sequence.onBytes (if_pos hempty)).trans ?_
    rw [Sequence.onBytes, hb]
    rfl
  | first :: tl =>
    have hne : Sequence.empty (Sequence.lookahead s) = false :=
      Sequence.empty_eq_false.mpr
        (by rw [Lookahead.sequence_bytes, hl, hb]; exact List.cons_ne_nil _ _)
    have hhead : Sequence.head (Sequence.lookahead s) = first := Sequence.head_eq (hl.trans hb)
    have hline := lineDecode_follows (Sequence.lookahead s) first
    have hpeek : line (first :: tl) = lineParser first (first :: tl) := rfl
    simp only [hne, hhead]
    rw [if_neg Bool.false_ne_true, hpeek]
    cases hp : lineParser first (first :: tl) with
    | error e =>
      obtain ⟨l', hd⟩ := hline.stops (by rw [hl, hb, hp])
      rw [hd]
      dsimp only
      rw [Sequence.onBytes, hb]
    | ok q =>
      obtain ⟨header, rest⟩ := q
      rw [hline.of_ok (by rw [hl, hb, hp])]
      obtain ⟨c, hc⟩ := (lineParser_stable first).splits hp
      dsimp only
      rw [Lookahead.consume_consumed, Sequence.lookahead_consumed, Nat.zero_add, hl, hb, Sequence.onBytes]
      dsimp only
      rw [Sequence.consume_eq, hb, hc, List.length_append, Nat.add_sub_cancel, List.drop_left]

/-- **The decoder sees nothing of a sequence but its bytes.** -/
theorem decode_bytes (d : Decoder) (s : σ) :
    Sequence.onBytes (d.decode s) = d.decodeBytes (Sequence.bytes s) := by
  unfold decode decodeBytes
  cases d.state with
  | blockPrefix =>
    dsimp only
    rw [Sequence.size_eq]
    split
    · rfl
    · rw [decodeHeader_bytes, Sequence.consume_eq]
  | header => exact decodeHeader_bytes d s

end Decoder

end Bnl.Http3.Qpack
