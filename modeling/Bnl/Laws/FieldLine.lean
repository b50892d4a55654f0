import Bnl.Laws.Qpack
import Bnl.Laws.Written

/-!
# Field lines

What a line of a header block denotes is said by the bytes themselves: bits of the first byte, an index or a
string of the size written, and the static table. `FieldLine` says it without a decoder. The decoder narrows an
index to a byte before it looks it up, and adds up sizes in machine words. `ReadAsWritten` is where neither
makes a difference, and `decode_sound_iff` says that this is exactly where the decoder's headers are the ones
the lines denote.

**The law** is `decode_sound_iff`, for every state of the decoder and every input, and it is two properties at
once: that a header handed out is denoted by the line consumed, and that an index outside the table is refused.
Each form of a line has its case, in both directions. From the condition to the law, an index below 99 is read
as it was written and survives the narrowing (`index_narrow`). From the law to the condition, an index from 99
on that the decoder takes is one it should have refused.

The condition is about the line at hand: it says which low bytes an index may have and that sizes are read as
written. It does not say that no index wraps; an index of 512 and more is harmless where its low byte stands for
nothing.
-/

namespace Bnl.Http3.Qpack

open Incremental Bnl.Base Bytes Table.Fixed

/-- A line that refers to the static table or to none, and the header it denotes. -/
inductive FieldLine : List UInt8 → Header → Prop where
  | indexed {first : UInt8} {tl : List UInt8} {i : Nat} {header : Header} :
    first &&& 0xc0 = 0xc0 → PrefixInt.written 6 (first :: tl) = .ok (i, []) →
    entry i = some header → FieldLine (first :: tl) header
  | nameReference {first : UInt8} {tl : List UInt8} {i : Nat} {e : Header} {mid : List UInt8}
    {value : List UInt8} :
    first &&& 0xd0 = 0x50 → PrefixInt.written 4 (first :: tl) = .ok (i, mid) →
    entry i = some e → Literal.written 7 mid = .ok (value, []) →
    FieldLine (first :: tl) ⟨e.name, value⟩
  | literal {first : UInt8} {tl mid name value : List UInt8} :
    first &&& 0xe0 = 0x20 → Literal.written 3 (first :: tl) = .ok (name, mid) →
    Literal.written 7 mid = .ok (value, []) → headerIsLowercase ⟨name, value⟩ = true →
    FieldLine (first :: tl) ⟨name, value⟩

/-- The index a line begins with, if it begins with one. -/
def writtenIndex : List UInt8 → Option Nat
  | [] => none
  | first :: tl =>
    if first &&& 0x80 = 0x80 then (PrefixInt.written 6 (first :: tl)).toOption.map Prod.fst
    else if first &&& 0x40 = 0x40 then (PrefixInt.written 4 (first :: tl)).toOption.map Prod.fst
    else none

/-- Where the decoder's arithmetic does not show. An index is in the table, or its low byte is not;
a name by index may also stand before a string that is not Huffman code. The sizes of the strings
that are read are read as they were written. -/
def ReadAsWritten (b : List UInt8) : Prop :=
  match b with
  | [] => True
  | first :: _ =>
    match findType first with
    | .headerValue => first &&& 0x40 ≠ 0 → ∀ i index r r', PrefixInt.written 6 b = .ok (i, r) →
      PrefixInt.parser 6 b = .ok (index, r') → i < 99 ∨ findHeaderValue index.toUInt8 = none
    | .headerOnly => first &&& 0x10 ≠ 0 → ∀ i index r r', PrefixInt.written 4 b = .ok (i, r) →
      PrefixInt.parser 4 b = .ok (index, r') →
        (i < 99 ∨ findHeaderOnly index.toUInt8 = none ∨
          Literal.parser 7 r' = .error .qpackDecompressionFailed) ∧
        (i < 99 → ∀ value rest, Literal.parser 7 r' = .ok (value, rest) → Literal.SizeExact 7 r')
    | .missing => ∀ name r value r', Literal.parser 3 b = .ok (name, r) →
      Literal.parser 7 r = .ok (value, r') → headerIsLowercase ⟨name, value⟩ = true →
        Literal.SizeExact 3 b ∧ Literal.SizeExact 7 r
    | .unknown => True

/-! ## First bytes -/

/-- The types by the bits that say them. -/
theorem findType_iff : ∀ b : UInt8,
    (findType b = .headerValue ↔ b &&& 0x80 = 0x80) ∧
    (findType b = .headerOnly ↔ b &&& 0x80 ≠ 0x80 ∧ b &&& 0x40 = 0x40) ∧
    (findType b = .missing ↔ b &&& 0xe0 = 0x20) ∧
    (b &&& 0xc0 = 0xc0 ↔ findType b = .headerValue ∧ b &&& 0x40 ≠ 0) ∧
    (b &&& 0xd0 = 0x50 ↔ findType b = .headerOnly ∧ b &&& 0x10 ≠ 0) := forall_byte (by decide +kernel)

/-- The first bit says an index. -/
theorem headerValue_iff (b : UInt8) : findType b = .headerValue ↔ b &&& 0x80 = 0x80 :=
  (findType_iff b).1

/-- The second, where the first is clear, says an index for the name. -/
theorem headerOnly_iff (b : UInt8) :
    findType b = .headerOnly ↔ b &&& 0x80 ≠ 0x80 ∧ b &&& 0x40 = 0x40 := (findType_iff b).2.1

/-- The third, where those are clear, says none. -/
theorem missing_iff (b : UInt8) : findType b = .missing ↔ b &&& 0xe0 = 0x20 := (findType_iff b).2.2.1

/-- An index into the static table. -/
theorem static_indexed_iff (b : UInt8) :
    b &&& 0xc0 = 0xc0 ↔ findType b = .headerValue ∧ b &&& 0x40 ≠ 0 := (findType_iff b).2.2.2.1

/-- An index for the name, into the static table. -/
theorem static_name_iff (b : UInt8) :
    b &&& 0xd0 = 0x50 ↔ findType b = .headerOnly ∧ b &&& 0x10 ≠ 0 := (findType_iff b).2.2.2.2

/-! ## The line parser, by type -/

section Line

variable {first : UInt8} {tl rest : List UInt8} {header : Header}

/-- The parser, on an index. -/
theorem line_indexed (ht : findType first = .headerValue) (hs : first &&& 0x40 ≠ 0) :
    line (first :: tl) = (PrefixInt.parser 6 >>= fun index =>
      match findHeaderValue index.toUInt8 with
      | none => Parser.fail .qpackDecompressionFailed
      | some header => pure header) (first :: tl) := by
  show lineParser first (first :: tl) = _
  unfold lineParser
  rw [ht]
  exact congrFun (if_neg hs) _

/-- The parser, on an index for the name. -/
theorem line_nameReference (tl : List UInt8) (ht : findType first = .headerOnly)
    (hs : first &&& 0x10 ≠ 0) :
    line (first :: tl) = (PrefixInt.parser 4 >>= fun index =>
      match findHeaderOnly index.toUInt8 with
      | none => Parser.fail .qpackDecompressionFailed
      | some name => do
        let value ← Literal.parser 7
        pure ⟨name, value⟩) (first :: tl) := by
  show lineParser first (first :: tl) = _
  unfold lineParser
  rw [ht]
  exact congrFun (if_neg hs) _

/-- The parser, on a name and a value. -/
theorem line_literal (tl : List UInt8) (ht : findType first = .missing) :
    line (first :: tl) = (Literal.parser 3 >>= fun name => Literal.parser 7 >>= fun value =>
      if headerIsLowercase ⟨name, value⟩ then pure ⟨name, value⟩
      else Parser.fail .malformedHeader) (first :: tl) := by
  show lineParser first (first :: tl) = _
  unfold lineParser
  rw [ht]

/-- A line of another table, or of no known type, is rejected. -/
theorem line_dynamic (h : (findType first = .headerValue ∧ first &&& 0x40 = 0) ∨
    (findType first = .headerOnly ∧ first &&& 0x10 = 0) ∨ findType first = .unknown) :
    line (first :: tl) = .error .qpackDecompressionFailed := by
  show lineParser first (first :: tl) = _
  unfold lineParser
  rcases h with ⟨ht, hs⟩ | ⟨ht, hs⟩ | ht
  · rw [ht]
    exact congrFun (if_pos hs) _
  · rw [ht]
    exact congrFun (if_pos hs) _
  · rw [ht]
    rfl

/-- What an indexed line that decodes has read. -/
theorem of_line_indexed (ht : findType first = .headerValue) (hs : first &&& 0x40 ≠ 0)
    (h : line (first :: tl) = .ok (header, rest)) : ∃ index,
      PrefixInt.parser 6 (first :: tl) = .ok (index, rest) ∧
      findHeaderValue index.toUInt8 = some header := by
  rw [line_indexed ht hs] at h
  obtain ⟨index, mid, hint, hfind⟩ := Parser.bind_eq_ok.mp h
  cases hf : findHeaderValue index.toUInt8 with
  | none =>
    rw [hf] at hfind
    cases hfind
  | some header' =>
    rw [hf] at hfind
    cases hfind
    exact ⟨index, hint, hf⟩

/-- What a line with a name by index has read. -/
theorem of_line_nameReference (ht : findType first = .headerOnly) (hs : first &&& 0x10 ≠ 0)
    (h : line (first :: tl) = .ok (header, rest)) : ∃ index mid,
      PrefixInt.parser 4 (first :: tl) = .ok (index, mid) ∧
      findHeaderOnly index.toUInt8 = some header.name ∧
      Literal.parser 7 mid = .ok (header.value, rest) := by
  rw [line_nameReference _ ht hs] at h
  obtain ⟨index, mid, hint, hfind⟩ := Parser.bind_eq_ok.mp h
  cases hf : findHeaderOnly index.toUInt8 with
  | none =>
    rw [hf] at hfind
    cases hfind
  | some name =>
    rw [hf] at hfind
    obtain ⟨value, mid', hv, hp⟩ := Parser.bind_eq_ok.mp hfind
    cases hp
    exact ⟨index, mid, hint, hf, hv⟩

/-- What a line with a name and a value has read. -/
theorem of_line_literal (ht : findType first = .missing)
    (h : line (first :: tl) = .ok (header, rest)) : ∃ mid,
      Literal.parser 3 (first :: tl) = .ok (header.name, mid) ∧
      Literal.parser 7 mid = .ok (header.value, rest) ∧ headerIsLowercase header = true := by
  rw [line_literal _ ht] at h
  obtain ⟨name, mid, hn, h⟩ := Parser.bind_eq_ok.mp h
  obtain ⟨value, mid', hv, h⟩ := Parser.bind_eq_ok.mp h
  split at h
  · next hlow =>
    cases h
    exact ⟨mid, hn, hv, hlow⟩
  · cases h

end Line

/-! ## From the condition -/

/-- An index in the table is read as it was written, and survives the narrowing. -/
theorem index_narrow {width : UInt8} {b r r' : List UInt8} {i : Nat} {index : UInt64}
    (hw : PrefixInt.written width b = .ok (i, r)) (hp : PrefixInt.parser width b = .ok (index, r'))
    (hi : i < 99) : index.toUInt8.toNat = i := by
  rw [UInt64.toNat_toUInt8, PrefixInt.parser_eq_written hw hp (by omega)]
  exact Nat.mod_eq_of_lt (by omega)

/-- **A header read is a header denoted**, under the condition. -/
theorem fieldLine_of_line {b rest : List UInt8} {header : Header} (hc : ReadAsWritten b)
    (h : line b = .ok (header, rest)) : ∃ c, b = c ++ rest ∧ FieldLine c header := by
  obtain ⟨c, rfl⟩ := line_stable.splits h
  refine ⟨c, rfl, ?_⟩
  have hok := line_stable.consumed_ok h
  cases c with
  | nil => cases hok
  | cons first tl =>
    unfold ReadAsWritten at hc
    dsimp only [List.cons_append] at hc
    cases ht : findType first with
    | headerValue =>
      rw [ht] at hc
      by_cases hs : first &&& 0x40 = 0
      · rw [line_dynamic (.inl ⟨ht, hs⟩)] at hok
        cases hok
      obtain ⟨index, hint, hfind⟩ := of_line_indexed ht hs hok
      obtain ⟨i, hi⟩ := PrefixInt.written_of_read hint
      have hlt := (hc hs i index rest rest ((PrefixInt.written_stable 6).append_ok hi rest)
        ((PrefixInt.parser_stable 6).append_ok hint rest)).resolve_right
        (by rw [hfind]; exact Option.some_ne_none _)
      refine .indexed ((static_indexed_iff first).mpr ⟨ht, hs⟩) hi ?_
      rw [← index_narrow hi hint hlt]
      exact (findHeaderValue_eq_some.mp hfind).1
    | headerOnly =>
      rw [ht] at hc
      by_cases hs : first &&& 0x10 = 0
      · rw [line_dynamic (.inr (.inl ⟨ht, hs⟩))] at hok
        cases hok
      obtain ⟨index, mid, hint, hfind, hval⟩ := of_line_nameReference ht hs hok
      obtain ⟨i, hi⟩ := PrefixInt.written_of_read hint
      have hval' := (Literal.parser_stable 7).append_ok hval rest
      obtain ⟨hindex, hsize⟩ := hc hs i index (mid ++ rest) (mid ++ rest)
        ((PrefixInt.written_stable 4).append_ok hi rest)
        ((PrefixInt.parser_stable 4).append_ok hint rest)
      have hlt : i < 99 := by
        refine hindex.resolve_right ?_
        rw [hfind, hval']
        rintro (hn | he)
        · cases hn
        · cases he
      have hwritten := (Literal.written_stable 7).consumed_ok
        (Literal.written_of_read hval' (hsize hlt _ _ hval'))
      obtain ⟨e, he, hn⟩ := findHeaderOnly_eq_some.mp hfind
      rw [index_narrow hi hint hlt] at he
      obtain ⟨name, value⟩ := header
      cases hn
      exact .nameReference ((static_name_iff first).mpr ⟨ht, hs⟩) hi he hwritten
    | missing =>
      rw [ht] at hc
      obtain ⟨mid, hname, hval, hlow⟩ := of_line_literal ht hok
      have hname' := (Literal.parser_stable 3).append_ok hname rest
      have hval' := (Literal.parser_stable 7).append_ok hval rest
      obtain ⟨hs₁, hs₂⟩ := hc _ _ _ _ hname' hval' hlow
      exact .literal ((missing_iff first).mp ht)
        ((Literal.written_stable 3).of_append (Literal.written_of_read hname' hs₁))
        ((Literal.written_stable 7).consumed_ok (Literal.written_of_read hval' hs₂)) hlow
    | unknown =>
      rw [line_dynamic (.inr (.inr ht))] at hok
      cases hok

/-- A parse that came to an index. -/
theorem exists_of_toOption {x : Except Error (Nat × List UInt8)} {i : Nat}
    (h : x.toOption.map Prod.fst = some i) : ∃ r, x = .ok (i, r) := by
  cases x with
  | error e => cases h
  | ok q =>
    cases h
    exact ⟨q.2, rfl⟩

/-- **An index outside the table is rejected**, under the condition. -/
theorem line_reject {b : List UInt8} (hc : ReadAsWritten b) {i : Nat}
    (hi : writtenIndex b = some i) (hge : 99 ≤ i) : line b = .error .qpackDecompressionFailed := by
  cases b with
  | nil => cases hi
  | cons first tl =>
    unfold ReadAsWritten at hc
    dsimp only at hc
    rw [writtenIndex] at hi
    by_cases h80 : first &&& 0x80 = 0x80
    · have ht := (headerValue_iff first).mpr h80
      rw [if_pos h80] at hi
      rw [ht] at hc
      by_cases hs : first &&& 0x40 = 0
      · exact line_dynamic (.inl ⟨ht, hs⟩)
      obtain ⟨r, hw⟩ := exists_of_toOption hi
      obtain ⟨index, hp⟩ := PrefixInt.parser_of_written hw
      have hfind := (hc hs i index r r hw hp).resolve_left (Nat.not_lt.mpr hge)
      rw [line_indexed ht hs, Parser.bind_ok hp, hfind]
      rfl
    · rw [if_neg h80] at hi
      by_cases h40 : first &&& 0x40 = 0x40
      · have ht := (headerOnly_iff first).mpr ⟨h80, h40⟩
        rw [if_pos h40] at hi
        rw [ht] at hc
        by_cases hs : first &&& 0x10 = 0
        · exact line_dynamic (.inr (.inl ⟨ht, hs⟩))
        obtain ⟨r, hw⟩ := exists_of_toOption hi
        obtain ⟨index, hp⟩ := PrefixInt.parser_of_written hw
        rw [line_nameReference _ ht hs, Parser.bind_ok hp]
        cases hf : findHeaderOnly index.toUInt8 with
        | none => rfl
        | some name =>
          rcases (hc hs i index r r hw hp).1 with hlt | hnone | hval
          · exact absurd hlt (Nat.not_lt.mpr hge)
          · rw [hf] at hnone
            cases hnone
          · exact Parser.bind_error hval
      · rw [if_neg h40] at hi
        cases hi

/-! ## To the condition -/

/-- A first byte is of one type alone. -/
theorem first_disjoint (b : UInt8) : ¬ (b &&& 0xc0 = 0xc0 ∧ b &&& 0xd0 = 0x50) ∧
    ¬ (b &&& 0xc0 = 0xc0 ∧ b &&& 0xe0 = 0x20) ∧ ¬ (b &&& 0xd0 = 0x50 ∧ b &&& 0xe0 = 0x20) := by
  rw [static_indexed_iff, static_name_iff, ← missing_iff]
  refine ⟨fun h => ?_, fun h => ?_, fun h => ?_⟩
  · cases h.1.1.symm.trans h.2.1
  · cases h.1.1.symm.trans h.2
  · cases h.1.1.symm.trans h.2

/-- A line is not empty. -/
theorem FieldLine.exists_cons {c : List UInt8} {header : Header} (h : FieldLine c header) :
    ∃ first tl, c = first :: tl := by
  cases h <;> exact ⟨_, _, rfl⟩

/-- What a line with a name by index denotes, by its bits. -/
theorem FieldLine.of_nameReference {first : UInt8} {tl : List UInt8} {header : Header}
    (h : FieldLine (first :: tl) header) (hf : first &&& 0xd0 = 0x50) : ∃ i mid,
      PrefixInt.written 4 (first :: tl) = .ok (i, mid) ∧
      Literal.written 7 mid = .ok (header.value, []) := by
  cases h with
  | indexed hb => exact absurd ⟨hb, hf⟩ (first_disjoint first).1
  | nameReference _ hi _ hv => exact ⟨_, _, hi, hv⟩
  | literal hb => exact absurd ⟨hf, hb⟩ (first_disjoint first).2.2

/-- What a line with a name and a value denotes, by its bits. -/
theorem FieldLine.of_literal {first : UInt8} {tl : List UInt8} {header : Header}
    (h : FieldLine (first :: tl) header) (hf : first &&& 0xe0 = 0x20) : ∃ mid,
      Literal.written 3 (first :: tl) = .ok (header.name, mid) ∧
      Literal.written 7 mid = .ok (header.value, []) := by
  cases h with
  | indexed hb => exact absurd ⟨hb, hf⟩ (first_disjoint first).2.1
  | nameReference hb => exact absurd ⟨hb, hf⟩ (first_disjoint first).2.2
  | literal _ hn hv _ => exact ⟨_, hn, hv⟩

/-- A line denoted at the front of the bytes that were read. -/
theorem exists_fieldLine {first : UInt8} {tl rest : List UInt8} {header : Header}
    (h : ∃ c, first :: tl = c ++ rest ∧ FieldLine c header) :
    ∃ tl', first :: tl = first :: tl' ++ rest ∧ FieldLine (first :: tl') header := by
  obtain ⟨c, hc, hf⟩ := h
  obtain ⟨b, tl', rfl⟩ := hf.exists_cons
  cases hc
  exact ⟨tl', rfl, hf⟩

/-- The converse of both: where headers read are headers denoted and indices outside the table are
rejected, the arithmetic does not show. -/
theorem readAsWritten_of_line {b : List UInt8}
    (hsound : ∀ header rest, line b = .ok (header, rest) →
      ∃ c, b = c ++ rest ∧ FieldLine c header)
    (hreject : ∀ i, writtenIndex b = some i → 99 ≤ i →
      line b = .error .qpackDecompressionFailed) : ReadAsWritten b := by
  cases b with
  | nil => trivial
  | cons first tl =>
    unfold ReadAsWritten
    dsimp only
    cases ht : findType first with
    | headerValue =>
      intro hs i index r r' hw hp
      by_cases hi : i < 99
      · exact .inl hi
      refine .inr (Option.eq_none_iff_forall_ne_some.mpr fun header hf => ?_)
      have hrej := hreject i (by
        rw [writtenIndex, if_pos ((headerValue_iff first).mp ht), hw]
        rfl) (Nat.not_lt.mp hi)
      rw [line_indexed ht hs, Parser.bind_ok hp, hf] at hrej
      cases hrej
    | headerOnly =>
      intro hs i index r r' hw hp
      obtain ⟨h80, h40⟩ := (headerOnly_iff first).mp ht
      have hline := line_nameReference tl ht hs
      rw [Parser.bind_ok hp] at hline
      constructor
      · by_cases hi : i < 99
        · exact .inl hi
        refine .inr ?_
        have hrej := hreject i (by
          rw [writtenIndex, if_neg h80, if_pos h40, hw]
          rfl) (Nat.not_lt.mp hi)
        rw [hrej] at hline
        cases hf : findHeaderOnly index.toUInt8 with
        | none => exact .inl rfl
        | some name =>
          rw [hf] at hline
          cases hv : Literal.parser 7 r' with
          | error e =>
            dsimp only at hline
            rw [Parser.bind_error hv] at hline
            cases hline
            exact .inr rfl
          | ok q =>
            obtain ⟨value, rest⟩ := q
            dsimp only at hline
            rw [Parser.bind_ok hv] at hline
            cases hline
      · intro hi value rest hv
        obtain ⟨e, he⟩ := exists_entry hi
        have hfind : findHeaderOnly index.toUInt8 = some e.name :=
          findHeaderOnly_eq_some.mpr ⟨e, by rw [index_narrow hw hp hi, he], rfl⟩
        rw [hfind] at hline
        dsimp only at hline
        rw [Parser.bind_ok hv] at hline
        obtain ⟨tl', hc, hf⟩ := exists_fieldLine (hsound _ _ hline)
        obtain ⟨n, mid, hn, hval⟩ := hf.of_nameReference ((static_name_iff first).mpr ⟨ht, hs⟩)
        have hn' := (PrefixInt.written_stable 4).append_ok hn rest
        obtain ⟨n', hrest⟩ := PrefixInt.written_of_read hp
        rw [← hc, hrest] at hn'
        cases hn'
        exact Literal.sizeExact_of_written hv ((Literal.written_stable 7).append_ok hval rest)
    | missing =>
      intro name r value rest hname hval hlow
      have hline := line_literal tl ht
      rw [Parser.bind_ok hname, Parser.bind_ok hval, if_pos hlow] at hline
      obtain ⟨tl', hc, hf⟩ := exists_fieldLine (hsound _ _ hline)
      obtain ⟨mid, hn, hv⟩ := hf.of_literal ((missing_iff first).mp ht)
      have hn' := (Literal.written_stable 3).append_ok hn rest
      rw [← hc] at hn'
      have hsize := Literal.sizeExact_of_written hname hn'
      have hmid := Literal.written_of_read hname hsize
      rw [hn'] at hmid
      cases hmid
      exact ⟨hsize, Literal.sizeExact_of_written hval ((Literal.written_stable 7).append_ok hv rest)⟩
    | unknown => trivial

/-! ## The decoder -/

/-- The bytes where the line begins, the block prefix behind it. -/
def Decoder.lineBytes (d : Decoder) (b : List UInt8) : List UInt8 :=
  if d.state = .blockPrefix then b.drop qpackPrefixEncodedSize else b

/-- What `decode` answers, from the line. -/
theorem Decoder.decodeBytes_eq_line (d : Decoder) (b : List UInt8) :
    (d.decodeBytes b).1 = (line (d.lineBytes b)).map Prod.fst ∧
      ∀ header rest, line (d.lineBytes b) = .ok (header, rest) → (d.decodeBytes b).2.2 = rest := by
  have hheader (d : Decoder) (b : List UInt8) :
      (d.decodeHeaderBytes b).1 = (line b).map Prod.fst ∧
        ∀ header rest, line b = .ok (header, rest) → (d.decodeHeaderBytes b).2.2 = rest := by
    unfold decodeHeaderBytes
    cases hl : line b with
    | error e => exact ⟨rfl, fun _ _ h => nomatch h⟩
    | ok q =>
      refine ⟨rfl, fun header rest h => ?_⟩
      cases h
      rfl
  unfold decodeBytes lineBytes
  cases d.state with
  | blockPrefix =>
    rw [if_pos rfl]
    dsimp only
    by_cases hshort : b.length < qpackPrefixEncodedSize
    · rw [if_pos hshort, List.drop_eq_nil_of_le (Nat.le_of_lt hshort)]
      exact ⟨rfl, fun _ _ h => nomatch h⟩
    · rw [if_neg hshort]
      exact hheader _ _
  | header =>
    rw [if_neg (show ¬ State.header = State.blockPrefix by decide)]
    exact hheader _ _

/-- The bytes a header was read from are the block prefix, if it was still to come, and the line. -/
theorem Decoder.lineBytes_split (d : Decoder) {b : List UInt8} {header : Header} {rest : List UInt8}
    (h : line (d.lineBytes b) = .ok (header, rest)) : ∃ blockPrefix,
      blockPrefix.length = (if d.state = .blockPrefix then qpackPrefixEncodedSize else 0) ∧
        b = blockPrefix ++ d.lineBytes b := by
  unfold lineBytes at h ⊢
  split at h
  · next hs =>
    refine ⟨b.take qpackPrefixEncodedSize, ?_, ?_⟩
    · rw [if_pos hs]
      refine List.length_take_of_le (Nat.not_lt.mp fun hshort => ?_)
      rw [List.drop_eq_nil_of_le (Nat.le_of_lt hshort)] at h
      cases h
    · rw [if_pos hs, List.take_append_drop]
  · next hs => exact ⟨[], by rw [if_neg hs]; rfl, by rw [if_neg hs]; rfl⟩

section Sound

variable {σ β : Type} [Storage β] [Sequence σ β]

/-- **When the decoder is sound.** For every decoder state and every input: the headers it yields
are the ones the lines it consumes denote, and an index of 99 or more is rejected, if and only if
the line at hand is read as it was written. -/
theorem decode_sound_iff (d : Decoder) (s : σ) :
    ((∀ header d' s', d.decode s = (.ok header, d', s') → ∃ blockPrefix c,
        blockPrefix.length = (if d.state = .blockPrefix then qpackPrefixEncodedSize else 0) ∧
        Sequence.bytes s = blockPrefix ++ c ++ Sequence.bytes s' ∧ FieldLine c header) ∧
      ∀ i, writtenIndex (d.lineBytes (Sequence.bytes s)) = some i → 99 ≤ i →
        (d.decode s).1 = .error .qpackDecompressionFailed) ↔
      ReadAsWritten (d.lineBytes (Sequence.bytes s)) := by
  have hbytes := d.decode_bytes s
  have hanswer : (d.decode s).1 = (d.decodeBytes (Sequence.bytes s)).1 := congrArg Prod.fst hbytes
  have hleft : Sequence.bytes (d.decode s).2.2 = (d.decodeBytes (Sequence.bytes s)).2.2 :=
    congrArg (fun r => r.2.2) hbytes
  obtain ⟨hfst, hrest⟩ := d.decodeBytes_eq_line (Sequence.bytes s)
  rw [hfst] at hanswer
  constructor
  · rintro ⟨hsound, hreject⟩
    refine readAsWritten_of_line (fun header rest hl => ?_) (fun i hi hge => ?_)
    · rw [hl] at hanswer
      rcases hd : d.decode s with ⟨r, d', s'⟩
      rw [hd] at hanswer hleft
      obtain rfl : r = .ok header := hanswer
      obtain ⟨p, c, hp, hb, hf⟩ := hsound header d' s' hd
      obtain ⟨p', hp', hb'⟩ := d.lineBytes_split hl
      refine ⟨c, ?_, hf⟩
      rw [← hrest header rest hl, ← hleft]
      rw [hb', List.append_assoc] at hb
      exact (List.append_inj hb (hp'.trans hp.symm)).2
    · have hrej := hreject i hi hge
      rw [hanswer] at hrej
      cases hl : line (d.lineBytes (Sequence.bytes s)) with
      | error e =>
        rw [hl] at hrej
        cases hrej
        rfl
      | ok q =>
        rw [hl] at hrej
        cases hrej
  · intro hc
    refine ⟨fun header d' s' hd => ?_, fun i hi hge => ?_⟩
    · rw [hd] at hanswer hleft
      cases hl : line (d.lineBytes (Sequence.bytes s)) with
      | error e =>
        rw [hl] at hanswer
        cases hanswer
      | ok q =>
        obtain ⟨header', rest⟩ := q
        rw [hl] at hanswer
        cases hanswer
        obtain ⟨p, hp, hb⟩ := d.lineBytes_split hl
        obtain ⟨c, hc', hf⟩ := fieldLine_of_line hc hl
        refine ⟨p, c, hp, ?_, hf⟩
        have hs' : Sequence.bytes s' = rest := hleft.trans (hrest _ rest hl)
        rw [List.append_assoc, hs', ← hc']
        exact hb
    · rw [hanswer, line_reject hc hi hge]
      rfl

end Sound

/-- Index 273, in five bytes with the block prefix, is read as index 17. -/
theorem index_273_read_as_get :
    (Decoder.decode {} (⟨[0x00, 0x00, 0xff, 0xd2, 0x01]⟩ : Buffer)).1 =
        .ok ⟨ascii ":method", ascii "GET"⟩ ∧
      writtenIndex [0xff, 0xd2, 0x01] = some 273 ∧
      ¬ ((∀ header d' s', Decoder.decode {} (⟨[0x00, 0x00, 0xff, 0xd2, 0x01]⟩ : Buffer) =
            (.ok header, d', s') → ∃ blockPrefix c, blockPrefix.length = 2 ∧
          [0x00, 0x00, 0xff, 0xd2, 0x01] = blockPrefix ++ c ++ s'.bytes ∧ FieldLine c header) ∧
        ∀ i, writtenIndex [0xff, 0xd2, 0x01] = some i → 99 ≤ i →
          (Decoder.decode {} (⟨[0x00, 0x00, 0xff, 0xd2, 0x01]⟩ : Buffer)).1 =
            .error .qpackDecompressionFailed) := by
  have hread : (Decoder.decode {} (⟨[0x00, 0x00, 0xff, 0xd2, 0x01]⟩ : Buffer)).1 =
      .ok ⟨ascii ":method", ascii "GET"⟩ := by decide
  have hindex : writtenIndex [0xff, 0xd2, 0x01] = some 273 := by decide
  refine ⟨hread, hindex, fun h => ?_⟩
  have hrej := h.2 273 hindex (by decide)
  rw [hread] at hrej
  cases hrej

end Bnl.Http3.Qpack
