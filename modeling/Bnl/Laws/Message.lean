import Bnl.Laws.Body
import Bnl.Laws.Headers

/-!
# Messages on the wire

A message is one HEADERS frame and any number of DATA frames. `Ahead` says, of a decoder and of the bytes it has
still to see, that the message goes on there; it is what every call of a decoder keeps, whether the call has an
answer or is short. From it come the rules of the decoders: a call that sees more bytes says what a call that
sees fewer says.

**The laws** are two for each decoder. It goes on where it stopped: `Headers.Decoder.decodeBytes_resumes`, and
for bodies `decodeBytes_resumes` and `decodeBytes_append`, since a part may grow. And the message goes on behind
a call: `decodeBytes_ok`, `decodeBytes_error` and `decodeBytes_ahead`. Each is a case analysis on what has been
seen of the frame in front: a preamble that is whole, too little of one, or the inside of a block or a payload.

A size may be written in any of the forms a varint has, and a frame in front of the message may not be there:
`Ahead` is about the message alone, and a stream with frames of other types in it is not one. There the receiver
does more than its decoders, and other laws are about that.
-/

namespace Bnl.Http3

open Incremental Bnl.Base

/-! ## Frames -/

namespace Frame

/-- What a frame begins with: its type and the size of its payload, each in any encoding. -/
def Preamble (type : FrameType) (size : UInt64) (w : List UInt8) : Prop :=
  ∃ t s, w = t ++ s ∧ Varint.parser t = .ok (type.value, []) ∧ Varint.parser s = .ok (size, [])

/-- The wire of some DATA frames with these payloads. -/
inductive DataFrames : List (List UInt8) → List UInt8 → Prop where
  | nil : DataFrames [] []
  | cons {size : UInt64} {w payload rest : List UInt8} {payloads : List (List UInt8)} :
    Preamble .data size w → payload.length = size.toNat → DataFrames payloads rest →
    DataFrames (payload :: payloads) (w ++ (payload ++ rest))

/-- The wire of a HEADERS frame around a block, and of some DATA frames. -/
def MessageWire (block : List UInt8) (payloads : List (List UInt8)) (wire : List UInt8) : Prop :=
  ∃ size w rest, Preamble .headers size w ∧ block.length = size.toNat ∧
    DataFrames payloads rest ∧ wire = w ++ (block ++ rest)

/-- A known type is known. -/
theorem FrameType.ofValue_value (type : FrameType) : ofValue type.value = some type := by
  cases type <;> rfl

namespace Preamble

variable {type : FrameType} {size : UInt64} {w : List UInt8}

theorem peek_append (h : Preamble type size w) (r : List UInt8) :
    ∃ r', peekParser (w ++ r) = .ok (type, r') := by
  obtain ⟨v, s, rfl, hv, -⟩ := h
  rw [List.append_assoc]
  exact ⟨_, peekParser_of_known (Varint.parser_stable.append_ok hv (s ++ r)) type.ofValue_value⟩

/-- Too little of a preamble may show the type, and never another. -/
theorem peek_short (h : Preamble type size w) {b s : List UInt8} (hb : w = b ++ s) :
    (∃ r, peekParser b = .ok (type, r)) ∨ peekParser b = .error .incomplete := by
  obtain ⟨v, n, hw, hv, -⟩ := h
  rcases beginning_cases (hb.symm.trans hw) with ⟨r, rfl⟩ | ⟨s', hs', rfl⟩
  · exact .inl ⟨_, peekParser_of_known (Varint.parser_stable.append_ok hv r) type.ofValue_value⟩
  · exact .inr (peekParser_of_error (Varint.parser_stable.short_of_ok hv hs'))

/-- Of a frame that has no payload coded with it, the fixed part is all that is read. -/
theorem single_ok (h : Preamble type size w) (frame : Frame)
    (hframe : payload type size [] = .ok ((frame, 0), [])) :
    single w = .ok (some frame, []) := by
  obtain ⟨t, s, rfl, ht, hs⟩ := h
  have hbody : body type.value size [] = .ok (some frame, []) := by
    unfold body
    rw [type.ofValue_value]
    exact Parser.bind_ok (Parser.measure_ok hframe)
  refine (Parser.bind_ok (Varint.parser_stable.append_ok ht s)).trans ?_
  rw [List.nil_append]
  exact (Parser.bind_ok hs).trans hbody

/-- The frame is read whatever follows it. -/
theorem decode_append (h : Preamble type size w) (frame : Frame)
    (hframe : payload type size [] = .ok ((frame, 0), [])) (r : List UInt8) :
    decodeBytes (w ++ r) = (.ok frame, r) :=
  decodeBytes_some (single_stable.append_ok (h.single_ok frame hframe) r)

/-- Too little of a preamble is left as it is. -/
theorem decode_short (h : Preamble type size w) (frame : Frame)
    (hframe : payload type size [] = .ok ((frame, 0), [])) {b s : List UInt8} (hb : w = b ++ s)
    (hs : s ≠ []) : decodeBytes b = (.error .incomplete, b) :=
  decodeBytes_error (single_stable.short_of_ok (hb ▸ h.single_ok frame hframe) hs)

theorem ne_nil (h : Preamble type size w) : w ≠ [] := by
  obtain ⟨v, s, rfl, hv, -⟩ := h
  intro hnil
  rw [(List.append_eq_nil_iff.mp hnil).1] at hv
  cases hv

end Preamble

end Frame

/-! ## HEADERS frames -/

namespace Headers.Decoder

open Bnl.Http3.Frame

/-- The message goes on here, so much of a block of this size counted: with the rest of the block, or
with anything once too much was counted. -/
def BlockAhead (size count : Nat) (w : List UInt8) : Prop :=
  size < count ∨ ∃ block payloads rest, w = block ++ rest ∧ count + block.length = size ∧
    DataFrames payloads rest

/-- The message goes on here, with its HEADERS frame or in the block. -/
def Ahead (d : Decoder) (w : List UInt8) : Prop :=
  match d.state with
  | .frame => d.qpack.count = 0 ∧ ∃ block payloads, MessageWire block payloads w
  | .qpack => BlockAhead d.headersSize.toNat d.qpack.count w
  | .fin => False

/-- Bytes of the block that are used up are counted. -/
theorem BlockAhead.drop {size count : Nat} {used w : List UInt8}
    (h : BlockAhead size count (used ++ w)) : BlockAhead size (count + used.length) w := by
  rcases h with hover | ⟨block, payloads, rest, hw, hsize, hrest⟩
  · exact .inl (Nat.lt_add_right _ hover)
  · rcases beginning_cases hw with ⟨r, rfl⟩ | ⟨s, -, rfl⟩
    · cases r with
      | nil =>
        rw [List.append_nil] at hw ⊢
        exact .inr ⟨[], payloads, rest, List.append_cancel_left hw, hsize, hrest⟩
      | cons t r =>
        refine .inl ?_
        simp only [List.length_append, List.length_cons]
        omega
    · rw [List.append_assoc] at hw
      refine .inr ⟨s, payloads, rest, List.append_cancel_left hw, ?_, hrest⟩
      rw [← hsize, List.length_append, Nat.add_assoc]

/-- Where all of the block was counted, DATA frames are next. -/
theorem BlockAhead.done {size : Nat} {w : List UInt8} (h : BlockAhead size size w) :
    ∃ payloads, DataFrames payloads w := by
  rcases h with hover | ⟨block, payloads, rest, hw, hsize, hrest⟩
  · exact absurd hover (Nat.lt_irrefl _)
  · obtain rfl : block = [] := List.length_eq_zero_iff.mp (Nat.add_eq_left.mp hsize)
    exact ⟨payloads, hw ▸ hrest⟩

/-- A HEADERS frame begins: on to its block. -/
theorem decodeBytes_preamble {d : Decoder} (hd : d.state = .frame) {size : UInt64}
    {w : List UInt8} (hw : Preamble .headers size w) (r : List UInt8) :
    d.decodeBytes (w ++ r) =
      if size = 0 then (.error .malformedFrame, { d with state := .qpack, headersSize := size }, r)
      else { d with state := .qpack, headersSize := size }.decodeQpackBytes r := by
  obtain ⟨r', hpeek⟩ := hw.peek_append r
  unfold decodeBytes
  rw [hd, hpeek]
  dsimp only
  rw [if_neg (not_not_intro rfl), hw.decode_append (.headers size) rfl r]
  rfl

/-- Too little of a preamble is left as it is. -/
theorem decodeBytes_short {d : Decoder} (hd : d.state = .frame) {size : UInt64}
    {w b s : List UInt8} (hw : Preamble .headers size w) (hb : w = b ++ s) (hs : s ≠ []) :
    d.decodeBytes b = (.error .incomplete, d, b) := by
  unfold decodeBytes
  rw [hd]
  dsimp only
  rcases hw.peek_short hb with ⟨r, hpeek⟩ | hpeek
  · rw [hpeek]
    dsimp only
    rw [if_neg (not_not_intro rfl), hw.decode_short (.headers size) rfl hb hs]
  · rw [hpeek]

/-- In the block the decoder goes on where it stopped. -/
theorem decodeQpackBytes_resumes (d : Decoder) (b c : List UInt8) :
    Resumes .incomplete decodeQpackBytes d b c := by
  have hres := d.qpack.decodeBytes_resumes b c
  constructor
  · intro header d' rest h
    unfold decodeQpackBytes at h ⊢
    match hq : d.qpack.decodeBytes b with
    | (.error e, q, r) =>
      rw [hq] at h
      cases h
    | (.ok header', q, r) =>
      rw [hq] at h
      rw [hres.ok hq]
      dsimp only at h ⊢
      split at h
      · cases h
      · next hcount =>
        cases h
        rw [if_neg hcount]
  · intro d' rest h
    unfold decodeQpackBytes at h
    match hq : d.qpack.decodeBytes b with
    | (.error e, q, r) =>
      rw [hq] at h
      cases h
      unfold decodeQpackBytes
      rw [hres.short hq]
    | (.ok header', q, r) =>
      rw [hq] at h
      dsimp only at h
      split at h <;> cases h
  · intro e d' rest h hne
    unfold decodeQpackBytes at h ⊢
    match hq : d.qpack.decodeBytes b with
    | (.error e', q, r) =>
      rw [hq] at h
      cases h
      have he := hres.error hq hne
      rcases hlong : d.qpack.decodeBytes (b ++ c) with ⟨r', q', rest'⟩
      rw [hlong] at he
      obtain rfl : r' = .error e := he
      rfl
    | (.ok header', q, r) =>
      rw [hq] at h
      rw [hres.ok hq]
      dsimp only at h ⊢
      split at h
      · next hcount =>
        cases h
        rw [if_pos hcount]
      · cases h

/-- Behind the frame `decode` is the case `qpack`. -/
theorem decodeBytes_qpack {d : Decoder} (hd : d.state = .qpack) (b : List UInt8) :
    d.decodeBytes b = d.decodeQpackBytes b := by
  unfold decodeBytes
  rw [hd]

/-- What the block decoder leaves in its state and in the bytes. -/
theorem decodeQpackBytes_eq {d d' : Decoder} {b rest : List UInt8} {r : Except Error Header}
    (h : d.decodeQpackBytes b = (r, d', rest)) : d'.headersSize = d.headersSize ∧
      (∃ used, b = used ++ rest ∧ d'.qpack.count = d.qpack.count + used.length) ∧
      ((∃ e, r = .error e ∧ e ≠ .delegate ∧ d'.state = d.state) ∨
        (∃ header, r = .ok header ∧ d'.qpack.count ≤ d.headersSize.toNat ∧
          d'.state = if d'.qpack.count = d.headersSize.toNat then .fin else d.state)) := by
  unfold decodeQpackBytes at h
  match hq : d.qpack.decodeBytes b with
  | (.error e, q, r) =>
    rw [hq] at h
    cases h
    refine ⟨rfl, Qpack.Decoder.decodeBytes_count hq, .inl ⟨e, rfl, ?_, rfl⟩⟩
    rcases Qpack.Decoder.decodeBytes_failsWith hq with rfl | rfl | rfl <;> exact nofun
  | (.ok header, q, r) =>
    rw [hq] at h
    dsimp only at h
    split at h
    · cases h
      exact ⟨rfl, Qpack.Decoder.decodeBytes_count hq, .inl ⟨_, rfl, nofun, rfl⟩⟩
    · next hcount =>
      cases h
      exact ⟨rfl, Qpack.Decoder.decodeBytes_count hq, .inr ⟨header, rfl, Nat.not_lt.mp hcount, rfl⟩⟩

section Ahead

variable {d d' : Decoder} {b c x rest : List UInt8}

/-- The block that follows a preamble. -/
theorem ahead_block {d : Decoder} {size : UInt64} {block w : List UInt8}
    {payloads : List (List UInt8)} (hq : d.qpack.count = 0) (hblock : block.length = size.toNat)
    (hrest : DataFrames payloads w) :
    ({ d with state := .qpack, headersSize := size } : Decoder).Ahead (block ++ w) := by
  refine .inr ⟨block, payloads, w, rfl, ?_, hrest⟩
  dsimp only
  rw [hq, Nat.zero_add, hblock]

/-- A beginning of a message holds the preamble of the HEADERS frame, or too little of it. -/
theorem ahead_frame_cases (hd : d.state = .frame) (h : d.Ahead (b ++ x)) :
    ∃ size w, Preamble .headers size w ∧
      ((∃ r, b = w ++ r ∧
        ({ d with state := .qpack, headersSize := size } : Decoder).Ahead (r ++ x)) ∨
      ∃ s, s ≠ [] ∧ w = b ++ s) := by
  unfold Ahead at h
  rw [hd] at h
  obtain ⟨hq, block, payloads, size, w, rest, hw, hblock, hrest, heq⟩ := h
  refine ⟨size, w, hw, ?_⟩
  rcases beginning_cases heq with ⟨r, rfl⟩ | hshort
  · rw [List.append_assoc] at heq
    refine .inl ⟨r, rfl, ?_⟩
    rw [List.append_cancel_left heq]
    exact ahead_block hq hblock hrest
  · exact .inr hshort

/-- **The decoder of HEADERS frames goes on where it stopped.** -/
theorem decodeBytes_resumes (h : d.Ahead (b ++ x)) (c : List UInt8) :
    Resumes .incomplete decodeBytes d b c := by
  have hblock {d : Decoder} (hd : d.state = .qpack) (b : List UInt8) :
      Resumes .incomplete decodeBytes d b c := by
    have hres := d.decodeQpackBytes_resumes b c
    constructor
    · intro header d' rest h
      rw [decodeBytes_qpack hd] at h ⊢
      exact hres.ok h
    · intro d' rest h
      rw [decodeBytes_qpack hd] at h ⊢
      obtain ⟨-, -, ⟨e, -, -, hs⟩ | ⟨header, heq, -⟩⟩ := decodeQpackBytes_eq h
      · rw [hres.short h, decodeBytes_qpack (hs.trans hd)]
      · cases heq
    · intro e d' rest h hne
      rw [decodeBytes_qpack hd] at h ⊢
      exact hres.error h hne
  cases hd : d.state with
  | qpack => exact hblock hd b
  | fin =>
    unfold Ahead at h
    rw [hd] at h
    exact h.elim
  | frame =>
    obtain ⟨size, w, hw, ⟨r, rfl, -⟩ | ⟨s, hs, rfl⟩⟩ := ahead_frame_cases hd h
    · have hpre := decodeBytes_preamble hd hw
      have hres := hblock (d := { d with state := .qpack, headersSize := size }) rfl r
      constructor
      · intro header d' rest h
        rw [hpre] at h
        rw [List.append_assoc, hpre]
        split at h
        · cases h
        · next hsize => exact (if_neg hsize).trans (hres.ok h)
      · intro d' rest h
        rw [hpre] at h
        rw [List.append_assoc, hpre]
        split at h
        · cases h
        · next hsize => exact (if_neg hsize).trans (hres.short h)
      · intro e d' rest h hne
        rw [hpre] at h
        rw [List.append_assoc, hpre]
        split at h
        · next hsize =>
          cases h
          rw [if_pos hsize]
        · next hsize =>
          rw [if_neg hsize]
          exact hres.error h hne
    · have hshort := decodeBytes_short hd hw rfl hs
      constructor
      · intro header d' rest h
        rw [hshort] at h
        cases h
      · intro d' rest h
        rw [hshort] at h
        cases h
        rfl
      · intro e d' rest h hne
        rw [hshort] at h
        cases h
        exact absurd rfl hne

/-- What a call leaves ahead of a decoder in the block. -/
theorem decodeQpackBytes_ahead (hd : d.state = .qpack) (h : d.Ahead (b ++ x))
    {r : Except Error Header} (hr : d.decodeQpackBytes b = (r, d', rest)) :
    BlockAhead d'.headersSize.toNat d'.qpack.count (rest ++ x) := by
  obtain ⟨hsize, ⟨used, rfl, hcount⟩, -⟩ := decodeQpackBytes_eq hr
  unfold Ahead at h
  rw [hd, List.append_assoc] at h
  rw [hsize, hcount]
  exact h.drop

/-- A call that fails is short, and the message goes on, or it rejects the message. -/
theorem decodeBytes_error (h : d.Ahead (b ++ x)) {e : Error}
    (hr : d.decodeBytes b = (.error e, d', rest)) :
    e ≠ .delegate ∧ (e = .incomplete → d'.Ahead (rest ++ x)) := by
  have hblock {d : Decoder} {b : List UInt8} (hd : d.state = .qpack) (h : d.Ahead (b ++ x))
      (hr : d.decodeQpackBytes b = (.error e, d', rest)) :
      e ≠ .delegate ∧ (e = .incomplete → d'.Ahead (rest ++ x)) := by
    have hahead := decodeQpackBytes_ahead hd h hr
    obtain ⟨-, -, ⟨e', heq, hne, hs⟩ | ⟨header, heq, -⟩⟩ := decodeQpackBytes_eq hr
    · cases heq
      refine ⟨hne, fun _ => ?_⟩
      unfold Ahead
      rw [hs, hd]
      exact hahead
    · cases heq
  cases hd : d.state with
  | qpack =>
    rw [decodeBytes_qpack hd] at hr
    exact hblock hd h hr
  | fin =>
    unfold Ahead at h
    rw [hd] at h
    exact h.elim
  | frame =>
    obtain ⟨size, w, hw, ⟨r, rfl, hahead⟩ | ⟨s, hs, rfl⟩⟩ := ahead_frame_cases hd h
    · rw [decodeBytes_preamble hd hw] at hr
      split at hr
      · cases hr
        exact ⟨nofun, nofun⟩
      · exact hblock rfl hahead hr
    · rw [decodeBytes_short hd hw rfl hs] at hr
      cases hr
      exact ⟨nofun, fun _ => h⟩

/-- Behind a header the message goes on with the block, or with the DATA frames. -/
theorem decodeBytes_ok (h : d.Ahead (b ++ x)) {header : Header}
    (hr : d.decodeBytes b = (.ok header, d', rest)) :
    (d'.state = .fin ∧ ∃ payloads, DataFrames payloads (rest ++ x)) ∨
      (d'.state = .qpack ∧ d'.Ahead (rest ++ x)) := by
  have hblock {d : Decoder} {b : List UInt8} (hd : d.state = .qpack) (h : d.Ahead (b ++ x))
      (hr : d.decodeQpackBytes b = (.ok header, d', rest)) :
      (d'.state = .fin ∧ ∃ payloads, DataFrames payloads (rest ++ x)) ∨
        (d'.state = .qpack ∧ d'.Ahead (rest ++ x)) := by
    have hahead := decodeQpackBytes_ahead hd h hr
    obtain ⟨hsize, -, ⟨e, heq, -⟩ | ⟨header', -, -, hs⟩⟩ := decodeQpackBytes_eq hr
    · cases heq
    · by_cases hcount : d'.qpack.count = d.headersSize.toNat
      · rw [if_pos hcount] at hs
        rw [hsize, hcount] at hahead
        exact .inl ⟨hs, hahead.done⟩
      · rw [if_neg hcount, hd] at hs
        refine .inr ⟨hs, ?_⟩
        unfold Ahead
        rw [hs]
        exact hahead
  cases hd : d.state with
  | qpack =>
    rw [decodeBytes_qpack hd] at hr
    exact hblock hd h hr
  | fin =>
    unfold Ahead at h
    rw [hd] at h
    exact h.elim
  | frame =>
    obtain ⟨size, w, hw, ⟨r, rfl, hahead⟩ | ⟨s, hs, rfl⟩⟩ := ahead_frame_cases hd h
    · rw [decodeBytes_preamble hd hw] at hr
      split at hr
      · cases hr
      · exact hblock rfl hahead hr
    · rw [decodeBytes_short hd hw rfl hs] at hr
      cases hr

end Ahead

end Headers.Decoder

/-! ## DATA frames -/

namespace Body.Decoder

open Bnl.Http3.Frame

/-- The message goes on here, with DATA frames or in a payload. -/
def Ahead (d : Decoder) (w : List UInt8) : Prop :=
  match d.state with
  | .frame => ∃ payloads, DataFrames payloads w
  | .data => ∃ payload payloads rest, w = payload ++ rest ∧
      payload.length = d.remaining.toNat ∧ DataFrames payloads rest

/-- A DATA frame begins: on to its payload. -/
theorem decodeBytes_preamble {d : Decoder} (hd : d.state = .frame) {size : UInt64}
    {w : List UInt8} (hw : Preamble .data size w) (r : List UInt8) :
    d.decodeBytes (w ++ r) = decodeDataBytes { state := .data, remaining := size } r := by
  obtain ⟨r', hpeek⟩ := hw.peek_append r
  unfold decodeBytes
  rw [hd, hpeek]
  dsimp only
  rw [if_neg (not_not_intro rfl), hw.decode_append (.data size) rfl r]
  rfl

/-- Too little of a preamble is left as it is. -/
theorem decodeBytes_short {d : Decoder} (hd : d.state = .frame) {size : UInt64}
    {w b s : List UInt8} (hw : Preamble .data size w) (hb : w = b ++ s) (hs : s ≠ []) :
    d.decodeBytes b = (.error .incomplete, d, b) := by
  unfold decodeBytes
  rw [hd]
  dsimp only
  rcases hw.peek_short hb with ⟨r, hpeek⟩ | hpeek
  · rw [hpeek]
    dsimp only
    rw [if_neg (not_not_intro rfl), hw.decode_short (.data size) rfl hb hs]
  · rw [hpeek]

theorem decodeBytes_nil {d : Decoder} (hd : d.state = .frame) :
    d.decodeBytes [] = (.error .incomplete, d, []) := by
  have hpeek : peekParser [] = .error .incomplete := peekParser_of_error Varint.parser_nil
  unfold decodeBytes
  rw [hd, hpeek]

/-- In a payload `decode` is the case `data`. -/
theorem decodeBytes_data {d : Decoder} (hd : d.state = .data) (b : List UInt8) :
    d.decodeBytes b = d.decodeDataBytes b := by
  unfold decodeBytes
  rw [hd]

section Ahead

variable {d d' : Decoder} {b c x rest : List UInt8}

/-- A beginning of the DATA frames holds nothing, a preamble, or too little of one. -/
theorem ahead_frame_cases (hd : d.state = .frame) (h : d.Ahead (b ++ x)) :
    b = [] ∨ ∃ size w, Preamble .data size w ∧
      ((∃ r, b = w ++ r ∧ ({ state := .data, remaining := size } : Decoder).Ahead (r ++ x)) ∨
        ∃ s, s ≠ [] ∧ w = b ++ s) := by
  unfold Ahead at h
  rw [hd] at h
  obtain ⟨payloads, h⟩ := h
  generalize hw : b ++ x = wire at h
  cases h with
  | nil => exact .inl (List.append_eq_nil_iff.mp hw).1
  | cons hpre hlen hrest =>
    refine .inr ⟨_, _, hpre, ?_⟩
    rcases beginning_cases hw with ⟨r, rfl⟩ | hshort
    · rw [List.append_assoc] at hw
      exact .inl ⟨r, rfl, _, _, _, List.append_cancel_left hw, hlen, hrest⟩
    · exact .inr hshort

/-- The message goes on behind a part of a payload. -/
theorem decodeDataBytes_ahead (hd : d.state = .data) (h : d.Ahead (b ++ x))
    {r : Except Error Buffer} (hr : d.decodeDataBytes b = (r, d', rest)) :
    d'.Ahead (rest ++ x) ∧ ∀ e, r = .error e → e = .incomplete := by
  unfold decodeDataBytes at hr
  split at hr
  · next hb =>
    cases hr
    exact ⟨h, fun e he => (Except.error.inj he).symm⟩
  · cases hr
    refine ⟨?_, nofun⟩
    unfold Ahead at h
    rw [hd] at h
    obtain ⟨payload, payloads, rest, hw, hlen, hrest⟩ := h
    have hle := d.bodyPartSize_le b
    have hdrop : b.drop (d.bodyPartSize b) ++ x =
        payload.drop (d.bodyPartSize b) ++ rest := by
      rw [← List.drop_append_of_le_length hle.1, hw,
        List.drop_append_of_le_length (hlen ▸ hle.2)]
    unfold Ahead
    rw [hdrop, advance_state _ hle.2]
    by_cases hn : d.remaining.toNat = d.bodyPartSize b
    · rw [if_pos hn]
      refine ⟨payloads, ?_⟩
      rwa [List.drop_of_length_le (Nat.le_of_eq (hlen.trans hn)), List.nil_append]
    · rw [if_neg hn, hd]
      refine ⟨_, payloads, rest, rfl, ?_, hrest⟩
      rw [List.length_drop, hlen, advance_remaining _ hle.2]

/-- **The message goes on behind a call**, and a call that fails is short. -/
theorem decodeBytes_ahead (h : d.Ahead (b ++ x)) {r : Except Error Buffer}
    (hr : d.decodeBytes b = (r, d', rest)) :
    d'.Ahead (rest ++ x) ∧ ∀ e, r = .error e → e = .incomplete := by
  cases hd : d.state with
  | data =>
    rw [decodeBytes_data hd] at hr
    exact decodeDataBytes_ahead hd h hr
  | frame =>
    rcases ahead_frame_cases hd h with rfl | ⟨size, w, hw, ⟨r, rfl, hahead⟩ | ⟨s, hs, rfl⟩⟩
    · rw [decodeBytes_nil hd] at hr
      cases hr
      exact ⟨h, fun e he => (Except.error.inj he).symm⟩
    · rw [decodeBytes_preamble hd hw] at hr
      exact decodeDataBytes_ahead rfl hahead hr
    · rw [decodeBytes_short hd hw rfl hs] at hr
      cases hr
      exact ⟨h, fun e he => (Except.error.inj he).symm⟩

/-- Where a call is short the next goes on. -/
theorem decodeBytes_resumes (h : d.Ahead (b ++ x))
    (hr : d.decodeBytes b = (.error .incomplete, d', rest)) (c : List UInt8) :
    d.decodeBytes (b ++ c) = d'.decodeBytes (rest ++ c) := by
  have hdata {d : Decoder} {b : List UInt8}
      (hr : d.decodeDataBytes b = (.error .incomplete, d', rest)) : b = [] ∧ rest = [] ∧ d' = d := by
    unfold decodeDataBytes at hr
    split at hr
    · next hb =>
      cases hr
      exact ⟨hb, hb, rfl⟩
    · cases hr
  cases hd : d.state with
  | data =>
    rw [decodeBytes_data hd] at hr
    obtain ⟨rfl, rfl, rfl⟩ := hdata hr
    rfl
  | frame =>
    rcases ahead_frame_cases hd h with rfl | ⟨size, w, hw, ⟨r, rfl, hahead⟩ | ⟨s, hs, rfl⟩⟩
    · rw [decodeBytes_nil hd] at hr
      cases hr
      rfl
    · rw [decodeBytes_preamble hd hw] at hr
      obtain ⟨rfl, rfl, rfl⟩ := hdata hr
      rw [List.append_nil, decodeBytes_preamble hd hw, decodeBytes_data rfl]
      rfl
    · rw [decodeBytes_short hd hw rfl hs] at hr
      cases hr
      rfl

/-- A part comes out the same when more bytes follow, or together with the next part. -/
theorem decodeBytes_append (h : d.Ahead (b ++ x)) {part : Buffer}
    (hr : d.decodeBytes b = (.ok part, d', rest)) (c : List UInt8) :
    d.decodeBytes (b ++ c) = (.ok part, d', rest ++ c) ∨
      c ≠ [] ∧ rest = [] ∧ ∃ next d₂ rest₂, d'.decodeBytes c = (.ok next, d₂, rest₂) ∧
        d.decodeBytes (b ++ c) = (.ok ⟨part.bytes ++ next.bytes⟩, d₂, rest₂) := by
  have hdata {d : Decoder} {b : List UInt8} (hd : d.state = .data)
      (hr : d.decodeDataBytes b = (.ok part, d', rest)) :
      d.decodeDataBytes (b ++ c) = (.ok part, d', rest ++ c) ∨
        c ≠ [] ∧ rest = [] ∧ ∃ next d₂ rest₂, d'.decodeBytes c = (.ok next, d₂, rest₂) ∧
          d.decodeDataBytes (b ++ c) = (.ok ⟨part.bytes ++ next.bytes⟩, d₂, rest₂) := by
    rcases decodeDataBytes_append hd hr c with hsame | ⟨hc, hrest, hstate, next, d₂, rest₂, hn, hj⟩
    · exact .inl hsame
    · exact .inr ⟨hc, hrest, next, d₂, rest₂, (decodeBytes_data hstate c).trans hn, hj⟩
  cases hd : d.state with
  | data =>
    rw [decodeBytes_data hd] at hr ⊢
    exact hdata hd hr
  | frame =>
    rcases ahead_frame_cases hd h with rfl | ⟨size, w, hw, ⟨r, rfl, hahead⟩ | ⟨s, hs, rfl⟩⟩
    · rw [decodeBytes_nil hd] at hr
      cases hr
    · rw [decodeBytes_preamble hd hw] at hr
      rw [List.append_assoc, decodeBytes_preamble hd hw]
      exact hdata rfl hr
    · rw [decodeBytes_short hd hw rfl hs] at hr
      cases hr

end Ahead

end Body.Decoder

end Bnl.Http3
