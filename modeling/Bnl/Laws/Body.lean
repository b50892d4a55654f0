import Bnl.Codec.Body
import Bnl.Laws.Frame

/-!
# Laws of `body::decoder`

The decoder on byte lists, what it does on a DATA frame, and the assertion it makes.

**The laws** are `decode_bytes`, that on any sequence the decoder answers what `decodeBytes` does on its bytes;
`decodeDataBytes_append`, what becomes of a part when more bytes come; and `decodeBytes_lt`, that a part takes
something, by a `measure` under which a frame that is read counts for more than the payload behind it.

A part is what there is of the payload, so unlike a header it is not the same when it is asked for later: it is
longer, and what would have been the next part is in it. This is the one answer of the receiving side that more
bytes may change, and it is why what is compared further up is the bytes of the parts together.

The assertion behind `slice`, that a part uses up the payload or what is there, holds of every call
(`decodeBytes_exhausts`).
-/

namespace Bnl.Http3.Body

open Incremental Bnl.Base

namespace Decoder

/-- How much of a payload is handed out. -/
def bodyPartSize (d : Decoder) (b : List UInt8) : Nat :=
  if b.length < d.remaining.toNat then b.length else d.remaining.toNat

/-- The decoder that has handed out so much. -/
def advance (d : Decoder) (n : Nat) : Decoder :=
  { state := if d.remaining - UInt64.ofNat n = 0 then .frame else d.state
    remaining := d.remaining - UInt64.ofNat n }

/-- The case `data` of `decode`, on a byte list. -/
def decodeDataBytes (d : Decoder) (b : List UInt8) : Except Error Buffer × Decoder × List UInt8 :=
  if b = [] then (.error .incomplete, d, b)
  else
    (.ok ⟨b.take (d.bodyPartSize b)⟩, d.advance (d.bodyPartSize b), b.drop (d.bodyPartSize b))

/-- `decode` on a byte list. -/
def decodeBytes (d : Decoder) (b : List UInt8) : Except Error Buffer × Decoder × List UInt8 :=
  match d.state with
  | .frame =>
    match Frame.peekParser b with
    | .error error => (.error error, d, b)
    | .ok (type, _) =>
      if type ≠ .data then (.error .delegate, d, b)
      else
        match Frame.decodeBytes b with
        | (.error error, b) => (.error error, d, b)
        | (.ok frame, b) => decodeDataBytes { state := .data, remaining := frame.unionSize } b
  | .data => d.decodeDataBytes b

/-- The frame state is left where a DATA frame was peeked at and a frame decoded. The decoder may be
back in it at the end of the call; a part handed out tells. -/
theorem leaves_frame {d : Decoder} {b : List UInt8} (hd : d.state = .frame) :
    ((∃ part, (d.decodeBytes b).1 = .ok part) ∨ (d.decodeBytes b).2.1.state = .data) ↔
      (∃ rest, Frame.peekParser b = .ok (.data, rest)) ∧
        ∃ frame rest, Frame.decodeBytes b = (.ok frame, rest) := by
  have hstays {α : Type} {e : Error} {x : List UInt8} {q : Prop} (hq : ¬ q) :
      ((∃ part, ((.error e, d, x) : Except Error α × Decoder × List UInt8).1 = .ok part) ∨
        ((.error e, d, x) : Except Error α × Decoder × List UInt8).2.1.state = .data) ↔ q := by
    refine ⟨fun h => ?_, fun h => absurd h hq⟩
    rcases h with ⟨_, heq⟩ | hs
    · cases heq
    · exact absurd (hd.symm.trans hs) nofun
  unfold decodeBytes
  rw [hd]
  dsimp only
  match hp : Frame.peekParser b with
  | .error e => exact hstays fun h => nomatch h.1.choose_spec
  | .ok (type, rest) =>
    dsimp only
    by_cases ht : type = .data
    · subst ht
      rw [if_neg (not_not_intro rfl)]
      match hf : Frame.decodeBytes b with
      | (.error e, b') => exact hstays fun h => nomatch h.2.choose_spec.choose_spec
      | (.ok frame, b') =>
        refine ⟨fun _ => ⟨⟨rest, rfl⟩, frame, b', rfl⟩, fun _ => ?_⟩
        unfold decodeDataBytes
        dsimp only
        by_cases hb : b' = []
        · rw [if_pos hb]
          exact .inr rfl
        · rw [if_neg hb]
          exact .inl ⟨_, rfl⟩
    · rw [if_pos ht]
      refine hstays fun h => ?_
      obtain ⟨rest, heq⟩ := h.1
      cases heq
      exact absurd rfl ht

/-- No more than there is, and no more than is to come. -/
theorem bodyPartSize_le (d : Decoder) (b : List UInt8) :
    d.bodyPartSize b ≤ b.length ∧ d.bodyPartSize b ≤ d.remaining.toNat := by
  unfold bodyPartSize
  split <;> omega

/-- What is handed out is no longer to come. -/
theorem advance_remaining (d : Decoder) {n : Nat} (h : n ≤ d.remaining.toNat) :
    (d.advance n).remaining.toNat = d.remaining.toNat - n := by
  have hn : (UInt64.ofNat n).toNat = n :=
    UInt64.toNat_ofNat_of_lt' (Nat.lt_of_le_of_lt h d.remaining.toNat_lt)
  show (d.remaining - UInt64.ofNat n).toNat = _
  rw [UInt64.toNat_sub_of_le _ _ (UInt64.le_iff_toNat_le.mpr (hn.symm ▸ h)), hn]

/-- Where nothing is to come, a frame is next. -/
theorem advance_state (d : Decoder) {n : Nat} (h : n ≤ d.remaining.toNat) :
    (d.advance n).state = if d.remaining.toNat = n then .frame else d.state := by
  have hr := d.advance_remaining h
  show (if d.remaining - UInt64.ofNat n = 0 then State.frame else d.state) = _
  by_cases hn : d.remaining.toNat = n
  · have hzero : d.remaining - UInt64.ofNat n = 0 := by
      apply UInt64.toNat.inj
      exact hr.trans (Nat.sub_eq_zero_of_le (Nat.le_of_eq hn))
    rw [if_pos hn, if_pos hzero]
  · rw [if_neg hn, if_neg]
    intro h0
    have hzero : d.remaining.toNat - n = 0 := hr.symm.trans (congrArg UInt64.toNat h0)
    omega

/-- **The assertion behind `slice`**: a part that is handed out uses up the payload, or the bytes. -/
theorem decodeDataBytes_exhausts {d d' : Decoder} {b rest : List UInt8} {part : Buffer}
    (h : d.decodeDataBytes b = (.ok part, d', rest)) : rest = [] ∨ d'.remaining = 0 := by
  unfold decodeDataBytes at h
  split at h
  · cases h
  · cases h
    by_cases hlen : b.length < d.remaining.toNat
    · rw [bodyPartSize, if_pos hlen, List.drop_length]
      exact .inl rfl
    · refine .inr (UInt64.toNat.inj ?_)
      rw [advance_remaining _ (d.bodyPartSize_le b).2, bodyPartSize, if_neg hlen, Nat.sub_self]
      rfl

/-- A part handed out now comes out the same when more bytes follow, or together with the part that
would have been next. -/
theorem decodeDataBytes_append {d d' : Decoder} (hd : d.state = .data) {b rest : List UInt8}
    {part : Buffer} (h : d.decodeDataBytes b = (.ok part, d', rest)) (c : List UInt8) :
    d.decodeDataBytes (b ++ c) = (.ok part, d', rest ++ c) ∨
      c ≠ [] ∧ rest = [] ∧ d'.state = .data ∧ ∃ next d₂ rest₂,
        d'.decodeDataBytes c = (.ok next, d₂, rest₂) ∧
          d.decodeDataBytes (b ++ c) = (.ok ⟨part.bytes ++ next.bytes⟩, d₂, rest₂) := by
  unfold decodeDataBytes at h
  split at h
  · cases h
  next hb =>
  have hbc : b ++ c ≠ [] := fun hnil => hb (List.append_eq_nil_iff.mp hnil).1
  cases h
  by_cases hlen : b.length < d.remaining.toNat
  · have hsize : d.bodyPartSize b = b.length := if_pos hlen
    rw [hsize, List.drop_length, List.take_length]
    by_cases hc : c = []
    · subst hc
      refine .inl ?_
      rw [List.append_nil, decodeDataBytes, if_neg hb, hsize, List.drop_length, List.take_length,
        List.append_nil]
    · have hadvance := d.advance_remaining (Nat.le_of_lt hlen)
      have hstate : (d.advance b.length).state = .data := by
        rw [advance_state _ (Nat.le_of_lt hlen), if_neg (Nat.ne_of_gt hlen), hd]
      refine .inr ⟨hc, rfl, hstate, _, _, _, if_neg hc, ?_⟩
      have hsum : d.bodyPartSize (b ++ c) =
          b.length + (d.advance b.length).bodyPartSize c := by
        unfold bodyPartSize
        rw [hadvance, List.length_append]
        split <;> split <;> omega
      have htwice : d.advance (b.length + (d.advance b.length).bodyPartSize c) =
          (d.advance b.length).advance ((d.advance b.length).bodyPartSize c) := by
        have hle := ((d.advance b.length).bodyPartSize_le c).2
        have hle' := hle
        rw [hadvance] at hle'
        have hremaining : (d.advance (b.length + (d.advance b.length).bodyPartSize c)).remaining =
            ((d.advance b.length).advance ((d.advance b.length).bodyPartSize c)).remaining := by
          apply UInt64.toNat.inj
          rw [advance_remaining _ (by omega), advance_remaining _ hle, hadvance]
          omega
        have hstates : (d.advance (b.length + (d.advance b.length).bodyPartSize c)).state =
            ((d.advance b.length).advance ((d.advance b.length).bodyPartSize c)).state := by
          rw [advance_state _ (by omega), advance_state _ hle, hadvance, hstate, hd]
          refine if_congr ?_ rfl rfl
          omega
        exact Decoder.ext hstates hremaining
      rw [decodeDataBytes, if_neg hbc, hsum, htwice, List.take_append, List.drop_append,
        List.take_of_length_le (Nat.le_add_right _ _), List.drop_of_length_le (Nat.le_add_right _ _),
        Nat.add_sub_cancel_left]
      rfl
  · have hsize : d.bodyPartSize b = d.remaining.toNat := if_neg hlen
    have hsize' : d.bodyPartSize (b ++ c) = d.remaining.toNat := by
      refine if_neg ?_
      rw [List.length_append]
      omega
    refine .inl ?_
    rw [decodeDataBytes, if_neg hbc, hsize', hsize,
      List.take_append_of_le_length (Nat.not_lt.mp hlen),
      List.drop_append_of_le_length (Nat.not_lt.mp hlen)]

/-- What a decoder and its bytes have in front of them. A payload that is nowhere, size zero, still
makes a part when there are bytes behind it. -/
def measure (d : Decoder) (b : List UInt8) : Nat :=
  2 * b.length + if d.state = .data then 1 else 0

/-- A part leaves less in front of the decoder. -/
theorem decodeDataBytes_lt {d d' : Decoder} {b rest : List UInt8} {part : Buffer}
    (hd : d.state = .data) (h : d.decodeDataBytes b = (.ok part, d', rest)) :
    d'.measure rest < d.measure b := by
  unfold decodeDataBytes at h
  split at h
  · cases h
  · next hb =>
    have hpos := List.length_pos_of_ne_nil hb
    cases h
    rw [measure, measure, hd, if_pos rfl, List.length_drop]
    by_cases hr : d.remaining = 0
    · have hsize : d.bodyPartSize b = 0 := by
        rw [bodyPartSize, hr]
        exact if_neg (Nat.not_lt_zero _)
      have hframe : (d.advance 0).state = .frame := by
        rw [advance, hr]
        rfl
      rw [hsize, hframe, if_neg nofun]
      omega
    · have hsize : 0 < d.bodyPartSize b ∧ d.bodyPartSize b ≤ b.length := by
        have : 0 < d.remaining.toNat := Nat.pos_of_ne_zero fun h => hr (UInt64.toNat.inj h)
        unfold bodyPartSize
        split <;> omega
      split <;> omega

theorem decodeDataBytes_le {d : Decoder} {b : List UInt8} (hd : d.state = .data) :
    (d.decodeDataBytes b).2.1.measure (d.decodeDataBytes b).2.2 ≤ d.measure b := by
  match h : d.decodeDataBytes b with
  | (.ok part, d', rest) => exact Nat.le_of_lt (decodeDataBytes_lt hd h)
  | (.error e, d', rest) =>
    unfold decodeDataBytes at h
    split at h
    · cases h
      exact Nat.le_refl _
    · cases h

/-- A frame that was read leaves less, its payload included. -/
theorem measure_frame {d : Decoder} {b rest : List UInt8} {frame : Frame} (hd : d.state = .frame)
    (h : Frame.decodeBytes b = (.ok frame, rest)) (size : UInt64) :
    measure { state := .data, remaining := size } rest < d.measure b := by
  have hlt := Frame.decodeBytes_lt h
  rw [measure, measure, hd, if_pos rfl, if_neg nofun]
  omega

/-- A part of a payload makes the bytes less, or ends the payload. -/
theorem decodeBytes_lt {d d' : Decoder} {b rest : List UInt8} {part : Buffer}
    (h : d.decodeBytes b = (.ok part, d', rest)) : d'.measure rest < d.measure b := by
  unfold decodeBytes at h
  split at h
  · next hd =>
    split at h
    · cases h
    · split at h
      · cases h
      · split at h
        · cases h
        · next hf => exact Nat.lt_trans (decodeDataBytes_lt rfl h) (measure_frame hd hf _)
  · next hd => exact decodeDataBytes_lt hd h

/-- **The assertion of `decode`**, of every call that hands out a part. -/
theorem decodeBytes_exhausts {d d' : Decoder} {b rest : List UInt8} {part : Buffer}
    (h : d.decodeBytes b = (.ok part, d', rest)) : rest = [] ∨ d'.remaining = 0 := by
  unfold decodeBytes at h
  split at h
  · split at h
    · cases h
    · split at h
      · cases h
      · split at h
        · cases h
        · exact decodeDataBytes_exhausts h
  · exact decodeDataBytes_exhausts h

/-- No call leaves more, whatever it answers. -/
theorem decodeBytes_le (d : Decoder) (b : List UInt8) :
    (d.decodeBytes b).2.1.measure (d.decodeBytes b).2.2 ≤ d.measure b := by
  have hle := Frame.decodeBytes_le b
  unfold decodeBytes
  split
  · next hd =>
    split
    · exact Nat.le_refl _
    · split
      · exact Nat.le_refl _
      · split
        · next hf =>
          rw [hf] at hle
          exact Nat.add_le_add_right (Nat.mul_le_mul_left 2 hle) _
        · next hf =>
          exact Nat.le_trans (decodeDataBytes_le rfl) (Nat.le_of_lt (measure_frame hd hf _))
  · next hd => exact decodeDataBytes_le hd

section Bytes

variable {σ β : Type} [Storage β] [Sliceable σ β]

/-- The case `data`, on a sequence. -/
theorem decodeData_bytes (d : Decoder) (s : σ) :
    Sequence.onBytes (d.decodeData s) = d.decodeDataBytes (Sequence.bytes s) := by
  unfold decodeData decodeDataBytes
  by_cases hb : Sequence.bytes s = []
  · rw [if_pos (Sequence.empty_iff.mpr hb), if_pos hb]
    rfl
  · rw [if_neg (by rwa [Sequence.empty_iff]), if_neg hb, Sequence.size_eq]
    have hle : d.bodyPartSize (Sequence.bytes s) ≤ (Sequence.bytes s).length :=
      (d.bodyPartSize_le _).1
    obtain ⟨htake, hdrop⟩ := Sliceable.slice_eq (s := s) hle hb
    show Sequence.onBytes (Except.ok (Sliceable.slice s (d.bodyPartSize (Sequence.bytes s))).1,
      d.advance (d.bodyPartSize (Sequence.bytes s)),
      (Sliceable.slice s (d.bodyPartSize (Sequence.bytes s))).2) = _
    rw [Sequence.onBytes, hdrop]
    exact congrArg (fun x => (Except.ok x, _, _)) (congrArg Buffer.mk htake)

/-- **The decoder sees nothing of a sequence but its bytes.** -/
theorem decode_bytes (d : Decoder) (s : σ) :
    Sequence.onBytes (d.decode s) = d.decodeBytes (Sequence.bytes s) := by
  unfold decode decodeBytes
  cases d.state with
  | frame =>
    dsimp only
    rw [Frame.peek_eq]
    match Frame.peekParser (Sequence.bytes s) with
    | .error e => rfl
    | .ok (type, rest) =>
      show Sequence.onBytes (if type ≠ .data then _ else _) = if type ≠ .data then _ else _
      split
      · rfl
      · rw [← Frame.decode_bytes]
        match Frame.decode s with
        | (.error e, s') => rfl
        | (.ok frame, s') => exact decodeData_bytes _ _
  | data => exact decodeData_bytes d s

end Bytes

end Decoder

end Bnl.Http3.Body
