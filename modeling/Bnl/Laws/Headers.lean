import Bnl.Codec.Headers
import Bnl.Laws.Frame
import Bnl.Laws.Qpack

/-!
# Laws of `headers::decoder`

The decoder on byte lists, and what it does on a HEADERS frame.

**The laws** are `decode_bytes`, that on any sequence the decoder answers what `decodeBytes` does on its bytes,
and `decodeBytes_lt`, that a header takes something. When the decoder leaves its first state is `leaves_frame`:
it goes by the type it peeks at, and reads the frame it decodes.

What it reads is not bounded by the payload here. That the headers it hands out are inside it all the same is
the subject of `Payload`.
-/

namespace Bnl.Http3.Headers

open Incremental Bnl.Base

namespace Decoder

/-- The case `qpack` of `decode`, on a byte list. -/
def decodeQpackBytes (d : Decoder) (b : List UInt8) :
    Except Error Header × Decoder × List UInt8 :=
  match d.qpack.decodeBytes b with
  | (.error error, qpack, b) => (.error error, { d with qpack }, b)
  | (.ok header, qpack, b) =>
    let d := { d with qpack }
    if d.headersSize.toNat < qpack.count then (.error .malformedFrame, d, b)
    else
      (.ok header,
        { d with state := if qpack.count = d.headersSize.toNat then .fin else d.state }, b)

/-- `decode` on a byte list. -/
def decodeBytes (d : Decoder) (b : List UInt8) : Except Error Header × Decoder × List UInt8 :=
  match d.state with
  | .frame =>
    match Frame.peekParser b with
    | .error error => (.error error, d, b)
    | .ok (type, _) =>
      if type ≠ .headers then (.error .delegate, d, b)
      else
        match Frame.decodeBytes b with
        | (.error error, b) => (.error error, d, b)
        | (.ok frame, b) =>
          let d := { d with state := .qpack, headersSize := frame.unionSize }
          if d.headersSize = 0 then (.error .malformedFrame, d, b) else d.decodeQpackBytes b
  | .qpack => d.decodeQpackBytes b
  | .fin => (.error .internal, d, b)

/-- Behind the frame it stays behind the frame. -/
theorem decodeQpackBytes_state {d : Decoder} {b : List UInt8} (h : d.state ≠ .frame) :
    (d.decodeQpackBytes b).2.1.state ≠ .frame := by
  unfold decodeQpackBytes
  match d.qpack.decodeBytes b with
  | (.error e, q, b') => exact h
  | (.ok header, q, b') =>
    show (if d.headersSize.toNat < q.count then _ else _ :
      Except Error Header × Decoder × List UInt8).2.1.state ≠ .frame
    split
    · exact h
    · show (if q.count = d.headersSize.toNat then State.fin else d.state) ≠ .frame
      split
      · exact nofun
      · exact h

/-- The frame state is left for good where a HEADERS frame was peeked at and a frame decoded. -/
theorem leaves_frame {d : Decoder} {b : List UInt8} (hd : d.state = .frame) :
    (d.decodeBytes b).2.1.state ≠ .frame ↔
      (∃ rest, Frame.peekParser b = .ok (.headers, rest)) ∧
        ∃ frame rest, Frame.decodeBytes b = (.ok frame, rest) := by
  unfold decodeBytes
  rw [hd]
  dsimp only
  match hp : Frame.peekParser b with
  | .error e => exact ⟨fun h => absurd hd h, fun h => nomatch h.1.choose_spec⟩
  | .ok (type, rest) =>
    dsimp only
    by_cases ht : type = .headers
    · subst ht
      rw [if_neg (not_not_intro rfl)]
      match hf : Frame.decodeBytes b with
      | (.error e, b') =>
        refine ⟨fun h => absurd hd h, fun h => ?_⟩
        obtain ⟨frame, rest, heq⟩ := h.2
        cases heq
      | (.ok frame, b') =>
        refine ⟨fun _ => ⟨⟨rest, rfl⟩, frame, b', rfl⟩, fun _ => ?_⟩
        dsimp only
        split
        · exact nofun
        · exact decodeQpackBytes_state nofun
    · rw [if_pos ht]
      refine ⟨fun h => absurd hd h, fun h => ?_⟩
      obtain ⟨rest, heq⟩ := h.1
      cases heq
      exact absurd rfl ht

theorem decodeQpackBytes_lt {d d' : Decoder} {b rest : List UInt8} {header : Header}
    (h : d.decodeQpackBytes b = (.ok header, d', rest)) : rest.length < b.length := by
  unfold decodeQpackBytes at h
  split at h
  · cases h
  · next hq =>
    dsimp only at h
    split at h
    · cases h
    · cases h
      exact Qpack.Decoder.decodeBytes_lt hq

theorem decodeQpackBytes_le (d : Decoder) (b : List UInt8) :
    (d.decodeQpackBytes b).2.2.length ≤ b.length := by
  have hle := d.qpack.decodeBytes_le b
  unfold decodeQpackBytes
  split
  · next hq => rwa [hq] at hle
  · next hq =>
    rw [hq] at hle
    dsimp only
    split
    · exact hle
    · exact hle

/-- A header is read off the bytes. -/
theorem decodeBytes_lt {d d' : Decoder} {b rest : List UInt8} {header : Header}
    (h : d.decodeBytes b = (.ok header, d', rest)) : rest.length < b.length := by
  unfold decodeBytes at h
  split at h
  · split at h
    · cases h
    · split at h
      · cases h
      · split at h
        · cases h
        · next hf =>
          dsimp only at h
          split at h
          · cases h
          · exact Nat.lt_trans (decodeQpackBytes_lt h) (Frame.decodeBytes_lt hf)
  · exact decodeQpackBytes_lt h
  · cases h

/-- No call adds bytes, whatever it answers. -/
theorem decodeBytes_le (d : Decoder) (b : List UInt8) :
    (d.decodeBytes b).2.2.length ≤ b.length := by
  have hle := Frame.decodeBytes_le b
  unfold decodeBytes
  split
  · split
    · exact Nat.le_refl _
    · split
      · exact Nat.le_refl _
      · split
        · next hf => rwa [hf] at hle
        · next hf =>
          rw [hf] at hle
          dsimp only
          split
          · exact hle
          · exact Nat.le_trans (decodeQpackBytes_le _ _) hle
  · exact decodeQpackBytes_le _ _
  · exact Nat.le_refl _

section Bytes

variable {σ β : Type} [Storage β] [Sequence σ β]

/-- The case `qpack`, on a sequence. -/
theorem decodeQpack_bytes (d : Decoder) (s : σ) :
    Sequence.onBytes (d.decodeQpack s) = d.decodeQpackBytes (Sequence.bytes s) := by
  unfold decodeQpack decodeQpackBytes
  rw [← Qpack.Decoder.decode_bytes]
  match d.qpack.decode s with
  | (.error e, q, s') => rfl
  | (.ok header, q, s') =>
    show Sequence.onBytes (if d.headersSize.toNat < q.count then _ else _) =
      if d.headersSize.toNat < q.count then _ else _
    split <;> rfl

/-- **The decoder sees nothing of a sequence but its bytes.** -/
theorem decode_bytes (d : Decoder) (s : σ) :
    Sequence.onBytes (d.decode s) = d.decodeBytes (Sequence.bytes s) := by
  unfold decode decodeBytes
  cases d.state with
  | frame =>
    dsimp only
    rw [Frame.peek_eq]
    match Frame.peekParser (Sequence.bytes s) with
    | .error e => rfl
    | .ok (type, rest) =>
      show Sequence.onBytes (if type ≠ .headers then _ else _) = if type ≠ .headers then _ else _
      split
      · rfl
      · rw [← Frame.decode_bytes]
        match Frame.decode s with
        | (.error e, s') => rfl
        | (.ok frame, s') =>
          show Sequence.onBytes (if frame.unionSize = 0 then _ else _) =
            if frame.unionSize = 0 then _ else _
          split
          · rfl
          · exact decodeQpack_bytes _ _
  | qpack => exact decodeQpack_bytes d s
  | fin => rfl

end Bytes

end Decoder

end Bnl.Http3.Headers
