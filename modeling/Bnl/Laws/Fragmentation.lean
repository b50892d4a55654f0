import Bnl.Laws.Body
import Bnl.Laws.Headers
import Bnl.Laws.Literal

/-!
# Fragmentation does not matter

Every decoder is written once and used on `base::buffer`, on `base::buffers` and on lookaheads of both. Two
sequences of the same bytes give the same answer and keep the same bytes, whatever they are made of: most
decoders are parsers run on the bytes, and the ones that consume on the way, as `prefix_int::decode` does, take
the same steps on both.

**The law** is `fragmentation_irrelevant`: a byte string cut anywhere, empty pieces included, against the same
bytes in one buffer. The six codecs and `peek` are compared from scratch, the three decoders with a state from
equal states, and both also on lookaheads at any place.

`Alike` is the relation, and it is kept by a bind (`Alike.bind`), so a decoder is alike where its parts are. For
the decoders that are already known to be parsers there is nothing left to do but to name the parser.
-/

namespace Bnl.Http3

open Incremental Bnl.Base

/-- The same answer, and the same bytes left. -/
def Alike {ε α σ τ β γ : Type} [Storage β] [Sequence σ β] [Storage γ] [Sequence τ γ]
    (r : Except ε α × σ) (q : Except ε α × τ) : Prop :=
  r.1 = q.1 ∧ Sequence.bytes r.2 = Sequence.bytes q.2

section Alike

variable {ε α δ σ τ β γ : Type} [Storage β] [Sequence σ β] [Storage γ] [Sequence τ γ]
  {s : σ} {t : τ}

namespace Alike

/-- An error with the same bytes left. -/
theorem error (e : ε) (h : Sequence.bytes s = Sequence.bytes t) :
    Alike ((.error e, s) : Except ε α × σ) (.error e, t) := ⟨rfl, h⟩

/-- An answer with the same bytes left. -/
theorem pure (a : α) (h : Sequence.bytes s = Sequence.bytes t) :
    Alike ((.ok a, s) : Except ε α × σ) (.ok a, t) := ⟨rfl, h⟩

/-- Parsers see the bytes alone. -/
theorem read (p : Parser ε UInt8 α) (h : Sequence.bytes s = Sequence.bytes t) :
    Alike (Sequence.read p s) (Sequence.read p t) := by
  cases hp : p (Sequence.bytes s) with
  | error e =>
    rw [Sequence.read_error hp, Sequence.read_error (h ▸ hp)]
    exact error e h
  | ok q =>
    rw [Sequence.read_ok hp, Sequence.read_ok (h ▸ hp)]
    refine ⟨rfl, ?_⟩
    show Sequence.bytes (Sequence.consume s _) = Sequence.bytes (Sequence.consume t _)
    rw [Sequence.consume_eq, Sequence.consume_eq, h]

/-- Steps that are alike, one after the other. -/
theorem bind {x : Reader ε σ α} {y : Reader ε τ α} {k : α → Reader ε σ δ} {l : α → Reader ε τ δ}
    (hx : Alike (x s) (y t))
    (hk : ∀ a s' t', Sequence.bytes s' = Sequence.bytes t' → Alike (k a s') (l a t')) :
    Alike ((x >>= k) s) ((y >>= l) t) := by
  rw [Reader.bind_apply, Reader.bind_apply]
  rcases hxs : x s with ⟨r, s'⟩
  rcases hyt : y t with ⟨r', t'⟩
  rw [hxs, hyt] at hx
  obtain ⟨hr, hrest⟩ := hx
  obtain rfl : r = r' := hr
  cases r with
  | error e => exact error e hrest
  | ok a => exact hk a s' t' hrest

end Alike

namespace Qpack.PrefixInt

/-- A byte is the first of the bytes. -/
theorem uint8Decode_alike (h : Sequence.bytes s = Sequence.bytes t) :
    Alike ((uint8Decode : Reader Error σ UInt8) s) ((uint8Decode : Reader Error τ UInt8) t) := by
  have hempty : Sequence.empty s = Sequence.empty t := by
    rw [Sequence.empty, Sequence.empty, Sequence.size_eq, Sequence.size_eq, h]
  have hhead : Sequence.head s = Sequence.head t := by
    rw [Sequence.head, Sequence.head, Sequence.get_eq, Sequence.get_eq, h]
  unfold uint8Decode
  rw [← hempty, ← hhead]
  split
  · exact Alike.error _ h
  · refine Alike.pure _ ?_
    rw [Sequence.consume_eq, Sequence.consume_eq, h]

/-- The loop, round by round. -/
theorem decodeLoop_alike (fuel : Nat) (result offset : UInt64)
    (h : Sequence.bytes s = Sequence.bytes t) :
    Alike (decodeLoop fuel result offset s) (decodeLoop fuel result offset t) := by
  induction fuel generalizing result offset s t with
  | zero => exact Alike.error _ h
  | succ fuel ih =>
    unfold decodeLoop
    refine (uint8Decode_alike h).bind fun byte s' t' hrest => ?_
    split
    · exact ih _ _ hrest
    · exact Alike.pure _ hrest

/-- What was read before an error stays read, on both. -/
theorem decode_alike (width : UInt8) (h : Sequence.bytes s = Sequence.bytes t) :
    Alike (decode width s) (decode width t) := by
  have hresult : Alike (decodeResult width (Sequence.size s) s)
      (decodeResult width (Sequence.size t) t) := by
    rw [Sequence.size_eq, Sequence.size_eq, h]
    unfold decodeResult
    refine (uint8Decode_alike h).bind fun byte s' t' hrest => ?_
    by_cases hfull : (prefixMax width).toUInt64 ≤ byte.toUInt64 &&& (prefixMax width).toUInt64
    · simp only [if_pos hfull]
      exact decodeLoop_alike _ _ _ hrest
    · simp only [if_neg hfull]
      exact Alike.pure _ hrest
  unfold decode
  dsimp only
  rw [Sequence.lookahead_consumed, Sequence.lookahead_consumed]
  rcases hs : decodeResult width (Sequence.size s) s with ⟨r, s'⟩
  rcases ht : decodeResult width (Sequence.size t) t with ⟨r', t'⟩
  rw [hs, ht] at hresult
  obtain ⟨hr, hrest⟩ := hresult
  obtain rfl : r = r' := hr
  cases r with
  | error e => exact Alike.error e hrest
  | ok v =>
    refine Alike.pure v ?_
    rw [Sequence.consume_eq, Sequence.consume_eq, hrest]

end Qpack.PrefixInt

/-- The codecs that run on any sequence and on any lookahead do alike on `s` and `t`. -/
structure CodecsAgree (s : σ) (t : τ) : Prop where
  varint : Alike (Varint.decode s) (Varint.decode t)
  prefixInt : ∀ width, Alike (Qpack.PrefixInt.decode width s) (Qpack.PrefixInt.decode width t)
  huffman : ∀ size, Alike (Qpack.Huffman.decode size s) (Qpack.Huffman.decode size t)
  literal : ∀ width, Alike (Qpack.Literal.decode width s) (Qpack.Literal.decode width t)
  peek : Frame.peek s = Frame.peek t
  frame : Alike (Frame.decode s) (Frame.decode t)

/-- **The codecs do alike on the same bytes.** -/
theorem codecsAgree (h : Sequence.bytes s = Sequence.bytes t) : CodecsAgree s t where
  varint := by
    rw [Varint.decode_eq, Varint.decode_eq]
    exact Alike.read _ h
  prefixInt width := Qpack.PrefixInt.decode_alike width h
  huffman size := by
    rw [Qpack.Huffman.decode_eq, Qpack.Huffman.decode_eq]
    exact Alike.read _ h
  literal width := by
    rw [Qpack.Literal.decode_eq, Qpack.Literal.decode_eq]
    exact Alike.read _ h
  peek := by rw [Frame.peek_eq, Frame.peek_eq, h]
  frame := by
    have hs := Frame.decode_bytes s
    have ht := Frame.decode_bytes t
    rw [h, ← ht] at hs
    exact ⟨congrArg Prod.fst hs, congrArg Prod.snd hs⟩

end Alike

/-- The decoders with a state, from equal states: answer, state and bytes left. -/
structure DecodersAgree {σ τ β γ : Type} [Storage β] [Sliceable σ β] [Storage γ] [Sliceable τ γ]
    (s : σ) (t : τ) : Prop where
  qpack : ∀ d : Qpack.Decoder, Sequence.onBytes (d.decode s) = Sequence.onBytes (d.decode t)
  headers : ∀ d : Headers.Decoder, Sequence.onBytes (d.decode s) = Sequence.onBytes (d.decode t)
  body : ∀ d : Body.Decoder, Sequence.onBytes (d.decode s) = Sequence.onBytes (d.decode t)

/-- **So do the decoders with a state.** -/
theorem decodersAgree {σ τ β γ : Type} [Storage β] [Sliceable σ β] [Storage γ] [Sliceable τ γ]
    {s : σ} {t : τ} (h : Sequence.bytes s = Sequence.bytes t) : DecodersAgree s t where
  qpack d := by rw [Qpack.Decoder.decode_bytes, Qpack.Decoder.decode_bytes, h]
  headers d := by rw [Headers.Decoder.decode_bytes, Headers.Decoder.decode_bytes, h]
  body d := by rw [Body.Decoder.decode_bytes, Body.Decoder.decode_bytes, h]

/-- The buffers a byte string is cut into. -/
def fragmented (fragments : List (List UInt8)) : Buffers := ⟨fragments.map Buffer.mk⟩

/-- The bytes are the same. -/
theorem fragmented_bytes (fragments : List (List UInt8)) :
    (fragmented fragments).bytes = fragments.flatten := by
  rw [Buffers.bytes, fragmented, List.flatMap_map]
  exact List.flatMap_id'

/-- **Fragmentation does not matter.** Cut a byte string anywhere, into empty fragments too: every
decoder does on the buffers what it does on the one buffer. So it does on lookaheads, wherever they
stand and whatever lookahead they are copies of. -/
theorem fragmentation_irrelevant (fragments : List (List UInt8)) :
    CodecsAgree (fragmented fragments) (⟨fragments.flatten⟩ : Buffer) ∧
    DecodersAgree (fragmented fragments) (⟨fragments.flatten⟩ : Buffer) ∧
    ∀ previous position,
      CodecsAgree (⟨fragmented fragments, previous, position⟩ : Lookahead Buffers)
        (⟨⟨fragments.flatten⟩, previous, position⟩ : Lookahead Buffer) ∧
      CodecsAgree (⟨⟨fragments.flatten⟩, previous, position⟩ : Lookahead Buffer)
        (⟨fragments.flatten.drop (previous + position)⟩ : Buffer) := by
  have hbytes : Sequence.bytes (fragmented fragments) =
      Sequence.bytes (⟨fragments.flatten⟩ : Buffer) := fragmented_bytes fragments
  refine ⟨codecsAgree hbytes, decodersAgree hbytes, fun previous position => ?_⟩
  exact ⟨codecsAgree (congrArg (List.drop (previous + position)) hbytes), codecsAgree rfl⟩

end Bnl.Http3
