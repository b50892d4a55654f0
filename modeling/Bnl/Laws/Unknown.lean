import Bnl.Laws.FrameWire

/-!
# Frames of unknown type

The decoder of frames skips those of unknown type. What it answers is what it answers without them, and it stops
at the end of the last one that is there whole.

**The law** is `unknown_skipped`, for any list of unknown frames in front of any bytes, on sequences that may be
cut differently: the same answer and the same bytes left, and where the answer is an error, all whole unknown
frames gone and no other beginning there. It also says that the number of rounds does not matter, so the fuel of
the model is no part of what is said of the source's loop.

`single_none_iff` is what it rests on: a frame is skipped where a type, a length and that many bytes are there
and the type is unknown. What the frames carry is of no concern, and so nothing is said of `peek`, to which it
is.
-/

namespace Bnl.Http3.Frame

open Incremental Bnl.Base

/-- The bytes of a frame of unknown type: a type and a length, and as many bytes. -/
structure Unknown (c : List UInt8) : Prop where
  split : ∃ typeBytes sizeBytes payload type size, c = typeBytes ++ (sizeBytes ++ payload) ∧
    Varint.Encodes typeBytes type ∧ FrameType.ofValue type = none ∧
    Varint.Encodes sizeBytes size ∧ payload.length = size.toNat

/-- A varint in front is read, and the rest stays. -/
theorem parser_of_encodes {c : List UInt8} {v : UInt64} (h : Varint.Encodes c v) (rest : List UInt8) :
    Varint.parser (c ++ rest) = .ok (v, rest) := Varint.parser_stable.append_ok h.parser rest

/-- A varint that was read stood in front. -/
theorem encodes_of_parse {b rest : List UInt8} {v : UInt64} (h : Varint.parser b = .ok (v, rest)) :
    ∃ c, b = c ++ rest ∧ Varint.Encodes c v := by
  obtain ⟨c, rfl⟩ := Varint.parser_stable.splits h
  refine ⟨c, rfl, ?_⟩
  have hc := Varint.parser_stable.consumed_ok h
  unfold Varint.Encodes
  rw [Varint.decode_eq, Sequence.read_ok (s := (⟨c⟩ : Buffer)) hc]
  exact congrArg (fun bs => (Except.ok v, Buffer.mk bs)) List.drop_length

/-- **A frame that is skipped is a whole one of unknown type.** -/
theorem single_none_iff {b rest : List UInt8} :
    single b = .ok (none, rest) ↔ ∃ c, b = c ++ rest ∧ Unknown c := by
  constructor
  · intro hsingle
    obtain ⟨type, b₁, htype, hrest⟩ := Parser.bind_eq_ok.mp hsingle
    obtain ⟨size, b₂, hsize, h⟩ := Parser.bind_eq_ok.mp hrest
    obtain ⟨c₁, rfl, hc₁⟩ := encodes_of_parse htype
    obtain ⟨c₂, rfl, hc₂⟩ := encodes_of_parse hsize
    unfold body at h
    cases ht : FrameType.ofValue type with
    | none =>
      rw [ht] at h
      obtain ⟨payload, b₃, htake, h⟩ := Parser.bind_eq_ok.mp h
      cases h
      by_cases hle : size.toNat ≤ b₂.length
      · rw [Parser.take_of_le hle] at htake
        cases htake
        refine ⟨c₁ ++ (c₂ ++ b₂.take size.toNat), ?_, ⟨c₁, c₂, _, type, size, rfl, hc₁, ht, hc₂, ?_⟩⟩
        · rw [List.append_assoc, List.append_assoc, List.take_append_drop]
        · exact List.length_take_of_le hle
      · rw [Parser.take_of_gt (Nat.not_le.mp hle)] at htake
        cases htake
    | some known =>
      rw [ht] at h
      obtain ⟨r, b₃, -, h⟩ := Parser.bind_eq_ok.mp h
      unfold checkSize at h
      split at h
      · cases h
      · cases h
  · rintro ⟨c, rfl, hc⟩
    obtain ⟨c₁, c₂, payload, type, size, rfl, hc₁, ht, hc₂, hlength⟩ := hc.split
    unfold single
    rw [List.append_assoc, List.append_assoc, Parser.bind_ok (parser_of_encodes hc₁ _),
      Parser.bind_ok (parser_of_encodes hc₂ _)]
    unfold body
    rw [ht, ← hlength]
    exact Parser.bind_ok Parser.take_append

/-- A frame that is skipped to the end is unknown. -/
theorem unknown_of_single {c : List UInt8} (h : single c = .ok (none, [])) : Unknown c := by
  obtain ⟨c', hc', hunknown⟩ := single_none_iff.mp h
  rw [List.append_nil] at hc'
  exact hc' ▸ hunknown

/-- The unknown frames in front do not count. -/
theorem decodeBytes_skip {frames : List (List UInt8)} (h : ∀ c ∈ frames, Unknown c) (t : List UInt8) :
    decodeBytes (frames.flatten ++ t) = decodeBytes t := by
  induction frames with
  | nil => rfl
  | cons c frames ih =>
    rw [List.flatten_cons, List.append_assoc,
      decodeBytes_none (single_none_iff.mpr ⟨c, rfl, h c List.mem_cons_self⟩)]
    exact ih fun c' hc' => h c' (List.mem_cons_of_mem _ hc')

/-- What is left where the decoder fails: all but the whole unknown frames in front, and no other such
frame begins there. -/
theorem decodeBytes_error_split {b rest : List UInt8} {e : Error} (h : decodeBytes b = (.error e, rest)) :
    single rest = .error e ∧ ∃ frames : List (List UInt8), (∀ c ∈ frames, Unknown c) ∧ b = frames.flatten ++ rest := by
  induction b using decodeBytes.induct with
  | case1 b frame rest' hs =>
    rw [decodeBytes_some hs] at h
    cases h
  | case2 b rest' hs ih =>
    rw [decodeBytes_none hs] at h
    obtain ⟨herror, frames, hframes, rfl⟩ := ih h
    obtain ⟨c, rfl, hc⟩ := single_none_iff.mp hs
    refine ⟨herror, c :: frames, fun c' hc' => ?_, ?_⟩
    · rcases List.mem_cons.mp hc' with rfl | hc'
      · exact hc
      · exact hframes c' hc'
    · rw [List.flatten_cons, List.append_assoc]
  | case3 b e' hs =>
    rw [decodeBytes_error hs] at h
    cases h
    exact ⟨hs, [], List.forall_mem_nil _, rfl⟩

variable {σ β : Type} [Storage β] [Sequence σ β]

/-- **The loop ends by itself**: however many rounds it is given beyond the bytes there are, it answers
the same. -/
theorem decodeLoop_rounds {n k : Nat} {s : σ} (hn : (Sequence.bytes s).length < n)
    (hk : (Sequence.bytes s).length < k) : decodeLoop n s = decodeLoop k s := by
  induction n generalizing k s with
  | zero => exact absurd hn (Nat.not_lt_zero _)
  | succ n ih =>
    cases k with
    | zero => exact absurd hk (Nat.not_lt_zero _)
    | succ k =>
      have hl : (Sequence.lookahead s).bytes = Sequence.bytes s := Sequence.lookahead_bytes s
      have hfollows := decodeSingle_follows (Sequence.lookahead s)
      unfold decodeLoop
      rcases hd : decodeSingle (Sequence.lookahead s) with ⟨e | frame, l⟩
      · dsimp only
        by_cases he : e = .delegate
        · rw [if_pos he, if_pos he]
          -- a skipped frame has been read
          have hskipped : skipped (decodeSingle (Sequence.lookahead s)) = (.ok none, l) := by
            rw [hd]
            exact if_pos he
          rw [hskipped] at hfollows
          cases hs : single (Sequence.lookahead s).bytes with
          | error e' => cases hfollows.of_error hs
          | ok q =>
            obtain ⟨f, rest⟩ := q
            have hlt := single_lt hs
            cases hfollows.of_ok hs
            rw [hl] at hlt
            rw [hl, Lookahead.consume_consumed, Sequence.lookahead_consumed, Nat.zero_add]
            have hless : (Sequence.bytes (Sequence.consume s
                ((Sequence.bytes s).length - rest.length))).length < (Sequence.bytes s).length := by
              rw [Sequence.consume_eq, List.length_drop]
              omega
            exact ih (by omega) (by omega)
        · rw [if_neg he, if_neg he]
      · rfl

/-- **Unknown frames are skipped exactly.** -/
theorem unknown_skipped (frames : List (List UInt8)) (h : ∀ c ∈ frames, Unknown c) (s t : σ)
    (hs : Sequence.bytes s = frames.flatten ++ Sequence.bytes t) :
    (decode s).1 = (decode t).1 ∧
    Sequence.bytes (decode s).2 = Sequence.bytes (decode t).2 ∧
    (∀ e, (decode s).1 = .error e → ∃ leading : List (List UInt8), (∀ c ∈ leading, Unknown c) ∧
      Sequence.bytes s = leading.flatten ++ Sequence.bytes (decode s).2 ∧
      ∀ c rest, Sequence.bytes (decode s).2 = c ++ rest → ¬ Unknown c) ∧
    ∀ n, Sequence.size s < n → decodeLoop n s = decode s := by
  have hdecode : ((decode s).1, Sequence.bytes (decode s).2) =
      ((decode t).1, Sequence.bytes (decode t).2) := by
    rw [decode_bytes, decode_bytes, hs, decodeBytes_skip h]
  refine ⟨(Prod.mk.inj hdecode).1, (Prod.mk.inj hdecode).2, fun e he => ?_, fun n hn => ?_⟩
  · have hbytes : decodeBytes (Sequence.bytes s) = (.error e, Sequence.bytes (decode s).2) := by
      rw [← decode_bytes, he]
    obtain ⟨herror, leading, hleading, hsplit⟩ := decodeBytes_error_split hbytes
    refine ⟨leading, hleading, hsplit, fun c rest hrest hc => ?_⟩
    exact nomatch (single_none_iff.mpr ⟨c, hrest, hc⟩).symm.trans herror
  · rw [Sequence.size_eq] at hn
    unfold decode
    exact decodeLoop_rounds hn (by rw [Sequence.size_eq]; exact Nat.lt_succ_self _)

/-- Two unknown frames, one empty, in front of a frame that is cut off. -/
theorem unknown_skipped_cut : (decode (⟨[0x21, 0x00, 0x21, 0x02, 0xff, 0xff, 0x03]⟩ : Buffer)).1 =
      (decode (⟨[0x03]⟩ : Buffer)).1 :=
  (unknown_skipped [[0x21, 0x00], [0x21, 0x02, 0xff, 0xff]] (by
    intro c hc
    rcases List.mem_cons.mp hc with rfl | hc
    · exact ⟨[0x21], [0x00], [], 0x21, 0, rfl, rfl, by decide,
        rfl, rfl⟩
    · obtain rfl := List.mem_singleton.mp hc
      exact ⟨[0x21], [0x02], [0xff, 0xff], 0x21, 2, rfl, rfl,
        by decide, rfl, rfl⟩)
    (⟨[0x21, 0x00, 0x21, 0x02, 0xff, 0xff, 0x03]⟩ : Buffer) (⟨[0x03]⟩ : Buffer) rfl).1

end Bnl.Http3.Frame
