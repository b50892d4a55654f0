import Bnl.Laws.Body
import Bnl.Laws.Headers
import Bnl.Laws.Unknown

/-!
# Peeking and decoding

`decode` skips a frame of unknown type with its payload; `peek` skips its type only, and takes the
size and the payload for types of further frames. Both see the same frame when no unknown frame
comes first. When one does, `peek` sees whatever type the varints from there on come to.

The decoders of HEADERS and DATA frames branch on what they peek at and read what they decode, so
the difference is theirs too.

**The law** (`peek_agrees_iff`): what decides is in the unknown frames' own bytes. If these are whole
varints one behind another, none of them the value of a known type, `peek` passes over all of them
and stands where `decode` stands, whatever follows. If they are not, there is a known frame to follow
at which the two differ: when the varints come to a known type inside the unknown frames, any frame
of another type; when the last varint runs on into the frame that follows, a HEADERS frame whose
first bytes it swallows.

**What it does not establish.** Behind unknown frames of the second kind `peek` may still see the
right type for one frame or another, because its bytes happen to continue the wrong reading. Those
chances are not listed.
-/

namespace Bnl.Http3.Frame

open Incremental Bnl.Base

/-- Read as varints alone, the bytes come to a known type, and it is this one. -/
inductive ReachesType (type : FrameType) : List UInt8 → Prop where
  | here {b rest : List UInt8} {v : UInt64} : Varint.parser b = .ok (v, rest) →
    FrameType.ofValue v = some type → ReachesType type b
  | there {b rest : List UInt8} {v : UInt64} : Varint.parser b = .ok (v, rest) →
    FrameType.ofValue v = none → ReachesType type rest → ReachesType type b

/-- `peek` succeeds with the type that the varints come to. -/
theorem peekParser_iff {b : List UInt8} {type : FrameType} :
    (∃ rest, peekParser b = .ok (type, rest)) ↔ ReachesType type b := by
  constructor
  · rintro ⟨rest, h⟩
    induction hn : b.length using Nat.strongRecOn generalizing b with
    | ind n ih =>
      subst hn
      match hv : Varint.parser b with
      | .error e =>
        rw [peekParser_of_error hv] at h
        cases h
      | .ok (v, mid) =>
        cases ht : FrameType.ofValue v with
        | some t =>
          rw [peekParser_of_known hv ht] at h
          cases h
          exact .here hv ht
        | none =>
          rw [peekParser_of_unknown hv ht] at h
          exact .there hv ht (ih _ (Varint.parser_lt hv) h rfl)
  · intro h
    induction h with
    | here hv ht => exact ⟨_, peekParser_of_known hv ht⟩
    | there hv ht _ ih =>
      obtain ⟨rest, hr⟩ := ih
      exact ⟨rest, (peekParser_of_unknown hv ht).trans hr⟩

/-- A varint of a known type is the one that is reached. -/
theorem ReachesType.of_known {b rest : List UInt8} {v : UInt64} {type known : FrameType}
    (hv : Varint.parser b = .ok (v, rest)) (hknown : FrameType.ofValue v = some known)
    (h : ReachesType type b) : type = known := by
  cases h with
  | here hv' ht =>
    rw [hv] at hv'
    cases hv'
    rw [hknown] at ht
    exact (Option.some.inj ht).symm
  | there hv' hn _ =>
    rw [hv] at hv'
    cases hv'
    rw [hknown] at hn
    cases hn

/-- Any other varint is passed over. -/
theorem ReachesType.of_unknown {b rest : List UInt8} {v : UInt64} {type : FrameType}
    (hv : Varint.parser b = .ok (v, rest)) (hunknown : FrameType.ofValue v = none)
    (h : ReachesType type b) : ReachesType type rest := by
  cases h with
  | here hv' ht =>
    rw [hv] at hv'
    cases hv'
    rw [hunknown] at ht
    cases ht
  | there hv' _ hrest =>
    rw [hv] at hv'
    cases hv'
    exact hrest

/-- Where there is no whole varint, no type is reached. -/
theorem not_reachesType_of_error {b : List UInt8} {e : Error} {type : FrameType}
    (hv : Varint.parser b = .error e) : ¬ ReachesType type b := by
  intro h
  cases h with
  | here hv' _ =>
    rw [hv] at hv'
    cases hv'
  | there hv' _ _ =>
    rw [hv] at hv'
    cases hv'

/-- A frame decoded has the type that was read. -/
theorem payload_type {type : FrameType} {size n : UInt64} {b rest : List UInt8} {frame : Frame}
    (h : payload type size b = .ok ((frame, n), rest)) : frame.type = type := by
  have hvarint {k : UInt64 → Frame × UInt64}
      (hk : ∀ v, (k v).1.type = type)
      (h : (Varint.parser >>= fun v => pure (k v)) b = .ok ((frame, n), rest)) :
      frame.type = type := by
    obtain ⟨v, mid, -, hp⟩ := Parser.bind_eq_ok.mp h
    have hfst : k v = (frame, n) := congrArg Prod.fst (Except.ok.inj hp)
    have := hk v
    rwa [hfst] at this
  cases type with
  | data =>
    cases h
    rfl
  | headers =>
    cases h
    rfl
  | priority =>
    obtain ⟨byte, r₁, -, h⟩ := Parser.bind_eq_ok.mp h
    obtain ⟨prioritized, r₂, -, h⟩ := Parser.bind_eq_ok.mp h
    obtain ⟨dependency, r₃, -, h⟩ := Parser.bind_eq_ok.mp h
    obtain ⟨weight, r₄, -, h⟩ := Parser.bind_eq_ok.mp h
    cases h
    rfl
  | settings =>
    obtain ⟨s, mid, -, h⟩ := Parser.bind_eq_ok.mp h
    cases h
    rfl
  | pushPromise =>
    obtain ⟨r, mid, -, h⟩ := Parser.bind_eq_ok.mp h
    have hfst : promise size r = (frame, n) := congrArg Prod.fst (Except.ok.inj h)
    have htype : (promise size r).1.type = .pushPromise := by
      unfold promise
      split <;> rfl
    rwa [hfst] at htype
  | cancelPush => exact hvarint (fun _ => rfl) h
  | goaway => exact hvarint (fun _ => rfl) h
  | maxPushId => exact hvarint (fun _ => rfl) h
  | duplicatePush => exact hvarint (fun _ => rfl) h

/-- A complete frame begins with a varint of its type. -/
theorem type_of_single {b rest : List UInt8} {frame : Frame}
    (h : single b = .ok (some frame, rest)) : ∃ v mid,
      Varint.parser b = .ok (v, mid) ∧ FrameType.ofValue v = some frame.type := by
  obtain ⟨v, mid, hv, h⟩ := Parser.bind_eq_ok.mp h
  obtain ⟨size, mid', -, h⟩ := Parser.bind_eq_ok.mp h
  refine ⟨v, mid, hv, ?_⟩
  unfold body at h
  cases ht : FrameType.ofValue v with
  | none =>
    rw [ht] at h
    obtain ⟨_, _, -, h⟩ := Parser.bind_eq_ok.mp h
    cases h
  | some type =>
    rw [ht] at h
    obtain ⟨⟨⟨f, n⟩, k⟩, r, hm, h⟩ := Parser.bind_eq_ok.mp h
    unfold checkSize at h
    split at h
    · cases h
    · cases h
      cases hp : payload type size mid' with
      | error e =>
        rw [Parser.measure_error hp] at hm
        cases hm
      | ok q =>
        obtain ⟨⟨f', n'⟩, r'⟩ := q
        rw [Parser.measure_ok hp] at hm
        cases hm
        exact congrArg some (payload_type hp).symm

/-- **What `decode` reads**: complete frames of unknown type, and a complete known one. -/
theorem decodeBytes_iff {b rest : List UInt8} {frame : Frame} :
    decodeBytes b = (.ok frame, rest) ↔ ∃ (unknown : List (List UInt8)) (known : List UInt8),
      b = unknown.flatten ++ known ++ rest ∧ (∀ u ∈ unknown, single u = .ok (none, [])) ∧
        single known = .ok (some frame, []) := by
  constructor
  · intro h
    induction hn : b.length using Nat.strongRecOn generalizing b with
    | ind n ih =>
      subst hn
      match hs : single b with
      | .error e =>
        rw [decodeBytes_error hs] at h
        cases h
      | .ok (some f, r) =>
        rw [decodeBytes_some hs] at h
        cases h
        obtain ⟨c, rfl⟩ := single_stable.splits hs
        exact ⟨[], c, rfl, fun _ hu => absurd hu List.not_mem_nil, single_stable.consumed_ok hs⟩
      | .ok (none, r) =>
        rw [decodeBytes_none hs] at h
        obtain ⟨unknown, known, hr, hu, hk⟩ := ih _ (single_lt hs) h rfl
        obtain ⟨c, rfl⟩ := single_stable.splits hs
        refine ⟨c :: unknown, known, ?_, ?_, hk⟩
        · rw [hr, List.flatten_cons, List.append_assoc, List.append_assoc, List.append_assoc]
        · intro u hm
          rcases List.mem_cons.mp hm with rfl | hm
          · exact single_stable.consumed_ok hs
          · exact hu u hm
  · rintro ⟨unknown, known, rfl, hu, hk⟩
    induction unknown with
    | nil => exact decodeBytes_some (single_stable.append_ok hk rest)
    | cons u unknown ih =>
      have hu₁ := single_stable.append_ok (hu u List.mem_cons_self)
        (unknown.flatten ++ known ++ rest)
      rw [List.flatten_cons, List.append_assoc, List.append_assoc, ← List.append_assoc _ known]
      rw [decodeBytes_none hu₁]
      exact ih fun v hv => hu v (List.mem_cons_of_mem _ hv)

/-! ## Passing over bytes -/

/-- The bytes are whole varints one behind another, none of them the value of a known type. -/
inductive PassedOver : List UInt8 → Prop where
  | nil : PassedOver []
  | cons {b rest : List UInt8} {v : UInt64} : Varint.parser b = .ok (v, rest) →
    FrameType.ofValue v = none → PassedOver rest → PassedOver b

/-- Behind such bytes `peek` sees what it sees without them. -/
theorem PassedOver.reachesType {u t : List UInt8} {type : FrameType} (h : PassedOver u)
    (ht : ReachesType type t) : ReachesType type (u ++ t) := by
  induction h with
  | nil => exact ht
  | cons hv hn _ ih => exact .there (Varint.parser_stable.append_ok hv t) hn ih

/-- No known type has a value whose last bytes are a number above all of theirs. -/
theorem ofValue_of_large {v : UInt64} {k n : Nat} (hv : v.toNat % k = n) (hn : 14 < n) :
    FrameType.ofValue v = none := by
  have hle : n ≤ v.toNat := hv ▸ Nat.mod_le _ _
  refine List.find?_eq_none.mpr fun t _ => ?_
  rw [beq_iff_eq]
  rintro rfl
  cases t <;> simp only [FrameType.value, UInt64.reduceToNat] at hle <;> omega

/-- **Bytes that are not passed over can mislead**: a known frame can follow of which `peek` does not
see the type. -/
theorem exists_misread {u : List UInt8} (h : ¬ PassedOver u) : ∃ known frame,
    single known = .ok (some frame, []) ∧ ¬ ReachesType frame.type (u ++ known) := by
  induction hn : u.length using Nat.strongRecOn generalizing u with
  | ind n ih =>
    subst hn
    match hv : Varint.parser u with
    | .ok (v, mid) =>
      cases ht : FrameType.ofValue v with
      | some known =>
        -- `peek` stops inside: any frame of another type will do
        by_cases hheaders : known = .headers
        · refine ⟨[0x00, 0x00], .data 0, by decide, fun hreach => ?_⟩
          have := hreach.of_known (Varint.parser_stable.append_ok hv _) ht
          rw [hheaders] at this
          cases this
        · refine ⟨[0x01, 0x00], .headers 0, by decide, fun hreach => ?_⟩
          exact hheaders (hreach.of_known (Varint.parser_stable.append_ok hv _) ht).symm
      | none =>
        have hmid : ¬ PassedOver mid := fun hpassed => h (.cons hv ht hpassed)
        obtain ⟨known, frame, hknown, hreach⟩ := ih _ (Varint.parser_lt hv) hmid rfl
        refine ⟨known, frame, hknown, fun hall => hreach ?_⟩
        exact hall.of_unknown (Varint.parser_stable.append_ok hv known) ht
    | .error e =>
      cases u with
      | nil => exact absurd .nil h
      | cons first tl =>
        have hshort : tl.length + 1 < 2 ^ (first.toNat / 64) := by
          by_contra hlong
          obtain ⟨v, rest, hok⟩ := Varint.parser_ok_of_length (Nat.not_lt.mp hlong)
          rw [hv] at hok
          cases hok
        -- the last varint runs on into the frame that follows
        by_cases hone : tl.length + 2 = 2 ^ (first.toNat / 64)
        · have hwhole : (tl ++ [0x80]).length + 1 = 2 ^ (first.toNat / 64) := by
            rw [List.length_append]
            exact hone
          obtain ⟨v, hv, hvalue⟩ := Varint.parser_straddles hwhole [0x00, 0x00, 0x01, 0x00]
          refine ⟨[0x80, 0x00, 0x00, 0x01, 0x00], .headers 0, by decide, fun hreach => ?_⟩
          have hrest := hreach.of_unknown hv (ofValue_of_large hvalue (by decide))
          have hzero : Varint.parser [0x00, 0x00, 0x01, 0x00] = .ok (0, [0x00, 0x01, 0x00]) := by decide
          have hdata := hrest.of_known hzero rfl
          cases hdata
        · refine ⟨[0x01, 0x00], .headers 0, by decide, fun hreach => ?_⟩
          by_cases htwo : tl.length + 3 = 2 ^ (first.toNat / 64)
          · have hwhole : (tl ++ [0x01, 0x00]).length + 1 = 2 ^ (first.toNat / 64) := by
              rw [List.length_append]
              exact htwo
            obtain ⟨v, hv, hvalue⟩ := Varint.parser_straddles hwhole []
            have hrest := hreach.of_unknown hv (ofValue_of_large hvalue (by decide))
            exact not_reachesType_of_error Varint.parser_nil hrest
          · have hlength : (tl ++ [0x01, 0x00]).length + 1 < 2 ^ (first.toNat / 64) := by
              rw [List.length_append, List.length_cons, List.length_cons, List.length_nil]
              omega
            exact not_reachesType_of_error (Varint.parser_cons_short hlength) hreach

/-! ## The law -/

/-- These frames come first, and a complete frame of a known type next. -/
def Fronts (frames : List (List UInt8)) (b : List UInt8) : Prop :=
  ∃ known rest frame, b = frames.flatten ++ known ++ rest ∧ single known = .ok (some frame, [])

/-- Where the unknown frames in front are passed over, `peek` sees the type of what is decoded. -/
theorem peek_of_decode {b rest : List UInt8} {frame : Frame}
    (hpassed : ∀ frames, (∀ c ∈ frames, Unknown c) → Fronts frames b → PassedOver frames.flatten)
    (h : decodeBytes b = (.ok frame, rest)) : ReachesType frame.type b := by
  obtain ⟨frames, known, rfl, hunknown, hknown⟩ := decodeBytes_iff.mp h
  have hframes : ∀ c ∈ frames, Unknown c := fun c hc => unknown_of_single (hunknown c hc)
  obtain ⟨v, mid, hv, ht⟩ := type_of_single hknown
  rw [List.append_assoc]
  refine (hpassed frames hframes ⟨known, rest, frame, rfl, hknown⟩).reachesType ?_
  exact .here (Varint.parser_stable.append_ok hv rest) ht

section Peek

variable {σ β : Type} [Storage β] [Sliceable σ β]

/-- `peek` on a sequence is `peek` on its bytes. -/
theorem peek_iff {s : σ} {type : FrameType} :
    peek s = .ok type ↔ ReachesType type (Sequence.bytes s) := by
  rw [← peekParser_iff, peek_eq]
  cases hp : peekParser (Sequence.bytes s) with
  | error e =>
    constructor
    · intro h
      cases h
    · rintro ⟨rest, heq⟩
      cases heq
  | ok q =>
    obtain ⟨t, rest⟩ := q
    constructor
    · intro h
      cases h
      exact ⟨rest, rfl⟩
    · rintro ⟨rest', heq⟩
      cases heq
      rfl

/-- `peek` sees the type of the frame that `decode` returns, and the decoders of HEADERS and DATA
frames go on from their first state only with a frame of their own type. -/
structure Agrees (s : σ) : Prop where
  peeked : ∀ frame s', decode s = (.ok frame, s') → peek s = .ok frame.type
  headers : ∀ d : Headers.Decoder, d.state = .frame → (d.decode s).2.1.state ≠ .frame →
    ∃ size, (decode s).1 = .ok (.headers size)
  data : ∀ d : Body.Decoder, d.state = .frame →
    ((∃ part, (d.decode s).1 = .ok part) ∨ (d.decode s).2.1.state = .data) →
    ∃ size, (decode s).1 = .ok (.data size)

/-- The decoders go by what they peek at, so they are right where `peek` is. -/
theorem Agrees.of_reachesType {s : σ} (hreach : ∀ {frame rest},
    decodeBytes (Sequence.bytes s) = (.ok frame, rest) →
      ReachesType frame.type (Sequence.bytes s)) : Agrees s := by
  have hbytes := decode_bytes s
  have hfst : (decode s).1 = (decodeBytes (Sequence.bytes s)).1 := congrArg Prod.fst hbytes
  have htype {type : FrameType} (hp : ∃ rest, peekParser (Sequence.bytes s) = .ok (type, rest))
      {frame : Frame} {rest : List UInt8}
      (hf : decodeBytes (Sequence.bytes s) = (.ok frame, rest)) : frame.type = type := by
    have h₁ := peek_iff.mpr (peekParser_iff.mp hp)
    have h₂ := peek_iff.mpr (hreach hf)
    rw [h₁] at h₂
    exact (Except.ok.inj h₂).symm
  refine ⟨fun frame s' hs' => ?_, fun d hd hleave => ?_, fun d hd hleave => ?_⟩
  · rw [hs'] at hbytes
    exact peek_iff.mpr (hreach hbytes.symm)
  · have hstate : (d.decode s).2.1 = (d.decodeBytes (Sequence.bytes s)).2.1 :=
      congrArg (fun r => r.2.1) (d.decode_bytes s)
    rw [hstate, Headers.Decoder.leaves_frame hd] at hleave
    obtain ⟨hp, frame, rest, hf⟩ := hleave
    have ht := htype hp hf
    rw [hfst, hf]
    cases frame <;> cases ht
    exact ⟨_, rfl⟩
  · have hstate : (d.decode s).2.1 = (d.decodeBytes (Sequence.bytes s)).2.1 :=
      congrArg (fun r => r.2.1) (d.decode_bytes s)
    have hanswer : (d.decode s).1 = (d.decodeBytes (Sequence.bytes s)).1 :=
      congrArg Prod.fst (d.decode_bytes s)
    rw [hstate, hanswer, Body.Decoder.leaves_frame hd] at hleave
    obtain ⟨hp, frame, rest, hf⟩ := hleave
    have ht := htype hp hf
    rw [hfst, hf]
    cases frame <;> cases ht
    exact ⟨_, rfl⟩

/-- **When `peek` agrees with `decode`**, and with them the decoders of HEADERS and DATA frames: on
every sequence, if the unknown frames in front of its first known one are passed over (also where
there are none, or no known frame comes). This is the weakest condition on those frames' bytes: if
they are not passed over, a known frame can follow at which the two differ. -/
theorem peek_agrees_iff :
    (∀ s : σ, (∀ frames, (∀ c ∈ frames, Unknown c) → Fronts frames (Sequence.bytes s) →
      PassedOver frames.flatten) → Agrees s) ∧
    ∀ frames : List (List UInt8), (∀ c ∈ frames, Unknown c) →
      ((∀ s : Buffer, Fronts frames (Sequence.bytes s) → Agrees s) ↔ PassedOver frames.flatten) := by
  refine ⟨fun s hpassed => .of_reachesType (peek_of_decode hpassed), fun frames hframes => ⟨?_, ?_⟩⟩
  · intro hagrees
    by_contra hnot
    obtain ⟨known, frame, hknown, hmisread⟩ := exists_misread hnot
    have hbytes : Sequence.bytes (⟨frames.flatten ++ known⟩ : Buffer) = frames.flatten ++ known := rfl
    have hfronts : Fronts frames (Sequence.bytes (⟨frames.flatten ++ known⟩ : Buffer)) :=
      ⟨known, [], frame, (List.append_nil _).symm, hknown⟩
    have hdecode : decodeBytes (frames.flatten ++ known) = (.ok frame, []) := by
      rw [decodeBytes_skip hframes]
      exact decodeBytes_some hknown
    obtain ⟨s', hs', -⟩ := decode_of_bytes (s := (⟨frames.flatten ++ known⟩ : Buffer)) hdecode
    exact hmisread (peek_iff.mp ((hagrees _ hfronts).peeked frame s' hs'))
  · rintro hpassed s ⟨known, rest, frame, hbytes, hknown⟩
    refine .of_reachesType fun {frame' rest'} hdecode => ?_
    have hskip : decodeBytes (Sequence.bytes s) = (.ok frame, rest) := by
      rw [hbytes, List.append_assoc, decodeBytes_skip hframes]
      exact decodeBytes_some (single_stable.append_ok hknown rest)
    rw [hskip] at hdecode
    cases hdecode
    obtain ⟨v, mid, hv, ht⟩ := type_of_single hknown
    rw [hbytes, List.append_assoc]
    exact hpassed.reachesType (.here (Varint.parser_stable.append_ok hv rest) ht)

end Peek

/-- An empty frame of type 0x21 and an empty HEADERS frame: `decode` answers HEADERS, `peek` takes
the size of the first for the type DATA. Behind a frame of type 0x21 that holds a HEADERS type, the
HEADERS decoder consumes a DATA frame. -/
theorem peek_disagrees :
    (decode (⟨[0x21, 0x00, 0x01, 0x00]⟩ : Buffer)).1 = .ok (.headers 0) ∧
      peek (⟨[0x21, 0x00, 0x01, 0x00]⟩ : Buffer) = .ok .data ∧
      (Headers.Decoder.decode {} (⟨[0x21, 0x01, 0x01, 0x00, 0x05]⟩ : Buffer)).2.1.state = .qpack ∧
      (decode (⟨[0x21, 0x01, 0x01, 0x00, 0x05]⟩ : Buffer)).1 = .ok (.data 5) ∧
      ¬ ∀ frame s', decode (⟨[0x21, 0x00, 0x01, 0x00]⟩ : Buffer) = (.ok frame, s') →
        peek (⟨[0x21, 0x00, 0x01, 0x00]⟩ : Buffer) = .ok frame.type := by
  have hdecode : decode (⟨[0x21, 0x00, 0x01, 0x00]⟩ : Buffer) = (.ok (.headers 0), ⟨[]⟩) := by
    decide
  have hpeek : peek (⟨[0x21, 0x00, 0x01, 0x00]⟩ : Buffer) = .ok .data := by decide
  refine ⟨congrArg Prod.fst hdecode, hpeek, by decide, by decide, fun h => ?_⟩
  have hagree := h _ _ hdecode
  rw [hpeek] at hagree
  exact absurd hagree (by decide)

end Bnl.Http3.Frame
