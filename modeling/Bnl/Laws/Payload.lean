import Bnl.Laws.Message
import Bnl.Library.Run

/-!
# Headers stay inside their frame

`headers::decoder` lets the QPACK decoder read on without a bound, and looks at its count afterwards. The count
is that of the bytes used up behind the frame, whatever the calls answered, so a header that is handed out was
read off the payload alone.

**The law** is `inside_always`, over any feeds and calls in any order. A step holds a HEADERS frame that was
accepted against every later call: the count is that of the bytes used up behind the frame; a header that is
handed out is the one the QPACK decoder reads from the payload with nothing behind it; and the decoder is
finished exactly with the header that ends it.

What makes it so is that a header depends on the bytes it uses up only (`decodeBytes_local`): if they are within
the payload it would have been read from the payload alone, and if they are not the count shows it. So reading
too far is noticed and not prevented: the bytes behind the payload are gone when the error comes.

The invariant is `Holds`, which ties the count to the stream. It is kept by each call, whatever that answers
(`step_inside`).
-/

namespace Bnl.Http3

open Incremental Bnl.Base

/-! ## One header -/

namespace Qpack.Decoder

/-- A header depends on the bytes that it uses up and on nothing behind them. -/
theorem decodeBytes_local {d d' : Decoder} {used rest : List UInt8} {header : Header}
    (h : d.decodeBytes (used ++ rest) = (.ok header, d', rest)) (c : List UInt8) :
    d.decodeBytes (used ++ c) = (.ok header, d', c) := by
  have hline {d : Decoder} {used : List UInt8}
      (h : d.decodeHeaderBytes (used ++ rest) = (.ok header, d', rest)) :
      d.decodeHeaderBytes (used ++ c) = (.ok header, d', c) := by
    unfold decodeHeaderBytes at h ⊢
    split at h
    · next hl =>
      cases h
      rw [line_stable.append_ok (line_stable.consumed_ok hl) c]
      dsimp only
      rw [List.nil_append, List.length_append, List.length_append, Nat.add_sub_cancel, Nat.add_sub_cancel]
    · cases h
  unfold decodeBytes at h ⊢
  cases hd : d.state with
  | header =>
    rw [hd] at h
    exact hline h
  | blockPrefix =>
    rw [hd] at h
    dsimp only at h ⊢
    split at h
    · cases h
    · next hlen =>
      -- what is behind the prefix ends in the rest, so the prefix was used up too
      have hle : qpackPrefixEncodedSize ≤ used.length := by
        have := decodeHeaderBytes_lt h
        rw [List.length_drop, List.length_append] at this
        omega
      rw [List.drop_append_of_le_length hle] at h
      rw [if_neg (by rw [List.length_append]; omega), List.drop_append_of_le_length hle]
      exact hline h

end Qpack.Decoder

namespace Headers.Decoder

/-- What a call behind the frame does: it uses up bytes, counts them, and hands out a header only where it is
still within the size. -/
structure Uses (d : Decoder) (r : Except Error Header) (d' : Decoder) (used : List UInt8) : Prop where
  size : d'.headersSize = d.headersSize
  count : d'.qpack.count = d.qpack.count + used.length
  error : ∀ e, r = .error e → d'.state = d.state
  ok : ∀ header, r = .ok header → d.state ≠ .fin ∧ d'.qpack.count ≤ d.headersSize.toNat ∧
    (d'.state = if d'.qpack.count = d.headersSize.toNat then .fin else d.state) ∧
      ∀ c, d.qpack.decodeBytes (used ++ c) = (.ok header, d'.qpack, c)

variable {d d' : Decoder} {r : Except Error Header}

/-- A call behind the frame, on bytes. -/
theorem decodeQpackBytes_uses (hd : d.state ≠ .fin) {b rest : List UInt8}
    (h : d.decodeQpackBytes b = (r, d', rest)) : ∃ used, b = used ++ rest ∧ d.Uses r d' used := by
  obtain ⟨hsize, ⟨used, rfl, hcount⟩, hanswer⟩ := decodeQpackBytes_eq h
  refine ⟨used, rfl, hsize, hcount, fun e he => ?_, fun header hheader => ?_⟩
  · rcases hanswer with ⟨_, -, -, hstate⟩ | ⟨header, hheader, -⟩
    · exact hstate
    · exact nomatch he.symm.trans hheader
  · rcases hanswer with ⟨_, he, -⟩ | ⟨_, -, hle, hstate⟩
    · exact nomatch he.symm.trans hheader
    · suffices hq : d.qpack.decodeBytes (used ++ rest) = (.ok header, d'.qpack, rest) from
        ⟨hd, hle, hstate, Qpack.Decoder.decodeBytes_local hq⟩
      subst hheader
      unfold decodeQpackBytes at h
      split at h
      · cases h
      · next hq =>
        dsimp only at h
        split at h
        · cases h
        · cases h
          exact hq

/-- A call behind the frame, on buffers. -/
theorem decodeQpack_uses (hd : d.state ≠ .fin) {s s' : Buffers} (h : d.decodeQpack s = (r, d', s')) :
    ∃ used, s.bytes = used ++ s'.bytes ∧ d.Uses r d' used := by
  have hbytes : d.decodeQpackBytes (Sequence.bytes s) = (r, d', Sequence.bytes s') := by
    rw [← decodeQpack_bytes, h]
    rfl
  exact decodeQpackBytes_uses hd hbytes

/-- A call behind the frame. -/
theorem decode_uses (hd : d.state ≠ .frame) {s s' : Buffers} (h : d.decode s = (r, d', s')) :
    ∃ used, s.bytes = used ++ s'.bytes ∧ d.Uses r d' used := by
  unfold decode at h
  cases hs : d.state with
  | frame => exact absurd hs hd
  | qpack =>
    rw [hs] at h
    exact decodeQpack_uses (by rw [hs]; nofun) h
  | fin =>
    rw [hs] at h
    cases h
    exact ⟨[], rfl, rfl, rfl, fun _ _ => rfl, fun _ h => nomatch h⟩

/-- A call in front of the frame leaves the decoder as it is, or takes the frame and goes on behind it. -/
theorem decode_frame (hd : d.state = .frame) {s s' : Buffers} (h : d.decode s = (r, d', s')) :
    d' = d ∧ (∃ e, r = .error e) ∨
    d'.state ≠ .frame ∧ ∃ frame behind used, Frame.decode s = (.ok frame, behind) ∧
      behind.bytes = used ++ s'.bytes ∧
        ({ d with state := .qpack, headersSize := frame.unionSize } : Decoder).Uses r d' used := by
  unfold decode at h
  rw [hd] at h
  dsimp only at h
  cases hp : Frame.peek s with
  | error e =>
    rw [hp] at h
    cases h
    exact .inl ⟨rfl, e, rfl⟩
  | ok t =>
    rw [hp] at h
    dsimp only at h
    by_cases ht : t = .headers
    · rw [if_neg (not_not_intro ht)] at h
      rcases hf : Frame.decode s with ⟨e | frame, behind⟩
      · rw [hf] at h
        cases h
        exact .inl ⟨rfl, e, rfl⟩
      · rw [hf] at h
        dsimp only at h
        by_cases hzero : frame.unionSize = 0
        · rw [if_pos hzero] at h
          cases h
          exact .inr ⟨nofun, frame, _, [], rfl, rfl, rfl, rfl, fun _ _ => rfl, fun _ h => nomatch h⟩
        · rw [if_neg hzero] at h
          obtain ⟨used, hused, huses⟩ := decodeQpack_uses (by exact nofun) h
          refine .inr ⟨?_, frame, behind, used, rfl, hused, huses⟩
          cases r with
          | error e =>
            rw [huses.error e rfl]
            exact nofun
          | ok header =>
            rw [(huses.ok header rfl).2.2.1]
            split <;> exact nofun
    · rw [if_pos ht] at h
      cases h
      exact .inl ⟨rfl, _, rfl⟩

/-- `finished` is the last state. -/
theorem finished_iff {d : Decoder} : d.finished = true ↔ d.state = .fin := decide_eq_true_iff

/-- `started` is any but the first. -/
theorem started_iff {d : Decoder} : d.started = true ↔ d.state ≠ .frame := decide_eq_true_iff

/-! ## Any calls -/

namespace Payload

/-- What is done with a decoder: more of the stream comes, or a header is asked for. -/
inductive Action where
  | feed (chunk : Buffer)
  | decode

/-- A decoder and what it is fed, the frame that it has accepted, the stream behind that frame as far as it is
there, and the last answer. -/
structure World where
  decoder : Decoder := {}
  buffers : Buffers := {}
  accepted : Option Frame := none
  behind : List UInt8 := []
  answer : Except Error Header := .error .incomplete

/-- A call that accepts a frame is noted, with the stream behind the frame. -/
def step (w : World) : Action → Option World
  | .feed chunk =>
    some { w with buffers := w.buffers.push chunk, behind := w.behind ++ chunk.bytes }
  | .decode =>
    let (answer, decoder, buffers) := w.decoder.decode w.buffers
    if w.decoder.started = false ∧ decoder.started = true then
      let (frame, behind) := Frame.decode w.buffers
      some { decoder, buffers, accepted := frame.toOption, behind := behind.bytes, answer }
    else some { w with decoder, buffers, answer }

/-- A call behind a HEADERS frame of this size: the count is that of the bytes used up behind the frame, a header
comes off the payload alone, and `finished` with the header that ends it. -/
structure Within (size : UInt64) (w w' : World) : Prop where
  count : ∃ used, w'.behind = used ++ w'.buffers.bytes ∧ w'.decoder.qpack.count = used.length
  payload : ∀ header, w'.answer = .ok header → w'.decoder.qpack.count ≤ size.toNat ∧
    ∃ rest, w.decoder.qpack.decode
      (⟨(w'.behind.take size.toNat).drop w.decoder.qpack.count⟩ : Buffer) =
        (.ok header, w'.decoder.qpack, rest)
  finished : w.decoder.finished = false → (w'.decoder.finished = true ↔
    (∃ header, w'.answer = .ok header) ∧ w'.decoder.qpack.count = size.toNat)
  closed : w.decoder.finished = true → w'.decoder.finished = true ∧ ∃ e, w'.answer = .error e
  beyond : size.toNat < w'.decoder.qpack.count → ∃ e, w'.answer = .error e
  mono : w.decoder.qpack.count ≤ w'.decoder.qpack.count

/-- What is to hold of one action: more of the stream changes nothing of the decoder, and a call stays within
the frame that was accepted. -/
def Inside (w : World) (a : Action) (w' : World) : Prop :=
  match a with
  | .feed _ => w'.decoder = w.decoder
  | .decode => ∀ size, w'.accepted = some (.headers size) → Within size w w'

/-- In front of the frame nothing was counted; behind it, what was used up. -/
def Holds (w : World) : Prop :=
  match w.decoder.state with
  | .frame => w.accepted = none ∧ w.decoder.qpack.count = 0
  | _ => ∃ frame used, w.accepted = some frame ∧ w.decoder.headersSize = frame.unionSize ∧
      w.behind = used ++ w.buffers.bytes ∧ w.decoder.qpack.count = used.length

variable {w w' : World}

/-- The invariant, behind the frame. -/
theorem Holds.accepted (h : Holds w) (hs : w.decoder.state ≠ .frame) : ∃ frame used,
    w.accepted = some frame ∧ w.decoder.headersSize = frame.unionSize ∧
      w.behind = used ++ w.buffers.bytes ∧ w.decoder.qpack.count = used.length := by
  unfold Holds at h
  split at h
  · next hframe => exact absurd hframe hs
  · exact h

/-- Behind the frame, the invariant. -/
theorem holds_behind (hs : w.decoder.state ≠ .frame) (h : ∃ frame used, w.accepted = some frame ∧
    w.decoder.headersSize = frame.unionSize ∧ w.behind = used ++ w.buffers.bytes ∧
      w.decoder.qpack.count = used.length) : Holds w := by
  unfold Holds
  split
  · next hframe => exact absurd hframe hs
  · exact h

/-- A call that uses up these bytes stays within the payload, so many having been used up before. -/
theorem within_of_uses {d : Decoder} {size : UInt64} {before used : List UInt8}
    (hd : d.headersSize = size) (hcount : d.qpack.count = before.length)
    (hqpack : w.decoder.qpack = d.qpack) (hfin : w.decoder.finished = true ↔ d.state = .fin)
    (hbehind : w'.behind = before ++ used ++ w'.buffers.bytes)
    (huses : d.Uses w'.answer w'.decoder used) : Within size w w' where
  count := ⟨before ++ used, hbehind, by rw [huses.count, hcount, List.length_append]⟩
  payload header hheader := by
    obtain ⟨-, hle, -, hlocal⟩ := huses.ok header hheader
    rw [hd] at hle
    refine ⟨hle, ?_⟩
    have hlen : (before ++ used).length ≤ size.toNat := by
      rw [List.length_append, ← hcount, ← huses.count]
      exact hle
    have hpayload : (w'.behind.take size.toNat).drop before.length =
        used ++ w'.buffers.bytes.take (size.toNat - (before ++ used).length) := by
      rw [hbehind, List.take_append, List.take_of_length_le hlen, List.append_assoc, List.drop_left]
    rw [hqpack, hcount, hpayload]
    obtain ⟨s', hs', -⟩ := Sequence.of_onBytes
      ((Qpack.Decoder.decode_bytes d.qpack (⟨_⟩ : Buffer)).trans (hlocal _))
    exact ⟨s', hs'⟩
  finished hopen := by
    have hopen' : d.state ≠ .fin := fun h => by
      rw [hfin.mpr h] at hopen
      cases hopen
    rw [finished_iff]
    cases hanswer : w'.answer with
    | error e =>
      rw [huses.error e hanswer]
      exact ⟨fun h => absurd h hopen', fun h => nomatch h.1.choose_spec⟩
    | ok header =>
      rw [(huses.ok header hanswer).2.2.1, hd]
      by_cases hend : w'.decoder.qpack.count = size.toNat
      · rw [if_pos hend]
        exact ⟨fun _ => ⟨⟨header, rfl⟩, hend⟩, fun _ => rfl⟩
      · rw [if_neg hend]
        exact ⟨fun h => absurd h hopen', fun h => absurd h.2 hend⟩
  closed hclosed := by
    have hclosed' := hfin.mp hclosed
    cases hanswer : w'.answer with
    | error e => exact ⟨finished_iff.mpr ((huses.error e hanswer).trans hclosed'), e, rfl⟩
    | ok header => exact absurd hclosed' (huses.ok header hanswer).1
  beyond hover := by
    cases hanswer : w'.answer with
    | error e => exact ⟨e, rfl⟩
    | ok header =>
      have hle := (huses.ok header hanswer).2.1
      rw [hd] at hle
      exact absurd hover (Nat.not_lt.mpr hle)
  mono := by
    rw [hqpack, huses.count]
    exact Nat.le_add_right _ _

/-- Every call is as it should be, and keeps the count that of the bytes used up. -/
theorem step_inside (h : Holds w) (a : Action) :
    ∃ w', step w a = some w' ∧ Inside w a w' ∧ Holds w' := by
  cases a with
  | feed chunk =>
    refine ⟨_, rfl, rfl, ?_⟩
    by_cases hs : w.decoder.state = .frame
    · unfold Holds at h ⊢
      dsimp only
      rw [hs] at h ⊢
      exact h
    · obtain ⟨frame, used, haccepted, hsize, hbehind, hcount⟩ := h.accepted hs
      refine holds_behind hs ⟨frame, used, haccepted, hsize, ?_, hcount⟩
      rw [hbehind, Buffers.push_bytes, List.append_assoc]
  | decode =>
    unfold step
    dsimp only
    rcases hd : w.decoder.decode w.buffers with ⟨answer, decoder, buffers⟩
    dsimp only
    by_cases hs : w.decoder.state = .frame
    · have hidle : w.decoder.started = false := by
        rw [← Bool.not_eq_true, started_iff, hs]
        exact fun h => h rfl
      have hempty := h
      unfold Holds at hempty
      rw [hs] at hempty
      obtain ⟨haccepted, hcount⟩ := hempty
      rcases decode_frame hs hd with ⟨rfl, -⟩ | ⟨hleft, frame, behind, used, hframe, hused, huses⟩
      · rw [if_neg (by rw [hidle]; exact fun h => nomatch h.2)]
        refine ⟨_, rfl, fun size hsize => ?_, ?_⟩
        · exact nomatch haccepted.symm.trans hsize
        · unfold Holds
          dsimp only
          rw [hs]
          exact ⟨haccepted, hcount⟩
      · rw [if_pos ⟨hidle, started_iff.mpr hleft⟩, hframe]
        refine ⟨_, rfl, fun size hsize => ?_, holds_behind hleft ⟨frame, used, rfl, huses.size, hused, ?_⟩⟩
        · obtain rfl : frame = .headers size := Option.some.inj hsize
          refine within_of_uses
            (d := { w.decoder with state := .qpack, headersSize := (Frame.headers size).unionSize })
            rfl (hcount.trans List.length_nil.symm) rfl ?_ hused huses
          rw [finished_iff, hs]
          exact ⟨nofun, nofun⟩
        · rw [huses.count]
          dsimp only
          rw [hcount, Nat.zero_add]
    · have hbusy : w.decoder.started = true := started_iff.mpr hs
      rw [if_neg (by rw [hbusy]; exact fun h => nomatch h.1)]
      obtain ⟨frame, before, haccepted, hsize, hbehind, hcount⟩ := h.accepted hs
      obtain ⟨used, hused, huses⟩ := decode_uses hs hd
      rw [hused, ← List.append_assoc] at hbehind
      refine ⟨_, rfl, fun size hsome => ?_, holds_behind ?_ ⟨frame, before ++ used, haccepted, ?_, hbehind, ?_⟩⟩
      · obtain rfl : frame = .headers size := Option.some.inj (haccepted.symm.trans hsome)
        exact within_of_uses hsize hcount rfl finished_iff hbehind huses
      · dsimp only
        cases answer with
        | error e =>
          rw [huses.error e rfl]
          exact hs
        | ok header =>
          rw [(huses.ok header rfl).2.2.1]
          split
          · exact nofun
          · exact hs
      · exact huses.size.trans hsize
      · rw [List.length_append, ← hcount]
        exact huses.count

/-- **Headers stay inside the payload of their frame**, whatever is fed and however often it is tried. -/
theorem inside_always (actions : List Action) : Run.Always step Inside {} actions :=
  Run.always_of_step (I := Holds) (fun _ a h => step_inside h a) ⟨rfl, rfl⟩

/-- A block of three bytes that come one after the other. -/
example : (Run.after step {} [.feed ⟨[0x01, 0x03, 0x00]⟩, .decode, .feed ⟨[0x00]⟩, .decode,
    .feed ⟨[0xd1]⟩, .decode]).map (fun w => (w.answer, w.decoder.finished)) =
      some (.ok ⟨ascii ":method", ascii "GET"⟩, true) := by decide

end Payload

end Headers.Decoder

end Bnl.Http3
