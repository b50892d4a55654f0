import Bnl.Endpoint.Request
import Bnl.Laws.Body
import Bnl.Laws.Headers
import Bnl.Laws.Unknown
import Bnl.Library.Run

/-!
# A request stream behind its FIN

Behind FIN a receiver that runs out of bytes reports a malformed frame. But where another frame stands where the
next part of the message was to be, `process` decodes that frame itself, and answers as if more bytes were to
come when it is cut off.

**The law** is `answers_always_iff`, for both receivers and any calls in any order. Its condition is on the
state before a call: that a frame interrupts the message, and that it is cut off. Both are said of the bytes and
of what `peek` finds in them. `process_incomplete_iff` is the same of one call, and from it the runs follow step
by step, since every step is admitted or fails.

There is one place for it: the end of `process`, behind a decoder that answered `delegate`. That nothing else in
the receiver answers `incomplete` behind FIN takes going through every way a call may end; a decoder that is
short is one that the check in front of that place catches.
-/

namespace Bnl.Http3

open Incremental Bnl.Base

/-! ## Where a decoder asks for another frame -/

section Delegate

variable {σ β : Type} [Storage β]

namespace Frame

/-- No frame fails with `delegate`. -/
theorem single_ne_delegate {b : List UInt8} : single b ≠ .error .delegate := by
  intro h
  have hl : (Sequence.lookahead (⟨b⟩ : Buffer)).bytes = b := Sequence.lookahead_bytes (⟨b⟩ : Buffer)
  have herror := (decodeSingle_follows (Sequence.lookahead (⟨b⟩ : Buffer))).of_error (hl.symm ▸ h)
  exact (of_skipped_error herror).2 rfl

theorem decode_ne_delegate [Sequence σ β] (s : σ) : (decode s).1 ≠ .error .delegate := by
  intro h
  have hbytes : decodeBytes (Sequence.bytes s) = (.error .delegate, Sequence.bytes (decode s).2) := by
    rw [← decode_bytes, h]
  exact single_ne_delegate (decodeBytes_error_split hbytes).1

/-- `peek` fails with `incomplete` only. -/
theorem peekParser_patient : Patient .incomplete peekParser := by
  refine FailsWith.loop peekRound_advances (fun _ => Varint.parser_patient.bind fun v => ?_) ()
  cases FrameType.ofValue v <;> exact FailsWith.pure _

theorem peek_ne_delegate [Sequence σ β] (s : σ) : peek s ≠ .error .delegate := by
  rw [peek_eq]
  cases h : peekParser (Sequence.bytes s) with
  | error e =>
    obtain rfl := peekParser_patient _ _ h
    exact nofun
  | ok q => exact nofun

end Frame

namespace Headers.Decoder

/-- The decoder asks for another frame where one of another type is peeked at, and touches nothing. -/
theorem decode_delegate [Sequence σ β] {d d' : Decoder} {s s' : σ}
    (h : d.decode s = (.error .delegate, d', s')) :
    d.state = .frame ∧ (∃ t, Frame.peek s = .ok t ∧ t ≠ .headers) ∧ d' = d ∧ s' = s := by
  have hqpack {d : Decoder} {s : σ} (h : d.decodeQpack s = (.error .delegate, d', s')) : False := by
    unfold decodeQpack at h
    have hbytes := d.qpack.decode_bytes s
    rcases hq : d.qpack.decode s with ⟨e | header, q, s''⟩
    · rw [hq] at h hbytes
      cases h
      rcases Qpack.Decoder.decodeBytes_failsWith hbytes.symm with h | h | h <;> cases h
    · rw [hq] at h
      dsimp only at h
      split at h <;> cases h
  unfold decode at h
  cases hd : d.state with
  | frame =>
    rw [hd] at h
    dsimp only at h
    cases hp : Frame.peek s with
    | error e =>
      rw [hp] at h
      cases h
      exact absurd hp (Frame.peek_ne_delegate s)
    | ok t =>
      rw [hp] at h
      dsimp only at h
      by_cases ht : t = .headers
      · rw [if_neg (not_not_intro ht)] at h
        rcases hf : Frame.decode s with ⟨e | frame, s''⟩
        · rw [hf] at h
          cases h
          exact absurd (congrArg Prod.fst hf) (Frame.decode_ne_delegate s)
        · rw [hf] at h
          dsimp only at h
          split at h
          · cases h
          · exact (hqpack h).elim
      · rw [if_pos ht] at h
        cases h
        exact ⟨rfl, ⟨t, rfl, ht⟩, rfl, rfl⟩
  | qpack =>
    rw [hd] at h
    exact (hqpack h).elim
  | fin =>
    rw [hd] at h
    cases h

/-- Where another frame is peeked at, it is left to the caller. -/
theorem decode_interrupted [Sequence σ β] {d : Decoder} {s : σ} (hd : d.state = .frame) {t : Frame.FrameType}
    (hp : Frame.peek s = .ok t) (ht : t ≠ .headers) : d.decode s = (.error .delegate, d, s) := by
  unfold decode
  rw [hd]
  dsimp only
  rw [hp]
  dsimp only
  rw [if_pos ht]

end Headers.Decoder

namespace Body.Decoder

/-- `delegate` is answered where another frame is peeked at, and touches nothing. -/
theorem decode_delegate [Sliceable σ β] {d d' : Decoder} {s s' : σ}
    (h : d.decode s = (.error .delegate, d', s')) :
    d.state = .frame ∧ (∃ t, Frame.peek s = .ok t ∧ t ≠ .data) ∧ d' = d ∧ s' = s := by
  have hdata {d : Decoder} {s : σ} (h : d.decodeData s = (.error .delegate, d', s')) : False := by
    unfold decodeData at h
    split at h <;> cases h
  unfold decode at h
  cases hd : d.state with
  | frame =>
    rw [hd] at h
    dsimp only at h
    cases hp : Frame.peek s with
    | error e =>
      rw [hp] at h
      cases h
      exact absurd hp (Frame.peek_ne_delegate s)
    | ok t =>
      rw [hp] at h
      dsimp only at h
      by_cases ht : t = .data
      · rw [if_neg (not_not_intro ht)] at h
        rcases hf : Frame.decode s with ⟨e | frame, s''⟩
        · rw [hf] at h
          cases h
          exact absurd (congrArg Prod.fst hf) (Frame.decode_ne_delegate s)
        · rw [hf] at h
          exact (hdata h).elim
      · rw [if_pos ht] at h
        cases h
        exact ⟨rfl, ⟨t, rfl, ht⟩, rfl, rfl⟩
  | data =>
    rw [hd] at h
    exact (hdata h).elim

/-- Where another frame is peeked at, it is left to the caller. -/
theorem decode_interrupted [Sliceable σ β] {d : Decoder} {s : σ} (hd : d.state = .frame) {t : Frame.FrameType}
    (hp : Frame.peek s = .ok t) (ht : t ≠ .data) : d.decode s = (.error .delegate, d, s) := by
  unfold decode
  rw [hd]
  dsimp only
  rw [hp]
  dsimp only
  rw [if_pos ht]

end Body.Decoder

end Delegate

namespace Endpoint.Request.AfterFin

/-- The bytes end in a frame, behind whole frames of unknown type. -/
def CutOff (b : List UInt8) : Prop :=
  ∃ (frames : List (List UInt8)) (rest : List UInt8), b = frames.flatten ++ rest ∧ (∀ c ∈ frames, Frame.Unknown c) ∧
    Frame.single rest = .error .incomplete

/-- The next part of the message is to begin, and the frame that peek finds is of another type. -/
def Interrupted (r : Receiver) : Prop :=
  r.state = .headers ∧ r.headers.state = .frame ∧ (∃ t, Frame.peek r.buffers = .ok t ∧ t ≠ .headers) ∨
    r.state = .body ∧ r.body.state = .frame ∧ ∃ t, Frame.peek r.buffers = .ok t ∧ t ≠ .data

/-- A receiver and what it answered last. -/
structure World where
  receiver : Receiver
  answer : Except Error Event := .error .incomplete

/-- What is done with a receiver. -/
inductive Action where
  | start
  | recv (data : Quic.Data)
  | process

/-- An action; a receiver is started once. -/
def step (f : ProcessFrame) (w : World) : Action → Option World
  | .start => some { w with receiver := if w.receiver.closed then w.receiver.start else w.receiver }
  | .recv data => some { w with receiver := (w.receiver.recv data).2 }
  | .process =>
    let (answer, receiver) := w.receiver.process f
    some { receiver, answer }

/-- Behind FIN the receiver does not wait. -/
def Answers (w : World) (a : Action) (w' : World) : Prop :=
  match a with
  | .process => w.receiver.finReceived = true → w'.answer ≠ .error .incomplete
  | _ => True

/-- Behind FIN, what interrupts the message is not cut off. -/
def Admits (w : World) : Action → Prop
  | .process => w.receiver.finReceived = true → Interrupted w.receiver →
      ¬ CutOff (Sequence.bytes w.receiver.buffers)
  | _ => True

/-! ## One call -/

/-- `decode` waits exactly for frames that are cut off. -/
theorem decode_incomplete_iff {s : Buffers} :
    (Frame.decode s).1 = .error .incomplete ↔ CutOff (Sequence.bytes s) := by
  constructor
  · intro h
    have hbytes : Frame.decodeBytes (Sequence.bytes s) =
        (.error .incomplete, Sequence.bytes (Frame.decode s).2) := by
      rw [← Frame.decode_bytes, h]
    obtain ⟨herror, frames, hframes, hsplit⟩ := Frame.decodeBytes_error_split hbytes
    exact ⟨frames, _, hsplit, hframes, herror⟩
  · rintro ⟨frames, rest, hsplit, hframes, herror⟩
    have hbytes : Frame.decodeBytes (Sequence.bytes s) = (.error .incomplete, rest) := by
      rw [hsplit, Frame.decodeBytes_skip hframes, Frame.decodeBytes_error herror]
    rw [← Frame.decode_bytes] at hbytes
    exact (Prod.mk.inj hbytes).1

variable {f : ProcessFrame} {r : Receiver}

/-- What a receiver does with a frame that is not part of the message is not to wait. -/
def Decides (f : ProcessFrame) : Prop := ∀ headers frame, f headers frame ≠ .error .incomplete

theorem decides_of_side (hf : f = clientProcess ∨ f = serverProcess) : Decides f := by
  intro headers frame
  rcases hf with rfl | rfl
  · cases frame <;> exact nofun
  · cases frame with
    | priority p =>
      unfold serverProcess
      dsimp only
      split <;> exact nofun
    | _ => exact nofun

/-- Behind FIN an error is `incomplete` only where the frame that was asked for is cut off. -/
theorem handleError_incomplete_iff (hf : Decides f) (hfin : r.finReceived = true) {e : Error} :
    (r.handleError f e).1 = .error .incomplete ↔
      e = .delegate ∧ (Frame.decode r.buffers).1 = .error .incomplete := by
  unfold Receiver.handleError
  by_cases hinc : e = .incomplete
  · subst hinc
    rw [if_pos ⟨rfl, hfin⟩]
    exact ⟨nofun, nofun⟩
  rw [if_neg fun h => hinc h.1]
  by_cases hdelegate : e = .delegate
  · subst hdelegate
    rw [if_pos rfl]
    rcases Frame.decode r.buffers with ⟨error | frame, buffers⟩
    · dsimp only
      exact ⟨fun h => ⟨rfl, congrArg Except.error (Except.error.inj h)⟩,
        fun h => congrArg Except.error (Except.error.inj h.2)⟩
    · refine ⟨fun h => ?_, fun h => nomatch h.2⟩
      dsimp only at h
      cases frame with
      | headers size =>
        dsimp only at h
        split at h <;> cases h
      | data size => cases h
      | settings s => cases h
      | maxPushId pushId => cases h
      | cancelPush pushId => cases h
      | goaway streamId => cases h
      | priority p => exact absurd h (hf _ _)
      | pushPromise pushId size => exact absurd h (hf _ _)
      | duplicatePush pushId => exact absurd h (hf _ _)
  · rw [if_neg hdelegate]
    exact ⟨fun h => absurd (Except.error.inj h) hinc, fun h => absurd h.1 hdelegate⟩

/-- **When a receiver waits behind FIN.** -/
theorem process_incomplete_iff (hf : Decides f) (hfin : r.finReceived = true) :
    (r.process f).1 = .error .incomplete ↔ Interrupted r ∧ CutOff (Sequence.bytes r.buffers) := by
  rw [← decode_incomplete_iff]
  unfold Receiver.process Interrupted
  cases hs : r.state with
  | closed => exact ⟨nofun, nofun⟩
  | fin => exact ⟨nofun, nofun⟩
  | headers =>
    dsimp only
    rcases hd : r.headers.decode r.buffers with ⟨e | header, d, b⟩
    · dsimp only
      refine (handleError_incomplete_iff (r := ⟨_, b, r.finReceived, d, _, _⟩) hf hfin).trans ?_
      constructor
      · rintro ⟨rfl, hcut⟩
        obtain ⟨hframe, hpeek, -, rfl⟩ := Headers.Decoder.decode_delegate hd
        exact ⟨.inl ⟨rfl, hframe, hpeek⟩, hcut⟩
      · rintro ⟨⟨-, hframe, t, hp, ht⟩ | ⟨hbody, -⟩, hcut⟩
        · rw [Headers.Decoder.decode_interrupted hframe hp ht] at hd
          cases hd
          exact ⟨rfl, hcut⟩
        · cases hbody
    · refine ⟨nofun, ?_⟩
      rintro ⟨⟨-, hframe, t, hp, ht⟩ | ⟨hbody, -⟩, -⟩
      · rw [Headers.Decoder.decode_interrupted hframe hp ht] at hd
        cases hd
      · cases hbody
  | body =>
    dsimp only
    rcases hd : r.body.decode r.buffers with ⟨e | part, d, b⟩
    · dsimp only
      refine (handleError_incomplete_iff (r := ⟨_, b, r.finReceived, _, d, _⟩) hf hfin).trans ?_
      constructor
      · rintro ⟨rfl, hcut⟩
        obtain ⟨hframe, hpeek, -, rfl⟩ := Body.Decoder.decode_delegate hd
        exact ⟨.inr ⟨rfl, hframe, hpeek⟩, hcut⟩
      · rintro ⟨⟨hheaders, -⟩ | ⟨-, hframe, t, hp, ht⟩, hcut⟩
        · cases hheaders
        · rw [Body.Decoder.decode_interrupted hframe hp ht] at hd
          cases hd
          exact ⟨rfl, hcut⟩
    · constructor
      · intro h
        dsimp only at h
        split at h
        · split at h <;> cases h
        · cases h
      · rintro ⟨⟨hheaders, -⟩ | ⟨-, hframe, t, hp, ht⟩, -⟩
        · cases hheaders
        · rw [Body.Decoder.decode_interrupted hframe hp ht] at hd
          cases hd

/-! ## Runs -/

/-- A new receiver. -/
def start (id : UInt64) : World := { receiver := { id } }

/-- An admitted call does not wait, and one that is not admitted does. -/
theorem step_answers (hf : Decides f) (w : World) (a : Action) :
    Admits w a ↔ ∃ w', step f w a = some w' ∧ Answers w a w' := by
  cases a with
  | start => exact ⟨fun _ => ⟨_, rfl, trivial⟩, fun _ => trivial⟩
  | recv data => exact ⟨fun _ => ⟨_, rfl, trivial⟩, fun _ => trivial⟩
  | process =>
    constructor
    · refine fun ha => ⟨_, rfl, fun hfin hinc => ?_⟩
      obtain ⟨hinterrupted, hcut⟩ := (process_incomplete_iff hf hfin).mp hinc
      exact ha hfin hinterrupted hcut
    · rintro ⟨w', hs, hanswers⟩ hfin hinterrupted hcut
      cases hs
      exact hanswers hfin ((process_incomplete_iff hf hfin).mpr ⟨hinterrupted, hcut⟩)

/-- **Behind FIN a receiver never waits in exactly those runs in which nothing that interrupts the message
is cut off.** -/
theorem answers_always_iff (hf : f = clientProcess ∨ f = serverProcess) (id : UInt64)
    (actions : List Action) : Run.Always (step f) Answers (start id) actions ↔
      Run.Meets (step f) Admits (start id) actions :=
  Run.always_iff (I := fun _ => True) (fun w a _ => step_answers (decides_of_side hf) w a)
    (fun _ _ _ _ _ _ => trivial) trivial

/-- The beginning of a HEADERS frame is no interruption. -/
theorem answers_always_headers : Run.Always (step serverProcess) Answers (start 0)
    [.start, .recv { id := 0, fin := true, buffer := ⟨[0x01]⟩ }, .process] := by
  refine (answers_always_iff (.inr rfl) 0 _).mpr ⟨trivial, trivial, fun _ hinterrupted => ?_, trivial⟩
  have hpeek : Frame.peek (⟨[⟨[0x01]⟩]⟩ : Buffers) = .ok .headers := by decide
  rcases hinterrupted with ⟨-, -, t, hp, ht⟩ | ⟨hbody, -⟩
  · exact absurd (Except.ok.inj (hp.symm.trans hpeek)) ht
  · cases hbody

/-- A CANCEL_PUSH frame of which only the type is there. -/
theorem answers_always_not : ¬ ∀ (id : UInt64) (actions : List Action),
    Run.Always (step serverProcess) Answers (start id) actions := by
  intro h
  have hlast := (h 0 ([.start, .recv { id := 0, fin := true, buffer := ⟨[0x03]⟩ }] ++ [.process])).last
    rfl rfl
  exact hlast rfl (by decide)

end Endpoint.Request.AfterFin

end Bnl.Http3
