import Bnl.Endpoint.Connection
import Bnl.Laws.FrameWire

/-!
# Laws of `request::sender`

What a call of `send` comes to can be told from the state alone: nothing to send yet (`waits`), the last event
(`lastLeft`), or one in between. A sender that is finished has nothing queued (`Sound`).

**The laws** are `lastLeft_of_send`, that the send which finishes a sender is the one that had the last of it to
send, and `Sound.queued_eq`. A connection erases by the first and loses nothing by the second.

The rest is what they need. An encoder that fails has failed with an overflow, since that is the only error
below it (`Overflows`, one lemma for each function that may fail); so a sender whose encoder is not idle either
sends or keeps its state. `Sound` is kept by every call, whether it is accepted or refused, a case for each
state of each encoder.

What the events carry is not looked at here. That is `Sending`.
-/

namespace Bnl.Http3

open Bnl.Base

/-! ## The only error of the encoders -/

/-- A computation that fails with `varint_overflow` at most. -/
def Overflows {α : Type} (x : Except Error α) : Prop := ∀ e, x = .error e → e = .varintOverflow

namespace Overflows

variable {α β : Type}

/-- An answer is no error. -/
theorem ok (a : α) : Overflows (.ok a) := fun _ h => nomatch h

/-- Two functions, one after the other. -/
theorem bind {x : Except Error α} {f : α → Except Error β} (hx : Overflows x)
    (hf : ∀ a, Overflows (f a)) : Overflows (x >>= f) := by
  intro e h
  cases x with
  | error e' =>
    cases h
    exact hx e rfl
  | ok a => exact hf a e h

end Overflows

/-- A varint has a size or overflows. -/
theorem Varint.encodedSize_overflows (v : UInt64) : Overflows (encodedSize v) := by
  intro e h
  unfold encodedSize at h
  split at h
  · cases h
  split at h
  · cases h
  split at h
  · cases h
  split at h
  · cases h
  · cases h
    rfl

theorem Varint.encode_overflows (m : Memory) (dest : Nat) (v : UInt64) :
    Overflows (encode m dest v) := by
  refine (encodedSize_overflows v).bind fun n => ?_
  split <;> exact Overflows.ok _

theorem Varint.encodeBuffer_overflows (host : Host) (v : UInt64) :
    Overflows (encodeBuffer host v) :=
  (encodedSize_overflows v).bind fun _ =>
    (encode_overflows host.storage 0 v).bind fun _ => Overflows.ok _

namespace Frame

/-- Settings have a size or one overflows. -/
theorem settingsSize_overflows (settings : List (UInt64 × UInt64)) (n : UInt64) :
    Overflows (settingsSize settings n) := by
  induction settings generalizing n with
  | nil => exact Overflows.ok n
  | cons setting settings ih =>
    exact (Varint.encodedSize_overflows _).bind fun _ =>
      (Varint.encodedSize_overflows _).bind fun _ => ih _

theorem payloadSize_overflows (frame : Frame) : Overflows frame.payloadSize := by
  have hone (v : UInt64) (k : Nat → UInt64) :
      Overflows (Varint.encodedSize v >>= fun n => pure (k n)) :=
    (Varint.encodedSize_overflows v).bind fun _ => Overflows.ok _
  cases frame with
  | data size => exact Overflows.ok size
  | headers size => exact Overflows.ok size
  | priority p =>
    exact (Varint.encodedSize_overflows _).bind fun _ =>
      (Varint.encodedSize_overflows _).bind fun _ => Overflows.ok _
  | settings s => exact settingsSize_overflows _ _
  | cancelPush pushId => exact hone pushId _
  | pushPromise pushId size => exact hone pushId _
  | goaway streamId => exact hone streamId _
  | maxPushId pushId => exact hone pushId _
  | duplicatePush pushId => exact hone pushId _

/-- A varint has a size or overflows. -/
theorem encodedSize_overflows (frame : Frame) : Overflows frame.encodedSize := by
  refine frame.payloadSize_overflows.bind fun n => ?_
  have hend (k : Nat) : Overflows (do
      let typeSize ← Varint.encodedSize frame.type.value
      let sizeSize ← Varint.encodedSize n
      pure (typeSize + sizeSize + k)) :=
    (Varint.encodedSize_overflows _).bind fun _ =>
      (Varint.encodedSize_overflows _).bind fun _ => Overflows.ok _
  cases frame with
  | pushPromise pushId size => exact (Varint.encodedSize_overflows pushId).bind hend
  | _ => exact (Overflows.ok _).bind hend

/-- The loop over the settings fails with an overflow only. -/
theorem encodeSettings_overflows (m : Memory) (dest : Nat) (settings : List (UInt64 × UInt64)) :
    Overflows (encodeSettings m dest settings) := by
  induction settings generalizing m dest with
  | nil => exact Overflows.ok _
  | cons setting settings ih =>
    exact (Varint.encode_overflows _ _ _).bind fun _ =>
      (Varint.encode_overflows _ _ _).bind fun _ => ih _ _

theorem encodePayload_overflows (m : Memory) (dest : Nat) (frame : Frame) :
    Overflows (encodePayload m dest frame) := by
  have hone (v : UInt64) : Overflows
      (Varint.encode m dest v >>= fun r => (pure (dest + r.1, r.2) : Except Error _)) :=
    (Varint.encode_overflows m dest v).bind fun _ => Overflows.ok _
  cases frame with
  | data size => exact Overflows.ok _
  | headers size => exact Overflows.ok _
  | priority p =>
    exact (Varint.encode_overflows _ _ _).bind fun _ =>
      (Varint.encode_overflows _ _ _).bind fun _ => Overflows.ok _
  | settings s => exact encodeSettings_overflows _ _ _
  | cancelPush pushId => exact hone pushId
  | pushPromise pushId size => exact hone pushId
  | goaway streamId => exact hone streamId
  | maxPushId pushId => exact hone pushId
  | duplicatePush pushId => exact hone pushId

theorem encodeBuffer_overflows (host : Host) (frame : Frame) : Overflows (frame.encodeBuffer host) :=
  frame.encodedSize_overflows.bind fun _ => Overflows.bind
    (frame.payloadSize_overflows.bind fun _ =>
      (Varint.encode_overflows _ _ _).bind fun _ =>
        (Varint.encode_overflows _ _ _).bind fun _ =>
          (encodePayload_overflows _ _ _).bind fun _ => Overflows.ok _)
    fun _ => Overflows.ok _

end Frame

/-! ## Nothing queued behind the end -/

namespace Headers.Encoder

/-- An encoder that is finished has nothing queued. -/
def Sound (e : Encoder) : Prop := e.state = .fin → e.buffers.bytes = []

variable {host : Host} {e : Encoder}

/-- A header keeps the encoder sound. -/
theorem Sound.add (h : e.Sound) (header : Header) : (e.add host header).2.Sound := by
  unfold Encoder.add
  split
  · exact h
  · next hidle =>
    have hidle := not_not.mp hidle
    rcases e.qpack.encodeBuffer host header with ⟨r | b, qpack⟩
    · exact h
    · intro hfin
      exact nomatch hidle.symm.trans hfin

theorem Sound.fin (h : e.Sound) : e.fin.2.Sound := by
  unfold Encoder.fin
  split
  · exact h
  · exact nofun

theorem Sound.encode (h : e.Sound) : (e.encode host).2.Sound := by
  unfold Encoder.encode
  split
  · exact h
  · split
    · exact h
    · exact nofun
  · next hs =>
    intro hfin
    dsimp only at hfin ⊢
    split at hfin
    · next hempty => exact Buffers.empty_iff.mp hempty
    · exact nomatch hs.symm.trans hfin
  · exact h

/-- A buffer changes no state. -/
theorem add_state (header : Header) : (e.add host header).2.state = e.state := by
  unfold Encoder.add
  split
  · rfl
  · rcases e.qpack.encodeBuffer host header with ⟨r | b, qpack⟩ <;> rfl

/-- An encoder that has ended does not begin again. -/
theorem fin_state (h : e.state = .fin) : e.fin.2.state = .fin := by
  unfold Encoder.fin
  rw [if_pos (by rw [h]; nofun)]
  exact h

end Headers.Encoder

namespace Body.Encoder

/-- An encoder that is finished has nothing queued, and takes nothing more. -/
def Sound (e : Encoder) : Prop := e.state = .fin → e.buffers.bytes = [] ∧ e.fin_ = true

variable {host : Host} {e : Encoder}

theorem add_state (buffer : Buffer) : (e.add buffer).2.state = e.state := by
  unfold Encoder.add
  split <;> rfl

/-- A body that has ended does not begin again. -/
theorem fin_state (h : e.state = .fin) : e.fin.2.state = .fin := by
  unfold Encoder.fin
  rw [if_pos h]
  exact h

/-- A buffer keeps the body's encoder sound. -/
theorem Sound.add (h : e.Sound) (buffer : Buffer) : (e.add buffer).2.Sound := by
  unfold Encoder.add
  split
  · exact h
  · next hopen =>
    intro hfin
    exact absurd (h hfin).2 hopen

theorem Sound.fin (h : e.Sound) : e.fin.2.Sound := by
  unfold Encoder.fin
  split
  · exact h
  · next hlive =>
    dsimp only
    split
    · next hempty => exact fun _ => ⟨Buffers.empty_iff.mp hempty, rfl⟩
    · exact fun hfin => absurd hfin hlive

theorem Sound.encode (h : e.Sound) : (e.encode host).2.Sound := by
  unfold Encoder.encode
  split
  · split
    · exact h
    · split
      · exact h
      · exact nofun
  · intro hfin
    dsimp only at hfin ⊢
    split at hfin
    · next hlast =>
      rw [Bool.and_eq_true] at hlast
      exact ⟨Buffers.empty_iff.mp hlast.2, hlast.1⟩
    · cases hfin
  · exact h

end Body.Encoder

namespace Endpoint

/-! ## The control stream -/

/-- The control stream has nothing to send once it is idle, and only then. -/
theorem Control.Sender.idle_of_send {host : Host} {s s' : Control.Sender}
    (h : s.send host = (.error .idle, s')) : s.state = .idle ∧ s' = s := by
  unfold send at h
  split at h
  · split at h
    · next he =>
      cases h
      cases Varint.encodeBuffer_overflows _ _ _ he
    · cases h
  · split at h
    · next he =>
      cases h
      cases Frame.encodeBuffer_overflows _ _ _ he
    · cases h
  · next hs =>
    cases h
    exact ⟨hs, rfl⟩

/-- What the control stream sends is never the last of it. -/
theorem Control.Sender.send_ok {host : Host} {s s' : Control.Sender} {event : Quic.Event}
    (h : s.send host = (.ok event, s')) :
    ∃ data : Quic.Data, event = .data data ∧ data.id = s.id ∧ data.fin = false := by
  unfold send at h
  split at h
  · split at h
    · cases h
    · cases h
      exact ⟨_, rfl, rfl, rfl⟩
  · split at h
    · cases h
    · cases h
      exact ⟨_, rfl, rfl, rfl⟩
  · cases h

/-- The control stream keeps its id. -/
theorem Control.Sender.send_id (host : Host) (s : Control.Sender) : (s.send host).2.id = s.id := by
  unfold send
  split
  · split <;> rfl
  · split <;> rfl
  · rfl

namespace Request.Sender

variable {host : Host} {s : Sender}

/-! ## What a call of `send` answers -/

/-- A buffer of the headers is an event. -/
theorem send_headers_ok {encoded : Buffer} {headers_ : Headers.Encoder} (hs : s.state = .headers)
    (he : s.headers_.encode host = (.ok encoded, headers_)) :
    s.send host = (.ok (.data
      { id := s.id, fin := headers_.finished && s.body_.finished, buffer := encoded }),
      { s with
        headers_
        state := if headers_.finished then (if s.body_.finished then .fin else .body) else .headers }) := by
  unfold send
  rw [hs]
  dsimp only
  rw [he]

theorem send_headers_error {error : Error} {headers_ : Headers.Encoder} (hs : s.state = .headers)
    (he : s.headers_.encode host = (.error error, headers_)) :
    s.send host = (.error error, { s with headers_ }) := by
  unfold send
  rw [hs]
  dsimp only
  rw [he]

/-- A buffer of the body is an event, and the last one carries FIN. -/
theorem send_body_ok {encoded : Buffer} {body_ : Body.Encoder} (hs : s.state = .body)
    (he : s.body_.encode host = (.ok encoded, body_)) :
    s.send host = (.ok (.data { id := s.id, fin := body_.finished, buffer := encoded }),
      { s with body_, state := if body_.finished then .fin else .body }) := by
  unfold send
  rw [hs]
  dsimp only
  rw [he]

theorem send_body_error {error : Error} {body_ : Body.Encoder} (hs : s.state = .body)
    (he : s.body_.encode host = (.error error, body_)) :
    s.send host = (.error error, { s with body_ }) := by
  unfold send
  rw [hs]
  dsimp only
  rw [he]

/-- A sender that is finished is not to be asked. -/
theorem send_fin (hs : s.state = .fin) : s.send host = (.error .internal, s) := by
  unfold send
  rw [hs]

/-! ## What a call of `send` comes to -/

/-- There is nothing to send: the application has not started, or the body it added is sent. -/
def waits (s : Sender) : Bool :=
  match s.state with
  | .headers => s.headers_.state = .idle
  | .body => s.body_.state = .frame && s.body_.buffers.empty
  | .fin => false

/-- What is queued is the last of it, and the application has called `fin`. -/
def lastLeft (s : Sender) : Bool :=
  match s.state with
  | .headers => s.headers_.state = .qpack && s.headers_.buffers.pop.2.empty && s.body_.finished
  | .body => s.body_.state = .data && s.body_.fin_ && s.body_.buffers.pop.2.empty
  | .fin => false

/-- A sender that is idle had nothing to send. -/
theorem waits_of_send (h : (s.send host).1 = .error .idle) : s.waits = true := by
  obtain ⟨state, headers_, body_, id⟩ := s
  cases state with
  | fin => cases h
  | headers =>
    obtain ⟨hstate, buffers, qpack⟩ := headers_
    cases hstate with
    | idle => rfl
    | qpack => cases h
    | fin => cases h
    | frame =>
      unfold send Headers.Encoder.encode at h
      dsimp only at h
      rcases he : (Frame.headers (UInt64.ofNat qpack.count)).encodeBuffer host with e | b
      · rw [he] at h
        cases h
        cases Frame.encodeBuffer_overflows _ _ _ he
      · rw [he] at h
        cases h
  | body =>
    obtain ⟨bstate, fin_, buffers⟩ := body_
    cases bstate with
    | data => cases h
    | fin => cases h
    | frame =>
      unfold waits
      by_cases hempty : buffers.empty = true
      · dsimp only
        rw [hempty]
        rfl
      · unfold send Body.Encoder.encode at h
        dsimp only at h
        rw [if_neg hempty] at h
        rcases he : (Frame.data (UInt64.ofNat buffers.front.size)).encodeBuffer host with e | b
        · rw [he] at h
          cases h
          cases Frame.encodeBuffer_overflows _ _ _ he
        · rw [he] at h
          cases h

/-- **The send that finishes a sender is the one that has the last of it to send.** -/
theorem lastLeft_of_send (hs : s.finished = false) (h : (s.send host).2.finished = true) :
    s.lastLeft = true := by
  obtain ⟨state, headers_, body_, id⟩ := s
  cases state with
  | fin => cases hs
  | headers =>
    obtain ⟨hstate, buffers, qpack⟩ := headers_
    cases hstate with
    | idle => cases h
    | fin => cases h
    | frame =>
      unfold send Headers.Encoder.encode at h
      dsimp only at h
      rcases he : (Frame.headers (UInt64.ofNat qpack.count)).encodeBuffer host with e | b
      · rw [he] at h
        cases h
      · rw [he] at h
        cases h
    | qpack =>
      unfold send Headers.Encoder.encode finished Headers.Encoder.finished at h
      unfold lastLeft
      dsimp only at h ⊢
      rcases hp : buffers.pop with ⟨b, rest⟩
      rw [hp] at h
      by_cases hempty : rest.empty = true
      · by_cases hfin : body_.finished = true
        · simp [hempty, hfin]
        · simp [hempty, hfin] at h
      · simp [hempty] at h
  | body =>
    obtain ⟨bstate, fin_, buffers⟩ := body_
    cases bstate with
    | fin => cases h
    | frame =>
      unfold send Body.Encoder.encode at h
      dsimp only at h
      by_cases hempty : buffers.empty = true
      · rw [if_pos hempty] at h
        cases h
      · rw [if_neg hempty] at h
        rcases he : (Frame.data (UInt64.ofNat buffers.front.size)).encodeBuffer host with e | b
        · rw [he] at h
          cases h
        · rw [he] at h
          cases h
    | data =>
      unfold send Body.Encoder.encode finished Body.Encoder.finished at h
      unfold lastLeft
      dsimp only at h ⊢
      rcases hp : buffers.pop with ⟨b, rest⟩
      rw [hp] at h
      by_cases hempty : rest.empty = true
      · cases fin_ with
        | false => simp at h
        | true => simp [hempty]
      · simp [hempty] at h

/-- The event that comes with FIN is the one that finishes the sender. -/
theorem send_ok {event : Quic.Event} {s' : Sender} (h : s.send host = (.ok event, s')) :
    ∃ data : Quic.Data, event = .data data ∧ data.id = s.id ∧ data.fin = s'.finished := by
  unfold send at h
  split at h
  · next hs =>
    split at h
    · cases h
    · cases h
      refine ⟨_, rfl, rfl, ?_⟩
      unfold finished
      dsimp only
      split
      · next hheaders =>
        rw [hheaders, Bool.true_and]
        split
        · next hbody => exact hbody
        · next hbody => exact eq_false_of_ne_true hbody
      · next hheaders =>
        rw [eq_false_of_ne_true hheaders, Bool.false_and, hs]
        rfl
  · next hs =>
    split at h
    · cases h
    · cases h
      refine ⟨_, rfl, rfl, ?_⟩
      unfold finished
      dsimp only
      split
      · next hbody => exact hbody
      · next hbody =>
        rw [eq_false_of_ne_true hbody, hs]
        rfl
  · cases h

/-- A sender keeps its id. -/
theorem send_id (host : Host) (s : Sender) : (s.send host).2.id = s.id := by
  unfold send
  split
  · split <;> rfl
  · split <;> rfl
  · rfl

/-- One that is finished stays as it is. -/
theorem send_finished (h : s.finished = true) : (s.send host).2 = s := by
  rw [send_fin (of_decide_eq_true h)]

/-- Only one that is not finished sends. -/
theorem unfinished_of_send {event : Quic.Event} (h : (s.send host).1 = .ok event) :
    s.finished = false := by
  refine eq_false_of_ne_true fun hfin => ?_
  rw [send_fin (of_decide_eq_true hfin)] at h
  cases h

/-- A call through the handle does not move the sender. -/
theorem call_kept (host : Host) (s : Sender) (call : Call) :
    (call.apply host s).2.id = s.id ∧ (call.apply host s).2.finished = s.finished := by
  cases call <;> exact ⟨rfl, rfl⟩

/-! ## Nothing is left behind -/

/-- The states of the sender and of its encoders go together. -/
structure Sound (s : Sender) : Prop where
  headers : s.headers_.Sound
  body : s.body_.Sound
  headers_fin : s.state ≠ .headers → s.headers_.state = .fin
  body_fin : s.state = .fin → s.body_.state = .fin

/-- The bytes that were added and are not sent. -/
def queued (s : Sender) : List UInt8 := s.headers_.buffers.bytes ++ s.body_.buffers.bytes

/-- A new sender has nothing queued. -/
theorem sound_new (id : UInt64) : Sound { id } := ⟨nofun, nofun, fun h => absurd rfl h, nofun⟩

/-- **A sender that is finished has nothing queued.** -/
theorem Sound.queued_eq (h : s.Sound) (hs : s.finished = true) : s.queued = [] := by
  have hfin : s.state = .fin := of_decide_eq_true hs
  have hheaders := h.headers (h.headers_fin (by rw [hfin]; nofun))
  unfold queued
  rw [hheaders, (h.body (h.body_fin hfin)).1]
  rfl

/-- A send keeps it so. -/
theorem Sound.send (h : s.Sound) : (s.send host).2.Sound := by
  cases hs : s.state with
  | headers =>
    have hencode : (s.headers_.encode host).2.Sound := h.headers.encode
    rcases he : s.headers_.encode host with ⟨e | b, headers_⟩
    · rw [he] at hencode
      rw [send_headers_error hs he]
      exact ⟨hencode, h.body, fun hne => absurd hs hne, fun hfin => nomatch hs.symm.trans hfin⟩
    · rw [he] at hencode
      rw [send_headers_ok hs he]
      refine ⟨hencode, h.body, fun hne => ?_, fun hfin => ?_⟩
      · dsimp only at hne ⊢
        split at hne
        · next hfin => exact of_decide_eq_true hfin
        · exact absurd rfl hne
      · dsimp only at hfin ⊢
        split at hfin
        · split at hfin
          · next hbody => exact of_decide_eq_true hbody
          · cases hfin
        · cases hfin
  | body =>
    have hencode : (s.body_.encode host).2.Sound := h.body.encode
    have hheaders := h.headers_fin (by rw [hs]; nofun)
    rcases he : s.body_.encode host with ⟨e | b, body_⟩
    · rw [he] at hencode
      rw [send_body_error hs he]
      exact ⟨h.headers, hencode, fun _ => hheaders, fun hfin => nomatch hs.symm.trans hfin⟩
    · rw [he] at hencode
      rw [send_body_ok hs he]
      refine ⟨h.headers, hencode, fun _ => hheaders, fun hfin => ?_⟩
      dsimp only at hfin ⊢
      split at hfin
      · next hbody => exact of_decide_eq_true hbody
      · cases hfin
  | fin =>
    rw [send_fin hs]
    exact h

/-- A call through the handle keeps the sender sound. -/
theorem Sound.call (h : s.Sound) (call : Call) : (call.apply host s).2.Sound := by
  cases call with
  | header field =>
    refine ⟨h.headers.add field, h.body, fun hne => ?_, h.body_fin⟩
    exact (Headers.Encoder.add_state field).trans (h.headers_fin hne)
  | start =>
    exact ⟨h.headers.fin, h.body, fun hne => Headers.Encoder.fin_state (h.headers_fin hne),
      h.body_fin⟩
  | body buffer =>
    refine ⟨h.headers, h.body.add buffer, h.headers_fin, fun hfin => ?_⟩
    exact (Body.Encoder.add_state buffer).trans (h.body_fin hfin)
  | fin =>
    exact ⟨h.headers, h.body.fin, h.headers_fin, fun hfin => Body.Encoder.fin_state (h.body_fin hfin)⟩

end Request.Sender

end Endpoint

end Bnl.Http3
