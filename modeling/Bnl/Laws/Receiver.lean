import Bnl.Endpoint.Request
import Bnl.Laws.Body
import Bnl.Laws.Headers
import Bnl.Library.Machine

/-!
# Laws of `request::receiver`

The receiver on byte lists, and the loop a connection runs around it: `recv` an event, then `process` until that
is incomplete, finished, or fails. The loop is a machine; on byte lists it makes the same events as on buffers,
so the cuts between the buffers are nothing but cuts between byte lists.

**The law** is `Receiver.run_bytes`. It is a simulation: `onBytes` forgets the cuts, each call on buffers is the
call on their bytes (`recv_bytes`, `process_bytes`), and the library's rule takes it from one call to a run.

That the loop ends is part of its definition. An event that is not the last takes something from the bytes, or
takes the frame in front of them (`process_lt`), so there are no more turns than the `size` of what is there.
The loop has no fuel.

`driver` is stated over any two functions `recv` and `process`, because the control stream's receiver is driven
in the same way.
-/

namespace Bnl.Http3.Endpoint.Request

open Incremental Bnl.Base

/-! ## Receivers on byte lists -/

/-- A receiver with a byte list for its buffers. -/
structure ByteReceiver where
  state : Receiver.State := .closed
  bytes : List UInt8 := []
  finReceived : Bool := false
  headers : Headers.Decoder := {}
  body : Body.Decoder := {}
  id : UInt64
  deriving DecidableEq

/-- The receiver with its buffers put together. -/
def Receiver.onBytes (r : Receiver) : ByteReceiver :=
  { state := r.state, bytes := r.buffers.bytes, finReceived := r.finReceived
    headers := r.headers, body := r.body, id := r.id }

namespace ByteReceiver

/-- `recv` on a byte list. -/
def recv (r : ByteReceiver) (data : Quic.Data) : Except Error Unit × ByteReceiver :=
  if r.finReceived then (.error .internal, r)
  else (.ok (), { r with finReceived := data.fin, bytes := r.bytes ++ data.buffer.bytes })

/-- The end of `process`, on a byte list. -/
def handleError (processFrame : ProcessFrame) (r : ByteReceiver) (error : Error) :
    Except Error Event × ByteReceiver :=
  if error = .incomplete ∧ r.finReceived = true then (.error .malformedFrame, r)
  else if error = .delegate then
    match Frame.decodeBytes r.bytes with
    | (.error error, bytes) => (.error error, { r with bytes })
    | (.ok frame, bytes) =>
      let r := { r with bytes }
      match frame with
      | .headers _ =>
        if r.state = .body then (.ok (.body r.id true {}), { r with bytes := [], state := .fin })
        else (.error error, r)
      | .data _ => (.error .unexpectedFrame, r)
      | .settings _ => (.error .wrongStream, r)
      | .maxPushId _ => (.error .wrongStream, r)
      | .cancelPush _ => (.error .wrongStream, r)
      | .goaway _ => (.error .wrongStream, r)
      | _ => (processFrame r.headers frame, r)
  else (.error error, r)

/-- `process` on a byte list. -/
def process (processFrame : ProcessFrame) (r : ByteReceiver) :
    Except Error Event × ByteReceiver :=
  match r.state with
  | .closed => (.error .internal, r)
  | .headers =>
    match r.headers.decodeBytes r.bytes with
    | (.error error, headers, bytes) => handleError processFrame { r with headers, bytes } error
    | (.ok header, headers, bytes) =>
      let fin := bytes.isEmpty && r.finReceived
      let state :=
        if headers.finished && fin then .fin
        else if headers.finished then .body else r.state
      (.ok (.header r.id headers.finished header), { r with headers, bytes, state })
  | .body =>
    match r.body.decodeBytes r.bytes with
    | (.error error, body, bytes) => handleError processFrame { r with body, bytes } error
    | (.ok part, body, bytes) =>
      let r := { r with body, bytes }
      let fin := bytes.isEmpty && r.finReceived
      if fin then
        if body.inProgress then (.error .malformedFrame, r)
        else (.ok (.body r.id fin part), { r with state := .fin })
      else (.ok (.body r.id fin part), r)
  | .fin => (.ok (.finished r.id), r)

/-- What an event takes from. -/
def size (r : ByteReceiver) : Nat := r.body.measure r.bytes

/-- Less bytes, the body decoder as it was, are less to take from. -/
theorem size_lt {r r' : ByteReceiver} (hbody : r'.body = r.body)
    (hbytes : r'.bytes.length < r.bytes.length) : r'.size < r.size := by
  unfold size Body.Decoder.measure
  rw [hbody]
  omega

/-- The end of a body that is interrupted takes the frame that interrupts it. -/
theorem handleError_lt {f : ProcessFrame} {r r' : ByteReceiver} {error : Error} {event : Event}
    (h : handleError f r error = (.ok event, r')) : r'.size < r.size := by
  unfold handleError at h
  split at h
  · cases h
  · split at h
    · split at h
      · cases h
      · next hf =>
        have hlt := Frame.decodeBytes_lt hf
        dsimp only at h
        split at h
        · split at h
          · cases h
            exact size_lt rfl (Nat.zero_lt_of_lt hlt)
          · cases h
        all_goals first
          | cases h
          | exact (Prod.mk.inj h).2 ▸ size_lt rfl hlt
    · cases h

/-- **An event takes something**, unless it is the last. -/
theorem process_lt {f : ProcessFrame} {r r' : ByteReceiver} {event : Event}
    (h : r.process f = (.ok event, r')) (hfin : ∀ id, event ≠ .finished id) :
    r'.size < r.size := by
  unfold process at h
  split at h
  · cases h
  · split at h
    · next hd =>
      have hle := r.headers.decodeBytes_le r.bytes
      rw [hd] at hle
      refine Nat.lt_of_lt_of_le (handleError_lt h) ?_
      exact Nat.add_le_add_right (Nat.mul_le_mul_left 2 hle) _
    · next hd =>
      cases h
      exact size_lt rfl (Headers.Decoder.decodeBytes_lt hd)
  · split at h
    · next hd =>
      have hle := r.body.decodeBytes_le r.bytes
      rw [hd] at hle
      exact Nat.lt_of_lt_of_le (handleError_lt h) hle
    · next hd =>
      have hlt := Body.Decoder.decodeBytes_lt hd
      dsimp only at h
      split at h
      · split at h
        · cases h
        · cases h
          exact hlt
      · cases h
        exact hlt
  · cases h
    exact absurd rfl (hfin r.id)

end ByteReceiver

namespace Receiver

/-- An answer, and the receiver that is left on a byte list. -/
def answerBytes {α : Type} (r : α × Receiver) : α × ByteReceiver := (r.1, r.2.onBytes)

/-- `recv` keeps the bytes in a row. -/
theorem recv_bytes (r : Receiver) (data : Quic.Data) :
    answerBytes (r.recv data) = r.onBytes.recv data := by
  unfold recv ByteReceiver.recv
  show _ = if r.finReceived = true then _ else _
  split
  · rfl
  · have hpush : (r.buffers.push data.buffer).bytes = r.onBytes.bytes ++ data.buffer.bytes :=
      Buffers.push_bytes r.buffers data.buffer
    rw [← hpush]
    rfl

/-- The end of `process` goes by the bytes. -/
theorem handleError_bytes (f : ProcessFrame) (r : Receiver) (error : Error) :
    answerBytes (handleError f r error) = ByteReceiver.handleError f r.onBytes error := by
  unfold handleError ByteReceiver.handleError
  show _ = if error = .incomplete ∧ r.finReceived = true then _ else _
  split
  · rfl
  split
  · have hdec : Frame.decodeBytes r.onBytes.bytes = _ := (Frame.decode_bytes r.buffers).symm
    rw [hdec]
    match Frame.decode r.buffers with
    | (.error e, s) => rfl
    | (.ok frame, s) =>
      cases frame with
      | headers size =>
        show _ = if r.state = .body then _ else _
        dsimp only
        split
        · have hnil : (s.consume s.size).bytes = [] := by
            rw [Buffers.consume_bytes, Buffers.size_eq, List.drop_length]
          unfold answerBytes onBytes
          rw [hnil]
        · rfl
      | _ => rfl
  · rfl

/-- **`process` sees nothing of the buffers but their bytes.** -/
theorem process_bytes (f : ProcessFrame) (r : Receiver) :
    answerBytes (process f r) = ByteReceiver.process f r.onBytes := by
  have hempty (s : Buffers) : s.bytes.isEmpty = s.empty := by
    rw [Bool.eq_iff_iff, List.isEmpty_iff, Buffers.empty_iff]
  rcases r with ⟨state, buffers, finReceived, headers, body, id⟩
  unfold process ByteReceiver.process
  cases state with
  | closed => rfl
  | headers =>
    have hdec : headers.decodeBytes buffers.bytes = _ :=
      (Headers.Decoder.decode_bytes headers buffers).symm
    dsimp only [onBytes]
    rw [hdec]
    match headers.decode buffers with
    | (.error e, headers, s) => exact handleError_bytes f _ e
    | (.ok header, headers, s) =>
      unfold Sequence.onBytes
      dsimp only
      rw [show (Sequence.bytes s).isEmpty = s.empty from hempty s]
      rfl
  | body =>
    have hdec : body.decodeBytes buffers.bytes = _ :=
      (Body.Decoder.decode_bytes body buffers).symm
    dsimp only [onBytes]
    rw [hdec]
    match body.decode buffers with
    | (.error e, body, s) => exact handleError_bytes f _ e
    | (.ok part, body, s) =>
      unfold Sequence.onBytes
      dsimp only
      rw [show (Sequence.bytes s).isEmpty = s.empty from hempty s]
      split
      · split <;> rfl
      · rfl
  | fin => rfl

end Receiver

/-! ## The loop around a receiver -/

/-- What a connection makes of an answer of `process`: an event to pass on, the end of this round,
or the end of the stream, finished or failed. -/
def verdict : Except Error Event → Step Event (Except Error Unit)
  | .ok (.finished _) => .stop (.ok ())
  | .ok event => .emit event
  | .error .incomplete => .wait
  | .error error => .stop (.error error)

/-- An event that is passed on is not the last. -/
theorem verdict_eq_emit {r : Except Error Event} {event : Event} (h : verdict r = .emit event) :
    r = .ok event ∧ ∀ id, event ≠ .finished id := by
  unfold verdict at h
  split at h
  · cases h
  · next hne =>
    cases h
    exact ⟨rfl, hne⟩
  · cases h
  · cases h

theorem verdict_eq_wait {r : Except Error Event} (h : verdict r = .wait) :
    r = .error .incomplete := by
  unfold verdict at h
  split at h <;> first | rfl | cases h

/-- What ends the stream: the last event, or an error. -/
theorem verdict_eq_stop {r : Except Error Event} {v : Except Error Unit} (h : verdict r = .stop v) :
    (∃ id, r = .ok (.finished id) ∧ v = .ok ()) ∨
      ∃ error, r = .error error ∧ error ≠ .incomplete ∧ v = .error error := by
  unfold verdict at h
  split at h
  · cases h
    exact .inl ⟨_, rfl, rfl⟩
  · cases h
  · cases h
  · next hne =>
    cases h
    exact .inr ⟨_, rfl, hne, rfl⟩

/-- An error but `incomplete` ends the stream. -/
theorem verdict_error {error : Error} (h : error ≠ .incomplete) :
    verdict (.error error) = .stop (.error error) := by
  cases error <;> first | rfl | exact absurd rfl h

section Driver

variable {R : Type}

/-- What is left of a `recv`: the receiver, or the error that ends the stream. -/
def received : Except Error Unit × R → Except Error R
  | (.ok (), r) => .ok r
  | (.error error, _) => .error error

/-- `recv` an event, then `process` until it is incomplete, finished or fails. A `recv` that fails
is the end too. -/
def driver (recv : R → Quic.Data → Except Error Unit × R) (process : R → Except Error Event × R)
    (size : R → Nat)
    (process_lt : ∀ {r r' event}, process r = (.ok event, r') → (∀ id, event ≠ .finished id) →
      size r' < size r) :
    Machine (Except Error R) Quic.Data Event (Except Error Unit) where
  step
    | .ok r => (verdict (process r).1, .ok (process r).2)
    | .error error => (.stop (.error error), .error error)
  feed
    | .ok r, data => received (recv r data)
    | .error error, _ => .error error
  size
    | .ok r => size r
    | .error _ => 0
  step_lt := by
    intro s event s' h
    cases s with
    | error e => cases h
    | ok r =>
      obtain ⟨hr, hne⟩ := verdict_eq_emit (Prod.mk.inj h).1
      rw [← (Prod.mk.inj h).2]
      exact process_lt (Prod.ext hr rfl) hne

/-- Receivers that answer alike are driven alike: `abs` forgets what does not matter of the one. -/
theorem driver_simulation {T : Type} {recv : R → Quic.Data → Except Error Unit × R}
    {process : R → Except Error Event × R} {size : R → Nat}
    {process_lt : ∀ {r r' event}, process r = (.ok event, r') → (∀ id, event ≠ .finished id) →
      size r' < size r}
    {recv' : T → Quic.Data → Except Error Unit × T} {process' : T → Except Error Event × T}
    {size' : T → Nat}
    {process_lt' : ∀ {r r' event}, process' r = (.ok event, r') → (∀ id, event ≠ .finished id) →
      size' r' < size' r}
    (abs : R → T) (hrecv : ∀ r data, ((recv r data).1, abs (recv r data).2) = recv' (abs r) data)
    (hprocess : ∀ r, ((process r).1, abs (process r).2) = process' (abs r)) :
    Machine.Simulation (driver recv process size process_lt) (driver recv' process' size' process_lt')
      fun s t => t = s.map abs where
  feed := by
    rintro (e | r) _ data rfl
    · rfl
    · show received (recv' (abs r) data) = (received (recv r data)).map abs
      rw [← hrecv]
      rcases recv r data with ⟨e | u, r'⟩ <;> rfl
  step := by
    rintro (e | r) _ rfl
    · exact ⟨rfl, rfl⟩
    · have hb := hprocess r
      exact ⟨congrArg verdict (Prod.mk.inj hb).1, congrArg Except.ok (Prod.mk.inj hb).2.symm⟩

end Driver

/-- An event takes something, on buffers. -/
theorem Receiver.process_lt {f : ProcessFrame} {r r' : Receiver} {event : Event}
    (h : r.process f = (.ok event, r')) (hfin : ∀ id, event ≠ .finished id) :
    r'.onBytes.size < r.onBytes.size := by
  have hb := r.process_bytes f
  rw [h] at hb
  exact ByteReceiver.process_lt hb.symm hfin

/-- The loop around a receiver. -/
def Receiver.machine (f : ProcessFrame) :
    Machine (Except Error Receiver) Quic.Data Event (Except Error Unit) :=
  driver Receiver.recv (Receiver.process f) (fun r => r.onBytes.size) Receiver.process_lt

/-- The loop around a receiver on byte lists. -/
def ByteReceiver.machine (f : ProcessFrame) :
    Machine (Except Error ByteReceiver) Quic.Data Event (Except Error Unit) :=
  driver ByteReceiver.recv (ByteReceiver.process f) ByteReceiver.size ByteReceiver.process_lt

/-- The two loops go together. -/
theorem Receiver.simulation (f : ProcessFrame) :
    Machine.Simulation (Receiver.machine f) (ByteReceiver.machine f)
      fun s t => t = s.map Receiver.onBytes :=
  driver_simulation onBytes recv_bytes (process_bytes f)

/-- **On byte lists the loop makes the same events and ends the same.** -/
theorem Receiver.run_bytes (f : ProcessFrame) (s : Except Error Receiver)
    (datas : List Quic.Data) :
    ((machine f).run s datas).1 =
        ((ByteReceiver.machine f).run (s.map onBytes) datas).1 ∧
      ((machine f).run s datas).2.1 =
        ((ByteReceiver.machine f).run (s.map onBytes) datas).2.1 ∧
      ((machine f).run s datas).2.2.map onBytes =
        ((ByteReceiver.machine f).run (s.map onBytes) datas).2.2 := by
  obtain ⟨hos, hv, hs⟩ := (Receiver.simulation f).run_eq (s := s) rfl datas
  exact ⟨hos, hv, hs.symm⟩

end Bnl.Http3.Endpoint.Request
