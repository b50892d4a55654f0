import Bnl.Laws.BodyFraming
import Bnl.Laws.Chunking
import Bnl.Laws.Framing
import Bnl.Laws.Sender

/-!
# Sending a message

The application adds to a sender, and the connection asks it for events, in any order. What is emitted is a
HEADERS frame and DATA frames around what was added. The one call that goes wrong is `fin` where the header
block is sent and nothing of the body is queued: the body encoder ends there and then, while the sender learns
that only from an `encode` that returns something.

**The law** is `served_iff`, over any calls in any order, those that fail among them. What is to hold after each
call (`Serves`): what was emitted begins the message that was added, nothing is emitted behind FIN, FIN comes
with the last of it, and a sender that is asked when everything was added has emitted all of it in the end. It
holds exactly in the runs in which `fin` does not come too late and no size is too large for a frame; both are
conditions on the state before the call.

**The invariant** (`Keeps`) takes those of the two encoders together, `Queued` of the headers and `Wrote` of the
body, with what is emitted as the bytes of the first and then the second. A `send` is two cases, by the half
that is asked (`send_headers`, `send_body`), and each is what that encoder's law says of the call.

The block is tied to the headers by `Encoded`, as in `Framing`. The payloads are tied to the buffers by their
bytes; how the buffers are cut into DATA frames is one frame for each buffer that is not empty, and is not part
of what is promised.
-/

namespace Bnl.Http3.Endpoint.Request.Sending

open Bnl.Base

/-! ## Any calls -/

/-- What is done with a sender. -/
inductive Action where
  | header (header : Header)
  | start
  | body (buffer : Buffer)
  | fin
  | send

/-- A sender, the headers that it has accepted and the buffers it queued for them, the body that was added,
whether `start` and `fin` were called, the events that were emitted, and the last answer of `send`. -/
structure World where
  sender : Sender
  headers : List Header := []
  accepted : List Buffer := []
  bodies : List Buffer := []
  started : Bool := false
  ended : Bool := false
  emitted : List Quic.Data := []
  answer : Except Error Quic.Event := .error .idle

/-- The next `send` pops from a list without bytes. -/
def PopsEmpty (s : Sender) : Prop :=
  s.state = .headers ∧ s.headers_.state = .qpack ∧ s.headers_.buffers.size = 0 ∨
    s.state = .body ∧ s.body_.state = .data ∧ s.body_.buffers.size = 0

instance (s : Sender) : Decidable (PopsEmpty s) := inferInstanceAs (Decidable (_ ∨ _))

/-- A call. The message is started behind a header, and no buffer is larger than a `size_t` can say. -/
def step (host : Host) (w : World) : Action → Option World
  | .header header =>
    match w.sender.header host header with
    | (.error _, sender) => some { w with sender }
    | (.ok _, sender) =>
      some { w with
        sender
        headers := w.headers ++ [header]
        accepted := w.accepted ++ [sender.headers_.buffers.back] }
  | .start =>
    if w.accepted = [] then some w
    else
      match w.sender.start with
      | (.error _, sender) => some { w with sender }
      | (.ok _, sender) => some { w with sender, started := true }
  | .body buffer =>
    if 2 ^ 64 ≤ buffer.size then some w
    else
      match w.sender.body buffer with
      | (.error _, sender) => some { w with sender }
      | (.ok _, sender) => some { w with sender, bodies := w.bodies ++ [buffer] }
  | .fin =>
    match w.sender.fin with
    | (.error _, sender) => some { w with sender }
    | (.ok _, sender) => some { w with sender, ended := true }
  | .send =>
    -- the assertion of `pop`
    if PopsEmpty w.sender then none
    else
      match w.sender.send host with
      | (.ok (.data data), sender) =>
        some { w with sender, emitted := w.emitted ++ [data], answer := .ok (.data data) }
      | (answer, sender) => some { w with sender, answer }

namespace World

/-- The bytes that were emitted. -/
def out (w : World) : List UInt8 := eventBytes w.emitted

/-- The header block. -/
def block (w : World) : List UInt8 := (⟨w.accepted⟩ : Buffers).bytes

/-- The header block is what a fresh QPACK encoder makes of the accepted headers. -/
def Encoded (host : Host) (w : World) : Prop :=
  Qpack.Encoder.encodeAll host {} w.headers = (.ok w.block, w.sender.headers_.qpack)

/-- The bytes of the body. -/
def payload (w : World) : List UInt8 := (⟨w.bodies⟩ : Buffers).bytes

/-- What was emitted is the beginning of the message. -/
def Begins (w : World) : Prop :=
  w.out = [] ∨ ∃ payloads wire, Frame.MessageWire w.block payloads wire ∧
    payloads.flatten = w.payload ∧ w.out <+: wire

/-- What was emitted is the message. -/
def Whole (w : World) : Prop :=
  ∃ payloads, Frame.MessageWire w.block payloads w.out ∧ payloads.flatten = w.payload

/-- FIN comes with the last event that is emitted, and with no other. -/
def Closes (w : World) : Prop :=
  match w.sender.finished with
  | false => ∀ data ∈ w.emitted, data.fin = false
  | true => ∃ front last, w.emitted = front ++ [last] ∧ last.fin = true ∧ ∀ data ∈ front, data.fin = false

end World

/-- How many events are at most to come. -/
def owed (s : Sender) : Nat :=
  match s.state with
  | .headers => s.headers_.owed + s.body_.owed + 1
  | .body => s.body_.owed + 1
  | .fin => 0

/-- A call of `send` as it should be: up to the event with FIN an event or `idle`, only events once all is
added, and none behind FIN. -/
structure Sends (w w' : World) : Prop where
  answers : w.sender.finished = false →
    (∃ data, w'.answer = .ok (.data data)) ∨ w'.answer = .error .idle
  owes : w.started = true → w.ended = true → w.sender.finished = false →
    (∃ data, w'.answer = .ok (.data data)) ∧ owed w'.sender < owed w.sender
  emits : (∃ data, w'.answer = .ok (.data data) ∧ w'.emitted = w.emitted ++ [data]) ∨
    (∃ e, w'.answer = .error e) ∧ w'.emitted = w.emitted ∧ w'.sender = w.sender
  silent : w.sender.finished = true → ∃ e, w'.answer = .error e

/-- A call as it should be. -/
def Serves (host : Host) (w : World) (a : Action) (w' : World) : Prop :=
  w'.Begins ∧ w'.Closes ∧ (w'.sender.finished = true → w'.Whole) ∧ w'.Encoded host ∧
    match a with
    | .send => Sends w w'
    | _ => w'.sender.finished = w.sender.finished ∧ w'.emitted = w.emitted

/-- `fin` did not end the body behind the last header, and the next frame is not too large. -/
def Admits (w : World) : Action → Prop
  | .send =>
    (w.sender.state = .headers → w.started = true → w.block.length < 2 ^ 62) ∧
      (w.sender.state = .body → w.sender.body_.finished = false ∧
        (w.sender.body_.state = .frame → w.sender.body_.buffers.front.size < 2 ^ 62))
  | _ => True

/-- A new sender. -/
def start (id : UInt64) : World := { sender := { id } }

/-! ## What is emitted and what is queued -/

/-- What the encoders returned is what was emitted, and what they have queued is still to come. -/
structure Keeps (host : Host) (w : World) (framed : List Buffer) (sent : List (List UInt8))
    (out : List UInt8) : Prop where
  encoded : w.Encoded host
  headers : w.sender.headers_.Queued w.accepted w.started framed
  body : w.sender.body_.Good
  wrote : w.sender.body_.Wrote sent out
  payload : sent.flatten ++ w.sender.body_.buffers.bytes = w.payload
  ended : w.sender.body_.fin_ = w.ended
  out_eq : w.out = (⟨framed⟩ : Buffers).bytes ++ out
  started : w.started = true → w.accepted ≠ []
  closes : w.Closes
  phase : match w.sender.state with
    | .headers => w.sender.headers_.state ≠ .fin ∧ out = []
    | .body => w.sender.headers_.state = .fin
    | .fin => w.sender.headers_.state = .fin ∧ w.sender.body_.state = .fin

/-- What holds of every world that a run comes to. -/
def Holds (host : Host) (w : World) : Prop := ∃ framed sent out, Keeps host w framed sent out

variable {host : Host} {w w' : World} {framed : List Buffer} {sent : List (List UInt8)}
  {out : List UInt8}

/-- A new sender has emitted nothing. -/
theorem holds_start (host : Host) (id : UInt64) : Holds host (start id) :=
  ⟨[], [], [], rfl, .new, Body.Encoder.good_new, .nil, rfl, rfl, rfl, nofun, nofun, nofun, rfl⟩

/-- A header that is accepted goes behind the others in the block. -/
theorem World.Encoded.push (h : w.Encoded host) {header : Header} {encoded : Buffer} {qpack : Qpack.Encoder}
    (hnext : w.sender.headers_.qpack.encodeBuffer host header = (.ok encoded, qpack)) :
    Qpack.Encoder.encodeAll host {} (w.headers ++ [header]) =
      (.ok (⟨w.accepted ++ [encoded]⟩ : Buffers).bytes, qpack) := by
  refine (Qpack.Encoder.encodeAll_concat h hnext).trans ?_
  simp only [World.block, Buffers.bytes, List.flatMap_append, List.flatMap_singleton]

/-- The block has the size that is counted. -/
theorem block_length (w : World) : w.block.length = Headers.Encoder.total w.accepted :=
  (Buffers.size_eq _).symm

/-- The frame that was announced begins the message. -/
theorem messageWire_of_announces {accepted framed : List Buffer}
    (h : Headers.Encoder.Announces accepted framed) (hlt : Headers.Encoder.total accepted < 2 ^ 62)
    {payloads : List (List UInt8)} {rest : List UInt8} (hrest : Frame.DataFrames payloads rest) :
    Frame.MessageWire (⟨accepted⟩ : Buffers).bytes payloads ((⟨framed⟩ : Buffers).bytes ++ rest) := by
  obtain ⟨size, hsize, rfl⟩ := h
  refine ⟨size, (Frame.headers size).wire, rest, Frame.preamble_wire (.inr rfl) (hsize ▸ hlt), ?_, hrest, ?_⟩
  · rw [← Buffers.size_eq]
    exact hsize.symm
  · rw [← List.append_assoc]
    rfl

/-- In front of the block, and within it, nothing of the body was written. -/
theorem Keeps.out_nil (h : Keeps host w framed sent out) (hs : w.sender.headers_.state ≠ .fin) : out = [] := by
  have hphase := h.phase
  split at hphase
  · exact hphase.2
  · exact absurd hphase hs
  · exact absurd hphase.1 hs

/-- What was emitted begins the message. -/
theorem Keeps.begins (h : Keeps host w framed sent out) : w.Begins := by
  obtain ⟨payloads, more, hframes, hflat⟩ := h.wrote.extends h.body
  have hwire {all : List Buffer} (hall : Headers.Encoder.Announces w.accepted all)
      (hlt : Headers.Encoder.total w.accepted < 2 ^ 62)
      (hpre : w.out <+: (⟨all⟩ : Buffers).bytes ++ (out ++ more)) : w.Begins :=
    .inr ⟨payloads, _, messageWire_of_announces hall hlt hframes, hflat.trans h.payload, hpre⟩
  cases hs : w.sender.headers_.state with
  | idle =>
    refine .inl ?_
    rw [h.out_eq, (h.headers.idle hs).2.1, h.out_nil (by rw [hs]; nofun)]
    rfl
  | frame =>
    refine .inl ?_
    rw [h.out_eq, (h.headers.frame hs).2.1, h.out_nil (by rw [hs]; nofun)]
    rfl
  | qpack =>
    obtain ⟨-, hlt, frame, returned, encoded, left, hall, hreturned, -, haccepted⟩ := h.headers.qpack hs
    refine hwire hall hlt ?_
    rw [h.out_eq, hreturned, h.out_nil (by rw [hs]; nofun), haccepted]
    refine ⟨(⟨encoded :: left⟩ : Buffers).bytes ++ more, ?_⟩
    simp only [Buffers.bytes, List.flatMap_cons, List.flatMap_append, List.append_assoc, List.nil_append]
  | fin =>
    obtain ⟨-, hlt, hall⟩ := h.headers.fin hs
    refine hwire hall hlt ?_
    rw [h.out_eq, ← List.append_assoc]
    exact List.prefix_append _ _

/-- A sender that is finished has emitted all of it. -/
theorem Keeps.whole (h : Keeps host w framed sent out) (hs : w.sender.finished = true) : w.Whole := by
  have hfin : w.sender.state = .fin := of_decide_eq_true hs
  have hphase := h.phase
  rw [hfin] at hphase
  obtain ⟨hheaders, hbody⟩ := hphase
  obtain ⟨-, hlt, hall⟩ := h.headers.fin hheaders
  have hwrote := h.wrote
  unfold Body.Encoder.Wrote at hwrote
  rw [hbody] at hwrote
  have hpayload := h.payload
  rw [(h.body.fin hbody).2, List.append_nil] at hpayload
  refine ⟨sent, ?_, hpayload⟩
  rw [h.out_eq]
  exact messageWire_of_announces hall hlt hwrote

/-! ## One call -/

/-- Nothing is popped from an empty list. -/
theorem Keeps.pops (h : Keeps host w framed sent out) : ¬ PopsEmpty w.sender := by
  rintro (⟨-, hs, hzero⟩ | ⟨-, hs, hzero⟩)
  · exact h.headers.pops ⟨hs, hzero⟩
  · rw [Buffers.size_eq] at hzero
    exact (h.body.data hs).1 (List.length_eq_zero_iff.mp hzero)

/-- A call of the application leaves the sender in its state. -/
theorem serves_of_call {a : Action} (ha : a ≠ .send) (w' : World) (hw' : step host w a = some w')
    (h : Holds host w') (hstate : w'.sender.state = w.sender.state) (hemitted : w'.emitted = w.emitted) :
    ∃ w', step host w a = some w' ∧ Serves host w a w' ∧ Holds host w' := by
  refine ⟨w', hw', ?_, h⟩
  obtain ⟨framed, sent, out, hkeeps⟩ := h
  refine ⟨hkeeps.begins, hkeeps.closes, hkeeps.whole, hkeeps.encoded, ?_⟩
  have hfinished : w'.sender.finished = w.sender.finished := by
    unfold Sender.finished
    rw [hstate]
  cases a with
  | send => exact absurd rfl ha
  | _ => exact ⟨hfinished, hemitted⟩

/-- A header is accepted and waits, or it is refused. -/
theorem step_header (h : Keeps host w framed sent out) (header : Header) :
    ∃ w', step host w (.header header) = some w' ∧ Serves host w (.header header) w' ∧ Holds host w' := by
  rcases Headers.Encoder.add_cases host w.sender.headers_ header with
    ⟨error, ha, -⟩ | ⟨hidle, encoded, hne, hbuffer, ha⟩
  · refine serves_of_call nofun w ?_ ⟨framed, sent, out, h⟩ rfl rfl
    rw [step, Sender.header, ha]
  · refine serves_of_call nofun { w with
        sender := { w.sender with headers_ := { w.sender.headers_ with
          buffers := w.sender.headers_.buffers.push encoded
          qpack := { state := .header, count := w.sender.headers_.qpack.count + encoded.size } } }
        headers := w.headers ++ [header]
        accepted := w.accepted ++ [encoded] } ?_ ⟨framed, sent, out, ?_⟩ rfl rfl
    · rw [step, Sender.header, ha]
      dsimp only
      rw [Buffers.back, Buffers.push, List.getLastD_concat]
    · refine ⟨h.encoded.push hbuffer, h.headers.push hidle hne, h.body, h.wrote, h.payload, h.ended, h.out_eq, ?_,
        h.closes, h.phase⟩
      exact fun _ => List.append_ne_nil_of_right_ne_nil _ (List.cons_ne_nil encoded [])

theorem step_start (h : Keeps host w framed sent out) :
    ∃ w', step host w .start = some w' ∧ Serves host w .start w' ∧ Holds host w' := by
  by_cases hnil : w.accepted = []
  · exact serves_of_call nofun w (if_pos hnil) ⟨framed, sent, out, h⟩ rfl rfl
  rcases Headers.Encoder.fin_cases w.sender.headers_ with ⟨-, ha⟩ | ⟨hidle, ha⟩
  · refine serves_of_call nofun w ?_ ⟨framed, sent, out, h⟩ rfl rfl
    rw [step, if_neg hnil, Sender.start, ha]
  · refine serves_of_call nofun { w with
        sender := { w.sender with headers_ := { w.sender.headers_ with state := .frame } }
        started := true } ?_ ⟨framed, sent, out, ?_⟩ rfl rfl
    · rw [step, if_neg hnil, Sender.start, ha]
    · refine ⟨h.encoded, h.headers.started hidle, h.body, h.wrote, h.payload, h.ended, h.out_eq, fun _ => hnil,
        h.closes, ?_⟩
      have hphase := h.phase
      dsimp only
      cases hs : w.sender.state with
      | headers =>
        rw [hs] at hphase
        exact ⟨nofun, hphase.2⟩
      | body =>
        rw [hs] at hphase
        exact nomatch hidle.symm.trans hphase
      | fin =>
        rw [hs] at hphase
        exact nomatch hidle.symm.trans hphase.1

/-- A buffer is added, or refused behind `fin`. -/
theorem step_body (h : Keeps host w framed sent out) (buffer : Buffer) :
    ∃ w', step host w (.body buffer) = some w' ∧ Serves host w (.body buffer) w' ∧ Holds host w' := by
  by_cases hlarge : 2 ^ 64 ≤ buffer.size
  · exact serves_of_call nofun w (if_pos hlarge) ⟨framed, sent, out, h⟩ rfl rfl
  rcases Body.Encoder.add_cases w.sender.body_ buffer with ⟨-, ha⟩ | ⟨hopen, ha⟩
  · refine serves_of_call nofun w ?_ ⟨framed, sent, out, h⟩ rfl rfl
    rw [step, if_neg hlarge, Sender.body, ha]
  · refine serves_of_call nofun { w with
        sender := { w.sender with body_ := { w.sender.body_ with
          buffers := w.sender.body_.buffers.push buffer } }
        bodies := w.bodies ++ [buffer] } ?_ ⟨framed, sent, out, ?_⟩ rfl rfl
    · rw [step, if_neg hlarge, Sender.body, ha]
    · refine ⟨h.encoded, h.headers, h.body.push hopen (Nat.not_le.mp hlarge), h.wrote.push h.body buffer, ?_,
        h.ended, h.out_eq, h.started, h.closes, h.phase⟩
      dsimp only
      rw [Buffers.push_bytes, ← List.append_assoc, h.payload]
      exact (Buffers.push_bytes ⟨w.bodies⟩ buffer).symm

/-- The body is complete, which ends a body that was sent. -/
theorem step_fin (h : Keeps host w framed sent out) :
    ∃ w', step host w .fin = some w' ∧ Serves host w .fin w' ∧ Holds host w' := by
  rcases Body.Encoder.fin_cases w.sender.body_ with ⟨-, ha⟩ | ⟨hopen, ha⟩
  · refine serves_of_call nofun w ?_ ⟨framed, sent, out, h⟩ rfl rfl
    rw [step, Sender.fin, ha]
  · refine serves_of_call nofun { w with
        sender := { w.sender with body_ := { w.sender.body_ with
          fin_ := true
          state := if w.sender.body_.buffers.empty then .fin else w.sender.body_.state } }
        ended := true } ?_ ⟨framed, sent, out, ?_⟩ rfl rfl
    · rw [step, Sender.fin, ha]
    · refine ⟨h.encoded, h.headers, h.body.ended hopen, h.wrote.ended h.body, h.payload, rfl, h.out_eq,
        h.started, h.closes, ?_⟩
      have hphase := h.phase
      dsimp only
      cases hs : w.sender.state with
      | headers =>
        rw [hs] at hphase
        exact hphase
      | body =>
        rw [hs] at hphase
        exact hphase
      | fin =>
        rw [hs] at hphase
        exact absurd hphase.2 hopen

/-! ## `send` -/

/-- A call that answers with an error leaves the sender as it was. -/
theorem serves_of_error (h : Keeps host w framed sent out) {e : Error}
    (hsend : w.sender.send host = (.error e, w.sender)) (hidle : w.sender.finished = false → e = .idle)
    (howes : w.started = true → w.ended = true → w.sender.finished = true) :
    ∃ w', step host w .send = some w' ∧ Serves host w .send w' ∧ Holds host w' := by
  have hkeeps : Keeps host { w with answer := .error e } framed sent out :=
    ⟨h.encoded, h.headers, h.body, h.wrote, h.payload, h.ended, h.out_eq, h.started, h.closes, h.phase⟩
  refine ⟨{ w with answer := .error e }, by rw [step, if_neg h.pops, hsend], ?_, framed, sent, out, hkeeps⟩
  refine ⟨hkeeps.begins, hkeeps.closes, hkeeps.whole, hkeeps.encoded, fun hopen => ?_, fun hstarted hended hopen => ?_,
    .inr ⟨⟨e, rfl⟩, rfl, rfl⟩, fun _ => ⟨e, rfl⟩⟩
  · rw [hidle hopen]
    exact .inr rfl
  · rw [howes hstarted hended] at hopen
    cases hopen

/-- FIN comes with the event that finishes the sender. -/
theorem closes_of_event (h : w.Closes) {data : Quic.Data} {s' : Sender}
    (hsend : w.sender.send host = (.ok (.data data), s')) :
    World.Closes { w with sender := s', emitted := w.emitted ++ [data], answer := .ok (.data data) } := by
  obtain ⟨data', hdata, -, hfin⟩ := Sender.send_ok hsend
  obtain rfl : data = data' := Quic.Event.data.inj hdata
  have hopen : w.sender.finished = false := Sender.unfinished_of_send (by rw [hsend])
  unfold World.Closes at h ⊢
  rw [hopen] at h
  dsimp only at h ⊢
  cases hs : s'.finished with
  | true => exact ⟨w.emitted, data, rfl, hfin.trans hs, h⟩
  | false =>
    intro d hd
    rcases List.mem_append.mp hd with hd | hd
    · exact h d hd
    · exact List.mem_singleton.mp hd ▸ hfin.trans hs

/-- A call that answers with an event. -/
theorem serves_of_event (h : Keeps host w framed sent out) {data : Quic.Data} {s' : Sender}
    (hsend : w.sender.send host = (.ok (.data data), s')) (howed : owed s' < owed w.sender)
    (hholds : Holds host { w with
      sender := s', emitted := w.emitted ++ [data], answer := .ok (.data data) }) :
    ∃ w', step host w .send = some w' ∧ Serves host w .send w' ∧ Holds host w' := by
  have hopen : w.sender.finished = false := Sender.unfinished_of_send (by rw [hsend])
  refine ⟨_, by rw [step, if_neg h.pops, hsend], ?_, hholds⟩
  obtain ⟨framed', sent', out', hkeeps⟩ := hholds
  refine ⟨hkeeps.begins, hkeeps.closes, hkeeps.whole, hkeeps.encoded, fun _ => .inl ⟨data, rfl⟩,
    fun _ _ _ => ⟨⟨data, rfl⟩, howed⟩, .inl ⟨data, rfl, rfl⟩, fun hdone => ?_⟩
  rw [hopen] at hdone
  cases hdone

/-- An event more, its bytes behind the others. -/
theorem out_emitted (w : World) (data : Quic.Data) :
    eventBytes (w.emitted ++ [data]) = w.out ++ data.buffer.bytes := by
  rw [eventBytes_append]
  exact congrArg (w.out ++ ·) (List.append_nil _)

/-- A send of the header block. -/
theorem send_headers (h : Keeps host w framed sent out) (hs : w.sender.state = .headers)
    (hlt : w.started = true → w.block.length < 2 ^ 62) :
    ∃ w', step host w .send = some w' ∧ Serves host w .send w' ∧ Holds host w' := by
  have hphase := h.phase
  rw [hs] at hphase
  obtain ⟨hopen, rfl⟩ := hphase
  by_cases hidle : w.sender.headers_.state = .idle
  · refine serves_of_error h (e := .idle) (Sender.send_headers_error hs ?_) (fun _ => rfl) fun hstarted => ?_
    · unfold Headers.Encoder.encode
      rw [hidle]
    · exact nomatch (h.headers.idle hidle).1.symm.trans hstarted
  · have hstarted := h.headers.ended_eq hidle
    rw [block_length] at hlt
    obtain ⟨b, e', he, hq, -, -, howed⟩ :=
      h.headers.encode host hidle hopen (h.started hstarted) (hlt hstarted)
    have hsend := Sender.send_headers_ok hs he
    have hencoded : Qpack.Encoder.encodeAll host {} w.headers = (.ok w.block, e'.qpack) := by
      have hqpack := Headers.Encoder.qpack_encode host w.sender.headers_
      rw [he] at hqpack
      rw [hqpack]
      exact h.encoded
    refine serves_of_event h hsend ?_ ⟨framed ++ [b], sent, [], hencoded, hq, h.body, h.wrote, h.payload, h.ended, ?_,
      h.started, closes_of_event h.closes hsend, ?_⟩
    · unfold owed
      rw [hs]
      dsimp only
      cases e'.finished with
      | false => exact Nat.add_lt_add_right (Nat.add_lt_add_right howed _) 1
      | true =>
        cases w.sender.body_.finished with
        | true =>
          rw [if_pos rfl, if_pos rfl]
          dsimp only
          omega
        | false =>
          rw [if_pos rfl, if_neg Bool.false_ne_true]
          dsimp only
          omega
    · refine (out_emitted w _).trans ?_
      rw [h.out_eq, List.append_nil, List.append_nil]
      simp only [Buffers.bytes, List.flatMap_append, List.flatMap_singleton]
    · dsimp only
      cases hfin : e'.finished with
      | false =>
        refine ⟨fun hdone => ?_, rfl⟩
        rw [Headers.Encoder.finished_iff.mpr hdone] at hfin
        cases hfin
      | true =>
        have hdone := Headers.Encoder.finished_iff.mp hfin
        cases hbody : w.sender.body_.finished with
        | true => exact ⟨hdone, of_decide_eq_true hbody⟩
        | false => exact hdone

/-- A send of the body. -/
theorem send_body (h : Keeps host w framed sent out) (hs : w.sender.state = .body)
    (hopen : w.sender.body_.finished = false)
    (hlt : w.sender.body_.state = .frame → w.sender.body_.buffers.front.size < 2 ^ 62) :
    ∃ w', step host w .send = some w' ∧ Serves host w .send w' ∧ Holds host w' := by
  have hphase := h.phase
  rw [hs] at hphase
  have hnot : w.sender.body_.state ≠ .fin := fun hfin => by
    rw [Body.Encoder.finished, hfin] at hopen
    cases hopen
  rcases Body.Encoder.encode_cases host h.body h.wrote with
    ⟨hframe, hnil, he⟩ | ⟨hframe, hlarge, -⟩ | ⟨hfin, -⟩ | ⟨-, -, b, e', he, hwrites⟩
  · refine serves_of_error h (Sender.send_body_error hs he) (fun _ => rfl) fun _ hended => ?_
    exact absurd hnil (h.body.frame hframe (h.ended.trans hended))
  · exact absurd (hlt hframe) (Nat.not_lt.mpr hlarge)
  · exact absurd hfin hnot
  · have hsend := Sender.send_body_ok hs he
    obtain ⟨sent', hwrote, hpayload⟩ := hwrites.wrote
    refine serves_of_event h hsend ?_ ⟨framed, sent', out ++ b.bytes, h.encoded, h.headers, hwrites.good, hwrote,
      hpayload.trans h.payload, hwrites.ended.trans h.ended, ?_, h.started,
      closes_of_event h.closes hsend, ?_⟩
    · have howed := hwrites.owed
      unfold owed
      rw [hs]
      dsimp only
      cases e'.finished with
      | true => exact Nat.succ_pos _
      | false => exact Nat.succ_lt_succ howed
    · refine (out_emitted w _).trans ?_
      rw [h.out_eq, List.append_assoc]
    · dsimp only
      cases hfin : e'.finished with
      | true => exact ⟨hphase, of_decide_eq_true hfin⟩
      | false => exact hphase

/-- A call that is admitted is as it should be. -/
theorem step_serves (h : Holds host w) {a : Action} (ha : Admits w a) :
    ∃ w', step host w a = some w' ∧ Serves host w a w' ∧ Holds host w' := by
  obtain ⟨framed, sent, out, hkeeps⟩ := h
  cases a with
  | header header => exact step_header hkeeps header
  | start => exact step_start hkeeps
  | body buffer => exact step_body hkeeps buffer
  | fin => exact step_fin hkeeps
  | send =>
    obtain ⟨hheaders, hbody⟩ := ha
    cases hs : w.sender.state with
    | headers => exact send_headers hkeeps hs (hheaders hs)
    | body => exact send_body hkeeps hs (hbody hs).1 (hbody hs).2
    | fin =>
      have hfin : w.sender.finished = true := decide_eq_true hs
      refine serves_of_error hkeeps (Sender.send_fin hs) (fun hopen => ?_) fun _ _ => hfin
      rw [hfin] at hopen
      cases hopen

/-! ## Runs -/

/-- The first buffer is no longer than the queue. -/
theorem front_size_le (s : Buffers) : s.front.size ≤ s.bytes.length := by
  obtain ⟨buffers⟩ := s
  cases buffers with
  | nil => exact Nat.zero_le _
  | cons front left =>
    rw [Buffers.bytes, List.flatMap_cons, List.length_append]
    exact Nat.le_add_right _ _

/-- A call that is as it should be was admitted. -/
theorem admits_of_serves (h : Holds host w) {a : Action} (hw' : step host w a = some w')
    (hserves : Serves host w a w') : Admits w a := by
  obtain ⟨framed, sent, out, hkeeps⟩ := h
  cases a with
  | send =>
    obtain ⟨hbegins, -, -, -, hsends⟩ := hserves
    rw [step, if_neg hkeeps.pops] at hw'
    have hphase := hkeeps.phase
    refine ⟨fun hs hstarted => ?_, fun hs => ?_⟩
    · rw [hs] at hphase
      have hopen : w.sender.finished = false := by
        rw [Sender.finished, hs]
        rfl
      rw [block_length]
      cases hheaders : w.sender.headers_.state with
      | idle => exact nomatch (hkeeps.headers.idle hheaders).1.symm.trans hstarted
      | qpack => exact (hkeeps.headers.qpack hheaders).2.1
      | fin => exact absurd hheaders hphase.1
      | frame =>
        have he := Headers.Encoder.encode_frame host hheaders rfl
        by_cases hlt : (UInt64.ofNat w.sender.headers_.qpack.count).toNat < 2 ^ 62
        · rw [if_pos hlt] at he
          rw [Sender.send_headers_ok hs he] at hw'
          cases hw'
          rcases hbegins with hnil | ⟨payloads, wire, ⟨size, -, -, -, hsize, -⟩, -⟩
          · have hout := (out_emitted w _).symm.trans hnil
            exact absurd (List.append_eq_nil_iff.mp hout).2 (Frame.preamble_wire (.inr rfl) hlt).ne_nil
          · have htotal : Headers.Encoder.total w.accepted = size.toNat := (block_length w).symm.trans hsize
            rw [hkeeps.headers.count, htotal, UInt64.ofNat_toNat] at hlt
            exact htotal ▸ hlt
        · rw [if_neg hlt] at he
          rw [Sender.send_headers_error hs he] at hw'
          cases hw'
          rcases hsends.answers hopen with ⟨data, hdata⟩ | hidle
          · cases hdata
          · cases hidle
    · rw [hs] at hphase
      have hopen : w.sender.finished = false := by
        rw [Sender.finished, hs]
        rfl
      have hfails {e : Error} (he : w.sender.body_.encode host = (.error e, w.sender.body_)) :
          e = .idle := by
        rw [Sender.send_body_error hs he] at hw'
        cases hw'
        rcases hsends.answers hopen with ⟨data, hdata⟩ | hidle
        · cases hdata
        · exact Except.error.inj hidle
      rcases Body.Encoder.encode_cases host hkeeps.body hkeeps.wrote with
        ⟨hframe, hnil, -⟩ | ⟨-, -, he⟩ | ⟨-, he⟩ | ⟨hlt, hnot, -⟩
      · refine ⟨?_, fun _ => ?_⟩
        · rw [Body.Encoder.finished, hframe]
          rfl
        · refine Nat.lt_of_le_of_lt (front_size_le _) ?_
          rw [hnil]
          decide
      · cases hfails he
      · cases hfails he
      · exact ⟨decide_eq_false hnot, hlt⟩
  | _ => trivial

theorem send_keeps (hw' : step host w .send = some w') :
    w'.started = w.started ∧ w'.ended = w.ended := by
  unfold step at hw'
  dsimp only at hw'
  split at hw'
  · cases hw'
  · split at hw' <;> (cases hw'; exact ⟨rfl, rfl⟩)

/-- As many calls of `send` as events are owed finish the message, where each is as it should be. -/
theorem sends_whole {n : Nat} (hwhole : w.sender.finished = true → w.Whole) (hstarted : w.started = true)
    (hended : w.ended = true) (howed : owed w.sender ≤ n)
    (h : Run.Always (step host) (Serves host) w (List.replicate n .send)) :
    ∃ w', Run.after (step host) w (List.replicate n .send) = some w' ∧ w'.sender.finished = true ∧
      w'.Whole := by
  induction n generalizing w with
  | zero =>
    have hfin : w.sender.finished = true := by
      unfold owed at howed
      cases hs : w.sender.state with
      | headers =>
        rw [hs] at howed
        cases howed
      | body =>
        rw [hs] at howed
        cases howed
      | fin => exact decide_eq_true hs
    exact ⟨w, rfl, hfin, hwhole hfin⟩
  | succ n ih =>
    rw [List.replicate_succ] at h ⊢
    unfold Run.Always at h
    unfold Run.after
    cases hw' : step host w .send with
    | none =>
      rw [hw'] at h
      exact h.elim
    | some w' =>
      rw [hw'] at h
      obtain ⟨⟨-, -, hwhole', -, hsends⟩, hrest⟩ := h
      obtain ⟨hstarted', hended'⟩ := send_keeps hw'
      refine ih hwhole' (hstarted'.trans hstarted) (hended'.trans hended) ?_ hrest
      cases hs : w.sender.finished with
      | false => exact Nat.le_of_lt_succ (Nat.lt_of_lt_of_le (hsends.owes hstarted hended hs).2 howed)
      | true =>
        have hzero : owed w.sender = 0 := by
          have hfin : w.sender.state = .fin := of_decide_eq_true hs
          unfold owed
          rw [hfin]
        obtain ⟨e, he⟩ := hsends.silent hs
        rcases hsends.emits with ⟨data, hdata, -⟩ | ⟨-, -, hsame⟩
        · cases he.symm.trans hdata
        · rw [hsame, hzero]
          exact Nat.zero_le n

/-- Every call of a run is as it should be; and where the run ends in as many calls of `send` as were owed behind
`start` and `fin`, the sender is finished and the message is out. -/
def Served (host : Host) (id : UInt64) (actions : List Action) : Prop :=
  Run.Always (step host) (Serves host) (Sending.start id) actions ∧
    ∀ before n w, actions = before ++ List.replicate n .send →
      Run.after (step host) (Sending.start id) before = some w → w.started = true → w.ended = true →
        owed w.sender ≤ n → ∃ w', Run.after (step host) (Sending.start id) actions = some w' ∧
          w'.sender.finished = true ∧ w'.Whole

/-- **A sender serves its message in exactly those runs in which `fin` does not come too late**, or a size is
too large for a frame. The header block of that message is what a fresh QPACK encoder makes of the headers that
were accepted, in their order, and its payloads together are the buffers that were added. A step lemma carries
`Keeps` through one call, and `Run.always_iff` takes it to runs. That the peer reads the headers back is not said
here: block_roundTrip says when a block reads as its headers. -/
theorem served_iff (host : Host) (id : UInt64) (actions : List Action) :
    Served host id actions ↔ Run.Meets (step host) Admits (Sending.start id) actions := by
  have halways : Run.Always (step host) (Serves host) (Sending.start id) actions ↔
      Run.Meets (step host) Admits (Sending.start id) actions := by
    refine Run.always_iff (I := Holds host) (fun w a h => ⟨fun ha => ?_, ?_⟩) (fun w a w' h hw' hserves => ?_)
      (holds_start host id)
    · obtain ⟨w', hw', hserves, -⟩ := step_serves h ha
      exact ⟨w', hw', hserves⟩
    · rintro ⟨w', hw', hserves⟩
      exact admits_of_serves h hw' hserves
    · obtain ⟨w'', hw'', -, hholds⟩ : ∃ w', step host w a = some w' ∧ Serves host w a w' ∧ Holds host w' :=
        step_serves h (admits_of_serves h hw' hserves)
      cases hw'.symm.trans hw''
      exact hholds
  rw [← halways]
  refine ⟨fun h => h.1, fun h => ⟨h, fun before n w hactions hw hstarted hended howed => ?_⟩⟩
  subst hactions
  rw [Run.after_append hw]
  refine sends_whole ?_ hstarted hended howed (h.append_right hw)
  exact h.append_left.invariant (I := fun w => w.sender.finished = true → w.Whole)
    (fun _ _ _ _ _ hserves => hserves.2.2.1) nofun hw

/-- The header block is sent when `fin` comes: the next `send` answers `internal`, and FIN is never sent. -/
theorem served_not : ¬ ∀ (host : Host) (id : UInt64) (actions : List Action), Served host id actions := by
  intro h
  have hlast := (h Qpack.xxHost 0 ([.header ⟨ascii ":method", ascii "GET"⟩, .start, .send, .send, .fin] ++
    [.send])).1.last rfl rfl
  rcases hlast.2.2.2.2.answers rfl with ⟨data, hdata⟩ | hidle
  · cases hdata
  · cases hidle

end Bnl.Http3.Endpoint.Request.Sending
