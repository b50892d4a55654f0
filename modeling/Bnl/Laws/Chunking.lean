import Bnl.Laws.Message
import Bnl.Laws.Receiver

/-!
# The cuts of a message do not matter

How a message is cut into events shows in how its body is cut into parts, and nowhere else. Each step of a
receiver that has a message ahead absorbs the bytes still to come: an answer stands, or is joined to the next
part of the body, or is lost to the failure that the end of the stream brings.

**The law** is `chunking_independent`: for any message, cut off anywhere, and any two ways to split it into
events, the header events and the end are the same, and where the receiver comes to its end without an error the
bodies are. It is proved by comparing each with the stream that comes in one event (`run_stream`).

The idea is the library's rule for machines that absorb their input. It asks for one thing of one step: a step
that is taken, and then more bytes, come to what more bytes first and then the step come to (`absorbs`). That is
a case analysis on the two states of the receiver, with the decoders' rules of `Message`; from there to whole
runs it is the library's induction.

Parts of a body are not compared one by one, and nothing is said of how many there are. Where the stream fails,
what was heard of its body by then may differ: a receiver that saw the bytes early has handed out some of them.
-/

namespace Bnl.Http3

open Incremental Bnl.Base

/-! ## What is seen of events -/

/-- An event with a header. -/
def Event.isHeader : Event → Bool
  | .header _ _ _ => true
  | _ => false

/-- An event with a part of a body. -/
def Event.isBody : Event → Bool
  | .body _ _ _ => true
  | _ => false

/-- The part of a body that an event hands out. -/
def Event.bodyBytes : Event → List UInt8
  | .body _ _ buffer => buffer.bytes
  | _ => []

/-- The headers that were handed out, in order. -/
def headerEvents (events : List Event) : List Event := events.filter Event.isHeader

/-- All events but the parts of a body. -/
def otherEvents (events : List Event) : List Event := events.filter fun event => !event.isBody

/-- The parts of a body, put together. -/
def bodyBytes (events : List Event) : List UInt8 := events.flatMap Event.bodyBytes

/-- Events one after the other. -/
theorem otherEvents_append (a b : List Event) :
    otherEvents (a ++ b) = otherEvents a ++ otherEvents b := List.filter_append ..

/-- Parts one after the other. -/
theorem bodyBytes_append (a b : List Event) : bodyBytes (a ++ b) = bodyBytes a ++ bodyBytes b :=
  List.flatMap_append

/-- Headers are not parts of a body. -/
theorem headerEvents_eq (events : List Event) :
    headerEvents events = headerEvents (otherEvents events) := by
  unfold headerEvents otherEvents
  rw [List.filter_filter]
  refine List.filter_congr fun event _ => ?_
  cases event <;> rfl

namespace Endpoint.Request

/-- All events but the body in any case, the body unless the stream failed. -/
def observer : Machine.Observer Event (Except Error Unit) (List Event) (List UInt8) where
  view := otherEvents
  fine := bodyBytes
  failed v := v ≠ .ok ()
  view_append ha hb := by rw [otherEvents_append, otherEvents_append, ha, hb]
  fine_append ha hb := by rw [bodyBytes_append, bodyBytes_append, ha, hb]

/-! ## Steps of a receiver with a message ahead -/

namespace ByteReceiver

variable {f : ProcessFrame}

/-- The message goes on here. -/
def Ahead (r : ByteReceiver) (w : List UInt8) : Prop :=
  match r.state with
  | .headers => r.body.state = .frame ∧ r.headers.Ahead w
  | .body => r.body.Ahead w
  | .closed => False
  | .fin => False

/-- A receiver that has taken an event in. -/
def fed (r : ByteReceiver) (data : Quic.Data) : ByteReceiver :=
  { r with finReceived := data.fin, bytes := r.bytes ++ data.buffer.bytes }

/-- The loop takes an event in, while the stream goes on. -/
theorem feed_ok {r : ByteReceiver} (h : r.finReceived = false) (data : Quic.Data) :
    (machine f).feed (.ok r) data = .ok (r.fed data) := by
  show received (r.recv data) = _
  unfold recv
  rw [h]
  rfl

/-- A step of the loop is a call of `process`. -/
theorem step_ok (r : ByteReceiver) :
    (machine f).step (.ok r) = (verdict (r.process f).1, .ok (r.process f).2) := rfl

/-- An error that asks for no frame is the answer. -/
theorem handleError_eq {r : ByteReceiver} {e : Error} (hfin : e ≠ .incomplete ∨ r.finReceived = false)
    (hne : e ≠ .delegate) : handleError f r e = (.error e, r) := by
  unfold handleError
  rw [if_neg, if_neg hne]
  rintro ⟨he, hr⟩
  rcases hfin with hinc | hfalse
  · exact hinc he
  · rw [hfalse] at hr
    cases hr

/-- What is short behind the end of the stream is malformed. -/
theorem handleError_fin {r : ByteReceiver} (h : r.finReceived = true) :
    handleError f r .incomplete = (.error .malformedFrame, r) :=
  if_pos ⟨rfl, h⟩

section Headers

variable {r : ByteReceiver} {d : Headers.Decoder} {rest : List UInt8}

/-- A decoder that fails, in the headers. -/
theorem process_headers_error (hs : r.state = .headers) {e : Error}
    (hd : r.headers.decodeBytes r.bytes = (.error e, d, rest)) :
    r.process f = handleError f { r with headers := d, bytes := rest } e := by
  unfold process
  rw [hs, hd]

/-- Its error is the answer, unless more is to be looked at. -/
theorem process_headers_fails (hs : r.state = .headers) {e : Error}
    (hd : r.headers.decodeBytes r.bytes = (.error e, d, rest))
    (hfin : e ≠ .incomplete ∨ r.finReceived = false) (hne : e ≠ .delegate) :
    r.process f = (.error e, { r with headers := d, bytes := rest }) :=
  (process_headers_error hs hd).trans
    (handleError_eq (r := { r with headers := d, bytes := rest }) hfin hne)

theorem process_headers_ok (hs : r.state = .headers) {header : Header}
    (hd : r.headers.decodeBytes r.bytes = (.ok header, d, rest)) :
    r.process f = (.ok (.header r.id d.finished header),
      { r with headers := d, bytes := rest
               state := if d.finished && (rest.isEmpty && r.finReceived) then .fin
                 else if d.finished then .body else .headers }) := by
  unfold process
  rw [hs, hd]

/-- A header, with more to come. -/
theorem process_headers_open (hs : r.state = .headers) {header : Header}
    (hd : r.headers.decodeBytes r.bytes = (.ok header, d, rest))
    (hopen : (rest.isEmpty && r.finReceived) = false) :
    r.process f = (.ok (.header r.id d.finished header),
      { r with headers := d, bytes := rest
               state := if d.finished then .body else .headers }) := by
  rw [process_headers_ok hs hd, hopen, Bool.and_false]
  rfl

/-- The headers decoder and its bytes matter by what `decode` says of them. -/
theorem process_headers_congr (hs : r.state = .headers)
    (hd : r.headers.decodeBytes r.bytes = d.decodeBytes rest) :
    r.process f = { r with headers := d, bytes := rest }.process f := by
  unfold process
  rw [hs, hd]

end Headers

section Body

variable {r : ByteReceiver} {d : Body.Decoder} {rest : List UInt8}

/-- A decoder that fails, in the body. -/
theorem process_body_error (hs : r.state = .body) {e : Error}
    (hd : r.body.decodeBytes r.bytes = (.error e, d, rest)) :
    r.process f = handleError f { r with body := d, bytes := rest } e := by
  unfold process
  rw [hs, hd]

/-- A body that is short waits. -/
theorem process_body_short (hs : r.state = .body)
    (hd : r.body.decodeBytes r.bytes = (.error .incomplete, d, rest))
    (hfin : r.finReceived = false) :
    r.process f = (.error .incomplete, { r with body := d, bytes := rest }) :=
  (process_body_error hs hd).trans
    (handleError_eq (r := { r with body := d, bytes := rest }) (.inr hfin) nofun)

/-- What a part of the body comes to. -/
def bodyPart (r : ByteReceiver) (part : Buffer) (d : Body.Decoder) (rest : List UInt8) :
    Except Error Event × ByteReceiver :=
  if rest.isEmpty && r.finReceived then
    if d.inProgress then (.error .malformedFrame, { r with body := d, bytes := rest })
    else (.ok (.body r.id true part), { r with body := d, bytes := rest, state := .fin })
  else (.ok (.body r.id false part), { r with body := d, bytes := rest })

/-- A part of the body. -/
theorem process_body_ok (hs : r.state = .body) {part : Buffer}
    (hd : r.body.decodeBytes r.bytes = (.ok part, d, rest)) :
    r.process f = r.bodyPart part d rest := by
  unfold process bodyPart
  rw [hs, hd]
  dsimp only
  by_cases hfin : (rest.isEmpty && r.finReceived) = true
  · rw [if_pos hfin, if_pos hfin, hfin]
  · rw [if_neg hfin, if_neg hfin, Bool.eq_false_iff.mpr hfin]

/-- A part, with more to come. -/
theorem bodyPart_open {part : Buffer} (h : (rest.isEmpty && r.finReceived) = false) :
    r.bodyPart part d rest =
      (.ok (.body r.id false part), { r with body := d, bytes := rest }) := by
  unfold bodyPart
  rw [h]
  rfl

/-- The body decoder and its bytes matter by what `decode` says of them. -/
theorem process_body_congr (hs : r.state = .body)
    (hd : r.body.decodeBytes r.bytes = d.decodeBytes rest) :
    r.process f = { r with body := d, bytes := rest }.process f := by
  unfold process
  rw [hs, hd]

end Body

/-- What makes an event one more chunk of the message: the stream goes on, with the bytes of the
event and more, and the event is not an end of the stream without bytes. -/
structure Takes (r : ByteReceiver) (data : Quic.Data) : Prop where
  fin_eq : r.finReceived = false
  ne_nil : data.fin = true → data.buffer.bytes ≠ []
  ahead : ∃ x, r.Ahead (r.bytes ++ (data.buffer.bytes ++ x))

/-- An event that is absorbed leaves no stream that is at its end without bytes. -/
theorem Takes.not_last {r : ByteReceiver} {data : Quic.Data} (h : Takes r data)
    (b : List UInt8) : ((b ++ data.buffer.bytes).isEmpty && data.fin) = false := by
  cases hfin : data.fin with
  | false => rw [Bool.and_false]
  | true =>
    have hne : b ++ data.buffer.bytes ≠ [] :=
      fun h' => h.ne_nil hfin (List.append_eq_nil_iff.mp h').2
    rw [Bool.and_true, List.isEmpty_eq_false_iff.mpr hne]

/-- A step that is short goes on with the next event. -/
theorem Takes.short {r r' : ByteReceiver} {data : Quic.Data} (h : Takes r data)
    (hr : r.process f = (.error .incomplete, r')) :
    Takes r' data ∧ (r.fed data).process f = (r'.fed data).process f := by
  obtain ⟨hfin, hne, x, hx⟩ := h
  unfold Ahead at hx
  cases hs : r.state with
  | closed => rw [hs] at hx; exact hx.elim
  | fin => rw [hs] at hx; exact hx.elim
  | headers =>
    rw [hs] at hx
    match hd : r.headers.decodeBytes r.bytes with
    | (.ok header, d, rest) =>
      rw [process_headers_ok hs hd] at hr
      cases hr
    | (.error e, d, rest) =>
      obtain ⟨hdel, hnext⟩ := Headers.Decoder.decodeBytes_error hx.2 hd
      rw [process_headers_fails hs hd (.inr hfin) hdel] at hr
      cases hr
      refine ⟨⟨hfin, hne, x, ?_⟩, ?_⟩
      · unfold Ahead
        rw [hs]
        exact ⟨hx.1, hnext rfl⟩
      · exact process_headers_congr (r := r.fed data) hs
          ((Headers.Decoder.decodeBytes_resumes hx.2 data.buffer.bytes).short hd)
  | body =>
    rw [hs] at hx
    match hd : r.body.decodeBytes r.bytes with
    | (.ok part, d, rest) =>
      rw [process_body_ok hs hd, bodyPart_open (by rw [hfin, Bool.and_false])] at hr
      cases hr
    | (.error e, d, rest) =>
      obtain ⟨hnext, hinc⟩ := Body.Decoder.decodeBytes_ahead hx hd
      obtain rfl := hinc e rfl
      rw [process_body_short hs hd hfin] at hr
      cases hr
      refine ⟨⟨hfin, hne, x, ?_⟩, ?_⟩
      · unfold Ahead
        rw [hs]
        exact hnext
      · exact process_body_congr (r := r.fed data) hs
          (Body.Decoder.decodeBytes_resumes hx hd data.buffer.bytes)

/-- A step that fails fails as well with the next event. -/
theorem Takes.fails {r : ByteReceiver} {data : Quic.Data} (h : Takes r data) {e : Error}
    (hr : (r.process f).1 = .error e) (hinc : e ≠ .incomplete) :
    ((r.fed data).process f).1 = .error e := by
  obtain ⟨hfin, hne, x, hx⟩ := h
  unfold Ahead at hx
  cases hs : r.state with
  | closed => rw [hs] at hx; exact hx.elim
  | fin => rw [hs] at hx; exact hx.elim
  | headers =>
    rw [hs] at hx
    match hd : r.headers.decodeBytes r.bytes with
    | (.ok header, d, rest) =>
      rw [process_headers_ok hs hd] at hr
      cases hr
    | (.error e', d, rest) =>
      obtain ⟨hdel, -⟩ := Headers.Decoder.decodeBytes_error hx.2 hd
      rw [process_headers_fails hs hd (.inr hfin) hdel] at hr
      obtain rfl : e' = e := Except.error.inj hr
      have he := (Headers.Decoder.decodeBytes_resumes hx.2 data.buffer.bytes).error hd hinc
      rcases hlong : r.headers.decodeBytes (r.bytes ++ data.buffer.bytes) with ⟨a, d', rest'⟩
      rw [hlong] at he
      obtain rfl : a = .error e' := he
      rw [process_headers_fails (r := r.fed data) hs hlong (.inl hinc) hdel]
  | body =>
    rw [hs] at hx
    match hd : r.body.decodeBytes r.bytes with
    | (.ok part, d, rest) =>
      rw [process_body_ok hs hd, bodyPart_open (by rw [hfin, Bool.and_false])] at hr
      cases hr
    | (.error e', d, rest) =>
      obtain rfl := (Body.Decoder.decodeBytes_ahead hx hd).2 e' rfl
      rw [process_body_short hs hd hfin] at hr
      exact absurd (Except.error.inj hr).symm hinc

/-- A header comes out the same with the next event, and the message goes on behind it. -/
theorem Takes.header {r : ByteReceiver} {data : Quic.Data} (h : Takes r data)
    (hs : r.state = .headers) {header : Header} {d : Headers.Decoder} {rest : List UInt8}
    (hd : r.headers.decodeBytes r.bytes = (.ok header, d, rest)) :
    Takes (r.process f).2 data ∧
      (r.fed data).process f = ((r.process f).1, (r.process f).2.fed data) := by
  have hlast := h.not_last rest
  obtain ⟨hfin, hne, x, hx⟩ := h
  unfold Ahead at hx
  rw [hs] at hx
  have hlong := (Headers.Decoder.decodeBytes_resumes hx.2 data.buffer.bytes).ok hd
  rw [process_headers_open (r := r.fed data) hs hlong hlast,
    process_headers_open hs hd (by rw [hfin, Bool.and_false])]
  refine ⟨⟨hfin, hne, x, ?_⟩, rfl⟩
  unfold Ahead
  rcases Headers.Decoder.decodeBytes_ok hx.2 hd with ⟨hstate, hnext⟩ | ⟨hstate, hnext⟩
  · have hfinished : d.finished = true := decide_eq_true hstate
    rw [hfinished, if_pos rfl]
    dsimp only
    unfold Body.Decoder.Ahead
    rw [hx.1]
    exact hnext
  · have hfinished : d.finished = false := decide_eq_false (hstate ▸ nofun)
    rw [hfinished, if_neg Bool.false_ne_true]
    exact ⟨hx.1, hnext⟩

/-- A part of the body comes out the same with the next event, or with the next part, or is lost: the
event may show that the stream ends inside the payload. -/
theorem Takes.part {r : ByteReceiver} {data : Quic.Data} (h : Takes r data)
    (hs : r.state = .body) {part : Buffer} {d : Body.Decoder} {rest : List UInt8}
    (hd : r.body.decodeBytes r.bytes = (.ok part, d, rest)) :
    r.process f = (.ok (.body r.id false part), { r with body := d, bytes := rest }) ∧
      Takes { r with body := d, bytes := rest } data ∧
      ((r.fed data).process f =
          (.ok (.body r.id false part), { r with body := d, bytes := rest }.fed data) ∨
        (∃ fin next s, process f ({ r with body := d, bytes := rest }.fed data) =
            (.ok (.body r.id fin next), s) ∧
          (r.fed data).process f = (.ok (.body r.id fin ⟨part.bytes ++ next.bytes⟩), s)) ∨
        ∃ s, process f ({ r with body := d, bytes := rest }.fed data) =
            (.error .malformedFrame, s) ∧
          (r.fed data).process f = (.error .malformedFrame, s)) := by
  have hlast := h.not_last rest
  obtain ⟨hfin, hne, x, hx⟩ := h
  unfold Ahead at hx
  rw [hs] at hx
  have hopen := process_body_ok (f := f) hs hd
  rw [bodyPart_open (by rw [hfin, Bool.and_false])] at hopen
  refine ⟨hopen, ⟨hfin, hne, x, ?_⟩, ?_⟩
  · unfold Ahead
    rw [hs]
    exact (Body.Decoder.decodeBytes_ahead hx hd).1
  rcases Body.Decoder.decodeBytes_append hx hd data.buffer.bytes with
    hsame | ⟨-, rfl, next, d₂, rest₂, hnext, hjoined⟩
  · refine .inl ?_
    rw [process_body_ok (r := r.fed data) hs hsame, bodyPart_open hlast]
    rfl
  · refine .inr ?_
    rw [process_body_ok (r := r.fed data) hs hjoined,
      process_body_ok (r := fed { r with body := d, bytes := [] } data) hs hnext]
    by_cases hend : (rest₂.isEmpty && data.fin) = true
    · cases hp : d₂.inProgress with
      | true =>
        refine .inr ⟨{ r.fed data with body := d₂, bytes := rest₂ }, ?_, ?_⟩ <;>
        · unfold bodyPart
          exact (if_pos hend).trans (if_pos hp)
      | false =>
        have hp' : ¬ d₂.inProgress = true := Bool.eq_false_iff.mp hp
        refine .inl ⟨true, next, { r.fed data with body := d₂, bytes := rest₂, state := .fin },
          ?_, ?_⟩ <;>
        · unfold bodyPart
          exact (if_pos hend).trans (if_neg hp')
    · refine .inl ⟨false, next, { r.fed data with body := d₂, bytes := rest₂ }, ?_, ?_⟩ <;>
      · unfold bodyPart
        exact if_neg hend

/-- An event comes from a header or from a part of the body. -/
theorem Takes.emits {r r' : ByteReceiver} {data : Quic.Data} (h : Takes r data) {event : Event}
    (hr : r.process f = (.ok event, r')) :
    (r.state = .headers ∧ ∃ header d rest,
        r.headers.decodeBytes r.bytes = (.ok header, d, rest) ∧
          event = .header r.id d.finished header) ∨
      r.state = .body ∧ ∃ part d rest, r.body.decodeBytes r.bytes = (.ok part, d, rest) ∧
        event = .body r.id false part := by
  obtain ⟨x, hahead⟩ := h.ahead
  unfold Ahead at hahead
  cases hs : r.state with
  | closed => rw [hs] at hahead; exact hahead.elim
  | fin => rw [hs] at hahead; exact hahead.elim
  | headers =>
    rw [hs] at hahead
    match hd : r.headers.decodeBytes r.bytes with
    | (.ok header, d, rest) =>
      rw [process_headers_ok hs hd] at hr
      cases hr
      exact .inl ⟨rfl, header, d, rest, rfl, rfl⟩
    | (.error e, d, rest) =>
      have hdel := (Headers.Decoder.decodeBytes_error hahead.2 hd).1
      rw [process_headers_fails hs hd (.inr h.fin_eq) hdel] at hr
      cases hr
  | body =>
    rw [hs] at hahead
    match hd : r.body.decodeBytes r.bytes with
    | (.ok part, d, rest) =>
      rw [(h.part hs hd).1] at hr
      cases hr
      exact .inr ⟨rfl, part, d, rest, rfl, rfl⟩
    | (.error e, d, rest) =>
      obtain rfl := (Body.Decoder.decodeBytes_ahead hahead hd).2 e rfl
      rw [process_body_short hs hd h.fin_eq] at hr
      cases hr

/-- A loop that goes on with a receiver that takes the event. -/
def Good (s : Except Error ByteReceiver) (data : Quic.Data) : Prop := ∃ r, s = .ok r ∧ Takes r data

/-- Two events as one. -/
def join (c d : Quic.Data) : Quic.Data :=
  { id := c.id, fin := d.fin, buffer := ⟨c.buffer.bytes ++ d.buffer.bytes⟩ }

/-- Two events taken in are one. -/
theorem feed_feed {s : Except Error ByteReceiver} {c d : Quic.Data}
    (h : Good ((machine f).feed s c) d) :
    (machine f).feed ((machine f).feed s c) d = (machine f).feed s (join c d) := by
  obtain ⟨r', hr', ht⟩ := h
  cases s with
  | error e => cases hr'
  | ok r =>
    cases hfin : r.finReceived with
    | true =>
      have hfeed : (machine f).feed (.ok r) c = .error .internal := by
        show received (r.recv c) = _
        unfold recv
        rw [hfin]
        rfl
      rw [hfeed] at hr'
      cases hr'
    | false =>
      rw [feed_ok hfin] at hr' ⊢
      cases hr'
      rw [feed_ok ht.fin_eq, feed_ok hfin]
      unfold fed join
      rw [List.append_assoc]

/-- **The receiver absorbs events**: a step taken before an event is taken with it. -/
theorem absorbs (f : ProcessFrame) : Machine.Absorbs (machine f) join observer Good where
  feed_feed := feed_feed
  wait := by
    rintro _ s' c ⟨r, rfl, h⟩ hstep
    rw [step_ok] at hstep
    obtain ⟨hw, rfl⟩ := Prod.mk.inj hstep
    obtain ⟨ht, heq⟩ := h.short (Prod.ext (verdict_eq_wait hw) rfl)
    refine ⟨⟨_, rfl, ht⟩, ?_⟩
    rw [feed_ok h.fin_eq, feed_ok ht.fin_eq, step_ok, step_ok, heq]
  stop := by
    rintro _ s' c v ⟨r, rfl, h⟩ hstep
    rw [step_ok] at hstep
    rw [feed_ok h.fin_eq, step_ok]
    rcases verdict_eq_stop (Prod.mk.inj hstep).1 with ⟨id, hr, -⟩ | ⟨e, hr, hne, rfl⟩
    · rcases h.emits (Prod.ext hr rfl) with ⟨-, _, _, _, -, heq⟩ | ⟨-, _, _, _, -, heq⟩ <;> cases heq
    · rw [h.fails hr hne, verdict_error hne]
      exact ⟨_, rfl⟩
  emit := by
    rintro _ s' c o ⟨r, rfl, h⟩ hstep
    rw [step_ok] at hstep
    obtain ⟨ho, rfl⟩ := Prod.mk.inj hstep
    have hr := (verdict_eq_emit ho).1
    rcases h.emits (Prod.ext hr rfl) with ⟨hs, header, d, rest, hd, rfl⟩ | ⟨hs, part, d, rest, hd, rfl⟩
    · obtain ⟨ht, hsame⟩ := h.header hs hd
      refine ⟨⟨_, rfl, ht⟩, .inl ?_⟩
      rw [feed_ok h.fin_eq, feed_ok ht.fin_eq, step_ok, hsame, hr]
      rfl
    · obtain ⟨hopen, ht, hcase⟩ := h.part (f := f) hs hd
      rw [hopen]
      refine ⟨⟨_, rfl, ht⟩, ?_⟩
      rw [feed_ok h.fin_eq, feed_ok ht.fin_eq, step_ok, step_ok]
      rcases hcase with hsame | ⟨fin, next, s, hnext, hjoined⟩ | ⟨s, hnext, hjoined⟩
      · rw [hsame]
        exact .inl rfl
      · rw [hnext, hjoined]
        refine .inr (.inl ⟨_, _, _, rfl, rfl, rfl, ?_⟩)
        show (part.bytes ++ next.bytes) ++ [] = part.bytes ++ (next.bytes ++ [])
        rw [List.append_nil, List.append_nil]
      · rw [hnext, hjoined]
        have hfailed : observer.failed (.error .malformedFrame) := fun h => nomatch h
        exact .inr (.inr ⟨_, _, _, hfailed, rfl, rfl, rfl⟩)

end ByteReceiver

/-! ## Streams -/

/-- The events of buffers that do not end the stream. -/
def events (id : UInt64) (bs : List Buffer) : List Quic.Data := bs.map fun buffer => { id, buffer }

/-- A stream cut into buffers; the last event ends it. -/
def stream (id : UInt64) : List Buffer → List Quic.Data
  | [] => []
  | [buffer] => [{ id, fin := true, buffer }]
  | buffer :: next :: buffers => { id, buffer } :: stream id (next :: buffers)

/-- The last event of a stream ends it. -/
theorem stream_concat (id : UInt64) (bs : List Buffer) (last : Buffer) :
    stream id (bs ++ [last]) = events id bs ++ [{ id, fin := true, buffer := last }] := by
  induction bs with
  | nil => rfl
  | cons b bs ih =>
    cases bs with
    | nil => rfl
    | cons b' bs => exact congrArg ({ id, buffer := b } :: ·) ih

/-- A request receiver that has been started. -/
def started (id : UInt64) : Receiver := Receiver.start { id }

/-- The bytes of some events. -/
def eventBytes (cs : List Quic.Data) : List UInt8 := cs.flatMap fun c => c.buffer.bytes

/-- The bytes of events one after the other. -/
theorem eventBytes_append (cs ds : List Quic.Data) :
    eventBytes (cs ++ ds) = eventBytes cs ++ eventBytes ds := List.flatMap_append

/-- The bytes are those of the buffers. -/
theorem eventBytes_events (id : UInt64) (bs : List Buffer) :
    eventBytes (events id bs) = bs.flatMap Buffer.bytes := List.flatMap_map ..

/-- No event but the last ends the stream. -/
theorem fin_events {id : UInt64} {bs : List Buffer} {c : Quic.Data} (h : c ∈ events id bs) :
    c.fin = false := by
  obtain ⟨b, -, rfl⟩ := List.mem_map.mp h
  rfl

namespace ByteReceiver

/-- A receiver that was started has the message ahead. -/
theorem started_ahead (id : UInt64) {w : List UInt8} {block : List UInt8}
    {payloads : List (List UInt8)} (h : Frame.MessageWire block payloads w) :
    (started id).onBytes.Ahead w :=
  ⟨rfl, rfl, block, payloads, h⟩

section Events

variable {f : ProcessFrame} {r : ByteReceiver} {x : List UInt8}

/-- Events that hold the beginning of a message are taken one after another. -/
theorem goodAll {c : Quic.Data} {cs : List Quic.Data} (hr : r.finReceived = false) (hc : c.fin = false)
    (hw : r.Ahead (r.bytes ++ (c.buffer.bytes ++ (eventBytes cs ++ x))))
    (hopen : ∀ d ∈ cs.dropLast, d.fin = false)
    (hlast : ∀ d ∈ cs, d.fin = true → d.buffer.bytes ≠ []) :
    Machine.GoodAll (machine f) join Good (.ok r) c cs := by
  induction cs generalizing c with
  | nil => exact trivial
  | cons d cs ih =>
    have hsplit : eventBytes (d :: cs) ++ x = d.buffer.bytes ++ (eventBytes cs ++ x) :=
      (congrArg (· ++ x) List.flatMap_cons).trans (List.append_assoc _ _ _)
    rw [hsplit, ← List.append_assoc] at hw
    refine ⟨⟨_, feed_ok hr _, hc, hlast d List.mem_cons_self, _, hw⟩, ?_⟩
    cases cs with
    | nil => exact trivial
    | cons d' ds =>
      refine ih (c := join c d) (hopen d List.mem_cons_self) ?_
        (fun e he => hopen e (List.mem_cons_of_mem _ he))
        fun e he => hlast e (List.mem_cons_of_mem _ he)
      have hjoin : (join c d).buffer.bytes = c.buffer.bytes ++ d.buffer.bytes := rfl
      rw [hjoin, List.append_assoc c.buffer.bytes, ← List.append_assoc r.bytes]
      exact hw

/-- **Events are received as if they came at once.** -/
theorem run_events (c : Quic.Data) (cs : List Quic.Data) (hr : r.finReceived = false)
    (hw : r.Ahead (r.bytes ++ (eventBytes (c :: cs) ++ x)))
    (hopen : ∀ d ∈ (c :: cs).dropLast, d.fin = false)
    (hlast : ∀ d ∈ c :: cs, d.fin = true → d.buffer.bytes ≠ []) :
    Machine.Agree observer ((machine f).run (.ok r) (c :: cs))
      ((machine f).run (.ok r) [cs.foldl join c]) := by
  cases cs with
  | nil => exact Machine.Agree.refl observer _
  | cons d ds =>
    have hsplit : eventBytes (c :: d :: ds) ++ x = c.buffer.bytes ++ (eventBytes (d :: ds) ++ x) :=
      (congrArg (· ++ x) List.flatMap_cons).trans (List.append_assoc _ _ _)
    rw [hsplit] at hw
    exact (absorbs f).run_join (goodAll hr (hopen c List.mem_cons_self) hw
      (fun e he => hopen e (List.mem_cons_of_mem _ he))
      fun e he => hlast e (List.mem_cons_of_mem _ he))

end Events

/-- Events joined have their bytes in a row. -/
theorem foldl_join (c : Quic.Data) (cs : List Quic.Data) :
    (cs.foldl join c).id = c.id ∧
      (cs.foldl join c).buffer.bytes = c.buffer.bytes ++ eventBytes cs := by
  induction cs generalizing c with
  | nil => exact ⟨rfl, (List.append_nil _).symm⟩
  | cons d cs ih =>
    obtain ⟨hid, hbytes⟩ := ih (join c d)
    refine ⟨hid, hbytes.trans ?_⟩
    exact List.append_assoc c.buffer.bytes d.buffer.bytes (eventBytes cs)

theorem foldl_join_fin {c : Quic.Data} {cs : List Quic.Data} (hc : c.fin = false)
    (h : ∀ d ∈ cs, d.fin = false) : (cs.foldl join c).fin = false := by
  induction cs generalizing c with
  | nil => exact hc
  | cons d cs ih =>
    exact ih (c := join c d) (h d List.mem_cons_self) fun e he => h e (List.mem_cons_of_mem _ he)

/-- The last event tells whether the stream ends. -/
theorem foldl_join_concat (c : Quic.Data) (cs : List Quic.Data) (last : Quic.Data) :
    (cs ++ [last]).foldl join c = { id := c.id, fin := last.fin, buffer := ⟨c.buffer.bytes ++
      (eventBytes cs ++ last.buffer.bytes)⟩ } := by
  obtain ⟨hid, hbytes⟩ := foldl_join c cs
  rw [List.foldl_append, List.foldl_cons, List.foldl_nil, join, hid, hbytes, List.append_assoc]

/-- **A stream is received as if it came at once.** -/
theorem run_stream (f : ProcessFrame) (id : UInt64) {r : ByteReceiver}
    (hr : r.finReceived = false) {bs : List Buffer} {last : Buffer} {x : List UInt8}
    (hw : r.Ahead (r.bytes ++ (bs.flatMap Buffer.bytes ++ (last.bytes ++ x))))
    (hlast : last.bytes ≠ []) :
    Machine.Agree observer ((machine f).run (.ok r) (stream id (bs ++ [last])))
      ((machine f).run (.ok r)
        [{ id, fin := true, buffer := ⟨bs.flatMap Buffer.bytes ++ last.bytes⟩ }]) := by
  rw [stream_concat]
  cases bs with
  | nil => exact Machine.Agree.refl observer _
  | cons b bs =>
    have hopen : ∀ d ∈ events id (b :: bs), d.fin = false := fun d hd => fin_events hd
    have hrun := run_events (f := f) (x := x) { id, buffer := b }
      (events id bs ++ [{ id, fin := true, buffer := last }]) hr ?_ ?_ ?_
    · rw [foldl_join_concat, eventBytes_events] at hrun
      rw [List.flatMap_cons, List.append_assoc]
      exact hrun
    · have hbytes : eventBytes (events id (b :: bs) ++ [{ id, fin := true, buffer := last }]) =
          (b :: bs).flatMap Buffer.bytes ++ last.bytes := by
        rw [eventBytes_append, eventBytes_events]
        exact congrArg (_ ++ ·) (List.append_nil last.bytes)
      rw [← List.append_assoc (List.flatMap _ _), ← hbytes] at hw
      exact hw
    · rw [← List.cons_append, List.dropLast_concat]
      exact hopen
    · intro d hd hfin
      rcases List.mem_append.mp (List.cons_append ▸ hd) with hd | hd
      · rw [hopen d hd] at hfin
        cases hfin
      · rw [List.mem_singleton.mp hd]
        exact hlast

end ByteReceiver

/-- What a receiver makes of a stream: its events, and how it ends. -/
def receive (f : ProcessFrame) (id : UInt64) (bs : List Buffer) :
    Result (Except Error Receiver) Event (Except Error Unit) :=
  (Receiver.machine f).run (.ok (started id)) (stream id bs)

/-- What a receiver makes of a stream, if its last event has bytes, it makes of the stream at once. -/
theorem receive_eq (f : ProcessFrame) (id : UInt64) {block wire lost : List UInt8}
    {payloads : List (List UInt8)} (hwire : Frame.MessageWire block payloads wire)
    {bs : List Buffer} {last : Buffer}
    (hcut : wire = bs.flatMap Buffer.bytes ++ last.bytes ++ lost) (hlast : last.bytes ≠ []) :
    let r := (ByteReceiver.machine f).run (.ok (started id).onBytes)
      [{ id, fin := true, buffer := ⟨bs.flatMap Buffer.bytes ++ last.bytes⟩ }]
    otherEvents (receive f id (bs ++ [last])).1 = otherEvents r.1 ∧
      (receive f id (bs ++ [last])).2.1 = r.2.1 ∧
      ((receive f id (bs ++ [last])).2.1 = some (.ok ()) →
        bodyBytes (receive f id (bs ++ [last])).1 = bodyBytes r.1) := by
  rw [List.append_assoc] at hcut
  have hagree := ByteReceiver.run_stream f id (r := (started id).onBytes) rfl
    (ByteReceiver.started_ahead id (hcut ▸ hwire)) hlast
  obtain ⟨hos, hv, -⟩ := Receiver.run_bytes f (.ok (started id)) (stream id (bs ++ [last]))
  refine ⟨?_, ?_, fun hok => ?_⟩
  · exact (congrArg otherEvents hos).trans hagree.view_eq
  · exact hv.trans hagree.verdict_eq
  · refine (congrArg bodyBytes hos).trans (hagree.fine_eq fun v h => ?_)
    have heq := h.symm.trans (hv.symm.trans hok)
    cases heq
    exact not_not_intro rfl

/-- **The cuts of a message do not matter.** However a message, cut off anywhere, is split into
events, the receiver makes the same header events and comes to the same end, with the same body if it
finishes; and the body decoder's assertion holds of every call. -/
theorem chunking_independent (f : ProcessFrame) (id : UInt64) {block wire cut lost : List UInt8}
    {payloads : List (List UInt8)} (hwire : Frame.MessageWire block payloads wire)
    (hcut : wire = cut ++ lost) {bs bs' : List Buffer} (hbs : bs.flatMap Buffer.bytes = cut)
    (hbs' : bs'.flatMap Buffer.bytes = cut) (hne : ∀ b ∈ bs, b.bytes ≠ [])
    (hne' : ∀ b ∈ bs', b.bytes ≠ []) :
    (headerEvents (receive f id bs).1 = headerEvents (receive f id bs').1 ∧
      (receive f id bs).2.1 = (receive f id bs').2.1 ∧
      ((receive f id bs).2.1 = some (.ok ()) →
        bodyBytes (receive f id bs).1 = bodyBytes (receive f id bs').1)) ∧
    ∀ (d d' : Body.Decoder) (s s' : Buffers) (part : Buffer),
      d.decode s = (.ok part, d', s') → s'.empty = true ∨ d'.remaining = 0 := by
  have hcases {bs : List Buffer} (hbs : bs.flatMap Buffer.bytes = cut)
      (hne : ∀ b ∈ bs, b.bytes ≠ []) : (bs = [] ∧ cut = []) ∨
        ∃ init last, bs = init ++ [last] ∧ init.flatMap Buffer.bytes ++ last.bytes = cut ∧
          last.bytes ≠ [] ∧ cut ≠ [] := by
    rcases List.eq_nil_or_concat' bs with rfl | ⟨init, last, rfl⟩
    · exact .inl ⟨rfl, hbs.symm⟩
    · have hlast := hne last (List.mem_append_right _ List.mem_cons_self)
      rw [List.flatMap_append, List.flatMap_singleton] at hbs
      refine .inr ⟨init, last, rfl, hbs, hlast, fun hnil => ?_⟩
      exact hlast (List.append_eq_nil_iff.mp (hbs.trans hnil)).2
  constructor
  · rcases hcases hbs hne with ⟨rfl, hnil⟩ | ⟨init, last, rfl, heq, hlast, hcons⟩
    · rcases hcases hbs' hne' with ⟨rfl, -⟩ | ⟨-, -, -, -, -, hcons⟩
      · exact ⟨rfl, rfl, fun _ => rfl⟩
      · exact absurd hnil hcons
    rcases hcases hbs' hne' with ⟨-, hnil⟩ | ⟨init', last', rfl, heq', hlast', -⟩
    · exact absurd hnil hcons
    obtain ⟨hh, hv, hb⟩ := receive_eq f id hwire (heq.symm ▸ hcut) hlast
    obtain ⟨hh', hv', hb'⟩ := receive_eq f id hwire (heq'.symm ▸ hcut) hlast'
    rw [heq] at hh hv hb
    rw [heq'] at hh' hv' hb'
    refine ⟨?_, hv.trans hv'.symm, fun hok => ?_⟩
    · rw [headerEvents_eq, hh.trans hh'.symm, ← headerEvents_eq]
    · exact (hb hok).trans (hb' (hv'.trans (hv.symm.trans hok))).symm
  · intro d d' s s' part h
    have hbytes := d.decode_bytes s
    rw [h] at hbytes
    rw [Buffers.empty_iff]
    exact Body.Decoder.decodeBytes_exhausts hbytes.symm

/-- The block of ":method: GET" in a HEADERS frame, and a DATA frame with two bytes. -/
theorem getWire_message : Frame.MessageWire [0, 0, 0xd1] [[0x68, 0x69]]
    [1, 3, 0, 0, 0xd1, 0, 2, 0x68, 0x69] :=
  ⟨3, [1, 3], [0, 2] ++ ([0x68, 0x69] ++ []), ⟨[1], [3], rfl, rfl, rfl⟩, rfl,
    .cons ⟨[0], [2], rfl, rfl, rfl⟩ rfl .nil, rfl⟩

/-- The message without its last byte, at once and in three events. -/
theorem chunking_independent_get :
    let bs : List Buffer := [⟨[1, 3, 0, 0, 0xd1, 0, 2, 0x68]⟩]
    let bs' : List Buffer := [⟨[1]⟩, ⟨[3, 0, 0]⟩, ⟨[0xd1, 0, 2, 0x68]⟩]
    (headerEvents (receive serverProcess 0 bs).1 = headerEvents (receive serverProcess 0 bs').1 ∧
      (receive serverProcess 0 bs).2.1 = (receive serverProcess 0 bs').2.1 ∧
      ((receive serverProcess 0 bs).2.1 = some (.ok ()) →
        bodyBytes (receive serverProcess 0 bs).1 = bodyBytes (receive serverProcess 0 bs').1)) ∧
    ∀ (d d' : Body.Decoder) (s s' : Buffers) (part : Buffer),
      d.decode s = (.ok part, d', s') → s'.empty = true ∨ d'.remaining = 0 :=
  chunking_independent serverProcess 0 getWire_message
    (show _ = [1, 3, 0, 0, 0xd1, 0, 2, 0x68] ++ [0x69] from rfl) rfl rfl (by decide) (by decide)

end Endpoint.Request

end Bnl.Http3
