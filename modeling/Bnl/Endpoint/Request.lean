import Bnl.Codec.Body
import Bnl.Codec.Headers

/-!
# `endpoint::stream::request`

The two halves of a request stream. The sender turns what the application adds into QUIC data; the receiver
turns QUIC data into events. What a receiver does with a frame that neither half of the message explains is left
to the server's and the client's receivers, which are the argument `processFrame` here.

The sender goes through the headers' encoder and the body's, and marks with `fin` the last buffer of the one
that finishes last. The receiver does the same with the decoders, and ends the message in one of four ways:
behind the last header, behind the last part of the body, at a second HEADERS frame, where all that is left is
dropped, or with an error where the stream ended inside a frame. Both decoders keep their state over an error,
so `incomplete` is answered until there is more.
-/

namespace Bnl.Http3.Endpoint.Request

open Bnl.Base

/-! ## Sending -/

/-- `sender::state`. -/
inductive Sender.State where
  | headers
  | body
  | fin
  deriving DecidableEq, Repr

/-- `request::sender`; the members are named with the underscore of the source, since the functions
have the same names without it. -/
structure Sender where
  state : Sender.State := .headers
  headers_ : Headers.Encoder := {}
  body_ : Body.Encoder := {}
  id : UInt64
  deriving DecidableEq, Repr

namespace Sender

/-- `finished()`: the sender has sent its last buffer. -/
def finished (s : Sender) : Bool := s.state = .fin

/-- `send()`. The event carries `fin` where the encoder that made it has finished and the message has no more to
come. -/
def send (host : Host) (s : Sender) : Except Error Quic.Event × Sender :=
  match s.state with
  | .headers =>
    match s.headers_.encode host with
    | (.error error, headers_) => (.error error, { s with headers_ })
    | (.ok encoded, headers_) =>
      let state :=
        if headers_.finished then (if s.body_.finished then State.fin else State.body) else s.state
      let fin := headers_.finished && s.body_.finished
      (.ok (.data { id := s.id, fin, buffer := encoded }), { s with headers_, state })
  | .body =>
    match s.body_.encode host with
    | (.error error, body_) => (.error error, { s with body_ })
    | (.ok encoded, body_) =>
      let state := if body_.finished then .fin else s.state
      (.ok (.data { id := s.id, fin := body_.finished, buffer := encoded }), { s with body_, state })
  | .fin => (.error .internal, s)

/-- `header(header)`, of a handle as of the sender. -/
def header (host : Host) (s : Sender) (header : Header) : Except Error Unit × Sender :=
  let (r, headers_) := s.headers_.add host header
  (r, { s with headers_ })

/-- `body(buffer)`. -/
def body (s : Sender) (buffer : Buffer) : Except Error Unit × Sender :=
  let (r, body_) := s.body_.add buffer
  (r, { s with body_ })

/-- `start()`: the headers are complete. -/
def start (s : Sender) : Except Error Unit × Sender :=
  let (r, headers_) := s.headers_.fin
  (r, { s with headers_ })

/-- `fin()`: the body is complete. -/
def fin (s : Sender) : Except Error Unit × Sender :=
  let (r, body_) := s.body_.fin
  (r, { s with body_ })

end Sender

/-! ## Receiving -/

/-- `receiver::state`. -/
inductive Receiver.State where
  | closed
  | headers
  | body
  | fin
  deriving DecidableEq, Repr

/-- `request::receiver`. -/
structure Receiver where
  state : Receiver.State := .closed
  buffers : Buffers := {}
  finReceived : Bool := false
  headers : Headers.Decoder := {}
  body : Body.Decoder := {}
  id : UInt64
  deriving DecidableEq, Repr

/-- The virtual `process(frame)`; it sees the headers decoder. -/
abbrev ProcessFrame : Type := Headers.Decoder → Frame → Except Error Event

namespace Receiver

/-- `closed()`: the request has sent nothing yet. -/
def closed (r : Receiver) : Bool := r.state = .closed

/-- `finished()`: the last event has been made. -/
def finished (r : Receiver) : Bool := r.state = .fin

/-- `start`, for a closed receiver. -/
def start (r : Receiver) : Receiver := { r with state := .headers }

/-- `recv(data)`: keeps the buffer, and that the stream has ended. Data behind the end is an internal error. -/
def recv (r : Receiver) (data : Quic.Data) : Except Error Unit × Receiver :=
  if r.finReceived then (.error .internal, r)
  else (.ok (), { r with finReceived := data.fin, buffers := r.buffers.push data.buffer })

/-- The end of `process`, behind a decoder that failed. -/
def handleError (processFrame : ProcessFrame) (r : Receiver) (error : Error) :
    Except Error Event × Receiver :=
  if error = .incomplete ∧ r.finReceived = true then (.error .malformedFrame, r)
  else if error = .delegate then
    match Frame.decode r.buffers with
    | (.error error, buffers) => (.error error, { r with buffers })
    | (.ok frame, buffers) =>
      let r := { r with buffers }
      match frame with
      | .headers _ =>
        if r.state = .body then
          (.ok (.body r.id true {}),
            { r with buffers := r.buffers.consume r.buffers.size, state := .fin })
        else (.error error, r)
      | .data _ => (.error .unexpectedFrame, r)
      | .settings _ => (.error .wrongStream, r)
      | .maxPushId _ => (.error .wrongStream, r)
      | .cancelPush _ => (.error .wrongStream, r)
      | .goaway _ => (.error .wrongStream, r)
      | _ => (processFrame r.headers frame, r)
  else (.error error, r)

/-- `process()`: one event, or an error. A header and a part of the body are one event each, and the event that
empties a stream which has ended ends the message. -/
def process (processFrame : ProcessFrame) (r : Receiver) : Except Error Event × Receiver :=
  match r.state with
  | .closed => (.error .internal, r)
  | .headers =>
    match r.headers.decode r.buffers with
    | (.error error, headers, buffers) =>
      handleError processFrame { r with headers, buffers } error
    | (.ok header, headers, buffers) =>
      let fin := buffers.empty && r.finReceived
      let state :=
        if headers.finished && fin then .fin
        else if headers.finished then .body else r.state
      (.ok (.header r.id headers.finished header), { r with headers, buffers, state })
  | .body =>
    match r.body.decode r.buffers with
    | (.error error, body, buffers) => handleError processFrame { r with body, buffers } error
    | (.ok part, body, buffers) =>
      let r := { r with body, buffers }
      let fin := buffers.empty && r.finReceived
      if fin then
        -- all stream data is processed, and there is frame data left to be received
        if body.inProgress then (.error .malformedFrame, r)
        else (.ok (.body r.id fin part), { r with state := .fin })
      else (.ok (.body r.id fin part), r)
  | .fin => (.ok (.finished r.id), r)

end Receiver

/-! ## The two receivers -/

/-- `server::stream::request::receiver::process`. -/
def serverProcess : ProcessFrame := fun headers frame =>
  match frame with
  | .priority _ => if headers.started then .error .unexpectedFrame else .error .notImplemented
  | .headers _ => .error .unexpectedFrame
  | .pushPromise _ _ => .error .unexpectedFrame
  | .duplicatePush _ => .error .unexpectedFrame
  | _ => .error .internal

/-- `client::stream::request::receiver::process`. -/
def clientProcess : ProcessFrame := fun _ frame =>
  match frame with
  | .pushPromise _ _ => .error .notImplemented
  | .duplicatePush _ => .error .notImplemented
  | .headers _ => .error .unexpectedFrame
  | .priority _ => .error .unexpectedFrame
  | _ => .error .internal

end Bnl.Http3.Endpoint.Request
