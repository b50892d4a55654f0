import Bnl.Codec.Frame

/-!
# `endpoint::stream::control`

The control stream of an endpoint: what it sends is the type of the stream and its settings; what it receives
begins with the peer's. What the receiver does with any other frame the control stream may carry is left to the
server's and the client's receivers, which are the argument `processFrame` here: a pure function of the frame,
since neither override has a state.

The first of the receiver's cases falls through to the second, and each decodes from the buffers themselves, so
what a decoder consumed before it failed stays consumed. An end of the stream is refused with
`closed_critical_stream` when it is received.
-/

namespace Bnl.Http3.Endpoint.Control

open Bnl.Base

/-- `control::type`. -/
def type : UInt64 := 0x0

/-! ## Sending -/

/-- `sender::state`. -/
inductive Sender.State where
  | type
  | settings
  | idle
  deriving DecidableEq, Repr

/-- `control::sender`. -/
structure Sender where
  state : Sender.State := .type
  settings : Settings := {}
  id : UInt64
  deriving DecidableEq, Repr

/-- `send()`: the type, the settings, and from then on `idle`. -/
def Sender.send (host : Host) (s : Sender) : Except Error Quic.Event × Sender :=
  match s.state with
  | .type =>
    match Varint.encodeBuffer host Control.type with
    | .error error => (.error error, s)
    | .ok encoded => (.ok (.data { id := s.id, buffer := encoded }), { s with state := .settings })
  | .settings =>
    match (Frame.settings s.settings).encodeBuffer host with
    | .error error => (.error error, s)
    | .ok encoded => (.ok (.data { id := s.id, buffer := encoded }), { s with state := .idle })
  | .idle => (.error .idle, s)

/-! ## Receiving -/

/-- `receiver::state`. -/
inductive Receiver.State where
  | type
  | settings
  | active
  deriving DecidableEq, Repr

/-- `control::receiver`. -/
structure Receiver where
  state : Receiver.State := .type
  buffers : Buffers := {}
  id : UInt64
  deriving DecidableEq, Repr

/-- The virtual `process(frame)`. -/
abbrev ProcessFrame : Type := Frame → Except Error Event

namespace Receiver

/-- `recv(data)`: the end of the control stream is an error, whatever came with it. -/
def recv (r : Receiver) (data : Quic.Data) : Except Error Unit × Receiver :=
  if data.fin then (.error .closedCriticalStream, r)
  else (.ok (), { r with buffers := r.buffers.push data.buffer })

/-- The case `active` of `process`. -/
def processActive (processFrame : ProcessFrame) (r : Receiver) : Except Error Event × Receiver :=
  match Frame.decode r.buffers with
  | (.error error, buffers) => (.error error, { r with buffers })
  | (.ok frame, buffers) =>
    let r := { r with buffers }
    match frame with
    | .headers _ => (.error .wrongStream, r)
    | .data _ => (.error .wrongStream, r)
    | .pushPromise _ _ => (.error .wrongStream, r)
    | .duplicatePush _ => (.error .wrongStream, r)
    | .settings _ => (.error .unexpectedFrame, r)
    | _ => (processFrame frame, r)

/-- The case `settings` of `process`. -/
def processSettings (r : Receiver) : Except Error Event × Receiver :=
  match Frame.decode r.buffers with
  | (.error error, buffers) => (.error error, { r with buffers })
  | (.ok frame, buffers) =>
    let r := { r with buffers }
    match frame with
    | .settings settings => (.ok (.settings settings), { r with state := .active })
    | _ => (.error .missingSettings, r)

/-- `process`. The type that is read is asserted to be `Control.type`, and not looked at otherwise. -/
def process (processFrame : ProcessFrame) (r : Receiver) : Except Error Event × Receiver :=
  match r.state with
  | .type =>
    match Varint.decode r.buffers with
    | (.error error, buffers) => (.error error, { r with buffers })
    -- falls through to the next case
    | (.ok _, buffers) => processSettings { r with buffers, state := .settings }
  | .settings => processSettings r
  | .active => processActive processFrame r

end Receiver

/-! ## The two endpoints -/

/-- The control stream the client opens. -/
def clientStreamControlId : UInt64 := 0x02
/-- The control stream the server opens. -/
def serverStreamControlId : UInt64 := 0x03

/-- `server::stream::control::receiver::process`. -/
def serverProcess : ProcessFrame
  | .cancelPush _ => .error .notImplemented
  | .maxPushId _ => .error .notImplemented
  | .priority _ => .error .notImplemented
  | .goaway _ => .error .unexpectedFrame
  | _ => .error .internal

/-- `client::stream::control::receiver::process`. -/
def clientProcess : ProcessFrame
  | .cancelPush _ => .error .notImplemented
  | .goaway _ => .error .notImplemented
  | .maxPushId _ => .error .unexpectedFrame
  | .priority _ => .error .unexpectedFrame
  | _ => .error .internal

end Bnl.Http3.Endpoint.Control
