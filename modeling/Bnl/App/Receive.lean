import Bnl.App.Client
import Bnl.Quic.Client

/-!
# `client`, receiving

A datagram goes through the QUIC connection, whose events go to the HTTP/3 connection one after another, and
what each of these has to say goes to the handler of the application. A handler that returns an error has the
event loop exit; what is left in the event buffer then comes with the next datagram.

The handler is a pure function over a state of its own. A handler of the source may also call back into the
client, which is not modelled: what an application asks for comes between two calls of `recv`, as an action of
its own.

The loop over a generator takes fuel, `enough` for what is in the buffers of the stream: that it suffices is a
law, and without the fuel the function would be the same. The loop over datagrams ends when the socket has none.
-/

namespace Bnl.App

open Bnl.Base Bnl.Http3.Endpoint

/-- What `udp::recv` comes to. -/
inductive Receive where
  | datagram (packet : Buffer)
  | again
  | failed
  deriving DecidableEq, Repr

/-- What the handler of the application returns: success, `error::finished` or another error. -/
inductive Verdict where
  | success
  | finished
  | failed
  deriving DecidableEq, Repr

/-- `client` with the rest of its QUIC connection, the state of its handler, and what `sd_.exit` was called with. -/
structure Program (C H : Type) where
  client : Client (Quic.Client C)
  handler : H
  exit_ : Option Verdict := none

namespace Program

variable {C H : Type} (on_event_ : H → Http3.Event → Verdict × H)

/-- How a loop over events ends. -/
inductive Drained where
  | through
  | exited
  | failed (error : Error)
  deriving DecidableEq, Repr

/-- The inner loop of `recv_once`, as long as `fuel` lasts. -/
def drain : (fuel : Nat) → Generator → Program C H → Option (Drained × Program C H)
  | 0, _, _ => none
  | fuel + 1, http3, p =>
    match http3.next Http3.Endpoint.Client.Connection.process p.client.http3_ with
    | none => none
    | some (false, _, http3_) => some (.through, { p with client := { p.client with http3_ } })
    | some (true, http3, http3_) =>
      let p := { p with client := { p.client with http3_ } }
      match http3.get with
      | (.error error, _) => some (.failed (.http3 error), p)
      | (.ok event, http3) =>
        let (verdict, handler) := on_event_ p.handler event
        let p := { p with handler }
        if verdict = .success then drain fuel http3 p else some (.exited, { p with exit_ := some verdict })

/-- The bytes that are there of a stream. -/
def pending (c : Http3.Endpoint.Client.Connection) (id : UInt64) : Nat :=
  if id = c.control.2.id then c.control.2.buffers.size
  else
    match c.requests[id]? with
    | none => 0
    | some (_, receiver) => receiver.buffers.size

/-- Every event but the last three takes a byte, or has taken the beginning of an empty frame. -/
def enough (c : Http3.Endpoint.Client.Connection) (id : UInt64) : Nat := 2 * pending c id + 5

/-- The loop of `recv_once` over the events of the QUIC connection. -/
def handOut : List (Except Quic.Error Quic.Event) → Program C H → Option (Drained × Program C H)
  | [], p => some (.through, p)
  | r :: event_buffer_, p =>
    let p := { p with client := { p.client with ngtcp2 := { p.client.ngtcp2 with event_buffer_ } } }
    match r with
    | .error error => some (.failed (.quic error), p)
    | .ok event =>
      match p.client.http3_.recv event with
      | (.error error, http3_) => some (.failed (.http3 error), { p with client := { p.client with http3_ } })
      | (.ok http3, http3_) =>
        match drain on_event_ (enough http3_ http3.id) http3 { p with client := { p.client with http3_ } } with
        | none => none
        | some (.through, p) => handOut event_buffer_ p
        | some (drained, p) => some (drained, p)

/-- What `recv_once` returns. `sd_.exit` succeeds. -/
def Drained.result : Drained → Except Error Unit
  | .through => .ok ()
  | .exited => .ok ()
  | .failed error => .error error

/-- `recv_once`. -/
def recvOnce (library : Quic.Library C) (receive : Receive) (p : Program C H) :
    Option (Except Error Unit × Program C H) :=
  match receive with
  | .again => some (.error .again, p)
  | .failed => some (.error .system, p)
  | .datagram packet =>
    let (quic_, ngtcp2) := p.client.ngtcp2.recv library packet p.client.quic_
    let p := { p with client := { p.client with quic_, ngtcp2 } }
    (handOut on_event_ ngtcp2.event_buffer_ p).map fun (drained, p) => (drained.result, p)

/-- What `recv` returns when its loop ended with an error. -/
def recvResult (error : Error) : Except Error Unit := if error = .again then .ok () else .error error

/-- `recv`, as far as so many rounds of its loop take it; `none` where the loop goes on. -/
def recv (library : Quic.Library C) (receives : Nat → Receive) (n : Nat) (p : Program C H) :
    Option (Loop.Ended (Except Error Unit) (Program C H)) :=
  (Loop.rounds (recvOnce on_event_ library) receives n p).map (Loop.Ended.map recvResult)

/-- `send_once`. -/
def sendOnce (library : Quic.Library C) (host : Host) (transmit : Transmit) (p : Program C H) :
    Option (Except Error Unit × Program C H) :=
  (Client.sendOnce (Quic.Client.transport library) host transmit p.client).map fun (r, client) =>
    (r, { p with client })

/-- `retransmit`, before it sends. -/
def expire (library : Quic.Library C) (p : Program C H) : Except Error Unit × Program C H :=
  match p.client.ngtcp2.expire library with
  | (.ok (), ngtcp2) => (.ok (), { p with client := { p.client with ngtcp2 } })
  | (.error error, ngtcp2) => (.error (.quic error), { p with client := { p.client with ngtcp2 } })

/-- `request`. -/
def request (p : Program C H) : UInt64 × Program C H :=
  (p.client.http3_.request.1, { p with client := { p.client with http3_ := p.client.http3_.request.2 } })

/-- A call through a handle. -/
def callHandle (host : Host) (id : UInt64) (call : Call) (p : Program C H) : Except Http3.Error Unit × Program C H :=
  ((p.client.http3_.callHandle host id call).1,
    { p with client := { p.client with http3_ := (p.client.http3_.callHandle host id call).2 } })

end Program

end Bnl.App
