import Bnl.Endpoint.Connection
import Bnl.Library.Loop
import Bnl.Quic.Connection

/-!
# `client` and `os::socket::udp`

The client passes on what it has to send, from its HTTP/3 connection to its QUIC connection and from there to
the socket, the last first, until none of them has anything left or the socket takes no more. What the socket
says to a datagram comes from outside. The timers that are set behind the loop are left out.

Each round moves one thing one stage on: a datagram out, a packet to the socket, or an event to the QUIC
connection. So the loop is `Loop.rounds` over `sendOnce`, with what the socket says in each round as a sequence.
It may go on for as long as the library makes packets; a law about the loop is about the rounds it makes, and
one about its end says what it needs to end.
-/

namespace Bnl.App

open Bnl.Base

/-- What an `error` of the client can be: its own `error::idle`, `EAGAIN`, what else the system said, or an error of
one of the two connections. -/
inductive Error where
  | idle
  | again
  | system
  | quic (error : Quic.Error)
  | http3 (error : Http3.Error)
  deriving DecidableEq, Repr

/-! ## `udp` -/

/-- What `::send` does with a datagram: it is taken as a whole, or not now (`EAGAIN`), or there is an error. -/
inductive Transmit where
  | taken
  | again
  | failed
  deriving DecidableEq, Repr

/-- `os::socket::udp`. -/
structure Udp where
  send_buffer_ : Buffers := {}
  deriving DecidableEq, Repr

namespace Udp

/-- `send()`: the first datagram, which stays where it is unless it was taken. -/
def send (transmit : Transmit) (udp : Udp) : Except Error Unit × Udp :=
  if udp.send_buffer_.empty then (.error .idle, udp)
  else
    let first := udp.send_buffer_.front
    match transmit with
    | .taken => (.ok (), { send_buffer_ := udp.send_buffer_.consume first.size })
    | .again => (.error .again, udp)
    | .failed => (.error .system, udp)

/-- `add(buffer)`. -/
def add (udp : Udp) (buffer : Buffer) : Udp := { send_buffer_ := udp.send_buffer_.push buffer }

end Udp

/-! ## `client` -/

/-- `client`, and the state of the ngtcp2 library. -/
structure Client (C : Type) where
  socket_ : Udp := {}
  quic_ : Quic.Connection := {}
  http3_ : Http3.Endpoint.Client.Connection := {}
  ngtcp2 : C

namespace Client

variable {C : Type}

/-- The end of `send_once`: the HTTP/3 connection. -/
def sendHttp3 (host : Host) (client : Client C) : Option (Except Error Unit × Client C) :=
  match client.http3_.send host with
  | (.ok event, http3_) =>
    match client.quic_.add event with
    | none => none
    | some (.error error, quic_) => some (.error (.quic error), { client with http3_, quic_ })
    | some (.ok (), quic_) => some (.ok (), { client with http3_, quic_ })
  | (.error error, http3_) =>
    if error ≠ .idle then some (.error (.http3 error), { client with http3_ })
    else some (.error .idle, { client with http3_ })

/-- `send_once`, with the assertions of the streams. -/
def sendOnce (transport : Quic.Transport C) (host : Host) (transmit : Transmit) (client : Client C) :
    Option (Except Error Unit × Client C) :=
  match client.socket_.send transmit with
  | (.ok (), socket_) => some (.ok (), { client with socket_ })
  | (.error error, socket_) =>
    let client := { client with socket_ }
    if error ≠ .idle then some (.error error, client)
    else
      match client.quic_.send transport client.ngtcp2 with
      | none => none
      | some (.ok packet, quic_, ngtcp2) =>
        some (.ok (), { client with socket_ := client.socket_.add packet, quic_, ngtcp2 })
      | some (.error error, quic_, ngtcp2) =>
        let client := { client with quic_, ngtcp2 }
        if error ≠ .idle then some (.error (.quic error), client) else client.sendHttp3 host

/-- What `send` returns when the loop ended with an error. -/
def sendResult (error : Error) : Except Error Unit :=
  if error = .again ∨ error = .idle then .ok () else .error error

/-- `send`, as far as so many rounds of its loop take it; `none` where the loop goes on. -/
def send (transport : Quic.Transport C) (host : Host) (transmits : Nat → Transmit) (n : Nat) (client : Client C) :
    Option (Loop.Ended (Except Error Unit) (Client C)) :=
  (Loop.rounds (sendOnce transport host) transmits n client).map (Loop.Ended.map sendResult)

end Client

end Bnl.App
