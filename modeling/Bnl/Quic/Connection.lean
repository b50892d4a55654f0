import Bnl.Quic.Stream

/-!
# `quic::client::connection`

What the connection does with its streams: data is added to them, they are sent in the order of their ids, and
one that is acknowledged to its end is erased. The handshake is a parameter, next to the ngtcp2 library it
drives.

A packet is what one call of `send` answers: the handshake's first, then ngtcp2's own, then that of the first
stream that is not idle. A stream that is idle stays in the map with what it was before it was asked; the map
changes in the one place the source changes it, where a stream is added to or acknowledged. An assertion that
fails in a stream is `none`.
-/

namespace Bnl.Quic

open Bnl.Base

/-- The ngtcp2 library and `handshake_`, over the state of both. -/
structure Transport (C : Type) extends Ngtcp2 C where
  handshakeSend : C → Except Error Unit × C
  handshakeCompleted : C → Bool

/-- `quic::client::connection`. -/
structure Connection where
  streams_ : Std.TreeMap UInt64 Stream := ∅

namespace Connection

variable {C : Type}

/-- The loop of `send` over the streams. -/
def sendStreams (transport : Transport C) :
    List (UInt64 × Stream) → Connection → C → Option (Except Error Buffer × Connection × C)
  | [], q, c => some (.error .idle, q, c)
  | (id, stream) :: entries, q, c =>
    match stream.send transport.toNgtcp2 c with
    | none => none
    | some (r, stream, c) =>
      let q : Connection := ⟨q.streams_.insert id stream⟩
      if r = .error .idle then sendStreams transport entries q c else some (r, q, c)

/-- `send`: the handshake, what ngtcp2 has to send of its own, and then the streams. -/
def send (transport : Transport C) (q : Connection) (c : C) :
    Option (Except Error Buffer × Connection × C) :=
  match transport.handshakeSend c with
  | (.error error, c) => some (.error error, q, c)
  | (.ok (), c) =>
    match transport.write_pkt c with
    | (.ok packet, c) => some (.ok packet, q, c)
    | (.error error, c) =>
      if error ≠ .idle then some (.error error, q, c)
      else if !transport.handshakeCompleted c then some (.error .idle, q, c)
      else sendStreams transport q.streams_.toList q c

/-- `add(quic::data)`, with the assertions of the stream. -/
def addData (q : Connection) (data : Data) : Option Connection := do
  let stream ← (q.streams_.getD data.id { id := data.id }).add data.buffer
  let stream ← if data.fin then stream.fin else some stream
  pure ⟨q.streams_.insert data.id stream⟩

/-- `add(quic::event)`. -/
def add (q : Connection) : Event → Option (Except Error Unit × Connection)
  | .data data => (q.addData data).map fun q => (.ok (), q)
  | .error _ => some (.error .notImplemented, q)

/-- `acked_stream_data_offset(id, size)`: an acknowledgement for a stream that is not there is an internal error. -/
def acked_stream_data_offset (q : Connection) (id : UInt64) (size : Nat) :
    Except Error Unit × Connection :=
  match q.streams_[id]? with
  | none => (.error .internal, q)
  | some stream =>
    match stream.ack size with
    | (.error error, stream) => (.error error, ⟨q.streams_.insert id stream⟩)
    | (.ok (), stream) =>
      if stream.finished then (.ok (), ⟨q.streams_.erase id⟩)
      else (.ok (), ⟨q.streams_.insert id stream⟩)

end Connection

end Bnl.Quic
