import Bnl.Base.Types

/-!
# `quic::client::stream` and the calls into ngtcp2

A stream queues what is added to it, hands the first buffer to ngtcp2 and keeps what ngtcp2 has written until it
is acknowledged. The ngtcp2 library is a parameter: its functions act on a state of its own. An assertion that
fails is `none` where the caller can bring it about.

`write` is where the two queues meet. ngtcp2 says how many bytes of the first buffer it took; these leave
`buffers_` and join `keepalive_`, none where it took none. Whether the last byte of the stream goes with them is
decided by a comparison of the first buffer with the last, which is one of their contents and not of their
places.

The library is bounded by nothing here. Where a law needs that it took no more bytes than it was given, or that
the streams it opens are numbered in order, it says so.
-/

namespace Bnl.Quic

open Bnl.Base

/-- `quic::error`. -/
inductive Error where
  | noError
  | internal
  | incomplete
  | idle
  | delegate
  | finished
  | notImplemented
  | handshake
  | crypto
  | ngtcp2
  | pathValidation
  | streamNotFound
  | streamIdBlocked
  | streamDataBlocked
  deriving DecidableEq, Repr

/-- What a function of the ngtcp2 library returns: the error codes the source tells apart, and any
other. -/
inductive Answer (α : Type) where
  | ok (a : α)
  | streamIdBlocked
  | streamDataBlocked
  | error
  deriving DecidableEq, Repr

/-- The answer, with another value. -/
def Answer.map {α β : Type} (f : α → β) : Answer α → Answer β
  | .ok a => .ok (f a)
  | .streamIdBlocked => .streamIdBlocked
  | .streamDataBlocked => .streamDataBlocked
  | .error => .error

/-- The functions of the ngtcp2 library that streams are sent with, over the state of an
`ngtcp2_conn`. `ngtcp2_conn_write_stream` also reports how much of the data it has written, or that
it has written no STREAM frame. -/
structure Ngtcp2 (C : Type) where
  openBidiStream : C → Answer UInt64 × C
  openUniStream : C → Answer UInt64 × C
  writePkt : C → Answer Buffer × C
  writeStream : C → UInt64 → Bool → Buffer → Answer (Buffer × Option Nat) × C

/-! ## `ngtcp2::connection` -/

namespace Ngtcp2

variable {C : Type} (ngtcp2 : Ngtcp2 C)

/-- `write_pkt`: a packet without bytes is none. -/
def write_pkt (c : C) : Except Error Buffer × C :=
  match ngtcp2.writePkt c with
  | (.ok packet, c) => if packet.empty then (.error .idle, c) else (.ok packet, c)
  | (_, c) => (.error .ngtcp2, c)

/-- `write_stream(id, data, fin)`. Where no STREAM frame was written, no bytes were. -/
def write_stream (c : C) (id : UInt64) (data : Buffer) (fin : Bool) :
    Except Error (Buffer × Nat) × C :=
  match ngtcp2.writeStream c id fin data with
  | (.ok (packet, written), c) => (.ok (packet, written.getD 0), c)
  | (.streamDataBlocked, c) => (.error .streamDataBlocked, c)
  | (_, c) => (.error .ngtcp2, c)

/-- The stream that `open(id)` asks the library for. -/
def openStream (c : C) (id : UInt64) : Answer UInt64 × C :=
  if id &&& 0x2 = 0 then ngtcp2.openBidiStream c else ngtcp2.openUniStream c

/-- `open(id)`, with the assertion that the stream has this id. -/
def open_ (c : C) (id : UInt64) : Option (Except Error Unit × C) :=
  match ngtcp2.openStream c id with
  | (.ok quic_id, c) => if quic_id = id then some (.ok (), c) else none
  | (.streamIdBlocked, c) => some (.error .streamIdBlocked, c)
  | (_, c) => some (.error .ngtcp2, c)

end Ngtcp2

/-! ## `stream` -/

/-- `quic::client::stream`. -/
structure Stream where
  buffers_ : Buffers := {}
  keepalive_ : Buffers := {}
  fin_ : Bool := false
  opened_ : Bool := false
  id : UInt64
  deriving DecidableEq, Repr

namespace Stream

variable {C : Type}

/-- `send`, of a stream that is open and has something to send. -/
def write (ngtcp2 : Ngtcp2 C) (c : C) (s : Stream) : Except Error Buffer × Stream × C :=
  let first := s.buffers_.front
  -- the buffers are compared by their bytes
  let fin := s.fin_ && first == s.buffers_.back
  match ngtcp2.write_stream c s.id first fin with
  | (.error error, c) =>
    (.error (if error = .streamIdBlocked ∨ error = .streamDataBlocked then .idle else error), s, c)
  | (.ok (packet, stream_bytes_written), c) =>
    let (sent, buffers_) := s.buffers_.slice stream_bytes_written
    (.ok packet, { s with buffers_, keepalive_ := s.keepalive_.push sent }, c)

/-- `send()`: a stream that is not open is opened first; one that has nothing to send is idle. -/
def send (ngtcp2 : Ngtcp2 C) (c : C) (s : Stream) : Option (Except Error Buffer × Stream × C) :=
  if s.buffers_.empty then some (.error .idle, s, c)
  else if s.opened_ then some (s.write ngtcp2 c)
  else
    match ngtcp2.open_ c s.id with
    | none => none
    | some (.error error, c) =>
      some (.error (if error = .streamIdBlocked then .idle else error), s, c)
    | some (.ok (), c) => some (write ngtcp2 c { s with opened_ := true })

/-- `add`, with the assertion that `fin` was not called. -/
def add (s : Stream) (buffer : Buffer) : Option Stream :=
  if s.fin_ then none else some { s with buffers_ := s.buffers_.push buffer }

/-- `fin`, with the same assertion. -/
def fin (s : Stream) : Option Stream := if s.fin_ then none else some { s with fin_ := true }

/-- `ack(size)`: no more is acknowledged than was written. -/
def ack (s : Stream) (size : Nat) : Except Error Unit × Stream :=
  if size > s.keepalive_.size then (.error .internal, s)
  else (.ok (), { s with keepalive_ := s.keepalive_.consume size })

/-- `finished()`: all of the stream was written and acknowledged. -/
def finished (s : Stream) : Bool := s.fin_ && s.buffers_.empty && s.keepalive_.empty

end Stream

end Bnl.Quic
