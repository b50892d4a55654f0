import Bnl.Base.Storage
import Bnl.Quic.Stream

/-!
# `quic::client::stream`, with the storage of its buffers

The same functions, on buffers that lie somewhere: an owner, an offset and a size each, on a heap that counts
the owners of its blocks. What `Stream` says of bytes this says of memory: a buffer that was written moves from
one queue to the other without a copy, and a block lives as long as a buffer of either queue is in it.

Each function is that of `Stream` with the heap passed along. `view` forgets the storage, and that it takes the
one to the other is what the laws over this file begin with. What ngtcp2 is given is the bytes.
-/

namespace Bnl.Quic

open Bnl.Base.Storage

/-- `quic::client::stream`. -/
structure StoredStream where
  buffers_ : Buffers := []
  keepalive_ : Buffers := []
  fin_ : Bool := false
  opened_ : Bool := false
  id : UInt64
  deriving DecidableEq, Repr

namespace StoredStream

variable {C : Type}

/-- The stream, but for where its buffers lie. -/
def view (m : Heap) (s : StoredStream) : Stream where
  buffers_ := s.buffers_.view m
  keepalive_ := s.keepalive_.view m
  fin_ := s.fin_
  opened_ := s.opened_
  id := s.id

/-- `send`, of a stream that is open and has something to send. -/
def write (ngtcp2 : Ngtcp2 C) (c : C) (m : Heap) (s : StoredStream) :
    Except Error Base.Buffer × StoredStream × Heap × C :=
  let first := (s.buffers_.view m).front
  let fin := s.fin_ && first == (s.buffers_.view m).back
  match ngtcp2.write_stream c s.id first fin with
  | (.error error, c) =>
    (.error (if error = .streamIdBlocked ∨ error = .streamDataBlocked then .idle else error), s, m, c)
  | (.ok (packet, stream_bytes_written), c) =>
    let (sent, buffers_, m) := s.buffers_.slice m stream_bytes_written
    let (keepalive_, m) := s.keepalive_.push m sent
    (.ok packet, { s with buffers_, keepalive_ }, m, c)

/-- `send()`. -/
def send (ngtcp2 : Ngtcp2 C) (c : C) (m : Heap) (s : StoredStream) :
    Option (Except Error Base.Buffer × StoredStream × Heap × C) :=
  if s.buffers_.empty then some (.error .idle, s, m, c)
  else if s.opened_ then some (s.write ngtcp2 c m)
  else
    match ngtcp2.open_ c s.id with
    | none => none
    | some (.error error, c) =>
      some (.error (if error = .streamIdBlocked then .idle else error), s, m, c)
    | some (.ok (), c) => some (write ngtcp2 c m { s with opened_ := true })

/-- `add(buffer)`, which keeps the owner the caller had. -/
def add (m : Heap) (s : StoredStream) (buffer : Buffer) : Option (StoredStream × Heap) :=
  if s.fin_ then none
  else
    let (buffers_, m) := s.buffers_.push m buffer
    some ({ s with buffers_ }, m)

/-- `fin()`. -/
def fin (s : StoredStream) : Option StoredStream :=
  if s.fin_ then none else some { s with fin_ := true }

/-- `ack(size)`: blocks whose last buffer goes are freed. -/
def ack (m : Heap) (s : StoredStream) (size : Nat) : Except Error Unit × StoredStream × Heap :=
  if size > s.keepalive_.size then (.error .internal, s, m)
  else
    let (keepalive_, m) := s.keepalive_.consume m size
    (.ok (), { s with keepalive_ }, m)

end StoredStream

end Bnl.Quic
