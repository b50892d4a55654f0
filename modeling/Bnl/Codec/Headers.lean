import Bnl.Codec.Frame
import Bnl.Codec.Qpack

/-!
# `headers::encoder` and `headers::decoder`

The HEADERS frame of a message: the frame first, then the header block it announces.

The encoder collects the buffers of the header lines as they are added, knows their size from `qpack::encoder`,
and hands out the frame and then the buffers one by one. The decoder reads the frame, remembers the size, and
reads a line at a time until as many bytes have been counted. It looks at the count after a line only: what one
line reads is bounded by the input, not by what the frame announced.
-/

namespace Bnl.Http3.Headers

open Bnl.Base

/-! ## Encoding -/

/-- `encoder::state`. -/
inductive Encoder.State where
  | idle
  | frame
  | qpack
  | fin
  deriving DecidableEq, Repr

/-- `headers::encoder`. -/
structure Encoder where
  state : Encoder.State := .idle
  buffers : Buffers := {}
  qpack : Qpack.Encoder := {}
  deriving DecidableEq, Repr

namespace Encoder

/-- `add(header)`. A header that is refused leaves the encoder as it was. -/
def add (host : Host) (e : Encoder) (header : Header) : Except Error Unit × Encoder :=
  if e.state ≠ .idle then (.error .internal, e)
  else
    match e.qpack.encodeBuffer host header with
    | (.error error, qpack) => (.error error, { e with qpack })
    | (.ok encoded, qpack) => (.ok (), { e with qpack, buffers := e.buffers.push encoded })

/-- `fin()`: from here on the encoder has something to hand out. -/
def fin (e : Encoder) : Except Error Unit × Encoder :=
  if e.state ≠ .idle then (.error .internal, e) else (.ok (), { e with state := .frame })

/-- `finished()`: the whole frame has been handed out. -/
def finished (e : Encoder) : Bool := e.state = .fin

/-- `encode()`: the frame, then a buffer of the block at each call. -/
def encode (host : Host) (e : Encoder) : Except Error Buffer × Encoder :=
  match e.state with
  | .idle => (.error .idle, e)
  | .frame =>
    match (Frame.headers (UInt64.ofNat e.qpack.count)).encodeBuffer host with
    | .error error => (.error error, e)
    | .ok encoded => (.ok encoded, { e with state := .qpack })
  | .qpack =>
    let (encoded, buffers) := e.buffers.pop
    (.ok encoded, { e with buffers, state := if buffers.empty then .fin else e.state })
  | .fin => (.error .internal, e)

end Encoder

/-! ## Decoding -/

/-- `decoder::state`. -/
inductive Decoder.State where
  | frame
  | qpack
  | fin
  deriving DecidableEq, Repr

/-- `headers::decoder`. -/
structure Decoder where
  state : Decoder.State := .frame
  headersSize : UInt64 := 0
  qpack : Qpack.Decoder := {}
  deriving DecidableEq, Repr

namespace Decoder

/-- `started()`: the frame has been read. -/
def started (d : Decoder) : Bool := d.state ≠ .frame

/-- `finished()`: as many bytes of lines were counted as the frame announced. -/
def finished (d : Decoder) : Bool := d.state = .fin

variable {σ β : Type} [Storage β] [Sequence σ β]

/-- The case `qpack` of `decode`. -/
def decodeQpack (d : Decoder) (encoded : σ) : Except Error Header × Decoder × σ :=
  match d.qpack.decode encoded with
  | (.error error, qpack, encoded) => (.error error, { d with qpack }, encoded)
  | (.ok header, qpack, encoded) =>
    let d := { d with qpack }
    if d.headersSize.toNat < qpack.count then (.error .malformedFrame, d, encoded)
    else
      let fin := qpack.count = d.headersSize.toNat
      (.ok header, { d with state := if fin then .fin else d.state }, encoded)

/-- `decode(encoded)`. A frame of another type is not consumed, and answered with `delegate`; an announced size
of zero, or one that the lines go past, is `malformed_frame`. -/
def decode (d : Decoder) (encoded : σ) : Except Error Header × Decoder × σ :=
  match d.state with
  | .frame =>
    match Frame.peek encoded with
    | .error error => (.error error, d, encoded)
    | .ok type =>
      if type ≠ .headers then (.error .delegate, d, encoded)
      else
        match Frame.decode encoded with
        | (.error error, encoded) => (.error error, d, encoded)
        | (.ok frame, encoded) =>
          let d := { d with state := .qpack, headersSize := frame.unionSize }
          if d.headersSize = 0 then (.error .malformedFrame, d, encoded)
          else d.decodeQpack encoded
  | .qpack => d.decodeQpack encoded
  | .fin => (.error .internal, d, encoded)

end Decoder

end Bnl.Http3.Headers
