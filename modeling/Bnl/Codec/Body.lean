import Bnl.Codec.Frame

/-!
# `body::encoder` and `body::decoder`

The DATA frames of a message. The encoder makes one frame of each buffer it is given; the decoder hands out what
there is of a payload, in as many parts as it comes.

Neither copies: what the encoder hands out behind a frame is the buffer that was added, and what the decoder
hands out is a slice of what was received. The decoder keeps how much of the payload is still to come, in
`uint64_t`, and goes back to reading a frame when nothing is. On a payload of no bytes it asks for one more byte
before it says so.
-/

namespace Bnl.Http3.Body

open Bnl.Base

/-! ## Encoding -/

/-- `encoder::state`. -/
inductive Encoder.State where
  | frame
  | data
  | fin
  deriving DecidableEq, Repr

/-- `body::encoder`. -/
structure Encoder where
  state : Encoder.State := .frame
  fin_ : Bool := false
  buffers : Buffers := {}
  deriving DecidableEq, Repr

namespace Encoder

/-- `add(body)`, refused after `fin`. -/
def add (e : Encoder) (body : Buffer) : Except Error Unit × Encoder :=
  if e.fin_ then (.error .internal, e) else (.ok (), { e with buffers := e.buffers.push body })

/-- `fin()`. With nothing left to send the encoder is finished at once. -/
def fin (e : Encoder) : Except Error Unit × Encoder :=
  if e.state = .fin then (.error .internal, e)
  else
    let e := { e with fin_ := true }
    (.ok (), if e.buffers.empty then { e with state := .fin } else e)

/-- `finished()`. -/
def finished (e : Encoder) : Bool := e.state = .fin

/-- `encode()`: the frame of the first buffer, and at the next call that buffer. -/
def encode (host : Host) (e : Encoder) : Except Error Buffer × Encoder :=
  match e.state with
  | .frame =>
    if e.buffers.empty then (.error .idle, e)
    else
      match (Frame.data (UInt64.ofNat e.buffers.front.size)).encodeBuffer host with
      | .error error => (.error error, e)
      | .ok encoded => (.ok encoded, { e with state := .data })
  | .data =>
    let (body, buffers) := e.buffers.pop
    (.ok body, { e with buffers, state := if e.fin_ && buffers.empty then .fin else .frame })
  | .fin => (.error .internal, e)

end Encoder

/-! ## Decoding -/

/-- `decoder::state`. -/
inductive Decoder.State where
  | frame
  | data
  deriving DecidableEq, Repr

/-- `body::decoder`. -/
@[ext] structure Decoder where
  state : Decoder.State := .frame
  remaining : UInt64 := 0
  deriving DecidableEq, Repr

namespace Decoder

/-- `in_progress()`: a frame has been read, and its payload has not been handed out to the end. -/
def inProgress (d : Decoder) : Bool := d.state = .data

variable {σ β : Type} [Storage β] [Sliceable σ β]

/-- The case `data` of `decode`. -/
def decodeData (d : Decoder) (encoded : σ) : Except Error Buffer × Decoder × σ :=
  if Sequence.empty encoded then (.error .incomplete, d, encoded)
  else
    let bodyPartSize :=
      if Sequence.size encoded < d.remaining.toNat then Sequence.size encoded
      else d.remaining.toNat
    let (bodyPart, encoded) := Sliceable.slice encoded bodyPartSize
    let remaining := d.remaining - UInt64.ofNat bodyPartSize
    (.ok bodyPart, { state := if remaining = 0 then .frame else d.state, remaining }, encoded)

/-- `decode(encoded)`. A frame of another type is not consumed, and answered with `delegate`. -/
def decode (d : Decoder) (encoded : σ) : Except Error Buffer × Decoder × σ :=
  match d.state with
  | .frame =>
    match Frame.peek encoded with
    | .error error => (.error error, d, encoded)
    | .ok type =>
      if type ≠ .data then (.error .delegate, d, encoded)
      else
        match Frame.decode encoded with
        | (.error error, encoded) => (.error error, d, encoded)
        | (.ok frame, encoded) =>
          decodeData { state := .data, remaining := frame.unionSize } encoded
  | .data => d.decodeData encoded

end Decoder

end Bnl.Http3.Body
