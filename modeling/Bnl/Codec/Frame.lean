import Bnl.Codec.PrefixInt
import Bnl.Codec.Varint

/-!
# `http3::frame`

A frame is a type, the size of its payload and the payload; of DATA, HEADERS and PUSH_PROMISE frames only the
fixed part is coded here, what follows is left to the reader of the stream. Frames of unknown type are skipped
whole.

A C++ `frame` is a type and a union. `Frame` is one constructor for each type, and `unionSize` is what the two
places read that look at a member of the union without a look at the type.

The decoder is in three layers, as in the source. `decodeSingle` reads one frame, known or not; `decode` calls
it until the frame is known, and keeps what the rounds consumed; `peek` finds the type alone, and finds it in
another way: it reads varints, one after another, until one is a known type, and never skips a payload. The
loops take fuel. A round reads a byte at least, so that the size of the input is enough is a law.
-/

namespace Bnl.Http3

open Bnl.Base

namespace Frame

/-- `frame::type`. -/
inductive FrameType where
  | data
  | headers
  | priority
  | cancelPush
  | settings
  | pushPromise
  | goaway
  | maxPushId
  | duplicatePush
  deriving DecidableEq, Repr

/-- The type as it stands on the wire. -/
def FrameType.value : FrameType → UInt64
  | .data => 0x0
  | .headers => 0x1
  | .priority => 0x2
  | .cancelPush => 0x3
  | .settings => 0x4
  | .pushPromise => 0x5
  | .goaway => 0x7
  | .maxPushId => 0xd
  | .duplicatePush => 0xe

/-- The nine types. -/
def FrameType.all : List FrameType :=
  [.data, .headers, .priority, .cancelPush, .settings, .pushPromise, .goaway, .maxPushId,
    .duplicatePush]

/-- The known type of this value. -/
def FrameType.ofValue (type : UInt64) : Option FrameType :=
  FrameType.all.find? fun t => t.value == type

/-- `payload::priority::type`; `current` is also `root`, the fourth value of the other field. -/
inductive ElementType where
  | request
  | push
  | placeholder
  | current
  deriving DecidableEq, Repr

/-- The two bits of the type. -/
def ElementType.value : ElementType → UInt8
  | .request => 0x0
  | .push => 0x1
  | .placeholder => 0x2
  | .current => 0x3

/-- The cast from two bits. -/
def ElementType.ofValue (bits : UInt8) : ElementType :=
  if bits = 0x0 then .request else if bits = 0x1 then .push
  else if bits = 0x2 then .placeholder else .current

/-- `payload::priority`. -/
structure Priority where
  prioritizedElementType : ElementType := .request
  elementDependencyType : ElementType := .request
  prioritizedElementId : UInt64 := 0
  elementDependencyId : UInt64 := 0
  weight : UInt8 := 0
  deriving DecidableEq, Repr

end Frame

/-- `frame`: the type and the union member that goes with it. -/
inductive Frame where
  | data (size : UInt64)
  | headers (size : UInt64)
  | priority (priority : Frame.Priority)
  | cancelPush (pushId : UInt64)
  | settings (settings : Settings)
  | pushPromise (pushId size : UInt64)
  | goaway (streamId : UInt64)
  | maxPushId (pushId : UInt64)
  | duplicatePush (pushId : UInt64)
  deriving DecidableEq, Repr

namespace Frame

/-- `operator type`. -/
def type : Frame → FrameType
  | .data _ => .data
  | .headers _ => .headers
  | .priority _ => .priority
  | .cancelPush _ => .cancelPush
  | .settings _ => .settings
  | .pushPromise _ _ => .pushPromise
  | .goaway _ => .goaway
  | .maxPushId _ => .maxPushId
  | .duplicatePush _ => .duplicatePush

/-- What `frame.headers.size` and `frame.data.size` read, whatever member of the union is there:
the eight bytes the member begins with. In a PRIORITY frame that is two bytes and padding, read here as zero. -/
def unionSize : Frame → UInt64
  | .data size => size
  | .headers size => size
  | .priority p =>
    p.prioritizedElementType.value.toUInt64 + 256 * p.elementDependencyType.value.toUInt64
  | .cancelPush pushId => pushId
  | .settings s => s.maxHeaderListSize
  | .pushPromise pushId _ => pushId
  | .goaway streamId => streamId
  | .maxPushId pushId => pushId
  | .duplicatePush pushId => pushId

/-! ## Encoding -/

/-- The settings that are written: all but a zero `num_placeholders`. -/
def writtenSettings (settings : Settings) : List (UInt64 × UInt64) :=
  settings.array.filter fun setting =>
    !(setting.1 == Setting.numPlaceholders && setting.2 == 0)

/-- The loop over the settings in `payload_size`. -/
def settingsSize : List (UInt64 × UInt64) → UInt64 → Except Error UInt64
  | [], payloadSize => .ok payloadSize
  | setting :: rest, payloadSize => do
    let idSize ← Varint.encodedSize setting.1
    let valueSize ← Varint.encodedSize setting.2
    settingsSize rest (payloadSize + UInt64.ofNat idSize + UInt64.ofNat valueSize)

/-- `payload_size(frame)`: what the frame announces, in `uint64_t`: the sum of a PUSH_PROMISE frame may wrap. -/
def payloadSize (frame : Frame) : Except Error UInt64 :=
  match frame with
  | .data size => pure size
  | .headers size => pure size
  | .priority p => do
    let prioritized ← Varint.encodedSize p.prioritizedElementId
    let dependency ← Varint.encodedSize p.elementDependencyId
    pure (1 + UInt64.ofNat prioritized + UInt64.ofNat dependency + 1)
  | .cancelPush pushId => do pure (UInt64.ofNat (← Varint.encodedSize pushId))
  | .settings s => settingsSize (writtenSettings s) 0
  | .pushPromise pushId size => do pure (UInt64.ofNat (← Varint.encodedSize pushId) + size)
  | .goaway streamId => do pure (UInt64.ofNat (← Varint.encodedSize streamId))
  | .maxPushId pushId => do pure (UInt64.ofNat (← Varint.encodedSize pushId))
  | .duplicatePush pushId => do pure (UInt64.ofNat (← Varint.encodedSize pushId))

/-- `encoded_size(frame)`: the bytes of the frame that are coded here. The payload of a DATA or HEADERS frame is
not among them, and of a PUSH_PROMISE frame only the push id is. -/
def encodedSize (frame : Frame) : Except Error Nat := do
  let payloadSize ← frame.payloadSize
  let payloadEncodedSize ←
    match frame with
    | .headers _ => pure 0
    | .data _ => pure 0
    | .pushPromise pushId _ => Varint.encodedSize pushId
    | _ => pure payloadSize.toNat
  let typeSize ← Varint.encodedSize frame.type.value
  let sizeSize ← Varint.encodedSize payloadSize
  pure (typeSize + sizeSize + payloadEncodedSize)

/-- The loop over the settings in `encode`. -/
def encodeSettings (m : Memory) (dest : Nat) :
    List (UInt64 × UInt64) → Except Error (Nat × Memory)
  | [] => .ok (dest, m)
  | setting :: rest => do
    let (n, m) ← Varint.encode m dest setting.1
    let (k, m) ← Varint.encode m (dest + n) setting.2
    encodeSettings m (dest + n + k) rest

/-- The switch of `encode`: the payload, as far as it is coded here. -/
def encodePayload (m : Memory) (dest : Nat) (frame : Frame) : Except Error (Nat × Memory) :=
  match frame with
  | .data _ => pure (dest, m)
  | .headers _ => pure (dest, m)
  | .priority p => do
    let byte : UInt8 := 0
    let byte := byte ||| (p.prioritizedElementType.value.toUInt32 <<< 6).toUInt8
    let byte := byte ||| (p.elementDependencyType.value.toUInt32 <<< 4).toUInt8
    let byte := byte &&& 0xf0
    let m := m.set dest byte
    let dest := dest + 1
    let (n, m) ← Varint.encode m dest p.prioritizedElementId
    let dest := dest + n
    let (n, m) ← Varint.encode m dest p.elementDependencyId
    let dest := dest + n
    pure (dest + 1, m.set dest p.weight)
  | .cancelPush pushId => do
    let (n, m) ← Varint.encode m dest pushId
    pure (dest + n, m)
  | .settings s => encodeSettings m dest (writtenSettings s)
  | .pushPromise pushId _ => do
    let (n, m) ← Varint.encode m dest pushId
    pure (dest + n, m)
  | .goaway streamId => do
    let (n, m) ← Varint.encode m dest streamId
    pure (dest + n, m)
  | .maxPushId pushId => do
    let (n, m) ← Varint.encode m dest pushId
    pure (dest + n, m)
  | .duplicatePush pushId => do
    let (n, m) ← Varint.encode m dest pushId
    pure (dest + n, m)

/-- `encode(dest, frame)`: the size written, and the memory it was written to. -/
def encode (m : Memory) (start : Nat) (frame : Frame) : Except Error (Nat × Memory) := do
  let payloadSize ← frame.payloadSize
  let (n, m) ← Varint.encode m start frame.type.value
  let dest := start + n
  let (n, m) ← Varint.encode m dest payloadSize
  let dest := dest + n
  let (dest, m) ← encodePayload m dest frame
  pure (dest - start, m)

/-- `encode(frame)`: into a buffer of its own. -/
def encodeBuffer (host : Host) (frame : Frame) : Except Error Buffer := do
  let encodedSize ← frame.encodedSize
  let (_, m) ← frame.encode host.storage 0
  pure ⟨m.load 0 encodedSize⟩

/-! ## Decoding -/

section Decode

variable {σ β : Type} [Storage β] [Sequence σ β]

/-- The loop of `peek`: varints, until one is a known type. -/
def peekLoop : Nat → Lookahead β → Except Error FrameType
  | 0, _ => .error .incomplete
  | fuel + 1, lookahead =>
    match Varint.decode lookahead with
    | (.error error, _) => .error error
    | (.ok type, lookahead) =>
      match FrameType.ofValue type with
      | some type => .ok type
      | none => peekLoop fuel lookahead

/-- `peek`. Each round reads a byte at least. -/
def peek (encoded : σ) : Except Error FrameType :=
  peekLoop (Sequence.size encoded + 1) (Sequence.lookahead encoded)

/-- The switch over the setting identifiers; an unknown one is ignored. -/
def updateSettings (s : Settings) (id value : UInt64) : Settings :=
  if id = Setting.maxHeaderListSize then { s with maxHeaderListSize := value }
  else if id = Setting.numPlaceholders then { s with numPlaceholders := value }
  else if id = Setting.qpackMaxTableCapacity then { s with qpackMaxTableCapacity := value }
  else if id = Setting.qpackBlockedStreams then { s with qpackBlockedStreams := value }
  else s

/-- The loop over the settings; the fuel is the size of the input. -/
def decodeSettings (payloadEncodedSize : UInt64) :
    Nat → Nat → Settings → Reader Error (Lookahead β) Settings
  | 0, _, _ => throw .incomplete
  | fuel + 1, settingsEncodedSize, s =>
    if settingsEncodedSize < payloadEncodedSize.toNat then do
      let before ← get
      let id ← Varint.decode
      let value ← Varint.decode
      let after ← get
      decodeSettings payloadEncodedSize fuel
        (settingsEncodedSize + (after.consumed - before.consumed))
        (updateSettings s id value)
    else pure s

/-- `uint8_decode(encoded)`, the same function as in `prefix_int`. -/
def uint8Decode : Reader Error σ UInt8 := Qpack.PrefixInt.uint8Decode

/-- `payload_decode`: the frame, and the payload size the size check is to be made with. -/
def decodePayload (type : FrameType) (payloadEncodedSize : UInt64) :
    Reader Error (Lookahead β) (Frame × UInt64) := do
  match type with
  | .data => pure (.data payloadEncodedSize, 0)
  | .headers => pure (.headers payloadEncodedSize, 0)
  | .priority =>
    let byte ← uint8Decode
    let prioritizedElementId ← Varint.decode
    let elementDependencyId ← Varint.decode
    let weight ← uint8Decode
    pure (.priority {
      prioritizedElementType := .ofValue (byte >>> 6)
      elementDependencyType := .ofValue (byte >>> 4 &&& 0x03)
      prioritizedElementId, elementDependencyId, weight }, payloadEncodedSize)
  | .cancelPush => do
    let pushId ← Varint.decode
    pure (.cancelPush pushId, payloadEncodedSize)
  | .settings => do
    let lookahead ← get
    let s ← decodeSettings payloadEncodedSize (lookahead.size + 1) 0 {}
    pure (.settings s, payloadEncodedSize)
  | .pushPromise => do
    let before ← get
    let pushId ← Varint.decode
    let after ← get
    let varintEncodedSize := UInt64.ofNat (after.consumed - before.consumed)
    if payloadEncodedSize < varintEncodedSize then
      pure (.pushPromise pushId 0, payloadEncodedSize)
    else pure (.pushPromise pushId (payloadEncodedSize - varintEncodedSize), varintEncodedSize)
  | .goaway => do
    let streamId ← Varint.decode
    pure (.goaway streamId, payloadEncodedSize)
  | .maxPushId => do
    let pushId ← Varint.decode
    pure (.maxPushId pushId, payloadEncodedSize)
  | .duplicatePush => do
    let pushId ← Varint.decode
    pure (.duplicatePush pushId, payloadEncodedSize)

/-- `decode_single`. A frame of unknown type is consumed, and answered with `delegate`. -/
def decodeSingle : Reader Error (Lookahead β) Frame := do
  let type ← Varint.decode
  let payloadEncodedSize ← Varint.decode
  let before ← get
  match FrameType.ofValue type with
  | none =>
    if before.size < payloadEncodedSize.toNat then throw .incomplete
    else do
      set (before.consume payloadEncodedSize.toNat)
      throw .delegate
  | some type =>
    let (frame, payloadEncodedSize) ← decodePayload type payloadEncodedSize
    let after ← get
    if after.consumed - before.consumed ≠ payloadEncodedSize.toNat then throw .malformedFrame
    else pure frame

/-- The loop of `decode`: what a round consumed stays consumed. -/
def decodeLoop : Nat → σ → Except Error Frame × σ
  | 0, encoded => (.error .incomplete, encoded)
  | fuel + 1, encoded =>
    match decodeSingle (Sequence.lookahead encoded) with
    | (.ok frame, lookahead) => (.ok frame, Sequence.consume encoded lookahead.consumed)
    | (.error error, lookahead) =>
      if error = .delegate then
        decodeLoop fuel (Sequence.consume encoded lookahead.consumed)
      else (.error error, encoded)

/-- `decode`. Each round consumes two bytes at least. -/
def decode (encoded : σ) : Except Error Frame × σ :=
  decodeLoop (Sequence.size encoded + 1) encoded

end Decode

end Frame

end Bnl.Http3
