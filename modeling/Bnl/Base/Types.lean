import Bnl.Base.Buffer
import Bnl.Library.Memory

/-!
# The types every layer shares

`http3::error`, `http3::header`, `http3::settings` and `http3::event`, and the QUIC events they travel in.
Strings are byte strings, as `base::string` is; error codes are the enumerators, without the texts of their
category, which no function reads.

`Host` is what the code takes from outside and cannot compute: the hash function of the xxHash dependency, and
what storage holds that was allocated and not written yet. Both are parameters of everything that depends on
them, so a result that does not mention them holds for all of them.
-/

namespace Bnl

/-- The bytes of a string literal of the source; all of them are ASCII, so the encoding is one byte a character. -/
def ascii (s : String) : List UInt8 := s.toUTF8.data.toList

/-- What the code takes from outside: the xxHash dependency, with seed 0, and what newly allocated storage
happens to hold. -/
structure Host where
  xxh64 : List UInt8 → UInt64
  storage : Memory

namespace Quic

/-- `quic::data`: a piece of a stream, and whether it is the last one. -/
structure Data where
  id : UInt64
  fin : Bool := false
  buffer : Base.Buffer := {}
  deriving DecidableEq, Repr

/-- `quic::application::error`. -/
structure ApplicationError where
  id : UInt64
  deriving DecidableEq, Repr

/-- `quic::event`: data of a stream, or an error of the application that is to close it. -/
inductive Event where
  | data (data : Data)
  | error (error : ApplicationError)
  deriving DecidableEq, Repr

/-- The stream that an event is about. -/
def Event.id : Event → UInt64
  | .data d => d.id
  | .error e => e.id

end Quic

namespace Http3

/-- `http3::error`. `incomplete`, `idle` and `delegate` are answers that ask the caller to come back, and no
failures. -/
inductive Error where
  | noError
  | internal
  | wrongStream
  | closedCriticalStream
  | missingSettings
  | unexpectedFrame
  | malformedFrame
  | qpackDecompressionFailed
  | incomplete
  | idle
  | delegate
  | notImplemented
  | varintOverflow
  | malformedHeader
  | streamClosed
  | invalidHandle
  deriving DecidableEq, Repr

/-- `http3::header` and `http3::header_view`: one owns its strings and the other does not, which byte strings do
not tell. -/
@[ext] structure Header where
  name : List UInt8
  value : List UInt8
  deriving DecidableEq, Repr

/-- `'A' <= character && character <= 'Z'`. -/
def isUpper (character : UInt8) : Bool := 0x41 ≤ character && character ≤ 0x5a

/-- `header_is_lowercase`, which looks at the name alone. -/
def headerIsLowercase (header : Header) : Bool := !header.name.any isUpper

/-- `http3::settings`, with their defaults; the first one is unlimited, which is the largest number a varint can
say. -/
structure Settings where
  maxHeaderListSize : UInt64 := ((0x40 : UInt64) <<< 56) - 1
  numPlaceholders : UInt64 := 0
  qpackMaxTableCapacity : UInt64 := 0
  qpackBlockedStreams : UInt64 := 0
  deriving DecidableEq, Repr

/-- The setting identifiers. -/
def Setting.maxHeaderListSize : UInt64 := 0x6
def Setting.numPlaceholders : UInt64 := 0x9
def Setting.qpackMaxTableCapacity : UInt64 := 0x1
def Setting.qpackBlockedStreams : UInt64 := 0x7

/-- `settings::array`, in the order in which the settings are encoded. -/
def Settings.array (s : Settings) : List (UInt64 × UInt64) :=
  [(Setting.maxHeaderListSize, s.maxHeaderListSize),
   (Setting.numPlaceholders, s.numPlaceholders),
   (Setting.qpackMaxTableCapacity, s.qpackMaxTableCapacity),
   (Setting.qpackBlockedStreams, s.qpackBlockedStreams)]

/-- `http3::event`; the body payload is `quic::data`. A header event is flagged where it is the last header, a body
event where it is the last piece, and `finished` comes behind both. -/
inductive Event where
  | settings (settings : Settings)
  | header (id : UInt64) (fin : Bool) (header : Header)
  | body (id : UInt64) (fin : Bool) (buffer : Base.Buffer)
  | finished (id : UInt64)
  deriving DecidableEq, Repr

end Http3

end Bnl
