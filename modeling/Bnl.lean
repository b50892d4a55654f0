import Bnl.Library.Parser
import Bnl.Library.Machine
import Bnl.Library.Memory
import Bnl.Library.Bytes
import Bnl.Base.Buffer
import Bnl.Base.Sequence
import Bnl.Base.Types
import Bnl.Codec.Varint
import Bnl.Codec.PrefixInt
import Bnl.Codec.Huffman
import Bnl.Codec.Literal
import Bnl.Codec.Xxh64
import Bnl.Codec.Qpack
import Bnl.Codec.SizeT
import Bnl.Codec.Qpack.EncodeGenerated
import Bnl.Codec.Qpack.DecodeGenerated
import Bnl.Laws.Literal
import Bnl.Library.PrefixCode
import Bnl.Laws.PrefixInt
import Bnl.Laws.HuffmanAutomaton
import Bnl.Laws.Huffman
import Bnl.Laws.HuffmanEncode
import Bnl.Laws.Varint
import Bnl.Laws.StaticTable
import Bnl.Laws.Qpack
import Bnl.Laws.QpackEncode
import Bnl.Laws.HeaderBlock
import Bnl.Laws.Written
import Bnl.Laws.FieldLine
import Bnl.Laws.Frame
import Bnl.Laws.FrameWire
import Bnl.Laws.FrameLocality
import Bnl.Codec.Frame
import Bnl.Codec.Headers
import Bnl.Codec.Body
import Bnl.Laws.Headers
import Bnl.Laws.Body
import Bnl.Laws.Peek
import Bnl.Laws.Fragmentation
import Bnl.Endpoint.Request
import Bnl.Endpoint.Control
import Bnl.Laws.Control
import Bnl.Library.Parts
import Bnl.Endpoint.Connection
import Bnl.Library.Run
import Bnl.Library.Links
import Bnl.Library.Entries
import Bnl.Quic.Stream
import Bnl.Laws.Fin
import Bnl.Quic.Connection
import Bnl.Laws.Numbering
import Bnl.Laws.Opening
import Bnl.Endpoint.Handle
import Bnl.Laws.Handle
import Bnl.Laws.Sender
import Bnl.Laws.Requests
import Bnl.Laws.Streams
import Bnl.Laws.Lifecycle
import Bnl.Laws.Receiver
import Bnl.Laws.Message
import Bnl.Laws.Chunking
import Bnl.Laws.Delivery
import Bnl.Base.Storage
import Bnl.Laws.Storage
import Bnl.Quic.StoredStream
import Bnl.Laws.Keepalive
import Bnl.Laws.Exact
import Bnl.Laws.LiteralForms
import Bnl.Laws.FrameLength
import Bnl.Laws.Unknown
import Bnl.Laws.AfterFin
import Bnl.Laws.Leaves
import Bnl.Laws.BlockSize
import Bnl.Laws.Framing
import Bnl.Laws.Payload
import Bnl.Laws.BodyFraming
import Bnl.Laws.Sending
import Bnl.Laws.Transfer
import Bnl.Laws.View
import Bnl.Laws.StoredStream
import Bnl.Laws.VarintCodec
import Bnl.Codec.Fresh
import Bnl.Laws.Fresh
import Bnl.Base.Iterator
import Bnl.Laws.Queue
import Bnl.Laws.Conservation
import Bnl.Library.Ledger
import Bnl.Base.Object
import Bnl.Laws.Object
import Bnl.Laws.Ownership
import Bnl.Library.Loop
import Bnl.App.Client
import Bnl.Laws.Remaining
import Bnl.Laws.SendLoop
import Bnl.Laws.Hearing
import Bnl.Laws.Speaking
import Bnl.Laws.Exchange
import Bnl.Laws.EndToEnd
import Bnl.Tools.GenerateHuffman
import Bnl.Laws.GenerateHuffman
import Bnl.App.QpackInterop
import Bnl.Laws.QpackInterop
import Bnl.Quic.Crypto
import Bnl.Quic.Handshake
import Bnl.Laws.Handshake
import Bnl.Quic.Client
import Bnl.App.Receive
import Bnl.Laws.Response
import Bnl.Laws.Program
import Bnl.Laws.Phases
import Bnl.Library.Groups
import Bnl.Tools.GenerateQpack
import Bnl.Laws.GenerateQpack
