import Bnl.Endpoint.Control
import Bnl.Endpoint.Request
import Mathlib.Data.List.Basic

/-!
# `server::connection` and `client::connection`

A connection holds the control stream and a map from stream ids to requests. Both endpoints send what the first
stream with something to say has to say; they differ in when a request comes into the map and when it leaves it.
`std::map` is an ordered map, iterated from the lowest id on.

The two classes are one function of the source for each of theirs, and what the bodies share is stated once, in
`Streams`, with what they differ in as an argument: what becomes of a request that has sent an event (`sent`),
and which frames the receivers understand. A generator holds a reference to its connection; here the connection
is passed along.

What `std::map::at` throws for an id that is not there is `none` here: it is thrown out of a function that is
not to throw, and ends the program. A handle that outlives its request is not looked at here but in `Handle`: a
call through it is answered with `invalid_handle`, because the sender detached it.
-/

namespace Bnl.Http3.Endpoint

open Bnl.Base

/-- `requests_`. -/
abbrev Requests : Type := Std.TreeMap UInt64 (Request.Sender × Request.Receiver)

/-! ## The generator -/

/-- `endpoint::generator`. The connection it refers to is passed along. -/
structure Generator where
  r : Except Error Event := .error .internal
  finished_ : Bool := false
  id : UInt64
  deriving DecidableEq, Repr

namespace Generator

variable {C : Type}

/-- `next`, over the `process` of a connection. -/
def next (process : C → UInt64 → Option (Except Error Event × C)) (g : Generator) (c : C) :
    Option (Bool × Generator × C) :=
  if g.finished_ then some (false, g, c)
  else
    match process c g.id with
    | none => none
    | some (.error .incomplete, c) => some (false, { g with r := .error .incomplete }, c)
    | some (.ok (.finished id), c) =>
      some (true, { g with r := .ok (.finished id), finished_ := true }, c)
    | some (r, c) => some (true, { g with r }, c)

/-- `get()`: what the last `next` found, once. -/
def get (g : Generator) : Except Error Event × Generator := (g.r, { g with r := .error .internal })

/-- `recv(event)`. -/
def recv (recvData : C → Quic.Data → Except Error Unit × C) (c : C) (event : Quic.Event) :
    Except Error Generator × C :=
  match event with
  | .data data =>
    match recvData c data with
    | (.error error, c) => (.error error, c)
    | (.ok (), c) => (.ok { id := data.id }, c)
  | .error _ => (.error .notImplemented, c)

end Generator

/-! ## What the two connections have in common -/

/-- `control_`, `requests_` and `settings_.peer`. -/
structure Streams where
  control : Control.Sender × Control.Receiver
  requests : Requests := ∅
  peer : Settings := {}

namespace Streams

/-- The loop of `send` over the requests. `sent` says what becomes of a request that has sent an
event: what it is from then on, or that it is erased. -/
def sendRequests (host : Host)
    (sent : Request.Sender → Request.Receiver → Option (Request.Sender × Request.Receiver)) :
    List (UInt64 × Request.Sender × Request.Receiver) → Requests →
      Except Error Quic.Event × Requests
  | [], requests => (.error .idle, requests)
  | (id, sender, receiver) :: entries, requests =>
    if sender.finished then sendRequests host sent entries requests
    else
      match sender.send host with
      | (.ok event, sender) => (.ok event, requests.alter id fun _ => sent sender receiver)
      | (.error error, sender) =>
        let requests := requests.insert id (sender, receiver)
        if error = .idle then sendRequests host sent entries requests
        else (.error error, requests)

/-- `send()`, the loop over the map and what `sent` makes of a request. -/
def send (host : Host)
    (sent : Request.Sender → Request.Receiver → Option (Request.Sender × Request.Receiver))
    (s : Streams) : Except Error Quic.Event × Streams :=
  match s.control.1.send host with
  | (.ok event, sender) => (.ok event, { s with control := (sender, s.control.2) })
  | (.error error, sender) =>
    let s := { s with control := (sender, s.control.2) }
    if error = .idle then
      let (r, requests) := sendRequests host sent s.requests.toList s.requests
      (r, { s with requests })
    else (.error error, s)

/-- Data of the control stream. -/
def recvControl (s : Streams) (data : Quic.Data) : Except Error Unit × Streams :=
  let (r, receiver) := s.control.2.recv data
  (r, { s with control := (s.control.1, receiver) })

/-- Data of a request that is there. -/
def recvRequest (s : Streams) (request : Request.Sender × Request.Receiver) (data : Quic.Data) :
    Except Error Unit × Streams :=
  let (r, receiver) := request.2.recv data
  (r, { s with requests := s.requests.insert data.id (request.1, receiver) })

/-- An event of the control stream; the settings of the peer are kept. -/
def processControl (processFrame : Control.ProcessFrame) (s : Streams) :
    Except Error Event × Streams :=
  match s.control.2.process processFrame with
  | (.ok (.settings settings), receiver) =>
    (.ok (.settings settings), { s with control := (s.control.1, receiver), peer := settings })
  | (r, receiver) => (r, { s with control := (s.control.1, receiver) })

end Streams

/-- What an application asks a sender for, through a handle. -/
inductive Call where
  | header (header : Header)
  | body (buffer : Buffer)
  | start
  | fin
  deriving DecidableEq, Repr

/-- The functions of `sender::handle`, on the sender the handle refers to. -/
def Call.apply (host : Host) (sender : Request.Sender) :
    Call → Except Error Unit × Request.Sender
  | .header field => sender.header host field
  | .body buffer => sender.body buffer
  | .start => sender.start
  | .fin => sender.fin

/-- A call through a handle of the stream. The sender of a request that was erased has detached its
handle. -/
def Streams.callHandle (host : Host) (s : Streams) (id : UInt64) (call : Call) :
    Except Error Unit × Streams :=
  match s.requests[id]? with
  | none => (.error .invalidHandle, s)
  | some (sender, receiver) =>
    let (r, sender) := call.apply host sender
    (r, { s with requests := s.requests.insert id (sender, receiver) })

/-! ## The server -/

namespace Server

/-- `server::connection`: the control streams by the ids both sides know, no requests. -/
structure Connection extends Streams where
  control := ({ id := Control.serverStreamControlId }, { id := Control.clientStreamControlId })

namespace Connection

/-- A request is erased once its sender is finished. -/
def sent (sender : Request.Sender) (receiver : Request.Receiver) :
    Option (Request.Sender × Request.Receiver) :=
  if sender.finished then none else some (sender, receiver)

/-- `send()`, as the server's. -/
def send (host : Host) (c : Connection) : Except Error Quic.Event × Connection :=
  let (r, streams) := c.toStreams.send host sent
  (r, { toStreams := streams })

/-- The request that data of a new stream belongs to. -/
def opened (id : UInt64) : Request.Sender × Request.Receiver :=
  ({ id }, Request.Receiver.start { id })

/-- `recv(quic::data)`. -/
def recvData (c : Connection) (data : Quic.Data) : Except Error Unit × Connection :=
  if data.id = c.control.2.id then
    let (r, streams) := c.recvControl data
    (r, { toStreams := streams })
  else
    let (r, streams) := c.recvRequest (c.requests.getD data.id (opened data.id)) data
    (r, { toStreams := streams })

/-- `recv(event)`. -/
def recv (c : Connection) (event : Quic.Event) : Except Error Generator × Connection :=
  Generator.recv recvData c event

/-- `process(id)`. A request's events come from its receiver, with the frames a server understands. -/
def process (c : Connection) (id : UInt64) : Option (Except Error Event × Connection) :=
  if id = c.control.2.id then
    let (r, streams) := c.processControl Control.serverProcess
    some (r, { toStreams := streams })
  else
    match c.requests[id]? with
    | none => none
    | some (sender, receiver) =>
      let (r, receiver) := receiver.process Request.serverProcess
      some (r, { c with requests := c.requests.insert id (sender, receiver) })

/-- `response`: a handle of the stream, where there still is one. -/
def response (c : Connection) (id : UInt64) : Except Error UInt64 :=
  match c.requests[id]? with
  | none => .error .streamClosed
  | some (sender, _) => .ok sender.id

/-- A call through the handle of a stream. -/
def callHandle (host : Host) (c : Connection) (id : UInt64) (call : Call) :
    Except Error Unit × Connection :=
  let (r, streams) := c.toStreams.callHandle host id call
  (r, { toStreams := streams })

end Connection

end Server

/-! ## The client -/

namespace Client

/-- `client::connection`: as the server's, with the control streams the other way around and the id the next
request gets. -/
structure Connection extends Streams where
  control := ({ id := Control.clientStreamControlId }, { id := Control.serverStreamControlId })
  nextStreamId : UInt64 := 0

/-- A stream that is not bidirectional. -/
def unidirectional (id : UInt64) : Bool := id &&& 0x2 ≠ 0

namespace Connection

/-- The receiver of a request is started once the request has sent an event. -/
def sent (sender : Request.Sender) (receiver : Request.Receiver) :
    Option (Request.Sender × Request.Receiver) :=
  some (sender, if receiver.closed then receiver.start else receiver)

def send (host : Host) (c : Connection) : Except Error Quic.Event × Connection :=
  let (r, streams) := c.toStreams.send host sent
  (r, { c with toStreams := streams })

/-- `recv(quic::data)`. -/
def recvData (c : Connection) (data : Quic.Data) : Except Error Unit × Connection :=
  if data.id = c.control.2.id then
    let (r, streams) := c.recvControl data
    (r, { c with toStreams := streams })
  else if unidirectional data.id then (.ok (), c)
  else
    match c.requests[data.id]? with
    | none => (.error .internal, c)
    | some request =>
      let (r, streams) := c.recvRequest request data
      (r, { c with toStreams := streams })

def recv (c : Connection) (event : Quic.Event) : Except Error Generator × Connection :=
  Generator.recv recvData c event

/-- `process`. A request is erased once its receiver is finished. -/
def process (c : Connection) (id : UInt64) : Option (Except Error Event × Connection) :=
  if id = c.control.2.id then
    let (r, streams) := c.processControl Control.clientProcess
    some (r, { c with toStreams := streams })
  else if unidirectional id then some (.error .incomplete, c)
  else
    match c.requests[id]? with
    | none => some (.error .internal, c)
    | some (sender, receiver) =>
      match receiver.process Request.clientProcess with
      | (.ok (.finished id'), _) =>
        some (.ok (.finished id'), { c with requests := c.requests.erase id })
      | (r, receiver) => some (r, { c with requests := c.requests.insert id (sender, receiver) })

/-- `request`: the id of the handle, and the connection with the request. -/
def request (c : Connection) : UInt64 × Connection :=
  let id := c.nextStreamId
  (id, { c with
    requests := c.requests.insertIfNew id ({ id }, { id })
    nextStreamId := c.nextStreamId + 4 })

/-- A call through the handle of a stream. -/
def callHandle (host : Host) (c : Connection) (id : UInt64) (call : Call) :
    Except Error Unit × Connection :=
  let (r, streams) := c.toStreams.callHandle host id call
  (r, { c with toStreams := streams })

end Connection

end Client

end Bnl.Http3.Endpoint
