import Bnl.Quic.Connection
import Bnl.Quic.Handshake

/-!
# `quic::client::connection`, receiving

While ngtcp2 reads a packet it calls back, for handshake data, for acknowledgements and for what came on a
stream. That goes to an event buffer, from which it is handed out when the packet is read. ngtcp2 ends with the
first callback that fails.

The two libraries are a parameter, and so is which callbacks they make and in what order: `readPkt` answers with
a list of them and the connection runs them one after another. So a law about receiving holds whatever the peer
sends and whatever ngtcp2 makes of it. What it does not say is when ngtcp2 makes which callback.

The handshake and the streams do not look at each other; `Client` has the first, `Connection` the second, and
the functions here take both where a callback may be for either.
-/

namespace Bnl.Quic

open Bnl.Base

/-- The callbacks of ngtcp2, but for those that only note a number, write to the log or ask for random bytes. -/
inductive Ngtcp2Callback where
  | clientInitial
  | recvCryptoData (level : Level) (data : Buffer)
  | recvStreamData (id : UInt64) (fin : Bool) (data : Buffer)
  | ackedCryptoOffset (level : Level) (size : Nat)
  | ackedStreamDataOffset (id : UInt64) (size : Nat)
  | recvStatelessReset
  | recvRetry
  | updateKey
  | pathValidation (succeeded : Bool)
  | streamReset (id : UInt64)
  deriving DecidableEq, Repr

/-- BoringSSL and ngtcp2, over the state of both. `writePkt` says whether it calls `client_initial` before it answers,
`readPkt` which callbacks it makes. -/
structure Library (C : Type) extends Tls C where
  openBidiStream : C → Answer UInt64 × C
  openUniStream : C → Answer UInt64 × C
  writePkt : C → Bool × Answer Buffer × C
  writeStream : C → UInt64 → Bool → Buffer → Answer (Buffer × Option Nat) × C
  readPkt : C → (packet : Buffer) → List Ngtcp2Callback × Bool × C
  expire : C → Bool × C

/-- `quic::client::connection` but for its streams, and the state of the libraries. -/
structure Client (C : Type) where
  handshake_ : Handshake := {}
  event_buffer_ : List (Except Error Event) := []
  library : C

namespace Client

variable {C : Type} (library : Library C)

/-- A function of `handshake_`. -/
def handshake {α : Type} (call : Handshake.Call C α) (client : Client C) : Except Error α × Client C :=
  match call (client.handshake_, client.library) with
  | (r, handshake_, library) => (r, { client with handshake_, library })

/-! ## Sending -/

/-- `client_initial`: the first flight of the handshake. -/
def clientInitial (client : Client C) : Except Error Unit × Client C :=
  client.handshake (Handshake.send library.toTls)

/-- `ngtcp2_conn_write_pkt`, with its callback. -/
def writePkt (client : Client C) : Answer Buffer × Client C :=
  match library.writePkt client.library with
  | (false, answer, c) => (answer, { client with library := c })
  | (true, answer, c) =>
    match clientInitial library { client with library := c } with
    | (.ok (), client) => (answer, client)
    | (.error _, client) => (.error, client)

/-- What `connection::send` and the streams use of `handshake_` and ngtcp2. -/
def transport : Transport (Client C) where
  openBidiStream client :=
    ((library.openBidiStream client.library).1, { client with library := (library.openBidiStream client.library).2 })
  openUniStream client :=
    ((library.openUniStream client.library).1, { client with library := (library.openUniStream client.library).2 })
  writePkt := writePkt library
  writeStream client id fin data :=
    ((library.writeStream client.library id fin data).1,
      { client with library := (library.writeStream client.library id fin data).2 })
  handshakeSend client := client.handshake (Handshake.send library.toTls)
  handshakeCompleted client := library.handshakeCompleted client.library

/-! ## Callbacks -/

/-- `recv_crypto_data`: a handshake that wants more is no failure. -/
def recvCryptoData (level : Level) (data : Buffer) (client : Client C) : Except Error Unit × Client C :=
  match client.handshake (Handshake.recv library.toTls level data) with
  | (.error .incomplete, client) => (.ok (), client)
  | (r, client) => (r, client)

/-- `recv_stream_data`: an event for the application, none for the streams. -/
def recvStreamData (id : UInt64) (fin : Bool) (data : Buffer) (client : Client C) : Client C :=
  { client with event_buffer_ := client.event_buffer_ ++ [.ok (.data { id, fin, buffer := data })] }

/-- `stream_reset`, an event too. -/
def streamReset (id : UInt64) (client : Client C) : Client C :=
  { client with event_buffer_ := client.event_buffer_ ++ [.ok (.error { id })] }

/-- A callback, on the streams and the rest of the connection. -/
def callback (q : Connection) (client : Client C) : Ngtcp2Callback → Except Error Unit × Connection × Client C
  | .clientInitial => ((clientInitial library client).1, q, (clientInitial library client).2)
  | .recvCryptoData level data =>
    ((recvCryptoData library level data client).1, q, (recvCryptoData library level data client).2)
  | .recvStreamData id fin data => (.ok (), q, recvStreamData id fin data client)
  | .ackedCryptoOffset level size =>
    ((client.handshake (Handshake.ack level size)).1, q, (client.handshake (Handshake.ack level size)).2)
  | .ackedStreamDataOffset id size =>
    ((q.acked_stream_data_offset id size).1, (q.acked_stream_data_offset id size).2, client)
  | .recvStatelessReset => (.error .notImplemented, q, client)
  | .recvRetry => (.error .notImplemented, q, client)
  | .updateKey =>
    ((client.handshake (Handshake.updateKeys library.toTls)).1, q,
      (client.handshake (Handshake.updateKeys library.toTls)).2)
  | .pathValidation succeeded => (if succeeded then .ok () else .error .pathValidation, q, client)
  | .streamReset id => (.ok (), q, streamReset id client)

/-- The callbacks, up to the first that fails. -/
def callbacks : List Ngtcp2Callback → Connection → Client C → Except Error Unit × Connection × Client C
  | [], q, client => (.ok (), q, client)
  | c :: cs, q, client =>
    match callback library q client c with
    | (.error error, q, client) => (.error error, q, client)
    | (.ok (), q, client) => callbacks cs q client

/-- `ngtcp2::connection::read_pkt`. -/
def readPkt (packet : Buffer) (q : Connection) (client : Client C) : Except Error Unit × Connection × Client C :=
  match library.readPkt client.library packet with
  | (cs, succeeded, c) =>
    match callbacks library cs q { client with library := c } with
    | (.error _, q, client) => (.error .ngtcp2, q, client)
    | (.ok (), q, client) => (if succeeded then .ok () else .error .ngtcp2, q, client)

/-- `recv`: an error comes behind the events of the packet. -/
def recv (packet : Buffer) (q : Connection) (client : Client C) : Connection × Client C :=
  match readPkt library packet q client with
  | (.ok (), q, client) => (q, client)
  | (.error error, q, client) => (q, { client with event_buffer_ := client.event_buffer_ ++ [.error error] })

/-- `ngtcp2::connection::expire`. -/
def expire (client : Client C) : Except Error Unit × Client C :=
  (if (library.expire client.library).1 then .ok () else .error .ngtcp2,
    { client with library := (library.expire client.library).2 })

end Client

end Bnl.Quic
