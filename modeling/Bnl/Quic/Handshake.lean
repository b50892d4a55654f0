import Bnl.Quic.Crypto
import Mathlib.Logic.Function.Basic

/-!
# `quic::client::handshake`

The handshake stands between BoringSSL and ngtcp2: it installs keys for the secrets of the one in the other,
passes on its messages and keeps them until they are acknowledged. What the two libraries do is a parameter,
over the state of both.

A function of the class is a `Call`: it fails or not, and what it did before it failed is done. BoringSSL calls
back while it runs, so what it does is a list of callbacks and an answer, which is then the answer of the call
unless a callback failed. The two secrets change only in `update_keys` and where the keys of the application are
installed, and each changes before the key of its own is installed.

TRY is read as the bind of `Call`. Left out is what sets BoringSSL up, and what only logs.
-/

namespace Bnl.Quic

open Bnl.Base

/-! ## The libraries -/

/-- The calls into ngtcp2. -/
inductive Ngtcp2Call where
  | setAeadOverhead (overhead : Nat)
  | installInitialTxKeys (key : Key)
  | installInitialRxKeys (key : Key)
  | installEarlyKeys (key : Key)
  | installHandshakeTxKeys (key : Key)
  | installHandshakeRxKeys (key : Key)
  | installTxKeys (key : Key)
  | installRxKeys (key : Key)
  | updateTxKey (data iv : Buffer)
  | updateRxKey (data iv : Buffer)
  | submitCryptoData (level : Level) (data : Buffer)
  | handshakeCompleted
  | setRemoteTransportParams (encoded : Buffer)
  deriving DecidableEq, Repr

/-- The callbacks of BoringSSL that do something. -/
inductive SslCallback where
  | setEncryptionSecrets (level : Level) (readSecret writeSecret : Buffer)
  | addHandshakeData (level : Level) (data : Buffer)
  deriving DecidableEq, Repr

/-- What `SSL_do_handshake` comes to: `want` is `SSL_ERROR_WANT_READ` or `SSL_ERROR_WANT_WRITE`. -/
inductive SslAnswer where
  | done
  | want
  | failed
  deriving DecidableEq, Repr

/-- BoringSSL, and the part of ngtcp2 that is called here; `true` is success. The functions that run a handshake come
with the callbacks they make. They end with the first of these that fails. -/
structure Tls (C : Type) where
  hkdf : Hkdf
  ngtcp2 : C → Ngtcp2Call → Bool × C
  handshakeCompleted : C → Bool
  currentCipher : C → Option UInt32
  provideQuicData : C → Level → Buffer → Bool × C
  doHandshake : C → List SslCallback × SslAnswer × C
  processQuicPostHandshake : C → List SslCallback × Bool × C
  peerQuicTransportParams : C → Buffer

/-- `handshake`. -/
structure Handshake where
  keepalive_ : Level → Buffers := fun _ => {}
  tx_secret_ : Buffer := {}
  rx_secret_ : Buffer := {}

/-- A function of the handshake. What it did before it failed is done. -/
abbrev Handshake.Call (C α : Type) : Type := ExceptT Error (StateM (Handshake × C)) α

namespace Handshake

variable {C : Type} (tls : Tls C)

namespace Call

/-- A result that is there already. -/
def ofExcept {α : Type} (a : Except Error α) : Call C α := fun s => (a, s)

/-- The handshake. -/
def read : Call C Handshake := fun s => (.ok s.1, s)

/-- A change of the handshake. -/
def modify (f : Handshake → Handshake) : Call C Unit := fun s => (.ok (), (f s.1, s.2))

/-- A call whose result is `error::ngtcp2` where the library fails. -/
def ngtcp2 (call : Ngtcp2Call) : Call C Unit := fun s =>
  ((if (tls.ngtcp2 s.2 call).1 then .ok () else .error .ngtcp2), (s.1, (tls.ngtcp2 s.2 call).2))

/-- A call that returns nothing. -/
def ngtcp2Void (call : Ngtcp2Call) : Call C Unit := fun s => (.ok (), (s.1, (tls.ngtcp2 s.2 call).2))

end Call

/-! ## `make_aead`, `make_hash` and `negotiated_crypto` -/

/-- `make_aead`, on the identifiers of the three cipher suites of TLS 1.3. -/
def makeAead (cipher : UInt32) : Except Error Aead :=
  if cipher = 0x03001301 then .ok .aes128Gcm
  else if cipher = 0x03001302 then .ok .aes256Gcm
  else if cipher = 0x03001303 then .ok .chacha20Poly1305
  else .error .handshake

/-- `make_hash`, on the same. -/
def makeHash (cipher : UInt32) : Except Error Hash :=
  if cipher = 0x03001301 ∨ cipher = 0x03001303 then .ok .sha256
  else if cipher = 0x03001302 then .ok .sha384
  else .error .handshake

/-- `negotiated_crypto`, on what `SSL_get_current_cipher` returns. -/
def negotiatedCrypto (cipher : Option UInt32) : Except Error Crypto :=
  match cipher with
  | none => .error .handshake
  | some cipher => do
    let aead ← makeAead cipher
    let hash ← makeHash cipher
    pure ⟨aead, hash⟩

/-- `negotiated_crypto`. -/
def crypto : Call C Crypto := fun s => (negotiatedCrypto (tls.currentCipher s.2), s)

/-! ## What the libraries call -/

/-- `ack(level, size)`: no more is acknowledged than is kept. -/
def ack (level : Level) (size : Nat) : Call C Unit := do
  let handshake ← .read
  if size > (handshake.keepalive_ level).size then .ofExcept (.error .internal)
  else
    .modify fun handshake => { handshake with
      keepalive_ := Function.update handshake.keepalive_ level ((handshake.keepalive_ level).consume size) }

/-- The first half of `update_keys`. -/
def updateTxKeys (crypto : Crypto) : Call C Unit := do
  let secret ← .ofExcept (crypto.updateSecret tls.hkdf (← .read).tx_secret_)
  .modify fun handshake => { handshake with tx_secret_ := secret }
  let writeKey ← .ofExcept (crypto.packetProtectionKey tls.hkdf secret)
  .ngtcp2 tls (.updateTxKey writeKey.data writeKey.iv)

/-- The second half of `update_keys`. -/
def updateRxKeys (crypto : Crypto) : Call C Unit := do
  let secret ← .ofExcept (crypto.updateSecret tls.hkdf (← .read).rx_secret_)
  .modify fun handshake => { handshake with rx_secret_ := secret }
  let readKey ← .ofExcept (crypto.packetProtectionKey tls.hkdf secret)
  .ngtcp2 tls (.updateRxKey readKey.data readKey.iv)

/-- `update_keys`: the key to write with, then the key to read with. Where the second half fails the first is
done. -/
def updateKeys : Call C Unit := do
  let crypto ← crypto tls
  updateTxKeys tls crypto
  updateRxKeys tls crypto

/-- The switch of `set_encryption_secrets`. -/
def installKeys (level : Level) (readSecret writeSecret : Buffer) (readKey writeKey : Key) : Call C Unit :=
  match level with
  | .initial => .ofExcept (.error .handshake)
  | .earlyData => .ngtcp2 tls (.installEarlyKeys writeKey)
  | .handshake => do
    .ngtcp2 tls (.installHandshakeTxKeys writeKey)
    .ngtcp2 tls (.installHandshakeRxKeys readKey)
  | .application => do
    .modify fun handshake => { handshake with tx_secret_ := writeSecret }
    .ngtcp2 tls (.installTxKeys writeKey)
    .modify fun handshake => { handshake with rx_secret_ := readSecret }
    .ngtcp2 tls (.installRxKeys readKey)

/-- `set_encryption_secrets`. Early data is not received by a client, and there is no key to read it. -/
def setEncryptionSecrets (level : Level) (readSecret writeSecret : Buffer) : Call C Unit := do
  let crypto ← crypto tls
  .ngtcp2Void tls (.setAeadOverhead crypto.aeadOverhead)
  let writeKey ← .ofExcept (crypto.packetProtectionKey tls.hkdf writeSecret)
  let readKey ← .ofExcept (if level = .earlyData then .ok {} else crypto.packetProtectionKey tls.hkdf readSecret)
  installKeys tls level readSecret writeSecret readKey writeKey

/-- `add_handshake_data`: the data is kept before it is submitted. -/
def addHandshakeData (level : Level) (data : Buffer) : Call C Unit := do
  .modify fun handshake => { handshake with
    keepalive_ := Function.update handshake.keepalive_ level ((handshake.keepalive_ level).push data) }
  .ngtcp2 tls (.submitCryptoData level data)

/-- What a callback runs. -/
def callback : SslCallback → Call C Unit
  | .setEncryptionSecrets level readSecret writeSecret => setEncryptionSecrets tls level readSecret writeSecret
  | .addHandshakeData level data => addHandshakeData tls level data

/-- The callbacks, up to the first that fails. -/
def callbacks : List SslCallback → Call C Unit
  | [] => pure ()
  | c :: cs => do
    callback tls c
    callbacks cs

/-! ## `send` and `recv` -/

/-- `SSL_do_handshake`. -/
def doHandshake : Call C SslAnswer := fun s =>
  let (cs, answer, c) := tls.doHandshake s.2
  match callbacks tls cs (s.1, c) with
  | (.ok (), s) => (.ok answer, s)
  | (.error _, s) => (.ok .failed, s)

/-- `SSL_process_quic_post_handshake`. -/
def processQuicPostHandshake : Call C Bool := fun s =>
  let (cs, answer, c) := tls.processQuicPostHandshake s.2
  match callbacks tls cs (s.1, c) with
  | (.ok (), s) => (.ok answer, s)
  | (.error _, s) => (.ok false, s)

/-- `SSL_provide_quic_data`. -/
def provideQuicData (level : Level) (data : Buffer) : Call C Bool := fun s =>
  (.ok (tls.provideQuicData s.2 level data).1, (s.1, (tls.provideQuicData s.2 level data).2))

/-- `completed()`: what ngtcp2 says of it. -/
def completed : Call C Bool := fun s => (.ok (tls.handshakeCompleted s.2), s)

/-- `SSL_get_peer_quic_transport_params`. -/
def peerQuicTransportParams : Call C Buffer := fun s => (.ok (tls.peerQuicTransportParams s.2), s)

/-- `send()`: a handshake that wants more is no failure. -/
def send : Call C Unit := do
  match ← doHandshake tls with
  | .failed => .ofExcept (.error .handshake)
  | .want => pure ()
  | .done => pure ()

/-- The end of `recv`: the handshake is not completed yet. -/
def recvHandshake : Call C Unit := do
  match ← doHandshake tls with
  | .failed => .ofExcept (.error .handshake)
  | .want => .ofExcept (.error .incomplete)
  | .done => do
    .ngtcp2Void tls .handshakeCompleted
    let encoded ← peerQuicTransportParams tls
    .ngtcp2 tls (.setRemoteTransportParams encoded)

/-- `recv(level, data)`: to BoringSSL, and then what that has to do with it. -/
def recv (level : Level) (data : Buffer) : Call C Unit := do
  let provided ← provideQuicData tls level data
  if !provided then .ofExcept (.error .handshake)
  else
    let completed ← completed tls
    if completed then
      let processed ← processQuicPostHandshake tls
      if !processed then .ofExcept (.error .handshake) else pure ()
    else recvHandshake tls

/-- `init`, but for what it sets up in BoringSSL behind the initial keys. -/
def init (dcid salt : Buffer) : Call C Unit := do
  let crypto : Crypto := ⟨.aes128Gcm, .sha256⟩
  let initial ← .ofExcept (crypto.initialSecret tls.hkdf dcid salt)
  let clientSecret ← .ofExcept (crypto.clientInitialSecret tls.hkdf initial)
  let writeKey ← .ofExcept (crypto.packetProtectionKey tls.hkdf clientSecret)
  .ngtcp2 tls (.installInitialTxKeys writeKey)
  let serverSecret ← .ofExcept (crypto.serverInitialSecret tls.hkdf initial)
  let readKey ← .ofExcept (crypto.packetProtectionKey tls.hkdf serverSecret)
  .ngtcp2 tls (.installInitialRxKeys readKey)

end Handshake

end Bnl.Quic
