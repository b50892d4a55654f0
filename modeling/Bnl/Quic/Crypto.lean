import Bnl.Quic.Stream

/-!
# `quic::crypto`

The secrets and keys of a QUIC connection, as far as they are derived. The two functions of HKDF are
BoringSSL's, and a parameter; what encrypts is left out.

Each derivation is one expansion of a secret with a label and a size, and the labels and sizes are here as they
stand in the source. So is the way the size is written into `info`: its two bytes are a quotient and a remainder
by 255, where the comment beside them speaks of a big-endian number. For the sizes that are asked for, below
255, the two are the same.

Nothing is assumed of HKDF. That two labels give two keys is not a law here and would be one of BoringSSL's.
-/

namespace Bnl.Quic

open Bnl.Base

/-- `crypto::level`. -/
inductive Level where
  | initial
  | earlyData
  | handshake
  | application
  deriving DecidableEq, Repr

/-- `crypto::aead`. -/
inductive Aead where
  | aes128Gcm
  | aes256Gcm
  | chacha20Poly1305
  deriving DecidableEq, Repr

/-- `crypto::hash`. -/
inductive Hash where
  | sha256
  | sha384
  deriving DecidableEq, Repr

/-- `crypto::key`. -/
structure Key where
  data : Buffer := {}
  iv : Buffer := {}
  hp : Buffer := {}
  deriving DecidableEq, Repr

/-- `crypto::hash_size`: the size of a hash in bytes. -/
def Hash.size : Hash → Nat
  | .sha256 => 32
  | .sha384 => 48

/-- `HKDF_extract` and `HKDF_expand`, which fill a buffer of a given size; `none` where they return 0. -/
structure Hkdf where
  extract : (hash : Hash) → (secret salt : Buffer) → Option (Vector UInt8 hash.size)
  expand : Hash → (prk info : Buffer) → (size : Nat) → Option (Vector UInt8 size)

/-- `crypto`. -/
structure Crypto where
  aead_ : Aead := .aes128Gcm
  hash_ : Hash := .sha256
  deriving DecidableEq, Repr

namespace Crypto

variable (hkdf : Hkdf)

/-- `aead_key_size`. -/
def aeadKeySize : Aead → Nat
  | .aes128Gcm => 16
  | .aes256Gcm => 32
  | .chacha20Poly1305 => 32

/-- `aead_nonce_min_size`: the same for all three. -/
def aeadNonceMinSize (_ : Aead) : Nat := 12

/-- `aead_overhead()`: the tag of a packet. -/
def aeadOverhead (_ : Crypto) : Nat := 16

/-- `hkdf_extract(secret, salt)`, of the size of the hash. -/
def hkdfExtract (crypto : Crypto) (secret salt : Buffer) : Except Error Buffer :=
  match hkdf.extract crypto.hash_ secret salt with
  | none => .error .crypto
  | some prk => .ok ⟨prk.toList⟩

/-- `hkdf_expand(prk, info, size)`. -/
def hkdfExpand (crypto : Crypto) (prk info : Buffer) (size : Nat) : Except Error Buffer :=
  match hkdf.expand crypto.hash_ prk info size with
  | none => .error .crypto
  | some okm => .ok ⟨okm.toList⟩

/-- `LABEL`. -/
def tls13 : List UInt8 := ascii "tls13 "

/-- What `hkdf_expand_label` writes to `info`. The two bytes of the length are its quotient and its remainder by
`UINT8_MAX`. -/
def info (label : List UInt8) (size : Nat) : Buffer :=
  ⟨UInt8.ofNat (size / 255) :: UInt8.ofNat (size % 255) :: UInt8.ofNat (tls13.length + label.length) ::
    (tls13 ++ label ++ [0])⟩

/-- `hkdf_expand_label(secret, label, size)`. -/
def hkdfExpandLabel (crypto : Crypto) (secret : Buffer) (label : List UInt8) (size : Nat) : Except Error Buffer :=
  crypto.hkdfExpand hkdf secret (info label size) size

/-- `initial_secret(dcid, salt)`, from the connection id the client chose. -/
def initialSecret (crypto : Crypto) (dcid salt : Buffer) : Except Error Buffer := crypto.hkdfExtract hkdf dcid salt

/-- `update_secret(secret)`: the next generation, of the size of the one before. -/
def updateSecret (crypto : Crypto) (secret : Buffer) : Except Error Buffer :=
  crypto.hkdfExpandLabel hkdf secret (ascii "traffic upd") secret.size

/-- `client_initial_secret(secret)`. -/
def clientInitialSecret (crypto : Crypto) (secret : Buffer) : Except Error Buffer :=
  crypto.hkdfExpandLabel hkdf secret (ascii "client in") crypto.hash_.size

/-- `server_initial_secret(secret)`. -/
def serverInitialSecret (crypto : Crypto) (secret : Buffer) : Except Error Buffer :=
  crypto.hkdfExpandLabel hkdf secret (ascii "server in") crypto.hash_.size

/-- `packet_protection_data(secret)`: the key itself. -/
def packetProtectionData (crypto : Crypto) (secret : Buffer) : Except Error Buffer :=
  crypto.hkdfExpandLabel hkdf secret (ascii "quic key") (aeadKeySize crypto.aead_)

/-- `packet_protection_iv(secret)`. -/
def packetProtectionIv (crypto : Crypto) (secret : Buffer) : Except Error Buffer :=
  crypto.hkdfExpandLabel hkdf secret (ascii "quic iv") (max 8 (aeadNonceMinSize crypto.aead_))

/-- `packet_protection_hp(secret)`: the key of header protection. -/
def packetProtectionHp (crypto : Crypto) (secret : Buffer) : Except Error Buffer :=
  crypto.hkdfExpandLabel hkdf secret (ascii "quic hp") (aeadKeySize crypto.aead_)

/-- `packet_protection_key(secret)`: all three, or the first error. -/
def packetProtectionKey (crypto : Crypto) (secret : Buffer) : Except Error Key := do
  let data ← crypto.packetProtectionData hkdf secret
  let iv ← crypto.packetProtectionIv hkdf secret
  let hp ← crypto.packetProtectionHp hkdf secret
  pure ⟨data, iv, hp⟩

end Crypto

end Bnl.Quic
