import Bnl.Laws.Conservation
import Bnl.Library.Bytes
import Bnl.Library.Fallible
import Bnl.Quic.Handshake

/-!
# Keys and handshake messages

BoringSSL and ngtcp2 call the handshake in any order, and each of the calls it makes may fail. What it keeps of
each level is what it submitted there and was not acknowledged. The keys of the application level come in the
order of their generations, for writing before for reading, and none is left out or comes twice.

**The laws**

* `handshake_keeps`: in every run, whatever fails, the bytes kept of a level are those submitted there and not
  acknowledged. An acknowledgement of more than is kept is refused and changes nothing.
* `keys_scheduled`: in every run in which the libraries do what they promise (`Admits`), ngtcp2 is called with
  the keys that RFC 8446 and its update derive from BoringSSL's secrets, generation by generation.

The idea of the proof: the functions of the handshake are programs that call ngtcp2 and stop at the first
failure. `Leads` says of such a program that it keeps a relation between the state before and after however far
it comes, so it is enough to look at single calls. `Keeping` is the relation for the messages; for the keys it
is `Unkeyed`, which all programs keep but the two that install and update keys (`Rekeys`).

**What it does not establish.** HKDF is a parameter: nothing is said of how it hides its secrets, nor that the
peer derives the same. That the label is the one of RFC 8446 for every secret is false: `info_eq_iff` says for
which lengths it is, and the secrets of the ciphers that are negotiated are shorter.
-/

namespace Bnl.Quic.Handshake

open Bnl.Base Fallible

/-! ## `HKDF-Expand-Label` -/

/-- The HkdfLabel of RFC 8446, section 7.1. -/
def hkdfLabel (label context : List UInt8) (size : Nat) : Buffer :=
  ⟨Bytes.toBytes 2 size ++ UInt8.ofNat (Crypto.tls13.length + label.length) ::
    (Crypto.tls13 ++ label ++ UInt8.ofNat context.length :: context)⟩

/-- HKDF-Expand-Label of RFC 8446, with no context. -/
def expandLabel (hkdf : Hkdf) (hash : Hash) (secret : Buffer) (label : List UInt8) (size : Nat) :
    Except Error Buffer :=
  match hkdf.expand hash secret (hkdfLabel label [] size) size with
  | none => .error .crypto
  | some okm => .ok ⟨okm.toList⟩

/-- A number in two bytes, the most significant first. -/
theorem toBytes_two (n : Nat) : Bytes.toBytes 2 n = [UInt8.ofNat (n / 256), UInt8.ofNat n] := by
  simp [Bytes.toBytes]

/-- **The label has the length that is derived up to 254 bytes**, and not from there on. -/
theorem info_eq_iff (label : List UInt8) {size : Nat} (h : size < 2 ^ 16) :
    Crypto.info label size = hkdfLabel label [] size ↔ size < 255 := by
  have hinfo : Crypto.info label size = hkdfLabel label [] size ↔
      UInt8.ofNat (size / 255) = UInt8.ofNat (size / 256) ∧ UInt8.ofNat (size % 255) = UInt8.ofNat size := by
    unfold Crypto.info hkdfLabel
    rw [toBytes_two, Buffer.mk.injEq, List.cons_append, List.cons_append, List.nil_append, List.cons.injEq,
      List.cons.injEq]
    exact and_congr_right fun _ => and_iff_left rfl
  rw [hinfo, ← UInt8.toNat_inj, ← UInt8.toNat_inj]
  simp only [UInt8.toNat_ofNat']
  omega

/-- So up to 254 bytes a secret is derived as it should be. -/
theorem hkdfExpandLabel_eq (hkdf : Hkdf) (crypto : Crypto) (secret : Buffer) (label : List UInt8) {size : Nat}
    (h : size < 255) :
    crypto.hkdfExpandLabel hkdf secret label size = expandLabel hkdf crypto.hash_ secret label size := by
  have hinfo : Crypto.info label size = hkdfLabel label [] size :=
    (info_eq_iff label (Nat.lt_trans h (by decide))).mpr h
  unfold Crypto.hkdfExpandLabel Crypto.hkdfExpand expandLabel
  generalize Crypto.info label size = info at hinfo ⊢
  subst hinfo
  cases hkdf.expand crypto.hash_ secret (hkdfLabel label [] size) size with
  | none => rfl
  | some okm => rfl

/-! ## The schedule of the application keys -/

section Schedule

variable (hkdf : Hkdf) (crypto : Crypto)

/-- The secret of a generation, the first being the one of TLS. -/
def generation (secret : Buffer) : Nat → Except Error Buffer
  | 0 => .ok secret
  | n + 1 => do
    let secret ← generation secret n
    expandLabel hkdf crypto.hash_ secret (ascii "traffic upd") secret.size

/-- The key and the IV of a secret. -/
def keyOf (secret : Buffer) : Except Error (Buffer × Buffer) := do
  let data ← expandLabel hkdf crypto.hash_ secret (ascii "quic key") (Crypto.aeadKeySize crypto.aead_)
  let iv ← expandLabel hkdf crypto.hash_ secret (ascii "quic iv") 12
  pure (data, iv)

/-- The key of the header protection of a secret. -/
def hpOf (secret : Buffer) : Except Error Buffer :=
  expandLabel hkdf crypto.hash_ secret (ascii "quic hp") (Crypto.aeadKeySize crypto.aead_)

/-- Writing and reading. -/
inductive Direction where
  | tx
  | rx
  deriving DecidableEq, Repr

/-- A key of the application level as ngtcp2 gets it: for the first generation with a key of the header protection,
or for an update, which leaves the header protection as it is. -/
structure AppKey where
  direction : Direction
  key : Except Error (Buffer × Buffer)
  hp : Option (Except Error Buffer)

/-- The key of a generation. -/
def keyAt (direction : Direction) (secret : Buffer) : Nat → AppKey
  | 0 => ⟨direction, keyOf hkdf crypto secret, some (hpOf hkdf crypto secret)⟩
  | n + 1 => ⟨direction, generation hkdf crypto secret (n + 1) >>= keyOf hkdf crypto, none⟩

/-- The keys of so many generations, in the order in which they are to come. -/
def schedule (first : Direction → Buffer) : Nat → List AppKey
  | 0 => []
  | n + 1 => schedule first n ++ [keyAt hkdf crypto .tx (first .tx) n, keyAt hkdf crypto .rx (first .rx) n]

end Schedule

/-- The key of the application level that a call hands over. -/
def appKey : Ngtcp2Call → Option AppKey
  | .installTxKeys key => some ⟨.tx, .ok (key.data, key.iv), some (.ok key.hp)⟩
  | .installRxKeys key => some ⟨.rx, .ok (key.data, key.iv), some (.ok key.hp)⟩
  | .updateTxKey data iv => some ⟨.tx, .ok (data, iv), none⟩
  | .updateRxKey data iv => some ⟨.rx, .ok (data, iv), none⟩
  | _ => none

/-- The keys of the application level that ngtcp2 was called with. -/
def appKeys (calls : List Ngtcp2Call) : List AppKey := calls.filterMap appKey

/-- The handshake data that a call submits for a level. -/
def submits (level : Level) : Ngtcp2Call → List UInt8
  | .submitCryptoData l data => if l = level then data.bytes else []
  | _ => []

/-- The handshake data that was submitted for a level. -/
def submitted (level : Level) (calls : List Ngtcp2Call) : List UInt8 := calls.flatMap (submits level)

/-- Keys of calls, and of others behind them. -/
theorem appKeys_append (calls calls' : List Ngtcp2Call) :
    appKeys (calls ++ calls') = appKeys calls ++ appKeys calls' := List.filterMap_append

/-- Messages of calls, and of others behind them. -/
theorem submitted_append (level : Level) (calls calls' : List Ngtcp2Call) :
    submitted level (calls ++ calls') = submitted level calls ++ submitted level calls' := List.flatMap_append

variable {hkdf : Hkdf} {crypto : Crypto}

/-- What is derived has the length that was asked for. -/
theorem size_of_expandLabel {hash : Hash} {secret okm : Buffer} {label : List UInt8} {size : Nat}
    (h : expandLabel hkdf hash secret label size = .ok okm) : okm.size = size := by
  unfold expandLabel at h
  match hx : hkdf.expand hash secret (hkdfLabel label [] size) size with
  | none =>
    rw [hx] at h
    cases h
  | some v =>
    rw [hx] at h
    cases h
    exact v.length_toList

/-- The next secret is derived as it should be. -/
theorem updateSecret_eq {secret : Buffer} (h : secret.size < 255) : crypto.updateSecret hkdf secret =
    expandLabel hkdf crypto.hash_ secret (ascii "traffic upd") secret.size :=
  hkdfExpandLabel_eq hkdf crypto secret _ h

/-- The next generation. -/
theorem generation_succ {secret last next : Buffer} {n : Nat} (h : generation hkdf crypto secret n = .ok last)
    (hlast : last.size < 255) (hnext : crypto.updateSecret hkdf last = .ok next) :
    generation hkdf crypto secret (n + 1) = .ok next ∧ next.size < 255 := by
  rw [updateSecret_eq hlast] at hnext
  refine ⟨?_, ?_⟩
  · rw [generation, h]
    exact hnext
  · rw [size_of_expandLabel hnext]
    exact hlast

/-- The three parts of a key, as they are derived. -/
theorem packetProtectionKey_ok {secret : Buffer} {key : Key}
    (h : crypto.packetProtectionKey hkdf secret = .ok key) :
    keyOf hkdf crypto secret = .ok (key.data, key.iv) ∧ hpOf hkdf crypto secret = .ok key.hp := by
  have hdata : crypto.packetProtectionData hkdf secret =
      expandLabel hkdf crypto.hash_ secret (ascii "quic key") (Crypto.aeadKeySize crypto.aead_) :=
    hkdfExpandLabel_eq hkdf crypto secret _ (by cases crypto.aead_ <;> decide)
  have hiv : crypto.packetProtectionIv hkdf secret =
      expandLabel hkdf crypto.hash_ secret (ascii "quic iv") 12 :=
    hkdfExpandLabel_eq hkdf crypto secret _ (show 12 < 255 by decide)
  have hhp : crypto.packetProtectionHp hkdf secret = hpOf hkdf crypto secret :=
    hkdfExpandLabel_eq hkdf crypto secret _ (by cases crypto.aead_ <;> decide)
  unfold Crypto.packetProtectionKey at h
  unfold keyOf
  rw [← hdata, ← hiv, ← hhp]
  match hd : crypto.packetProtectionData hkdf secret with
  | .error e =>
    rw [hd] at h
    cases h
  | .ok data =>
    rw [hd] at h
    match hi : crypto.packetProtectionIv hkdf secret with
    | .error e =>
      rw [hi] at h
      cases h
    | .ok iv =>
      rw [hi] at h
      match hh : crypto.packetProtectionHp hkdf secret with
      | .error e =>
        rw [hh] at h
        cases h
      | .ok hp =>
        rw [hh] at h
        cases h
        exact ⟨rfl, rfl⟩

/-! ## Runs -/

/-- What the libraries do while an action is taken: the cipher suite, what ngtcp2 answers to a call behind those that
were made before it, and the functions of BoringSSL. -/
structure Script where
  cipher : Option UInt32 := none
  answers : List Ngtcp2Call → Ngtcp2Call → Bool := fun _ _ => true
  provided : Bool := true
  completed : Bool := false
  handshake : List SslCallback × SslAnswer := ([], .want)
  postHandshake : List SslCallback × Bool := ([], true)
  peerParams : Buffer := {}

/-- The libraries of a script. Their state is the list of the calls into ngtcp2. -/
def Script.tls (hkdf : Hkdf) (script : Script) : Tls (List Ngtcp2Call) where
  hkdf := hkdf
  ngtcp2 calls call := (script.answers calls call, calls ++ [call])
  handshakeCompleted _ := script.completed
  currentCipher _ := script.cipher
  provideQuicData calls _ _ := (script.provided, calls)
  doHandshake calls := (script.handshake.1, script.handshake.2, calls)
  processQuicPostHandshake calls := (script.postHandshake.1, script.postHandshake.2, calls)
  peerQuicTransportParams _ := script.peerParams

/-- What the connection asks of the handshake. -/
inductive Action where
  | send
  | recv (level : Level) (data : Buffer)
  | ack (level : Level) (size : Nat)
  | updateKeys
  deriving DecidableEq, Repr

/-- What the connection asks, as a function of the handshake. -/
def Action.call (tls : Tls (List Ngtcp2Call)) : Action → Call (List Ngtcp2Call) Unit
  | .send => Handshake.send tls
  | .recv level data => Handshake.recv tls level data
  | .ack level size => Handshake.ack level size
  | .updateKeys => Handshake.updateKeys tls

/-- The handshake, the calls into ngtcp2 so far, how many bytes of each level were acknowledged, the secrets that
BoringSSL had for the application level, and whether an action failed. -/
structure World where
  handshake : Handshake := {}
  calls : List Ngtcp2Call := []
  acked : Level → Nat := fun _ => 0
  secrets : List (Direction → Buffer) := []
  failed : Bool := false

/-- The secrets to read and to write with. -/
def secretsOf (readSecret writeSecret : Buffer) : Direction → Buffer
  | .tx => writeSecret
  | .rx => readSecret

/-- The secrets of the application level that a callback comes with. -/
def applicationSecrets : SslCallback → Option (Direction → Buffer)
  | .setEncryptionSecrets .application readSecret writeSecret => some (secretsOf readSecret writeSecret)
  | _ => none

/-- The callbacks that an action comes with. -/
def Action.callbacks (script : Script) : Action → List SslCallback
  | .send => script.handshake.1
  | .recv _ _ =>
    if !script.provided then []
    else if script.completed then script.postHandshake.1
    else script.handshake.1
  | .ack _ _ => []
  | .updateKeys => []

/-- How many bytes an action acknowledges. -/
def Action.acks : Action → Except Error Unit → Level → Nat
  | .ack level size, .ok (), l => if l = level then size else 0
  | _, _, _ => 0

/-- Whether the connection takes a result for a failure: `recv_crypto_data` takes `incomplete` for a success. -/
def Action.fails : Action → Except Error Unit → Bool
  | _, .ok () => false
  | .recv _ _, .error .incomplete => false
  | _, .error _ => true

/-- An action, with its result. -/
def call (hkdf : Hkdf) (w : World) (a : Script × Action) : Except Error Unit × World :=
  match a.2.call (a.1.tls hkdf) (w.handshake, w.calls) with
  | (r, handshake, calls) =>
    (r, { handshake, calls
          acked := fun level => w.acked level + a.2.acks r level
          secrets := w.secrets ++ (a.2.callbacks a.1).filterMap applicationSecrets
          failed := w.failed || a.2.fails r })

/-- An action, whatever it returns. -/
def step (hkdf : Hkdf) (w : World) (a : Script × Action) : Option World := some (call hkdf w a).2

/-- A connection starts with the initial keys. -/
def start (hkdf : Hkdf) (script : Script) (dcid salt : Buffer) : World :=
  match init (script.tls hkdf) dcid salt ({}, []) with
  | (_, handshake, calls) => { handshake, calls }

/-! ## Nothing of a message is lost -/

/-- What is kept of each level is what was submitted and not acknowledged. -/
def Kept (acked : Level → Nat) (s : Handshake × List Ngtcp2Call) : Prop :=
  ∀ level, (s.1.keepalive_ level).bytes = (submitted level s.2).drop (acked level) ∧
    acked level ≤ (submitted level s.2).length

/-- What leaves the messages as they are. -/
structure Still (s s' : Handshake × List Ngtcp2Call) : Prop where
  grows : s.2 <+: s'.2
  keepalive_ : s'.1.keepalive_ = s.1.keepalive_
  submitted : ∀ level, submitted level s'.2 = submitted level s.2

instance : Std.Refl Still := ⟨fun _ => ⟨List.prefix_rfl, rfl, fun _ => rfl⟩⟩

instance : IsTrans (Handshake × List Ngtcp2Call) Still :=
  ⟨fun _ _ _ h h' => ⟨h.grows.trans h'.grows, h'.keepalive_.trans h.keepalive_,
    fun level => (h'.submitted level).trans (h.submitted level)⟩⟩

/-- What keeps the messages, however many bytes are acknowledged. -/
structure Keeping (s s' : Handshake × List Ngtcp2Call) : Prop where
  grows : s.2 <+: s'.2
  kept : ∀ acked, Kept acked s → Kept acked s'

instance : Std.Refl Keeping := ⟨fun _ => ⟨List.prefix_rfl, fun _ h => h⟩⟩

instance : IsTrans (Handshake × List Ngtcp2Call) Keeping :=
  ⟨fun _ _ _ h h' => ⟨h.grows.trans h'.grows, fun acked hs => h'.kept acked (h.kept acked hs)⟩⟩

/-- What leaves the messages keeps them. -/
theorem Still.keeping {s s' : Handshake × List Ngtcp2Call} (h : Still s s') : Keeping s s' := by
  refine ⟨h.grows, fun acked hs level => ?_⟩
  rw [h.keepalive_, h.submitted level]
  exact hs level

section Leads

variable {R : Handshake × List Ngtcp2Call → Handshake × List Ngtcp2Call → Prop} {α : Type} {script : Script}

/-- A value that may be missing changes nothing. -/
theorem leads_ofExcept [Std.Refl R] (a : Except Error α) : Leads R (Call.ofExcept a) := fun s => Std.Refl.refl s

theorem leads_read [Std.Refl R] : Leads R Call.read := fun s => Std.Refl.refl s

theorem leads_crypto [Std.Refl R] : Leads R (Handshake.crypto (script.tls hkdf)) := fun s => Std.Refl.refl s

end Leads

section Still

variable {script : Script}

/-- A call that submits nothing leaves the messages. -/
theorem still_append (h : Handshake) (calls : List Ngtcp2Call) {c : Ngtcp2Call} (hc : ∀ level, submits level c = []) :
    Still (h, calls) (h, calls ++ [c]) := by
  refine ⟨List.prefix_append _ _, rfl, fun level => ?_⟩
  have hone : submitted level [c] = [] := by
    unfold submitted
    rw [List.flatMap_singleton, hc level]
  rw [submitted_append, hone, List.append_nil]

theorem still_ngtcp2 {c : Ngtcp2Call} (hc : ∀ level, submits level c = []) :
    Leads Still (Call.ngtcp2 (script.tls hkdf) c) := fun (h, calls) => still_append h calls hc

theorem still_ngtcp2Void {c : Ngtcp2Call} (hc : ∀ level, submits level c = []) :
    Leads Still (Call.ngtcp2Void (script.tls hkdf) c) := fun (h, calls) => still_append h calls hc

/-- Other fields of the handshake are not messages. -/
theorem still_modify {f : Handshake → Handshake} (hf : ∀ h, (f h).keepalive_ = h.keepalive_) :
    Leads Still (Call.modify f) := fun s => ⟨List.prefix_rfl, hf s.1, fun _ => rfl⟩

theorem updateKeys_still : Leads Still (updateKeys (script.tls hkdf)) := by
  refine Leads.bind leads_crypto fun crypto => Leads.bind ?_ fun _ => ?_
  · exact Leads.bind leads_read fun _ => Leads.bind (leads_ofExcept _) fun _ =>
      Leads.bind (still_modify fun _ => rfl) fun _ => Leads.bind (leads_ofExcept _) fun _ => still_ngtcp2 fun _ => rfl
  · exact Leads.bind leads_read fun _ => Leads.bind (leads_ofExcept _) fun _ =>
      Leads.bind (still_modify fun _ => rfl) fun _ => Leads.bind (leads_ofExcept _) fun _ => still_ngtcp2 fun _ => rfl

theorem installKeys_still (level : Level) (readSecret writeSecret : Buffer) (readKey writeKey : Key) :
    Leads Still (installKeys (script.tls hkdf) level readSecret writeSecret readKey writeKey) := by
  cases level with
  | initial => exact leads_ofExcept _
  | earlyData => exact still_ngtcp2 fun _ => rfl
  | handshake => exact (still_ngtcp2 fun _ => rfl).bind fun _ => still_ngtcp2 fun _ => rfl
  | application =>
    exact Leads.bind (still_modify fun _ => rfl) fun _ => Leads.bind (still_ngtcp2 fun _ => rfl) fun _ =>
      Leads.bind (still_modify fun _ => rfl) fun _ => still_ngtcp2 fun _ => rfl

theorem setEncryptionSecrets_still (level : Level) (readSecret writeSecret : Buffer) :
    Leads Still (setEncryptionSecrets (script.tls hkdf) level readSecret writeSecret) :=
  Leads.bind leads_crypto fun _ => Leads.bind (still_ngtcp2Void fun _ => rfl) fun _ =>
    Leads.bind (leads_ofExcept _) fun _ => Leads.bind (leads_ofExcept _) fun _ =>
      installKeys_still level readSecret writeSecret _ _

end Still

section Keeping

variable {script : Script}

/-- A program that leaves the messages keeps them. -/
theorem Still.leads {α : Type} {x : Call (List Ngtcp2Call) α} (h : Leads Still x) : Leads Keeping x :=
  fun s => (h s).keeping

/-- What is submitted is kept. -/
theorem addHandshakeData_keeping (level : Level) (data : Buffer) :
    Leads Keeping (addHandshakeData (script.tls hkdf) level data) := by
  rintro ⟨h, calls⟩
  refine ⟨List.prefix_append _ _, fun acked hkept l => ?_⟩
  obtain ⟨hbytes, hle⟩ := hkept l
  have hstate : (addHandshakeData (script.tls hkdf) level data (h, calls)).2 = ({ h with
      keepalive_ := Function.update h.keepalive_ level ((h.keepalive_ level).push data) },
      calls ++ [.submitCryptoData level data]) := rfl
  rw [hstate]
  dsimp only
  rw [submitted_append]
  by_cases hl : l = level
  · subst hl
    have hone : submitted l [.submitCryptoData l data] = data.bytes := by
      unfold submitted
      rw [List.flatMap_singleton, submits, if_pos rfl]
    rw [hone, Function.update_self, Buffers.push_bytes, hbytes, List.drop_append_of_le_length hle]
    exact ⟨rfl, Nat.le_trans hle (by rw [List.length_append]; exact Nat.le_add_right _ _)⟩
  · have hone : submitted l [.submitCryptoData level data] = [] := by
      unfold submitted
      rw [List.flatMap_singleton, submits, if_neg (Ne.symm hl)]
    rw [hone, List.append_nil, Function.update_of_ne hl]
    exact ⟨hbytes, hle⟩

/-- BoringSSL's callbacks keep the messages: one of them submits some and keeps them, the others leave them. -/
theorem callback_keeping (c : SslCallback) : Leads Keeping (callback (script.tls hkdf) c) := by
  cases c with
  | setEncryptionSecrets level readSecret writeSecret =>
    exact Still.leads (setEncryptionSecrets_still level readSecret writeSecret)
  | addHandshakeData level data => exact addHandshakeData_keeping level data

theorem callbacks_keeping (hkdf : Hkdf) (script : Script) (cs : List SslCallback) :
    Leads Keeping (callbacks (script.tls hkdf) cs) := by
  induction cs with
  | nil => exact Leads.pure ()
  | cons c cs ih => exact (callback_keeping c).bind fun _ => ih

/-- `SSL_do_handshake` whose callbacks succeed has its own answer. -/
theorem doHandshake_ok {s s' : Handshake × List Ngtcp2Call}
    (h : callbacks (script.tls hkdf) script.handshake.1 s = (.ok (), s')) :
    doHandshake (script.tls hkdf) s = (.ok script.handshake.2, s') := by
  have hssl : (script.tls hkdf).doHandshake s.2 = (script.handshake.1, script.handshake.2, s.2) := rfl
  unfold doHandshake
  rw [hssl]
  dsimp only
  rw [h]

/-- One of whose callbacks fails has failed. -/
theorem doHandshake_error {s s' : Handshake × List Ngtcp2Call} {e : Error}
    (h : callbacks (script.tls hkdf) script.handshake.1 s = (.error e, s')) :
    doHandshake (script.tls hkdf) s = (.ok .failed, s') := by
  have hssl : (script.tls hkdf).doHandshake s.2 = (script.handshake.1, script.handshake.2, s.2) := rfl
  unfold doHandshake
  rw [hssl]
  dsimp only
  rw [h]

theorem processQuicPostHandshake_ok {s s' : Handshake × List Ngtcp2Call}
    (h : callbacks (script.tls hkdf) script.postHandshake.1 s = (.ok (), s')) :
    processQuicPostHandshake (script.tls hkdf) s = (.ok script.postHandshake.2, s') := by
  have hssl : (script.tls hkdf).processQuicPostHandshake s.2 =
      (script.postHandshake.1, script.postHandshake.2, s.2) := rfl
  unfold processQuicPostHandshake
  rw [hssl]
  dsimp only
  rw [h]

theorem processQuicPostHandshake_error {s s' : Handshake × List Ngtcp2Call} {e : Error}
    (h : callbacks (script.tls hkdf) script.postHandshake.1 s = (.error e, s')) :
    processQuicPostHandshake (script.tls hkdf) s = (.ok false, s') := by
  have hssl : (script.tls hkdf).processQuicPostHandshake s.2 =
      (script.postHandshake.1, script.postHandshake.2, s.2) := rfl
  unfold processQuicPostHandshake
  rw [hssl]
  dsimp only
  rw [h]

theorem doHandshake_keeping : Leads Keeping (doHandshake (script.tls hkdf)) := by
  intro s
  have hs := callbacks_keeping hkdf script script.handshake.1 s
  match hrun : callbacks (script.tls hkdf) script.handshake.1 s with
  | (.ok (), s') =>
    rw [doHandshake_ok hrun]
    rwa [hrun] at hs
  | (.error e, s') =>
    rw [doHandshake_error hrun]
    rwa [hrun] at hs

theorem processQuicPostHandshake_keeping : Leads Keeping (processQuicPostHandshake (script.tls hkdf)) := by
  intro s
  have hs := callbacks_keeping hkdf script script.postHandshake.1 s
  match hrun : callbacks (script.tls hkdf) script.postHandshake.1 s with
  | (.ok (), s') =>
    rw [processQuicPostHandshake_ok hrun]
    rwa [hrun] at hs
  | (.error e, s') =>
    rw [processQuicPostHandshake_error hrun]
    rwa [hrun] at hs

theorem send_keeping : Leads Keeping (send (script.tls hkdf)) := by
  refine doHandshake_keeping.bind fun answer => ?_
  cases answer with
  | failed => exact leads_ofExcept _
  | want => exact Leads.pure ()
  | done => exact Leads.pure ()

theorem recvHandshake_keeping : Leads Keeping (recvHandshake (script.tls hkdf)) := by
  refine doHandshake_keeping.bind fun answer => ?_
  cases answer with
  | failed => exact leads_ofExcept _
  | want => exact leads_ofExcept _
  | done =>
    exact Leads.bind (Still.leads (still_ngtcp2Void fun _ => rfl)) fun _ =>
      Leads.bind (fun s => Std.Refl.refl s) fun _ => Still.leads (still_ngtcp2 fun _ => rfl)

theorem recv_keeping (level : Level) (data : Buffer) : Leads Keeping (recv (script.tls hkdf) level data) := by
  refine Leads.bind (fun s => Std.Refl.refl s) fun provided => ?_
  cases provided with
  | false => exact leads_ofExcept _
  | true =>
    refine Leads.bind (fun s => Std.Refl.refl s) fun completed => ?_
    cases completed with
    | false => exact recvHandshake_keeping
    | true =>
      refine processQuicPostHandshake_keeping.bind fun processed => ?_
      cases processed with
      | false => exact leads_ofExcept _
      | true => exact Leads.pure ()

end Keeping

/-- An acknowledgement of what is kept. -/
theorem ack_ok {level : Level} {size : Nat} {s : Handshake × List Ngtcp2Call}
    (h : size ≤ (s.1.keepalive_ level).size) : Handshake.ack level size s = (.ok (), ({ s.1 with
      keepalive_ := Function.update s.1.keepalive_ level ((s.1.keepalive_ level).consume size) }, s.2)) := by
  unfold Handshake.ack
  rw [bind_ok (show Call.read s = (.ok s.1, s) from rfl), if_neg (Nat.not_lt.mpr h)]
  rfl

theorem ack_excess {level : Level} {size : Nat} {s : Handshake × List Ngtcp2Call}
    (h : size > (s.1.keepalive_ level).size) : Handshake.ack level size s = (.error .internal, s) := by
  unfold Handshake.ack
  rw [bind_ok (show Call.read s = (.ok s.1, s) from rfl), if_pos h]
  rfl

/-- What an action does to the messages. -/
structure Keeps (hkdf : Hkdf) (w : World) (a : Script × Action) (w' : World) : Prop where
  kept : Kept w'.acked (w'.handshake, w'.calls)
  /-- Too large an acknowledgement fails, and changes nothing but that. -/
  excess : ∀ level size, a.2 = .ack level size → size > (w.handshake.keepalive_ level).size →
    (call hkdf w a).1 = .error .internal ∧ w'.handshake = w.handshake ∧ w'.calls = w.calls ∧ w'.acked = w.acked
  /-- Nothing of one level is taken for another, and nothing at all but by an acknowledgement. -/
  others : ∀ level, a.2.acks (call hkdf w a).1 level = 0 →
    (w.handshake.keepalive_ level).bytes <+: (w'.handshake.keepalive_ level).bytes

/-- What is kept of a level only grows while nothing is acknowledged. -/
theorem kept_prefix {acked : Level → Nat} {s s' : Handshake × List Ngtcp2Call} (h : Kept acked s) (h' : Keeping s s')
    (level : Level) : (s.1.keepalive_ level).bytes <+: (s'.1.keepalive_ level).bytes := by
  obtain ⟨more, hmore⟩ := h'.grows
  obtain ⟨hbytes, hle⟩ := h level
  rw [hbytes, (h'.kept acked h level).1, ← hmore, submitted_append, List.drop_append_of_le_length hle]
  exact List.prefix_append _ _

/-- An action that acknowledges nothing. -/
theorem keeps_of_leads {hkdf : Hkdf} {w : World} (hw : Kept w.acked (w.handshake, w.calls)) {a : Script × Action}
    (hleads : Leads Keeping (a.2.call (a.1.tls hkdf))) (hacks : ∀ level size, a.2 ≠ .ack level size) :
    Keeps hkdf w a (call hkdf w a).2 := by
  have hnone (r : Except Error Unit) (level : Level) : a.2.acks r level = 0 := by
    match h : a.2 with
    | .ack l size => exact absurd h (hacks l size)
    | .send => rfl
    | .recv _ _ => rfl
    | .updateKeys => rfl
  have hkeeping := hleads (w.handshake, w.calls)
  have hacked : (call hkdf w a).2.acked = w.acked := by
    funext level
    show w.acked level + a.2.acks _ level = _
    rw [hnone, Nat.add_zero]
  refine ⟨?_, fun level size ha => absurd ha (hacks level size), fun level _ => kept_prefix hw hkeeping level⟩
  rw [hacked]
  exact hkeeping.kept _ hw

/-- Every action keeps the messages. -/
theorem step_keeps (hkdf : Hkdf) {w : World} (hw : Kept w.acked (w.handshake, w.calls)) (a : Script × Action) :
    Keeps hkdf w a (call hkdf w a).2 := by
  obtain ⟨script, action⟩ := a
  cases action with
  | send => exact keeps_of_leads hw send_keeping nofun
  | recv level data => exact keeps_of_leads hw (recv_keeping level data) nofun
  | updateKeys => exact keeps_of_leads hw (Still.leads updateKeys_still) nofun
  | ack level size =>
    by_cases hlarge : size > (w.handshake.keepalive_ level).size
    · have hcall : call hkdf w (script, .ack level size) = (.error .internal,
          { w with secrets := w.secrets ++ [], failed := w.failed || true }) := by
        have hack : (Action.ack level size).call (script.tls hkdf) (w.handshake, w.calls) =
            (.error .internal, (w.handshake, w.calls)) := ack_excess hlarge
        unfold call
        rw [hack]
        rfl
      rw [hcall]
      refine ⟨hw, fun l n ha _ => ?_, fun _ _ => List.prefix_rfl⟩
      rw [hcall]
      exact ⟨rfl, rfl, rfl, rfl⟩
    · have hle := Nat.le_of_not_lt hlarge
      let keepalive_ := Function.update w.handshake.keepalive_ level ((w.handshake.keepalive_ level).consume size)
      have hcall : call hkdf w (script, .ack level size) = (.ok (),
          { w with
            handshake := { w.handshake with keepalive_ }
            acked := fun l => w.acked l + if l = level then size else 0
            secrets := w.secrets ++ [], failed := w.failed || false }) := by
        have hack : (Action.ack level size).call (script.tls hkdf) (w.handshake, w.calls) =
            (.ok (), ({ w.handshake with keepalive_ }, w.calls)) := ack_ok hle
        unfold call
        rw [hack]
        rfl
      rw [hcall]
      refine ⟨fun l => ?_, fun l n ha hn => ?_, fun l hacks => ?_⟩
      · dsimp only
        obtain ⟨hbytes, hacked⟩ := hw l
        by_cases hl : l = level
        · subst hl
          rw [if_pos rfl, show keepalive_ l = _ from Function.update_self .., Buffers.consume_bytes, hbytes,
            List.drop_drop]
          -- no more is acknowledged than is kept
          rw [Buffers.size_eq, hbytes, List.length_drop] at hle
          dsimp only at hacked hle ⊢
          exact ⟨rfl, by omega⟩
        · rw [if_neg hl, show keepalive_ l = _ from Function.update_of_ne hl .., Nat.add_zero]
          exact ⟨hbytes, hacked⟩
      · cases ha
        exact absurd hn hlarge
      · dsimp only
        by_cases hl : l = level
        · subst hl
          have hzero : size = 0 := by
            rw [hcall] at hacks
            exact (if_pos rfl).symm.trans hacks
          rw [show keepalive_ l = _ from Function.update_self .., Buffers.consume_bytes, hzero, List.drop_zero]
        · rw [show keepalive_ l = _ from Function.update_of_ne hl ..]

variable (hkdf) in
/-- The initial keys are no message. -/
theorem init_still (script : Script) (dcid salt : Buffer) : Leads Still (init (script.tls hkdf) dcid salt) :=
  Leads.bind (leads_ofExcept _) fun _ => Leads.bind (leads_ofExcept _) fun _ => Leads.bind (leads_ofExcept _) fun _ =>
    Leads.bind (still_ngtcp2 fun _ => rfl) fun _ => Leads.bind (leads_ofExcept _) fun _ =>
      Leads.bind (leads_ofExcept _) fun _ => still_ngtcp2 fun _ => rfl

/-- **No handshake message is lost**: in every run, whatever fails, what is kept of a level is what was submitted
there and not acknowledged, so that an acknowledgement of one level takes nothing from another. -/
theorem handshake_keeps (hkdf : Hkdf) (script : Script) (dcid salt : Buffer) (actions : List (Script × Action)) :
    Run.Always (step hkdf) (Keeps hkdf) (start hkdf script dcid salt) actions := by
  have hstart : Kept (start hkdf script dcid salt).acked
      ((start hkdf script dcid salt).handshake, (start hkdf script dcid salt).calls) :=
    (init_still hkdf script dcid salt ({}, [])).keeping.kept (fun _ => 0) fun _ => ⟨rfl, Nat.le_refl _⟩
  exact Run.always_of_step (I := fun w => Kept w.acked (w.handshake, w.calls))
    (fun w a hw => ⟨_, rfl, step_keeps hkdf hw a, (step_keeps hkdf hw a).kept⟩) hstart

/-! ## No key is left out -/

/-- The secret of a direction. -/
def secret (h : Handshake) : Direction → Buffer
  | .tx => h.tx_secret_
  | .rx => h.rx_secret_

/-- A short secret of a generation. -/
structure Generation (hkdf : Hkdf) (crypto : Crypto) (first : Buffer) (n : Nat) (last : Buffer) : Prop where
  eq : generation hkdf crypto first n = .ok last
  lt : last.size < 255

/-- What leaves the keys and the secrets of the application level as they are. -/
structure Unkeyed (s s' : Handshake × List Ngtcp2Call) : Prop where
  keys : appKeys s'.2 = appKeys s.2
  secret : ∀ direction, secret s'.1 direction = secret s.1 direction

instance : Std.Refl Unkeyed := ⟨fun _ => ⟨rfl, fun _ => rfl⟩⟩

instance : IsTrans (Handshake × List Ngtcp2Call) Unkeyed :=
  ⟨fun _ _ _ h h' => ⟨h'.keys.trans h.keys, fun d => (h'.secret d).trans (h.secret d)⟩⟩

section Unkeyed

variable {script : Script}

/-- A call without a key. -/
theorem unkeyed_append (h : Handshake) (calls : List Ngtcp2Call) {c : Ngtcp2Call} (hc : appKey c = none) :
    Unkeyed (h, calls) (h, calls ++ [c]) := by
  refine ⟨?_, fun _ => rfl⟩
  have hone : appKeys [c] = [] := by
    unfold appKeys
    rw [List.filterMap_cons, hc]
    rfl
  rw [appKeys_append, hone, List.append_nil]

theorem unkeyed_ngtcp2 {c : Ngtcp2Call} (hc : appKey c = none) :
    Leads Unkeyed (Call.ngtcp2 (script.tls hkdf) c) := fun (h, calls) => unkeyed_append h calls hc

theorem unkeyed_ngtcp2Void {c : Ngtcp2Call} (hc : appKey c = none) :
    Leads Unkeyed (Call.ngtcp2Void (script.tls hkdf) c) := fun (h, calls) => unkeyed_append h calls hc

/-- A message is no key. -/
theorem addHandshakeData_unkeyed (level : Level) (data : Buffer) :
    Leads Unkeyed (addHandshakeData (script.tls hkdf) level data) :=
  Leads.bind (fun _ => ⟨rfl, fun d => by cases d <;> rfl⟩) fun _ => unkeyed_ngtcp2 rfl

/-- The keys of other levels are not those of the application. -/
theorem installKeys_unkeyed {level : Level} (hlevel : level ≠ .application) (readSecret writeSecret : Buffer)
    (readKey writeKey : Key) :
    Leads Unkeyed (installKeys (script.tls hkdf) level readSecret writeSecret readKey writeKey) := by
  cases level with
  | initial => exact leads_ofExcept _
  | earlyData => exact unkeyed_ngtcp2 rfl
  | handshake => exact Leads.bind (unkeyed_ngtcp2 rfl) fun _ => unkeyed_ngtcp2 rfl
  | application => exact absurd rfl hlevel

/-- A callback that brings no secrets of the application level. -/
theorem callback_unkeyed {c : SslCallback} (hc : applicationSecrets c = none) :
    Leads Unkeyed (callback (script.tls hkdf) c) := by
  cases c with
  | addHandshakeData level data => exact addHandshakeData_unkeyed level data
  | setEncryptionSecrets level readSecret writeSecret =>
    have hlevel : level ≠ .application := by
      rintro rfl
      cases hc
    exact Leads.bind leads_crypto fun _ => Leads.bind (unkeyed_ngtcp2Void rfl) fun _ =>
      Leads.bind (leads_ofExcept _) fun _ => Leads.bind (leads_ofExcept _) fun _ =>
        installKeys_unkeyed hlevel readSecret writeSecret _ _

/-- Callbacks without secrets of the application level bring no key of it. -/
theorem callbacks_unkeyed {cs : List SslCallback} (hcs : cs.filterMap applicationSecrets = []) :
    Leads Unkeyed (callbacks (script.tls hkdf) cs) := by
  induction cs with
  | nil => exact Leads.pure ()
  | cons c cs ih =>
    obtain ⟨hc, hcs⟩ : applicationSecrets c = none ∧ cs.filterMap applicationSecrets = [] := by
      rw [List.filterMap_eq_nil_iff] at hcs ⊢
      exact List.forall_mem_cons.mp hcs
    exact Leads.bind (callback_unkeyed hc) fun _ => ih hcs

end Unkeyed

theorem appKeys_concat (calls : List Ngtcp2Call) {c : Ngtcp2Call} {key : AppKey} (hc : appKey c = some key) :
    appKeys (calls ++ [c]) = appKeys calls ++ [key] := by
  rw [appKeys_append]
  congr 1
  unfold appKeys
  rw [List.filterMap_cons, hc]
  rfl

/-- What brings the key of a direction and a generation: where it fails, the key may have come or not. -/
structure Rekeys (hkdf : Hkdf) (crypto : Crypto) (d : Direction) (first : Buffer) (n : Nat)
    (s : Handshake × List Ngtcp2Call) (r : Except Error Unit) (s' : Handshake × List Ngtcp2Call) : Prop where
  keys : appKeys s'.2 = appKeys s.2 ++ [keyAt hkdf crypto d first n] ∨ r ≠ .ok () ∧ appKeys s'.2 = appKeys s.2
  generation : r = .ok () → Generation hkdf crypto first n (secret s'.1 d)
  other : ∀ d', d' ≠ d → secret s'.1 d' = secret s.1 d'

/-- The secret to write or to read with is replaced, -/
def setSecret (h : Handshake) (secret : Buffer) : Direction → Handshake
  | .tx => { h with tx_secret_ := secret }
  | .rx => { h with rx_secret_ := secret }

theorem secret_setSecret (h : Handshake) (last : Buffer) (d : Direction) : secret (setSecret h last d) d = last := by
  cases d <;> rfl

theorem secret_setSecret_of_ne (h : Handshake) (last : Buffer) {d d' : Direction} (hd : d' ≠ d) :
    secret (setSecret h last d) d' = secret h d' := by
  cases d <;> cases d' <;> first | rfl | exact absurd rfl hd

/-- The call that updates a key. -/
def updateKey (key : Key) : Direction → Ngtcp2Call
  | .tx => .updateTxKey key.data key.iv
  | .rx => .updateRxKey key.data key.iv

/-- The call that installs a key. -/
def installKey (key : Key) : Direction → Ngtcp2Call
  | .tx => .installTxKeys key
  | .rx => .installRxKeys key

/-- An update comes with the key of the next generation. -/
theorem appKey_updateKey {first last : Buffer} {n : Nat} {key : Key} (d : Direction)
    (h : generation hkdf crypto first (n + 1) = .ok last)
    (hkey : crypto.packetProtectionKey hkdf last = .ok key) :
    appKey (updateKey key d) = some (keyAt hkdf crypto d first (n + 1)) := by
  have hlast : (Except.ok last >>= keyOf hkdf crypto) = .ok (key.data, key.iv) := (packetProtectionKey_ok hkey).1
  rw [keyAt, h, hlast]
  cases d <;> rfl

/-- The first key is that of generation zero. -/
theorem appKey_installKey {first : Buffer} {key : Key} (d : Direction)
    (hkey : crypto.packetProtectionKey hkdf first = .ok key) :
    appKey (installKey key d) = some (keyAt hkdf crypto d first 0) := by
  obtain ⟨hfirst, hhp⟩ := packetProtectionKey_ok hkey
  rw [keyAt, hfirst, hhp]
  cases d <;> rfl

section Rekeys

variable {script : Script} {d : Direction} {first : Buffer} {n : Nat} {s : Handshake × List Ngtcp2Call}

/-- A failure before the key. -/
theorem rekeys_error (e : Error) {h : Handshake} (hother : ∀ d', d' ≠ d → secret h d' = secret s.1 d') :
    Rekeys hkdf crypto d first n s (.error e) (h, s.2) := ⟨.inr ⟨nofun, rfl⟩, nofun, hother⟩

/-- The key is the last thing that comes. -/
theorem rekeys_ngtcp2 {last : Buffer} {c : Ngtcp2Call} (hlast : Generation hkdf crypto first n last)
    (hc : appKey c = some (keyAt hkdf crypto d first n)) :
    Rekeys hkdf crypto d first n s (Call.ngtcp2 (script.tls hkdf) c (setSecret s.1 last d, s.2)).1
      (Call.ngtcp2 (script.tls hkdf) c (setSecret s.1 last d, s.2)).2 := by
  refine ⟨.inl ?_, fun _ => ?_, fun d' hd' => secret_setSecret_of_ne s.1 last hd'⟩
  · exact appKeys_concat s.2 hc
  · show Generation hkdf crypto first n (secret (setSecret s.1 last d) d)
    rw [secret_setSecret]
    exact hlast

/-- Both halves of `update_keys`. -/
def updateDirection (tls : Tls (List Ngtcp2Call)) (crypto : Crypto) (d : Direction) :
    Call (List Ngtcp2Call) Unit := do
  let next ← .ofExcept (crypto.updateSecret tls.hkdf (secret (← .read) d))
  .modify fun handshake => setSecret handshake next d
  let key ← .ofExcept (crypto.packetProtectionKey tls.hkdf next)
  .ngtcp2 tls (updateKey key d)

/-- One half of an update brings one key. -/
theorem updateDirection_rekeys (h : Generation hkdf crypto first n (secret s.1 d)) :
    Rekeys hkdf crypto d first (n + 1) s (updateDirection (script.tls hkdf) crypto d s).1
      (updateDirection (script.tls hkdf) crypto d s).2 := by
  unfold updateDirection
  rw [bind_ok (show Call.read s = (.ok s.1, s) from rfl)]
  show Rekeys hkdf crypto d first (n + 1) s ((Call.ofExcept (crypto.updateSecret hkdf (secret s.1 d)) >>= _) s).1 _
  match hnext : crypto.updateSecret hkdf (secret s.1 d) with
  | .error e => exact rekeys_error e fun _ _ => rfl
  | .ok next =>
    obtain ⟨hgeneration, hlt⟩ := generation_succ h.eq h.lt hnext
    rw [bind_ok (show Call.ofExcept (.ok next) s = (.ok next, s) from rfl),
      bind_ok (show Call.modify _ s = (.ok (), (setSecret s.1 next d, s.2)) from rfl)]
    show Rekeys hkdf crypto d first (n + 1) s ((Call.ofExcept (crypto.packetProtectionKey hkdf next) >>= _) _).1 _
    match hkey : crypto.packetProtectionKey hkdf next with
    | .error e => exact rekeys_error e fun d' hd' => secret_setSecret_of_ne s.1 next hd'
    | .ok key => exact rekeys_ngtcp2 ⟨hgeneration, hlt⟩ (appKey_updateKey d hgeneration hkey)

/-- What brings the keys of a generation for both directions, and all of them where it is `done`. -/
structure RekeysBoth (hkdf : Hkdf) (crypto : Crypto) (first : Direction → Buffer) (n : Nat)
    (s : Handshake × List Ngtcp2Call) (done : Prop) (s' : Handshake × List Ngtcp2Call) : Prop where
  keys : ∃ new, appKeys s'.2 = appKeys s.2 ++ new ∧
    new <+: [keyAt hkdf crypto .tx (first .tx) n, keyAt hkdf crypto .rx (first .rx) n] ∧
      (done → new = [keyAt hkdf crypto .tx (first .tx) n, keyAt hkdf crypto .rx (first .rx) n])
  generation : done → ∀ d, Generation hkdf crypto (first d) n (secret s'.1 d)

variable {first : Direction → Buffer}

/-- Behind what brings no keys. -/
theorem RekeysBoth.of_unkeyed {s₁ s' : Handshake × List Ngtcp2Call} {done : Prop} (h : Unkeyed s s₁)
    (hboth : RekeysBoth hkdf crypto first n s₁ done s') : RekeysBoth hkdf crypto first n s done s' := by
  obtain ⟨new, hkeys, hnew⟩ := hboth.keys
  exact ⟨⟨new, by rw [hkeys, h.keys], hnew⟩, hboth.generation⟩

/-- In front of what brings no keys. -/
theorem RekeysBoth.unkeyed {s₁ s' : Handshake × List Ngtcp2Call} {done done' : Prop}
    (hboth : RekeysBoth hkdf crypto first n s done s₁) (h : Unkeyed s₁ s') (hdone : done' → done) :
    RekeysBoth hkdf crypto first n s done' s' := by
  obtain ⟨new, hkeys, hnew, hall⟩ := hboth.keys
  refine ⟨⟨new, h.keys.trans hkeys, hnew, fun hd => hall (hdone hd)⟩, fun hd d => ?_⟩
  rw [h.secret d]
  exact hboth.generation (hdone hd) d

/-- A failure before both keys. -/
theorem rekeysBoth_error {done : Prop} (hdone : ¬ done) {s' : Handshake × List Ngtcp2Call}
    (h : appKeys s'.2 = appKeys s.2) : RekeysBoth hkdf crypto first n s done s' :=
  ⟨⟨[], by rw [h, List.append_nil], List.nil_prefix, fun hd => absurd hd hdone⟩, fun hd => absurd hd hdone⟩

/-- The key to write, and then the key to read. -/
theorem rekeysBoth_bind {s₀ : Handshake × List Ngtcp2Call} {x : Call (List Ngtcp2Call) Unit}
    {f : Unit → Call (List Ngtcp2Call) Unit} (hx : Rekeys hkdf crypto .tx (first .tx) n s (x s₀).1 (x s₀).2)
    (hf : ∀ s₁, secret s₁.1 .rx = secret s.1 .rx → Rekeys hkdf crypto .rx (first .rx) n s₁ (f () s₁).1 (f () s₁).2) :
    RekeysBoth hkdf crypto first n s (((x >>= f) s₀).1 = .ok ()) ((x >>= f) s₀).2 := by
  match h : x s₀ with
  | (.error e, s₁) =>
    rw [bind_error h]
    rw [h] at hx
    refine ⟨?_, nofun⟩
    rcases hx.keys with hkeys | ⟨-, hkeys⟩
    · exact ⟨_, hkeys, ⟨_, rfl⟩, nofun⟩
    · exact ⟨[], hkeys.trans (List.append_nil _).symm, List.nil_prefix, nofun⟩
  | (.ok (), s₁) =>
    rw [bind_ok h]
    rw [h] at hx
    have hfirst : appKeys s₁.2 = appKeys s.2 ++ [keyAt hkdf crypto .tx (first .tx) n] :=
      hx.keys.resolve_right fun hn => hn.1 rfl
    have hrx := hf s₁ (hx.other .rx (by decide))
    refine ⟨?_, fun hr d => ?_⟩
    · rcases hrx.keys with hkeys | ⟨hr, hkeys⟩
      · refine ⟨_, ?_, List.prefix_rfl, fun _ => rfl⟩
        rw [hkeys, hfirst, List.append_assoc]
        rfl
      · exact ⟨_, hkeys.trans hfirst, ⟨_, rfl⟩, fun hok => absurd hok hr⟩
    · cases d with
      | rx => exact hrx.generation hr
      | tx =>
        rw [hrx.other .tx (by decide)]
        exact hx.generation rfl

/-- Behind a value that may be missing. -/
theorem rekeysBoth_ofExcept {α : Type} {x : Except Error α} {f : α → Call (List Ngtcp2Call) Unit}
    (h : ∀ a, x = .ok a → RekeysBoth hkdf crypto first n s ((f a s).1 = .ok ()) (f a s).2) :
    RekeysBoth hkdf crypto first n s (((Call.ofExcept x >>= f) s).1 = .ok ()) ((Call.ofExcept x >>= f) s).2 := by
  cases x with
  | error e => exact rekeysBoth_error nofun rfl
  | ok a => exact h a rfl

/-- With the ciphers that were negotiated, which are always the same. -/
theorem rekeysBoth_crypto (hcipher : ∀ c, negotiatedCrypto script.cipher = .ok c → c = crypto)
    {f : Crypto → Call (List Ngtcp2Call) Unit}
    (h : RekeysBoth hkdf crypto first n s ((f crypto s).1 = .ok ()) (f crypto s).2) :
    RekeysBoth hkdf crypto first n s (((Handshake.crypto (script.tls hkdf) >>= f) s).1 = .ok ())
      ((Handshake.crypto (script.tls hkdf) >>= f) s).2 := by
  match hc : negotiatedCrypto script.cipher with
  | .error e =>
    rw [bind_error (show Handshake.crypto (script.tls hkdf) s = (.error e, s) from congrArg (·, s) hc)]
    exact rekeysBoth_error nofun rfl
  | .ok c =>
    rw [bind_ok (show Handshake.crypto (script.tls hkdf) s = (.ok c, s) from congrArg (·, s) hc), hcipher c hc]
    exact h

/-- An update brings the keys of the next generation. -/
theorem updateKeys_rekeys (hcipher : ∀ c, negotiatedCrypto script.cipher = .ok c → c = crypto)
    (h : ∀ d, Generation hkdf crypto (first d) n (secret s.1 d)) :
    RekeysBoth hkdf crypto first (n + 1) s ((updateKeys (script.tls hkdf) s).1 = .ok ())
      (updateKeys (script.tls hkdf) s).2 := by
  unfold updateKeys
  refine rekeysBoth_crypto hcipher ?_
  refine rekeysBoth_bind (updateDirection_rekeys (h .tx)) fun s₁ hrx => updateDirection_rekeys ?_
  rw [hrx]
  exact h .rx

/-- BoringSSL's secrets bring the keys of the first generation. -/
theorem setEncryptionSecrets_rekeys (hcipher : ∀ c, negotiatedCrypto script.cipher = .ok c → c = crypto)
    {readSecret writeSecret : Buffer} (hread : readSecret.size < 255) (hwrite : writeSecret.size < 255) :
    RekeysBoth hkdf crypto (secretsOf readSecret writeSecret) 0 s
      ((setEncryptionSecrets (script.tls hkdf) .application readSecret writeSecret s).1 = .ok ())
      (setEncryptionSecrets (script.tls hkdf) .application readSecret writeSecret s).2 := by
  unfold setEncryptionSecrets
  refine rekeysBoth_crypto hcipher ?_
  let s₁ : Handshake × List Ngtcp2Call := (s.1, s.2 ++ [.setAeadOverhead crypto.aeadOverhead])
  have hover : Unkeyed s s₁ := unkeyed_append s.1 s.2 rfl
  rw [bind_ok (show Call.ngtcp2Void _ _ s = (.ok (), s₁) from rfl)]
  refine RekeysBoth.of_unkeyed hover (rekeysBoth_ofExcept fun writeKey hwriteKey => ?_)
  refine rekeysBoth_ofExcept fun readKey hreadKey => ?_
  rw [installKeys, bind_ok (show Call.modify _ s₁ = (.ok (), (setSecret s₁.1 writeSecret .tx, s₁.2)) from rfl)]
  refine rekeysBoth_bind (rekeys_ngtcp2 ⟨rfl, hwrite⟩ (appKey_installKey .tx hwriteKey)) fun s₂ _ => ?_
  rw [bind_ok (show Call.modify _ s₂ = (.ok (), (setSecret s₂.1 readSecret .rx, s₂.2)) from rfl)]
  exact rekeys_ngtcp2 ⟨rfl, hread⟩ (appKey_installKey .rx hreadKey)

/-- Secrets that come with one of the callbacks bring the keys of the first generation. -/
theorem callbacks_rekeys (hcipher : ∀ c, negotiatedCrypto script.cipher = .ok c → c = crypto)
    (hfirst : ∀ d, (first d).size < 255) {cs : List SslCallback} (hcs : cs.filterMap applicationSecrets = [first]) :
    RekeysBoth hkdf crypto first 0 s ((callbacks (script.tls hkdf) cs s).1 = .ok ())
      (callbacks (script.tls hkdf) cs s).2 := by
  induction cs generalizing s with
  | nil => cases hcs
  | cons c cs ih =>
    rw [List.filterMap_cons] at hcs
    rw [callbacks]
    match hc : applicationSecrets c with
    | none =>
      rw [hc] at hcs
      have hunkeyed : Unkeyed s (callback (script.tls hkdf) c s).2 := callback_unkeyed hc s
      match hrun : callback (script.tls hkdf) c s with
      | (.error e, s₁) =>
        rw [bind_error hrun]
        rw [hrun] at hunkeyed
        exact rekeysBoth_error nofun hunkeyed.keys
      | (.ok (), s₁) =>
        rw [bind_ok hrun]
        rw [hrun] at hunkeyed
        exact RekeysBoth.of_unkeyed hunkeyed (ih hcs)
    | some first' =>
      rw [hc] at hcs
      obtain ⟨rfl, hnone⟩ := List.cons.inj hcs
      have hboth : RekeysBoth hkdf crypto first' 0 s ((callback (script.tls hkdf) c s).1 = .ok ())
          (callback (script.tls hkdf) c s).2 := by
        match c, hc with
        | .setEncryptionSecrets .application readSecret writeSecret, hc =>
          cases hc
          exact setEncryptionSecrets_rekeys hcipher (hfirst .rx) (hfirst .tx)
      match hrun : callback (script.tls hkdf) c s with
      | (.error e, s₁) =>
        rw [bind_error hrun]
        rw [hrun] at hboth
        exact hboth.unkeyed (Std.Refl.refl _) nofun
      | (.ok (), s₁) =>
        rw [bind_ok hrun]
        rw [hrun] at hboth
        exact hboth.unkeyed (callbacks_unkeyed hnone s₁) fun _ => rfl

end Rekeys

/-! ## Actions -/

section Actions

variable {script : Script} {s : Handshake × List Ngtcp2Call}

/-- What comes behind the callbacks: an action that comes with some fails where these do, and does nothing to the keys
besides. -/
structure Runs (hkdf : Hkdf) (script : Script) (cs : List SslCallback) (s : Handshake × List Ngtcp2Call)
    (r : Except Error Unit) (s' : Handshake × List Ngtcp2Call) : Prop where
  unkeyed : Unkeyed (callbacks (script.tls hkdf) cs s).2 s'
  fails : ∀ e, (callbacks (script.tls hkdf) cs s).1 = .error e → r = .error .handshake

/-- An action that ends with its callbacks. -/
theorem runs_of_callbacks {cs : List SslCallback} {r : Except Error Unit} {s' : Handshake × List Ngtcp2Call}
    (herror : ∀ e s₁, callbacks (script.tls hkdf) cs s = (.error e, s₁) → r = .error .handshake ∧ s' = s₁)
    (hok : ∀ s₁, callbacks (script.tls hkdf) cs s = (.ok (), s₁) → Unkeyed s₁ s') : Runs hkdf script cs s r s' := by
  match h : callbacks (script.tls hkdf) cs s with
  | (.error e, s₁) =>
    obtain ⟨hr, rfl⟩ := herror e s₁ h
    refine ⟨?_, fun _ _ => hr⟩
    rw [h]
    exact Std.Refl.refl _
  | (.ok (), s₁) =>
    refine ⟨?_, fun e he => ?_⟩
    · rw [h]
      exact hok s₁ h
    · rw [h] at he
      cases he

/-- What `send` does is its callbacks. -/
theorem send_runs :
    Runs hkdf script script.handshake.1 s (send (script.tls hkdf) s).1 (send (script.tls hkdf) s).2 := by
  unfold send
  refine runs_of_callbacks (fun e s₁ h => ?_) fun s₁ h => ?_
  · rw [bind_ok (doHandshake_error h)]
    exact ⟨rfl, rfl⟩
  · rw [bind_ok (doHandshake_ok h)]
    cases script.handshake.2 <;> exact Std.Refl.refl _

theorem recvHandshake_runs : Runs hkdf script script.handshake.1 s (recvHandshake (script.tls hkdf) s).1
    (recvHandshake (script.tls hkdf) s).2 := by
  unfold recvHandshake
  refine runs_of_callbacks (fun e s₁ h => ?_) fun s₁ h => ?_
  · rw [bind_ok (doHandshake_error h)]
    exact ⟨rfl, rfl⟩
  · rw [bind_ok (doHandshake_ok h)]
    cases script.handshake.2 with
    | failed => exact Std.Refl.refl _
    | want => exact Std.Refl.refl _
    | done =>
      have hleads : Leads Unkeyed (do
          Call.ngtcp2Void (script.tls hkdf) .handshakeCompleted
          let encoded ← peerQuicTransportParams (script.tls hkdf)
          Call.ngtcp2 (script.tls hkdf) (.setRemoteTransportParams encoded)) :=
        Leads.bind (unkeyed_ngtcp2Void rfl) fun _ => Leads.bind (fun s => Std.Refl.refl s) fun _ => unkeyed_ngtcp2 rfl
      exact hleads s₁

theorem recv_runs (level : Level) (data : Buffer) : Runs hkdf script ((Action.recv level data).callbacks script) s
    (recv (script.tls hkdf) level data s).1 (recv (script.tls hkdf) level data s).2 := by
  unfold recv Action.callbacks
  rw [bind_ok (show provideQuicData (script.tls hkdf) level data s = (.ok script.provided, s) from rfl)]
  dsimp only
  cases script.provided with
  | false => exact ⟨Std.Refl.refl _, nofun⟩
  | true =>
    have htrue : ¬ (!true) = true := Bool.false_ne_true
    rw [if_neg htrue, if_neg htrue,
      bind_ok (show completed (script.tls hkdf) s = (.ok script.completed, s) from rfl)]
    by_cases hcompleted : script.completed = true
    · rw [if_pos hcompleted, if_pos hcompleted]
      refine runs_of_callbacks (fun e s₁ h => ?_) fun s₁ h => ?_
      · rw [bind_ok (processQuicPostHandshake_error h)]
        exact ⟨rfl, rfl⟩
      · rw [bind_ok (processQuicPostHandshake_ok h)]
        cases script.postHandshake.2 <;> exact Std.Refl.refl _
    · rw [if_neg hcompleted, if_neg hcompleted]
      exact recvHandshake_runs

/-- An acknowledgement has no callbacks. -/
theorem ack_runs (level : Level) (size : Nat) : Runs hkdf script [] s (Handshake.ack level size s).1
    (Handshake.ack level size s).2 := by
  refine ⟨?_, nofun⟩
  by_cases h : size ≤ (s.1.keepalive_ level).size
  · rw [ack_ok h]
    exact ⟨rfl, fun d => by cases d <;> rfl⟩
  · rw [ack_excess (Nat.lt_of_not_le h)]
    exact Std.Refl.refl _

/-- All actions but the update come to their callbacks. -/
theorem action_runs {a : Action} (ha : a ≠ .updateKeys) : Runs hkdf script (a.callbacks script) s
    (a.call (script.tls hkdf) s).1 (a.call (script.tls hkdf) s).2 := by
  cases a with
  | send => exact send_runs
  | recv level data => exact recv_runs level data
  | ack level size => exact ack_runs level size
  | updateKeys => exact absurd rfl ha

end Actions

/-! ## Runs -/

/-- The actions that the libraries come with: none behind one that failed, the same cipher suite throughout, the
secrets of the application level once, and updates behind these. -/
structure Admits (crypto : Crypto) (w : World) (a : Script × Action) : Prop where
  not_failed : w.failed = false
  cipher : ∀ c, negotiatedCrypto a.1.cipher = .ok c → c = crypto
  secrets : (w.secrets ++ (a.2.callbacks a.1).filterMap applicationSecrets).length ≤ 1
  size_lt : ∀ first ∈ (a.2.callbacks a.1).filterMap applicationSecrets, ∀ d, (first d).size < 255
  update : a.2 = .updateKeys → w.secrets ≠ []

/-- The keys of the application level, as far as they have come: those of some generations and, behind a failure, of
a part of the next; none without secrets. -/
def Scheduled (hkdf : Hkdf) (crypto : Crypto) (w : World) : Prop :=
  match w.secrets with
  | [] => appKeys w.calls = []
  | first :: _ => ∃ n, appKeys w.calls <+: schedule hkdf crypto first (n + 1) ∧
      (w.failed = false → appKeys w.calls = schedule hkdf crypto first (n + 1) ∧
        ∀ d, Generation hkdf crypto (first d) n (secret w.handshake d))

/-- A generation more on the schedule. -/
theorem RekeysBoth.scheduled {first : Direction → Buffer} {n : Nat} {s s' : Handshake × List Ngtcp2Call} {done : Prop}
    (h : RekeysBoth hkdf crypto first n s done s') (hs : appKeys s.2 = schedule hkdf crypto first n) :
    appKeys s'.2 <+: schedule hkdf crypto first (n + 1) ∧
      (done → appKeys s'.2 = schedule hkdf crypto first (n + 1) ∧
        ∀ d, Generation hkdf crypto (first d) n (secret s'.1 d)) := by
  obtain ⟨new, hkeys, hnew, hall⟩ := h.keys
  rw [hkeys, hs, schedule]
  refine ⟨?_, fun hdone => ⟨?_, h.generation hdone⟩⟩
  · exact (List.prefix_append_right_inj _).mpr hnew
  · rw [hall hdone]

variable (hkdf) in
/-- The initial keys are not of the application level. -/
theorem init_unkeyed (script : Script) (dcid salt : Buffer) : Leads Unkeyed (init (script.tls hkdf) dcid salt) :=
  Leads.bind (leads_ofExcept _) fun _ => Leads.bind (leads_ofExcept _) fun _ => Leads.bind (leads_ofExcept _) fun _ =>
    Leads.bind (unkeyed_ngtcp2 rfl) fun _ => Leads.bind (leads_ofExcept _) fun _ =>
      Leads.bind (leads_ofExcept _) fun _ => unkeyed_ngtcp2 rfl

/-- A state whose keys and secrets are those of a world that did not fail. -/
theorem Scheduled.unkeyed {w w' : World} (hw : Scheduled hkdf crypto w) (hfailed : w.failed = false)
    (h : Unkeyed (w.handshake, w.calls) (w'.handshake, w'.calls)) (hsecrets : w'.secrets = w.secrets) :
    Scheduled hkdf crypto w' := by
  unfold Scheduled at hw ⊢
  rw [hsecrets]
  match hs : w.secrets with
  | [] =>
    rw [hs] at hw
    exact h.keys.trans hw
  | first :: _ =>
    rw [hs] at hw
    obtain ⟨n, -, hall⟩ := hw
    obtain ⟨hkeys, hsecret⟩ := hall hfailed
    have hkeys' : appKeys w'.calls = schedule hkdf crypto first (n + 1) := h.keys.trans hkeys
    refine ⟨n, ?_, fun _ => ⟨hkeys', fun d => ?_⟩⟩
    · rw [hkeys']
    · rw [h.secret d]
      exact hsecret d

/-- A callback that failed is a failure of the action. -/
theorem fails_handshake (a : Action) : a.fails (.error .handshake) = true := by
  cases a <;> rfl

/-- Any action but an update. -/
theorem scheduled_callbacks {w : World} {script : Script} {action : Action} (ha : Admits crypto w (script, action))
    (hw : Scheduled hkdf crypto w) (hupdate : action ≠ .updateKeys) :
    Scheduled hkdf crypto (call hkdf w (script, action)).2 := by
  have hruns : Runs hkdf script (action.callbacks script) (w.handshake, w.calls)
      (action.call (script.tls hkdf) (w.handshake, w.calls)).1
      (action.call (script.tls hkdf) (w.handshake, w.calls)).2 := action_runs hupdate
  match hnew : (action.callbacks script).filterMap applicationSecrets, ha.secrets, ha.size_lt with
  | [], _, _ =>
    have hsecrets : (call hkdf w (script, action)).2.secrets = w.secrets := by
      show w.secrets ++ (action.callbacks script).filterMap applicationSecrets = _
      rw [hnew, List.append_nil]
    exact hw.unkeyed ha.not_failed (IsTrans.trans _ _ _ (callbacks_unkeyed hnew _) hruns.unkeyed) hsecrets
  | first :: rest, hlength, hlt =>
    rw [List.length_append, List.length_cons] at hlength
    have hnone : w.secrets = [] := List.eq_nil_of_length_eq_zero (by omega)
    have hrest : rest = [] := List.eq_nil_of_length_eq_zero (by omega)
    subst hrest
    have hboth : RekeysBoth hkdf crypto first 0 (w.handshake, w.calls)
        ((callbacks (script.tls hkdf) (action.callbacks script) (w.handshake, w.calls)).1 = .ok ())
        (callbacks (script.tls hkdf) (action.callbacks script) (w.handshake, w.calls)).2 :=
      callbacks_rekeys ha.cipher (hlt first List.mem_cons_self) hnew
    have hdone : (call hkdf w (script, action)).2.failed = false →
        (callbacks (script.tls hkdf) (action.callbacks script) (w.handshake, w.calls)).1 = .ok () := by
      intro hfailed
      match hrun : (callbacks (script.tls hkdf) (action.callbacks script) (w.handshake, w.calls)).1 with
      | .ok () => rfl
      | .error e =>
        -- the action fails with its callbacks
        have hr := hruns.fails e hrun
        have hfailed' : (w.failed || action.fails
            (action.call (script.tls hkdf) (w.handshake, w.calls)).1) = false := hfailed
        rw [hr, fails_handshake, Bool.or_true] at hfailed'
        cases hfailed'
    unfold Scheduled at hw ⊢
    rw [hnone] at hw
    have hsecrets : (call hkdf w (script, action)).2.secrets = [first] := by
      show w.secrets ++ (action.callbacks script).filterMap applicationSecrets = _
      rw [hnew, hnone]
      rfl
    rw [hsecrets]
    exact ⟨0, (hboth.unkeyed hruns.unkeyed hdone).scheduled hw⟩

theorem scheduled_updateKeys {w : World} {script : Script} (ha : Admits crypto w (script, .updateKeys))
    (hw : Scheduled hkdf crypto w) : Scheduled hkdf crypto (call hkdf w (script, .updateKeys)).2 := by
  have hsecrets : (call hkdf w (script, .updateKeys)).2.secrets = w.secrets := List.append_nil _
  unfold Scheduled at hw ⊢
  rw [hsecrets]
  match hs : w.secrets with
  | [] => exact absurd hs (ha.update rfl)
  | first :: _ =>
    rw [hs] at hw
    obtain ⟨n, -, hall⟩ := hw
    obtain ⟨hkeys, hsecret⟩ := hall ha.not_failed
    have hboth : RekeysBoth hkdf crypto first (n + 1) (w.handshake, w.calls)
        ((updateKeys (script.tls hkdf) (w.handshake, w.calls)).1 = .ok ())
        (updateKeys (script.tls hkdf) (w.handshake, w.calls)).2 := updateKeys_rekeys ha.cipher hsecret
    obtain ⟨hissued, hdone⟩ := hboth.scheduled hkeys
    refine ⟨n + 1, hissued, fun hfailed => hdone ?_⟩
    match hrun : (updateKeys (script.tls hkdf) (w.handshake, w.calls)).1 with
    | .ok () => rfl
    | .error e =>
      have hfailed' : (w.failed || Action.updateKeys.fails
          (updateKeys (script.tls hkdf) (w.handshake, w.calls)).1) = false := hfailed
      rw [hrun, show Action.updateKeys.fails (.error e) = true by cases e <;> rfl, Bool.or_true] at hfailed'
      cases hfailed'

/-- **No key is left out**: in every run, ngtcp2 gets the keys of the application level in the order of their
generations, the one to write with before the one to read with. They are those that RFC 8446 derives, although the
label has a length that is right for short secrets only. -/
theorem keys_scheduled (hkdf : Hkdf) (crypto : Crypto) (script : Script) (dcid salt : Buffer)
    (actions : List (Script × Action))
    (h : Run.Meets (step hkdf) (Admits crypto) (start hkdf script dcid salt) actions) :
    Run.Always (step hkdf) (fun _ _ w => Scheduled hkdf crypto w) (start hkdf script dcid salt) actions := by
  have hstart : Scheduled hkdf crypto (start hkdf script dcid salt) :=
    (init_unkeyed hkdf script dcid salt ({}, [])).keys
  refine Run.always_of_meets (I := Scheduled hkdf crypto) (fun w a hw ha => ?_) hstart h
  have hstep : Scheduled hkdf crypto (call hkdf w a).2 := by
    obtain ⟨script, action⟩ := a
    by_cases hupdate : action = .updateKeys
    · subst hupdate
      exact scheduled_updateKeys ha hw
    · exact scheduled_callbacks ha hw hupdate
  exact ⟨_, rfl, hstep, hstep⟩

/-- Not the HKDF of BoringSSL, but one that can be seen through. -/
def plainHkdf : Hkdf where
  extract _ secret _ := some (Vector.replicate _ (secret.get 0))
  expand _ prk info size := some (Vector.replicate size (prk.get 0 + info.get 9))

/-- Secrets of 32 bytes, and TLS_AES_128_GCM_SHA256. -/
def secretsScript : Script where
  cipher := some 0x03001301
  handshake := ([.addHandshakeData .handshake ⟨[20]⟩,
    .setEncryptionSecrets .application ⟨List.replicate 32 1⟩ ⟨List.replicate 32 2⟩], .done)

/-- The handshake comes to its end, and the keys are updated twice. -/
def twoUpdates : List (Script × Action) :=
  [(secretsScript, .recv .handshake ⟨[2]⟩), ({ cipher := some 0x03001301 }, .updateKeys), (({}, .ack .handshake 1)),
    ({ cipher := some 0x03001301 }, .updateKeys)]

example : (Run.after (step plainHkdf) (start plainHkdf {} ⟨[1]⟩ ⟨[2]⟩) twoUpdates).map
    (fun w => (appKeys w.calls).map AppKey.direction) = some [.tx, .rx, .tx, .rx, .tx, .rx] := by decide +kernel

/-- The secrets of a handshake and two updates. -/
theorem keys_scheduled_twoUpdates : Run.Always (step plainHkdf) (fun _ _ w => Scheduled plainHkdf {} w)
    (start plainHkdf {} ⟨[1]⟩ ⟨[2]⟩) twoUpdates := by
  have hcipher (script : Script) (hs : script.cipher = some 0x03001301 ∨ script.cipher = none) (c : Crypto)
      (hc : negotiatedCrypto script.cipher = .ok c) : c = {} := by
    rcases hs with hs | hs
    · rw [hs] at hc
      cases hc
      rfl
    · rw [hs] at hc
      cases hc
  refine keys_scheduled plainHkdf {} {} ⟨[1]⟩ ⟨[2]⟩ twoUpdates
    ⟨⟨rfl, hcipher _ (.inl rfl), by decide, fun first hfirst d => ?_, nofun⟩,
      ⟨by decide +kernel, hcipher _ (.inl rfl), by decide, nofun, fun _ => List.cons_ne_nil _ _⟩,
      ⟨by decide +kernel, hcipher _ (.inr rfl), by decide, nofun, nofun⟩,
      ⟨by decide +kernel, hcipher _ (.inl rfl), by decide, nofun, fun _ => List.cons_ne_nil _ _⟩, trivial⟩
  rw [List.mem_singleton.mp hfirst]
  cases d <;> decide

end Bnl.Quic.Handshake
