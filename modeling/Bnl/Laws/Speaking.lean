import Bnl.Laws.Delivery
import Bnl.Laws.Sending

/-!
# What is said on a stream

The calls of an application that a sender accepted are what was said on its stream: headers, a body, and the end
of it. Whatever the calls, and however often the sender was asked in between, what it has sent begins the
message that says just that; an event with FIN completes the message, and nothing follows it.

**The laws** are `Speaks.call` and `Speaks.send`, that `Speaks` is kept, and what it is for: `Speaks.begins` and
`Speaks.closes`. The first two are steps of a run that the file does not have; a connection has it, and takes
`Speaks` as its part for each stream.

`Said` is what a reader of the calls would say, without a sender: a list of headers, a body, and whether each is
complete. `Admits` is what is asked of a call, in these terms: a header that the codec takes through, a block
that fits in a frame, `fin` while there is something of the body to send. `Speaks` refines `Sending`'s world by
it, and `Speaks.encoded` says that the block sent is that of the headers said.
-/

namespace Bnl.Http3.Endpoint.Request

open Incremental Bnl.Base

/-- The calls that a sender accepted. -/
structure Said where
  headers : List Header := []
  bodies : List Buffer := []
  started : Bool := false
  ended : Bool := false
  deriving DecidableEq

namespace Said

/-- The bytes of the body. -/
def payload (said : Said) : List UInt8 := (⟨said.bodies⟩ : Buffers).bytes

/-- A call, and what the sender answered. -/
def note (said : Said) (call : Call) : Except Error Unit → Said
  | .error _ => said
  | .ok () =>
    match call with
    | .header header => { said with headers := said.headers ++ [header] }
    | .body buffer => { said with bodies := said.bodies ++ [buffer] }
    | .start => { said with started := true }
    | .fin => { said with ended := true }

/-- How large the block of the headers is. -/
def blockSize (host : Host) (said : Said) : Nat :=
  match Qpack.Encoder.encodeAll host {} said.headers with
  | (.error _, _) => 0
  | (.ok block, _) => block.length

/-- The calls an application may make: headers that can be told from others, `start` behind a header, and
nothing that is larger than a `size_t` can say. -/
def Admits (host : Host) (said : Said) : Call → Prop
  | .header header => Qpack.Encodable header ∧ Qpack.Faithful host.xxh64 header
  | .body buffer => buffer.size < 2 ^ 64
  | .start => said.headers ≠ [] ∧ said.blockSize host < 2 ^ 64
  | .fin => True

instance (host : Host) (said : Said) : ∀ call, Decidable (Admits host said call)
  | .header header => inferInstanceAs (Decidable (Qpack.Encodable header ∧ _))
  | .body buffer => inferInstanceAs (Decidable (buffer.size < 2 ^ 64))
  | .start => inferInstanceAs (Decidable (said.headers ≠ [] ∧ _))
  | .fin => isTrue trivial

/-- The message that says it. -/
def Wire (said : Said) (wire : List UInt8) : Prop :=
  said.headers ≠ [] ∧ ∃ block payloads, ({} : Qpack.Decoder).Reads block said.headers ∧
    Frame.MessageWire block payloads wire ∧ payloads.flatten = said.payload

end Said

/-! ## Lists of headers -/

/-- Headers that an encoder takes and a decoder gives back. -/
def Speakable (host : Host) (headers : List Header) : Prop :=
  ∀ header ∈ headers, headerIsLowercase header = true ∧ Qpack.Encodable header ∧
    Qpack.Faithful host.xxh64 header

/-- One more header of the kind. -/
theorem Speakable.concat {host : Host} {headers : List Header} {header : Header} (h : Speakable host headers)
    (hheader : headerIsLowercase header = true ∧ Qpack.Encodable header ∧ Qpack.Faithful host.xxh64 header) :
    Speakable host (headers ++ [header]) := by
  intro header' hmem
  rcases List.mem_append.mp hmem with hmem | hmem
  · exact h header' hmem
  · exact List.mem_singleton.mp hmem ▸ hheader

/-- The block of such headers reads as them. -/
theorem Speakable.reads {host : Host} {headers : List Header} (h : Speakable host headers) {block : List UInt8}
    {e : Qpack.Encoder} (hall : Qpack.Encoder.encodeAll host {} headers = (.ok block, e)) :
    ({} : Qpack.Decoder).Reads block headers := by
  obtain ⟨b, e', hall', -, hdecode⟩ := Qpack.block_roundTrip Buffer host headers
    (fun header hmem => (h header hmem).1) (fun header hmem => (h header hmem).2.1)
    fun header hmem => (h header hmem).2.2
  obtain ⟨hblock, -⟩ := Prod.mk.inj (hall.symm.trans hall')
  obtain rfl := Except.ok.inj hblock
  obtain ⟨d, s', hd, -, hs'⟩ := hdecode ⟨block⟩ [] (List.append_nil block).symm
  have hround : Qpack.RoundTrips host headers block := ⟨⟨e, hall⟩, d, s', hd, hs'⟩
  exact hround.reads

/-! ## A sender -/

namespace Sender

variable {host : Host} {s s' : Sender}

/-- A `send` that fails changes nothing. -/
theorem send_fails {e : Error} (h : s.send host = (.error e, s')) : s' = s := by
  have hheaders {c c' : Headers.Encoder} (h : c.encode host = (.error e, c')) : c' = c := by
    unfold Headers.Encoder.encode at h
    split at h
    · cases h
      rfl
    · split at h <;> cases h
      rfl
    · cases h
    · cases h
      rfl
  have hbody {c c' : Body.Encoder} (h : c.encode host = (.error e, c')) : c' = c := by
    unfold Body.Encoder.encode at h
    split at h
    · split at h
      · cases h
        rfl
      · split at h <;> cases h
        rfl
    · cases h
    · cases h
      rfl
  unfold send at h
  split at h
  · split at h
    · next he =>
      cases h
      rw [hheaders he]
    · cases h
  · split at h
    · next he =>
      cases h
      rw [hbody he]
    · cases h
  · cases h
    rfl

end Sender

/-- The sender under what was said and sent, and the buffers its headers came to. -/
def Said.world (said : Said) (sender : Sender) (sent : List Quic.Data) (accepted : List Buffer) :
    Sending.World :=
  { sender, headers := said.headers, accepted, bodies := said.bodies, started := said.started
    ended := said.ended, emitted := sent }

/-- A sender that was told what was said, and has sent this. -/
structure Speaks (host : Host) (said : Said) (sender : Sender) (sent : List Quic.Data)
    (accepted : List Buffer) : Prop where
  holds : Sending.Holds host (said.world sender sent accepted)
  nonempty : accepted = [] → said.headers = []
  speakable : Speakable host said.headers
  fits : said.started = true → Headers.Encoder.total accepted < 2 ^ 64

namespace Sending

variable {host : Host} {w w' : World}

/-- A call that is not one of `send` keeps the sender as it should be. -/
theorem Holds.call (h : Holds host w) {a : Action} (ha : a ≠ .send) (hw' : step host w a = some w') :
    Holds host w' := by
  have hadmits : Admits w a := by
    cases a with
    | send => exact absurd rfl ha
    | _ => trivial
  obtain ⟨w'', hw'', -, h'⟩ : ∃ w'', step host w a = some w'' ∧ Serves host w a w'' ∧ Holds host w'' :=
    step_serves h hadmits
  obtain rfl := Option.some.inj (hw'.symm.trans hw'')
  exact h'

/-- A header that is accepted, in the world of `Sending`. -/
theorem Holds.header (h : Holds host w) {header : Header} {encoded : Buffer} {e : Headers.Encoder}
    (ha : w.sender.headers_.add host header = (.ok (), e)) (hlast : e.buffers.back = encoded) :
    Holds host { w with
      sender := { w.sender with headers_ := e }
      headers := w.headers ++ [header]
      accepted := w.accepted ++ [encoded] } := by
  refine h.call (a := .header header) nofun ?_
  rw [step, Sender.header, ha, ← hlast]

/-- The block is complete there, too. -/
theorem Holds.start (h : Holds host w) {e : Headers.Encoder} (hnil : w.accepted ≠ [])
    (ha : w.sender.headers_.fin = (.ok (), e)) :
    Holds host { w with sender := { w.sender with headers_ := e }, started := true } := by
  refine h.call (a := .start) nofun ?_
  rw [step, if_neg hnil, Sender.start, ha]

/-- A buffer of the body. -/
theorem Holds.body (h : Holds host w) {buffer : Buffer} {e : Body.Encoder} (hfits : buffer.size < 2 ^ 64)
    (ha : w.sender.body_.add buffer = (.ok (), e)) :
    Holds host { w with sender := { w.sender with body_ := e }, bodies := w.bodies ++ [buffer] } := by
  refine h.call (a := .body buffer) nofun ?_
  rw [step, if_neg (Nat.not_le.mpr hfits), Sender.body, ha]

theorem Holds.fin (h : Holds host w) {e : Body.Encoder} (ha : w.sender.body_.fin = (.ok (), e)) :
    Holds host { w with sender := { w.sender with body_ := e }, ended := true } := by
  refine h.call (a := .fin) nofun ?_
  rw [step, Sender.fin, ha]

/-- Where `send` is admitted and answers with an event, the sender stays as it should be. -/
theorem Holds.send (h : Holds host w) (ha : Admits w .send) {data : Quic.Data} {sender : Sender}
    (hsend : w.sender.send host = (.ok (.data data), sender)) (answer : Except Error Quic.Event) :
    Holds host { w with sender, emitted := w.emitted ++ [data], answer } := by
  obtain ⟨w', hw', -, framed, payloads, out, hkeeps⟩ :
      ∃ w', step host w .send = some w' ∧ Serves host w .send w' ∧ Holds host w' := step_serves h ha
  obtain ⟨framed', payloads', out', hkeeps'⟩ := h
  rw [step, if_neg hkeeps'.pops, hsend] at hw'
  obtain rfl := Option.some.inj hw'
  exact ⟨framed, payloads, out, hkeeps.encoded, hkeeps.headers, hkeeps.body, hkeeps.wrote, hkeeps.payload,
    hkeeps.ended, hkeeps.out_eq, hkeeps.started, hkeeps.closes, hkeeps.phase⟩

end Sending

namespace Speaks

variable {host : Host} {said : Said} {sender sender' : Sender} {sent : List Quic.Data} {accepted : List Buffer}

/-- Nothing was said, and nothing sent. -/
theorem new (host : Host) (id : UInt64) : Speaks host {} { id } [] [] :=
  ⟨Sending.holds_start host id, fun _ => rfl, nofun, nofun⟩

/-- The block of the sender is that of the headers that were said. -/
theorem encoded (h : Speaks host said sender sent accepted) :
    Qpack.Encoder.encodeAll host {} said.headers =
      (.ok (⟨accepted⟩ : Buffers).bytes, sender.headers_.qpack) := by
  obtain ⟨framed, payloads, out, hkeeps⟩ := h.holds
  exact hkeeps.encoded

/-- The block of what was said has the size that is counted. -/
theorem blockSize_eq (h : Speaks host said sender sent accepted) :
    said.blockSize host = Headers.Encoder.total accepted := by
  unfold Said.blockSize
  rw [h.encoded]
  exact (Buffers.size_eq ⟨accepted⟩).symm

/-- **A call**: what the sender accepts was said. -/
theorem call (h : Speaks host said sender sent accepted) {call : Call} (hadmits : said.Admits host call) :
    ∃ accepted', Speaks host (said.note call (call.apply host sender).1) (call.apply host sender).2 sent
      accepted' := by
  cases call with
  | header header =>
    rcases Headers.Encoder.add_cases host sender.headers_ header with
      ⟨error, ha, -⟩ | ⟨hidle, encoded, hne, hbuffer, ha⟩
    · rw [Call.apply, Sender.header, ha]
      exact ⟨accepted, h⟩
    · have hlow : headerIsLowercase header = true := by
        refine eq_true_of_ne_false fun hlow => ?_
        rw [Qpack.encodeBuffer_rejects hlow] at hbuffer
        cases hbuffer
      have hopen : said.started = false := by
        obtain ⟨framed, payloads, out, hkeeps⟩ := h.holds
        exact (hkeeps.headers.idle hidle).1
      rw [Call.apply, Sender.header, ha]
      refine ⟨accepted ++ [encoded], h.holds.header ha (List.getLastD_concat ..), fun hnil => ?_,
        h.speakable.concat ⟨hlow, hadmits⟩, fun hstarted => ?_⟩
      · exact absurd hnil (List.append_ne_nil_of_right_ne_nil _ (List.cons_ne_nil _ _))
      · exact absurd (hopen.symm.trans hstarted) Bool.false_ne_true
  | start =>
    have hnil : accepted ≠ [] := fun hnil => hadmits.1 (h.nonempty hnil)
    rcases Headers.Encoder.fin_cases sender.headers_ with ⟨-, ha⟩ | ⟨-, ha⟩
    · rw [Call.apply, Sender.start, ha]
      exact ⟨accepted, h⟩
    · rw [Call.apply, Sender.start, ha]
      exact ⟨accepted, h.holds.start hnil ha, h.nonempty, h.speakable,
        fun _ => h.blockSize_eq ▸ hadmits.2⟩
  | body buffer =>
    rcases Body.Encoder.add_cases sender.body_ buffer with ⟨-, ha⟩ | ⟨-, ha⟩
    · rw [Call.apply, Sender.body, ha]
      exact ⟨accepted, h⟩
    · rw [Call.apply, Sender.body, ha]
      exact ⟨accepted, h.holds.body hadmits ha, h.nonempty, h.speakable, h.fits⟩
  | fin =>
    rcases Body.Encoder.fin_cases sender.body_ with ⟨-, ha⟩ | ⟨-, ha⟩
    · rw [Call.apply, Sender.fin, ha]
      exact ⟨accepted, h⟩
    · rw [Call.apply, Sender.fin, ha]
      exact ⟨accepted, h.holds.fin ha, h.nonempty, h.speakable, h.fits⟩

/-- A call of `send` that answers with an error changes nothing, and any other is one that the invariant of the
sender admits. -/
theorem send_cases (h : Speaks host said sender sent accepted) :
    (∃ e, sender.send host = (.error e, sender)) ∨
      Sending.Admits (said.world sender sent accepted) .send := by
  obtain ⟨framed, payloads, out, hkeeps⟩ := h.holds
  have hphase := hkeeps.phase
  cases hs : sender.state with
  | fin => exact .inl ⟨_, Sender.send_fin hs⟩
  | headers =>
    have hadmits (hlt : Headers.Encoder.total accepted < 2 ^ 62) :
        Sending.Admits (said.world sender sent accepted) .send := by
      refine ⟨fun _ _ => ?_, fun hbody => (nomatch hs.symm.trans hbody)⟩
      rw [Sending.block_length]
      exact hlt
    cases hheaders : sender.headers_.state with
    | idle =>
      refine .inl ⟨.idle, Sender.send_headers_error hs ?_⟩
      unfold Headers.Encoder.encode
      rw [hheaders]
    | frame =>
      have he := Headers.Encoder.encode_frame host hheaders rfl
      by_cases hlt : (UInt64.ofNat sender.headers_.qpack.count).toNat < 2 ^ 62
      · have hfits := h.fits (hkeeps.headers.frame hheaders).1
        have hcount : sender.headers_.qpack.count = Headers.Encoder.total accepted := hkeeps.headers.count
        rw [hcount, UInt64.toNat_ofNat_of_lt' hfits] at hlt
        exact .inr (hadmits hlt)
      · rw [if_neg hlt] at he
        exact .inl ⟨_, Sender.send_headers_error hs he⟩
    | qpack => exact .inr (hadmits (hkeeps.headers.qpack hheaders).2.1)
    | fin =>
      dsimp only [Said.world] at hphase
      rw [hs] at hphase
      exact absurd hheaders hphase.1
  | body =>
    rcases Body.Encoder.encode_cases host hkeeps.body hkeeps.wrote with
      ⟨-, -, he⟩ | ⟨-, -, he⟩ | ⟨-, he⟩ | ⟨hlt, hnot, -⟩
    · exact .inl ⟨_, Sender.send_body_error hs he⟩
    · exact .inl ⟨_, Sender.send_body_error hs he⟩
    · exact .inl ⟨_, Sender.send_body_error hs he⟩
    · exact .inr ⟨fun hheaders => (nomatch hs.symm.trans hheaders), fun _ => ⟨decide_eq_false hnot, hlt⟩⟩

/-- **A call of `send`**: the event goes on with what was sent. -/
theorem send (h : Speaks host said sender sent accepted) {data : Quic.Data}
    (hsend : sender.send host = (.ok (.data data), sender')) :
    Speaks host said sender' (sent ++ [data]) accepted := by
  rcases h.send_cases with ⟨e, he⟩ | hadmits
  · rw [he] at hsend
    cases hsend
  · exact ⟨h.holds.send hadmits hsend _, h.nonempty, h.speakable, h.fits⟩

/-- Behind `start` there are headers. -/
theorem headers_ne (h : Speaks host said sender sent accepted) (hidle : sender.headers_.state ≠ .idle) :
    said.headers ≠ [] := by
  obtain ⟨framed, payloads, out, hkeeps⟩ := h.holds
  have haccepted : accepted ≠ [] := hkeeps.started (hkeeps.headers.ended_eq hidle)
  intro hnil
  have hall := h.encoded
  rw [hnil] at hall
  have hbytes := Except.ok.inj (Prod.mk.inj hall).1
  cases accepted with
  | nil => exact haccepted rfl
  | cons first rest =>
    exact hkeeps.headers.bytes first List.mem_cons_self (List.append_eq_nil_iff.mp hbytes.symm).1

/-- **What was sent begins a message that says what was said.** -/
theorem begins (h : Speaks host said sender sent accepted) :
    eventBytes sent = [] ∨ ∃ wire, said.Wire wire ∧ eventBytes sent <+: wire := by
  obtain ⟨framed, sentPayloads, out, hkeeps⟩ := h.holds
  by_cases hidle : sender.headers_.state = .idle
  · refine .inl (hkeeps.out_eq.trans ?_)
    have hopen : sender.headers_.state ≠ .fin := by
      rw [hidle]
      nofun
    rw [(hkeeps.headers.idle hidle).2.1, hkeeps.out_nil hopen]
    rfl
  · rcases hkeeps.begins with hnil | ⟨payloads, wire, hwire, hpayload, hout⟩
    · exact .inl hnil
    · exact .inr ⟨wire, ⟨h.headers_ne hidle, _, payloads, h.speakable.reads h.encoded, hwire, hpayload⟩, hout⟩

/-- **FIN completes the message**: what was sent is all of it, the body was ended, and the event with FIN is the
last one. -/
theorem closes (h : Speaks host said sender sent accepted) (hfin : ∃ data ∈ sent, data.fin = true) :
    sender.finished = true ∧ said.ended = true ∧ said.Wire (eventBytes sent) := by
  obtain ⟨framed, sentPayloads, out, hkeeps⟩ := h.holds
  obtain ⟨data, hmem, hdata⟩ := hfin
  have hfinished : sender.finished = true := by
    have hcloses := hkeeps.closes
    unfold Sending.World.Closes at hcloses
    refine eq_true_of_ne_false fun hopen => ?_
    rw [show (said.world sender sent accepted).sender.finished = false from hopen] at hcloses
    exact nomatch (hcloses data hmem).symm.trans hdata
  have hphase := hkeeps.phase
  rw [show (said.world sender sent accepted).sender.state = .fin from of_decide_eq_true hfinished] at hphase
  refine ⟨hfinished, ?_, ?_⟩
  · exact hkeeps.ended.symm.trans (hkeeps.body.fin hphase.2).1
  · obtain ⟨payloads, hwire, hpayload⟩ := hkeeps.whole hfinished
    have hidle : sender.headers_.state ≠ .idle := by
      rw [show sender.headers_.state = .fin from hphase.1]
      nofun
    exact ⟨h.headers_ne hidle, _, payloads, h.speakable.reads h.encoded, hwire, hpayload⟩

end Speaks

end Bnl.Http3.Endpoint.Request
