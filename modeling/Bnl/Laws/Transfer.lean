import Bnl.Endpoint.Connection
import Bnl.Laws.Delivery
import Bnl.Laws.Sending

/-!
# From a sender to a receiver

An application that adds its whole message before the first `send` gets it to the other side. The encoder of the
body drops the empty chunks behind the last byte, so FIN rides on bytes and the last DATA frame has a payload,
which is what the receiver asks for.

**The law** (`transfers`): where the header block and the chunks are smaller than 2^62 bytes, the calls succeed,
`send` goes through to the end of the message, FIN comes with its last event and with no other, and a receiver
that gets these events makes the same headers and the same body of them.

The idea of the proof: `Emits` says what a sender sends from where it stands, so the message is put together
from the back. The body is sent frame by frame (`emits_body`), in front of it comes the block (`emits_block`),
in front of that the frame that announces it (`emits_message`). What comes out is a HEADERS frame and DATA
frames, of which the receiver's law (`Delivery`) does the rest.

**What it does not establish.** Nothing is said of an application that sends between its calls; that is
`Exchange`. Every event reaches the receiver as it was sent: how a network may cut them is there too.
-/

namespace Bnl.Http3.Endpoint.Request.Transfer

open Bnl.Base

/-! ## Both sides -/

/-- Calls one after another, as long as they succeed. -/
def callAll (host : Host) : List Call → Sender → Except Error Unit × Sender
  | [], s => (.ok (), s)
  | call :: calls, s =>
    match call.apply host s with
    | (.error e, s) => (.error e, s)
    | (.ok _, s) => callAll host calls s

/-- The calls of an application that adds everything first. -/
def calls (headers : List Header) (chunks : List Buffer) : List Call :=
  headers.map .header ++ .start :: (chunks.map .body ++ [.fin])

/-- `send` until the sender is finished, so many times at most. -/
def sendAll (host : Host) : Nat → Sender → Except Error (List Quic.Event) × Sender
  | 0, s => (.ok [], s)
  | n + 1, s =>
    if s.finished then (.ok [], s)
    else
      match s.send host with
      | (.error e, s) => (.error e, s)
      | (.ok event, s) =>
        match sendAll host n s with
        | (.error e, s) => (.error e, s)
        | (.ok events, s) => (.ok (event :: events), s)

/-- These events are sent, and then the sender is finished. -/
def Emits (host : Host) (s : Sender) (datas : List Quic.Data) : Prop :=
  ∃ n s', sendAll host n s = (.ok (datas.map Quic.Event.data), s') ∧ s'.finished = true

/-- The calls succeed, the events are sent, FIN with the last one alone, and the receiver makes the message of
them. -/
def Transferred (host : Host) (f : ProcessFrame) (id : UInt64) (headers : List Header)
    (chunks : List Buffer) : Prop :=
  ∃ s datas, callAll host (calls headers chunks) { id } = (.ok (), s) ∧ Emits host s datas ∧
    (∃ front last, datas = front ++ [last] ∧ last.fin = true ∧ ∀ data ∈ front, data.fin = false) ∧
      Delivered id headers (⟨chunks⟩ : Buffers).bytes
        ((Receiver.machine f).run (.ok (started id)) datas)

/-! ## Sending -/

variable {host : Host} {s s' : Sender} {id : UInt64}

/-- A sender that is finished sends nothing more. -/
theorem emits_nil (hs : s.finished = true) : Emits host s [] := ⟨0, s, rfl, hs⟩

/-- One event, and what is sent behind it. -/
theorem Emits.cons {data : Quic.Data} {datas : List Quic.Data}
    (hsend : s.send host = (.ok (.data data), s')) (h : Emits host s' datas) :
    Emits host s (data :: datas) := by
  obtain ⟨n, s'', hrest, hfin⟩ := h
  have hopen : s.finished = false := Sender.unfinished_of_send (by rw [hsend])
  refine ⟨n + 1, s'', ?_, hfin⟩
  rw [sendAll, hopen, if_neg Bool.false_ne_true, hsend]
  dsimp only
  rw [hrest]
  rfl

/-- The first buffer of several comes without FIN. -/
theorem stream_cons {b : Buffer} {bs : List Buffer} (hne : bs ≠ []) :
    stream id (b :: bs) = { id, buffer := b } :: stream id bs := by
  cases bs with
  | nil => exact absurd rfl hne
  | cons b' bs => rfl

/-- A body in front of a frame, with bytes queued. -/
theorem good_frame {chunks : List Buffer} (hbytes : (⟨chunks⟩ : Buffers).bytes ≠ [])
    (hsize : ∀ c ∈ chunks, c.size < 2 ^ 64) : Body.Encoder.Good ⟨.frame, true, ⟨chunks⟩⟩ :=
  ⟨hsize, fun _ _ => hbytes, nofun, nofun⟩

/-- The body is sent frame by frame, up to the last byte. -/
theorem emits_body (host : Host) (id : UInt64) {chunks : List Buffer}
    (hsize : ∀ c ∈ chunks, c.size < 2 ^ 62) (hbytes : (⟨chunks⟩ : Buffers).bytes ≠ []) :
    ∃ bs payloads, bs ≠ [] ∧
      (∀ headers_ : Headers.Encoder,
        Emits host { state := .body, headers_, body_ := ⟨.frame, true, ⟨chunks⟩⟩, id } (stream id bs)) ∧
      Frame.DataFrames payloads (⟨bs⟩ : Buffers).bytes ∧ payloads.flatten = (⟨chunks⟩ : Buffers).bytes ∧
      (∀ last, bs.getLast? = some last → last.bytes ≠ []) ∧
      ∀ payload, payloads.getLast? = some payload → payload ≠ [] := by
  induction chunks with
  | nil => exact absurd rfl hbytes
  | cons c chunks ih =>
    have hlt : c.size < 2 ^ 62 := hsize c List.mem_cons_self
    have htoNat : (UInt64.ofNat c.size).toNat = c.size :=
      UInt64.toNat_ofNat_of_lt' (Nat.lt_trans hlt (by decide))
    have hpre : Frame.Preamble .data (UInt64.ofNat c.size) (Frame.data (UInt64.ofNat c.size)).wire :=
      Frame.preamble_wire (.inl rfl) (by rw [htoNat]; exact hlt)
    have hgood := good_frame hbytes fun b hb => Nat.lt_trans (hsize b hb) (by decide)
    have hframe := Body.Encoder.encode_frame host hgood rfl hbytes
    rw [if_pos (show (⟨c :: chunks⟩ : Buffers).front.size < 2 ^ 62 from hlt)] at hframe
    have hdata := Body.Encoder.encode_data host (e := ⟨.data, true, ⟨c :: chunks⟩⟩) rfl rfl
    let w := (Frame.data (UInt64.ofNat c.size)).wire
    have hfirst {headers_ : Headers.Encoder} {datas : List Quic.Data} (h : Emits host
        { state := .body, headers_, body_ := ⟨.data, true, ⟨c :: chunks⟩⟩, id } datas) :
        Emits host { state := .body, headers_, body_ := ⟨.frame, true, ⟨c :: chunks⟩⟩, id }
          ({ id, buffer := ⟨w⟩ } :: datas) := by
      have hsend := Sender.send_body_ok (s := ⟨.body, headers_, _, id⟩) rfl hframe
      exact Emits.cons hsend h
    have hsecond {headers_ : Headers.Encoder} {datas : List Quic.Data} {state : Sender.State}
        {body : Body.Encoder.State} (hbody : (if (⟨chunks⟩ : Buffers).empty then Body.Encoder.State.fin else .frame) = body)
        (hstate : (if (body = .fin : Bool) then Sender.State.fin else .body) = state)
        (h : Emits host { state, headers_, body_ := ⟨body, true, ⟨chunks⟩⟩, id } datas) :
        Emits host { state := .body, headers_, body_ := ⟨.data, true, ⟨c :: chunks⟩⟩, id }
          ({ id, fin := (body = .fin : Bool), buffer := c } :: datas) := by
      subst hbody hstate
      have hsend := Sender.send_body_ok (s := ⟨.body, headers_, _, id⟩) rfl hdata
      exact Emits.cons hsend h
    by_cases hleft : (⟨chunks⟩ : Buffers).bytes = []
    · -- the last byte is here, what comes behind is dropped
      have hempty : (⟨chunks⟩ : Buffers).empty = true := Buffers.empty_iff.mpr hleft
      have hc : (⟨c :: chunks⟩ : Buffers).bytes = c.bytes := by
        rw [Buffers.bytes, List.flatMap_cons]
        exact (congrArg (c.bytes ++ ·) hleft).trans (List.append_nil _)
      refine ⟨[⟨w⟩, c], [c.bytes], List.cons_ne_nil _ _, ?_, ?_, ?_, ?_, ?_⟩
      · exact fun _ => hfirst (hsecond (if_pos hempty) rfl (emits_nil rfl))
      · exact .cons hpre htoNat.symm .nil
      · rw [hc]
        exact List.append_nil _
      · intro last hlast
        cases hlast
        exact hc ▸ hbytes
      · intro payload hlast
        cases hlast
        exact hc ▸ hbytes
    · have hempty : ¬ (⟨chunks⟩ : Buffers).empty = true := fun h => hleft (Buffers.empty_iff.mp h)
      obtain ⟨bs, payloads, hne, hemits, hframes, hflat, hlast, hpayload⟩ :=
        ih (fun c hc => hsize c (List.mem_cons_of_mem _ hc)) hleft
      have hpayloads : payloads ≠ [] := by
        rintro rfl
        exact hleft hflat.symm
      refine ⟨⟨w⟩ :: c :: bs, c.bytes :: payloads, List.cons_ne_nil _ _, ?_, ?_, ?_, ?_, ?_⟩
      · intro headers_
        rw [stream_cons (List.cons_ne_nil c bs), stream_cons hne]
        exact hfirst (hsecond (if_neg hempty) rfl (hemits headers_))
      · exact .cons hpre htoNat.symm hframes
      · rw [List.flatten_cons, hflat]
        rfl
      · rwa [List.getLast?_cons_of_ne_nil (List.cons_ne_nil c bs), List.getLast?_cons_of_ne_nil hne]
      · rwa [List.getLast?_cons_of_ne_nil hpayloads]

/-- Behind the header block comes this, or the body has ended before it. -/
def Follows (host : Host) (e : Body.Encoder) (id : UInt64) : List Buffer → Prop
  | [] => e.finished = true
  | b :: bs => e.finished = false ∧ ∀ headers_ : Headers.Encoder,
      Emits host { state := .body, headers_, body_ := e, id } (stream id (b :: bs))

/-- The body of an application that has called `fin`. -/
def endedBody (chunks : List Buffer) : Body.Encoder :=
  ⟨if (⟨chunks⟩ : Buffers).empty then .fin else .frame, true, ⟨chunks⟩⟩

/-- What comes behind the block, for a body of any chunks: DATA frames with the bytes of the chunks, or nothing
where these are empty. -/
theorem follows_body (host : Host) (id : UInt64) {chunks : List Buffer}
    (hsize : ∀ c ∈ chunks, c.size < 2 ^ 62) :
    ∃ bs payloads, Follows host (endedBody chunks) id bs ∧
      Frame.DataFrames payloads (⟨bs⟩ : Buffers).bytes ∧ payloads.flatten = (⟨chunks⟩ : Buffers).bytes ∧
      (∀ last, bs.getLast? = some last → last.bytes ≠ []) ∧
      ∀ payload, payloads.getLast? = some payload → payload ≠ [] := by
  unfold endedBody
  by_cases hbytes : (⟨chunks⟩ : Buffers).bytes = []
  · rw [if_pos (Buffers.empty_iff.mpr hbytes)]
    exact ⟨[], [], rfl, .nil, hbytes.symm, nofun, nofun⟩
  · rw [if_neg fun h => hbytes (Buffers.empty_iff.mp h)]
    obtain ⟨bs, payloads, hne, hemits, hrest⟩ := emits_body host id hsize hbytes
    obtain ⟨b, bs, rfl⟩ := List.exists_cons_of_ne_nil hne
    exact ⟨b :: bs, payloads, ⟨rfl, hemits⟩, hrest⟩

/-- The header block is sent buffer by buffer, and FIN comes with the last one if there is no body. -/
theorem emits_block {e : Body.Encoder} {tail : List Buffer} (htail : Follows host e id tail)
    (qpack : Qpack.Encoder) {encoded : Buffer} {left : List Buffer} (hne : ∀ b ∈ left, b.bytes ≠ []) :
    Emits host { state := .headers, headers_ := ⟨.qpack, ⟨encoded :: left⟩, qpack⟩, body_ := e, id }
      (stream id (encoded :: left ++ tail)) := by
  induction left generalizing encoded with
  | nil =>
    have he := Headers.Encoder.encode_qpack host (e := ⟨.qpack, ⟨[encoded]⟩, qpack⟩) rfl rfl nofun
    cases tail with
    | nil =>
      have hdone : e.finished = true := htail
      have hsend := Sender.send_headers_ok (s := ⟨.headers, _, e, id⟩) rfl he
      dsimp only at hsend
      rw [hdone] at hsend
      exact Emits.cons hsend (emits_nil rfl)
    | cons b bs =>
      obtain ⟨hopen, hemits⟩ := htail
      have hsend := Sender.send_headers_ok (s := ⟨.headers, _, e, id⟩) rfl he
      dsimp only at hsend
      rw [hopen] at hsend
      exact Emits.cons hsend (hemits ⟨.fin, ⟨[]⟩, qpack⟩)
  | cons next left ih =>
    have he := Headers.Encoder.encode_qpack host (e := ⟨.qpack, ⟨encoded :: next :: left⟩, qpack⟩) rfl rfl hne
    rw [if_neg (List.cons_ne_nil next left)] at he
    have hsend := Sender.send_headers_ok (s := ⟨.headers, _, e, id⟩) rfl he
    exact Emits.cons hsend (ih fun b hb => hne b (List.mem_cons_of_mem next hb))

/-- All of the message is sent once everything is added. -/
theorem emits_message {e : Body.Encoder} {tail : List Buffer} (htail : Follows host e id tail)
    {headers_ : Headers.Encoder} {accepted : List Buffer} (h : headers_.Queued accepted true [])
    (hs : headers_.state = .frame) (hne : accepted ≠ []) (hlt : Headers.Encoder.total accepted < 2 ^ 62) :
    ∃ frame, Headers.Encoder.Announces accepted (frame :: accepted) ∧
      Emits host { state := .headers, headers_, body_ := e, id } (stream id (frame :: accepted ++ tail)) := by
  obtain ⟨state, buffers, qpack⟩ := headers_
  obtain rfl : state = .frame := hs
  obtain ⟨-, -, rfl⟩ := h.frame rfl
  obtain ⟨encoded, left, rfl⟩ := List.exists_cons_of_ne_nil hne
  have hcount : (UInt64.ofNat qpack.count).toNat = Headers.Encoder.total (encoded :: left) := by
    rw [show qpack.count = _ from h.count]
    exact UInt64.toNat_ofNat_of_lt' (Nat.lt_trans hlt (by decide))
  have he := Headers.Encoder.encode_frame host (e := ⟨.frame, ⟨encoded :: left⟩, qpack⟩) rfl rfl
  rw [if_pos (show (UInt64.ofNat qpack.count).toNat < 2 ^ 62 by rw [hcount]; exact hlt)] at he
  have hsend := Sender.send_headers_ok (s := ⟨.headers, _, e, id⟩) rfl he
  refine ⟨_, ⟨UInt64.ofNat qpack.count, hcount, rfl⟩, Emits.cons hsend ?_⟩
  exact emits_block htail qpack fun b hb => h.bytes b (List.mem_cons_of_mem encoded hb)

/-! ## Adding -/

/-- Calls that succeed, and then others. -/
theorem callAll_append {cs ds : List Call} (h : callAll host cs s = (.ok (), s')) :
    callAll host (cs ++ ds) s = callAll host ds s' := by
  induction cs generalizing s with
  | nil =>
    cases h
    rfl
  | cons c cs ih =>
    rw [List.cons_append, callAll]
    unfold callAll at h
    split at h
    · cases h
    · next hc => exact ih h

/-- Headers that can be encoded are accepted, and the buffers make up the block. -/
theorem callAll_headers (headers : List Header) {s : Sender} {accepted : List Buffer}
    (hs : s.headers_.state = .idle) (hq : s.headers_.Queued accepted false []) {block : List UInt8}
    {qpack : Qpack.Encoder} (hall : s.headers_.qpack.encodeAll host headers = (.ok block, qpack)) :
    ∃ headers_ blocks, callAll host (headers.map .header) s = (.ok (), { s with headers_ }) ∧
      headers_.state = .idle ∧ headers_.Queued (accepted ++ blocks) false [] ∧
      (⟨blocks⟩ : Buffers).bytes = block ∧ blocks.length = headers.length := by
  induction headers generalizing s accepted block with
  | nil =>
    cases hall
    exact ⟨s.headers_, [], rfl, hs, by rwa [List.append_nil], rfl, rfl⟩
  | cons header headers ih =>
    have hencode : ∃ encoded rest, s.headers_.qpack.encodeBuffer host header =
        (.ok encoded, { state := .header, count := s.headers_.qpack.count + encoded.size }) ∧
        encoded.bytes ≠ [] ∧ block = encoded.bytes ++ rest ∧
        Qpack.Encoder.encodeAll host { state := .header, count := s.headers_.qpack.count + encoded.size }
          headers = (.ok rest, qpack) := by
      unfold Qpack.Encoder.encodeAll at hall
      cases hlow : headerIsLowercase header with
      | false =>
        rw [Qpack.encodeBuffer_rejects hlow] at hall
        cases hall
      | true =>
        rw [Qpack.encodeBuffer_eq hlow] at hall ⊢
        dsimp only at hall
        split at hall
        · cases hall
        · next rest e hrest =>
          cases hall
          exact ⟨_, rest, rfl, Qpack.Encoder.wire_ne_nil s.headers_.qpack _, rfl, hrest⟩
    obtain ⟨encoded, rest, hencoded, hne, rfl, hrest⟩ := hencode
    let added : Headers.Encoder := { s.headers_ with
      buffers := s.headers_.buffers.push encoded
      qpack := { state := .header, count := s.headers_.qpack.count + encoded.size } }
    have hadd : s.header host header = (.ok (), { s with headers_ := added }) := by
      unfold Sender.header Headers.Encoder.add
      rw [if_neg (not_not_intro hs), hencoded]
    obtain ⟨headers_, blocks, hcalls, hidle, hqueued, hblock, hlength⟩ := ih (s := { s with headers_ := added })
      hs (hq.push hs hne) hrest
    refine ⟨headers_, encoded :: blocks, ?_, hidle, ?_, ?_, congrArg Nat.succ hlength⟩
    · rw [List.map_cons, callAll, Call.apply, hadd]
      exact hcalls
    · rwa [List.append_assoc] at hqueued
    · rw [← hblock]
      rfl

/-- Chunks are accepted until `fin`. -/
theorem callAll_bodies (chunks : List Buffer) {s : Sender} (hfin : s.body_.fin_ = false) :
    callAll host (chunks.map .body) s = (.ok (), { s with body_ := { s.body_ with
      buffers := ⟨s.body_.buffers.buffers ++ chunks⟩ } }) := by
  induction chunks generalizing s with
  | nil => rw [List.append_nil]; rfl
  | cons c chunks ih =>
    have hadd : s.body c = (.ok (), { s with body_ := { s.body_ with buffers := s.body_.buffers.push c } }) := by
      rcases Body.Encoder.add_cases s.body_ c with ⟨hended, -⟩ | ⟨-, hadd⟩
      · cases hfin.symm.trans hended
      · rw [Sender.body, hadd]
    rw [List.map_cons, callAll, Call.apply, hadd]
    refine (ih (s := { s with body_ := { s.body_ with buffers := s.body_.buffers.push c } }) hfin).trans ?_
    dsimp only [Buffers.push]
    rw [List.append_assoc]
    rfl

/-- The calls succeed, and everything is queued. -/
theorem calls_succeed (host : Host) (id : UInt64) {headers : List Header} (hne : headers ≠ [])
    (chunks : List Buffer) {block : List UInt8} {qpack : Qpack.Encoder}
    (hall : Qpack.Encoder.encodeAll host {} headers = (.ok block, qpack)) :
    ∃ headers_ accepted, callAll host (calls headers chunks) { id } =
        (.ok (), { headers_, body_ := endedBody chunks, id }) ∧
      headers_.state = .frame ∧ headers_.Queued accepted true [] ∧
      (⟨accepted⟩ : Buffers).bytes = block ∧ accepted ≠ [] := by
  obtain ⟨headers_, accepted, hcalls, hidle, hqueued, hblock, hlength⟩ :=
    callAll_headers (s := { id }) headers rfl .new hall
  let ended : Headers.Encoder := { headers_ with state := .frame }
  refine ⟨ended, accepted, ?_, rfl, hqueued.started hidle, hblock, ?_⟩
  · have hstart : Sender.start { headers_, id } = (.ok (), { headers_ := ended, id }) := by
      unfold Sender.start Headers.Encoder.fin
      rw [if_neg (not_not_intro hidle)]
    have hbodies : callAll host (chunks.map .body) { headers_ := ended, id } =
        (.ok (), { headers_ := ended, body_ := { buffers := ⟨chunks⟩ }, id }) :=
      callAll_bodies chunks rfl
    have hfin : Sender.fin { headers_ := ended, body_ := { buffers := ⟨chunks⟩ }, id } =
        (.ok (), { headers_ := ended, body_ := endedBody chunks, id }) := by
      unfold Sender.fin
      rcases Body.Encoder.fin_cases { buffers := ⟨chunks⟩ } with ⟨hs, -⟩ | ⟨-, hfin⟩
      · cases hs
      · rw [hfin]
        rfl
    rw [calls, callAll_append hcalls, callAll, Call.apply, hstart]
    dsimp only
    rw [callAll_append hbodies, callAll, Call.apply, hfin]
    rfl
  · rintro rfl
    exact hne (List.length_eq_zero_iff.mp hlength.symm)

/-! ## The message arrives -/

/-- The last buffer of the message has bytes. -/
theorem getLast?_block {frame : Buffer} {accepted tail : List Buffer} (hne : accepted ≠ [])
    (hbytes : ∀ b ∈ accepted, b.bytes ≠ []) (htail : ∀ last, tail.getLast? = some last → last.bytes ≠ []) :
    ∀ last, (frame :: accepted ++ tail).getLast? = some last → last.bytes ≠ [] := by
  intro last hlast
  rw [List.getLast?_append] at hlast
  cases htop : tail.getLast? with
  | some top =>
    rw [htop] at hlast
    exact htail last (htop.trans hlast)
  | none =>
    rw [htop, List.getLast?_cons_of_ne_nil hne] at hlast
    exact hbytes last (List.mem_of_getLast? hlast)

/-- Where header block and chunks are small enough for a frame each, the sender sends everything and the receiver
makes the same message of it. -/
theorem transferred_of_small (host : Host) (f : ProcessFrame) (id : UInt64) {headers : List Header}
    (hne : headers ≠ []) (chunks : List Buffer) {block : List UInt8}
    (hrt : Qpack.RoundTrips host headers block) (hblock : block.length < 2 ^ 62)
    (hsize : ∀ c ∈ chunks, c.size < 2 ^ 62) : Transferred host f id headers chunks := by
  obtain ⟨qpack, hall⟩ := hrt.1
  obtain ⟨headers_, accepted, hcalls, hs, hqueued, rfl, haccepted⟩ := calls_succeed host id hne chunks hall
  obtain ⟨tail, payloads, hfollows, hframes, hflat, hlast, hpayload⟩ := follows_body host id hsize
  have hlt : Headers.Encoder.total accepted < 2 ^ 62 := by
    rwa [Headers.Encoder.total, Buffers.size_eq]
  obtain ⟨frame, hannounces, hemits⟩ := emits_message hfollows hqueued hs haccepted hlt
  have hwire := Sending.messageWire_of_announces hannounces hlt hframes
  obtain ⟨front, last, heq⟩ := (List.eq_nil_or_concat' (frame :: accepted ++ tail)).resolve_left nofun
  have htop : (frame :: accepted ++ tail).getLast? = some last := by rw [heq, List.getLast?_concat]
  have hne' : last.bytes ≠ [] := getLast?_block haccepted hqueued.bytes hlast last htop
  rw [heq] at hemits
  refine ⟨_, stream id (front ++ [last]), hcalls, hemits, ⟨events id front, _, stream_concat id front last, rfl,
    fun data hdata => fin_events hdata⟩, ?_⟩
  rw [← hflat]
  refine receive_delivers f id hne hrt.reads hwire ?_ hne' hpayload
  rw [← List.flatMap_singleton Buffer.bytes last, ← List.flatMap_append, ← heq, List.flatMap_append]
  rfl

/-! ## Frames that are too large -/

/-- A chunk that is too large has bytes. -/
theorem bytes_ne_nil_of_large {c : Buffer} {buffers : List Buffer} (hc : c ∈ buffers) (hlarge : 2 ^ 62 ≤ c.size) :
    (⟨buffers⟩ : Buffers).bytes ≠ [] := by
  intro hnil
  have hzero : c.bytes = [] := List.flatMap_eq_nil_iff.mp hnil c hc
  rw [Buffer.size, hzero] at hlarge
  exact absurd hlarge (by decide)

/-- A body with a chunk that is too large has not ended. -/
theorem unfinished_of_large {e : Body.Encoder} (h : e.Good) {c : Buffer} (hc : c ∈ e.buffers.buffers)
    (hlarge : 2 ^ 62 ≤ c.size) : e.finished = false := by
  apply decide_eq_false
  intro hfin
  exact bytes_ne_nil_of_large hc hlarge (h.fin hfin).2

/-- Nothing that is returned takes the chunk away. -/
theorem encode_large (host : Host) {e e' : Body.Encoder} (h : e.Good) {c : Buffer}
    (hc : c ∈ e.buffers.buffers) (hlarge : 2 ^ 62 ≤ c.size) {b : Buffer}
    (hencode : e.encode host = (.ok b, e')) : e'.Good ∧ c ∈ e'.buffers.buffers := by
  have hne : e.buffers.bytes ≠ [] := bytes_ne_nil_of_large hc hlarge
  cases hs : e.state with
  | fin =>
    unfold Body.Encoder.encode at hencode
    rw [hs] at hencode
    cases hencode
  | frame =>
    rw [Body.Encoder.encode_frame host h hs hne] at hencode
    by_cases hlt : e.buffers.front.size < 2 ^ 62
    · rw [if_pos hlt] at hencode
      cases hencode
      exact ⟨⟨h.fits, nofun, fun _ => ⟨hne, hlt⟩, nofun⟩, hc⟩
    · rw [if_neg hlt] at hencode
      cases hencode
  | data =>
    obtain ⟨front, left, hcons⟩ := Body.Encoder.exists_front hne
    have hfront := (h.data hs).2
    rw [Body.Encoder.encode_data host hs hcons] at hencode
    cases hencode
    rw [hcons] at hc hfront
    rcases List.mem_cons.mp hc with rfl | hc
    · exact absurd hfront (Nat.not_lt.mpr hlarge)
    · have hleft : (⟨left⟩ : Buffers).bytes ≠ [] := bytes_ne_nil_of_large hc hlarge
      have hempty : (⟨left⟩ : Buffers).empty = false :=
        Bool.eq_false_iff.mpr fun hempty => hleft (Buffers.empty_iff.mp hempty)
      simp only [hempty, Bool.and_false, Bool.false_eq_true, if_false]
      refine ⟨⟨?_, fun _ _ => hleft, nofun, nofun⟩, hc⟩
      intro b hb
      apply h.fits
      rw [hcons]
      exact List.mem_cons_of_mem _ hb

/-- The header block, or a chunk that is still queued, is too large for a frame. -/
def Stuck (s : Sender) : Prop :=
  s.state ≠ .fin ∧
    (s.state = .headers ∧ s.headers_.state = .frame ∧
        2 ^ 62 ≤ (UInt64.ofNat s.headers_.qpack.count).toNat ∨
      s.body_.Good ∧ ∃ c ∈ s.body_.buffers.buffers, 2 ^ 62 ≤ c.size)

/-- A sender in its headers is not at its end. -/
theorem headers_ne : Sender.State.headers ≠ .fin := by decide

theorem body_ne : Sender.State.body ≠ .fin := by decide

/-- A send does not free a sender that is stuck. -/
theorem Stuck.send (h : Stuck s) {event : Quic.Event} (hsend : s.send host = (.ok event, s')) : Stuck s' := by
  obtain ⟨hfin, hlarge⟩ := h
  cases hs : s.state with
  | fin => exact absurd hs hfin
  | headers =>
    rcases hlarge with ⟨-, hframe, hlarge⟩ | ⟨hgood, c, hc, hlarge⟩
    · have he := Headers.Encoder.encode_frame host hframe rfl
      rw [if_neg (Nat.not_lt.mpr hlarge)] at he
      rw [Sender.send_headers_error hs he] at hsend
      cases hsend
    · cases hencode : s.headers_.encode host with
      | mk r headers_ =>
        cases r with
        | error e =>
          rw [Sender.send_headers_error hs hencode] at hsend
          cases hsend
        | ok encoded =>
          rw [Sender.send_headers_ok hs hencode, unfinished_of_large hgood hc hlarge] at hsend
          cases hsend
          refine ⟨?_, .inr ⟨hgood, c, hc, hlarge⟩⟩
          cases headers_.finished with
          | true => exact body_ne
          | false => exact headers_ne
  | body =>
    rcases hlarge with ⟨hheaders, -⟩ | ⟨hgood, c, hc, hlarge⟩
    · cases hs.symm.trans hheaders
    · cases hencode : s.body_.encode host with
      | mk r body_ =>
        cases r with
        | error e =>
          rw [Sender.send_body_error hs hencode] at hsend
          cases hsend
        | ok encoded =>
          obtain ⟨hgood', hc'⟩ := encode_large host hgood hc hlarge hencode
          rw [Sender.send_body_ok hs hencode, unfinished_of_large hgood' hc' hlarge] at hsend
          cases hsend
          exact ⟨body_ne, .inr ⟨hgood', c, hc', hlarge⟩⟩

/-- A sender that is stuck is never finished. -/
theorem Stuck.sendAll (h : Stuck s) {n : Nat} {events : List Quic.Event}
    (hall : sendAll host n s = (.ok events, s')) : s'.finished = false := by
  induction n generalizing s events with
  | zero =>
    cases hall
    exact decide_eq_false h.1
  | succ n ih =>
    unfold Transfer.sendAll at hall
    rw [Sender.finished, decide_eq_false h.1, if_neg Bool.false_ne_true] at hall
    split at hall
    · cases hall
    · next hsend =>
      split at hall
      · cases hall
      · next hrest =>
        cases hall
        exact ih (h.send hsend) hrest

/-- **The message arrives** where header block and chunks are small enough for a frame each, as all that fit in
a memory are. The second part says that no smaller bound would do: a size that a `size_t` can say, but no varint,
is refused by the encoder of frames. -/
theorem transfers (host : Host) (f : ProcessFrame) (id : UInt64) {headers : List Header}
    (hne : headers ≠ []) (chunks : List Buffer) {block : List UInt8}
    (hrt : Qpack.RoundTrips host headers block) :
    (block.length < 2 ^ 62 → (∀ c ∈ chunks, c.size < 2 ^ 62) → Transferred host f id headers chunks) ∧
    (block.length < 2 ^ 64 → (∀ c ∈ chunks, c.size < 2 ^ 64) → Transferred host f id headers chunks →
      block.length < 2 ^ 62 ∧ ∀ c ∈ chunks, c.size < 2 ^ 62) := by
  refine ⟨transferred_of_small host f id hne chunks hrt, fun hblock hsize h => ?_⟩
  obtain ⟨s, datas, hcalls, ⟨n, s', hall, hfin⟩, -⟩ := h
  obtain ⟨qpack, hencode⟩ := hrt.1
  obtain ⟨headers_, accepted, hsucceed, hs, hqueued, rfl, -⟩ := calls_succeed host id hne chunks hencode
  cases hcalls.symm.trans hsucceed
  have hfree : ¬ Stuck { headers_, body_ := endedBody chunks, id } := by
    intro hstuck
    cases (hstuck.sendAll hall).symm.trans hfin
  constructor
  · apply Nat.lt_of_not_le
    intro hlarge
    refine hfree ⟨headers_ne, .inl ⟨rfl, hs, ?_⟩⟩
    rw [hqueued.count, Headers.Encoder.total, Buffers.size_eq]
    rwa [UInt64.toNat_ofNat_of_lt' hblock]
  · intro c hc
    apply Nat.lt_of_not_le
    intro hlarge
    have hbytes := bytes_ne_nil_of_large hc hlarge
    refine hfree ⟨headers_ne, .inr ⟨?_, c, hc, hlarge⟩⟩
    unfold endedBody
    rw [if_neg fun hempty => hbytes (Buffers.empty_iff.mp hempty)]
    exact good_frame hbytes hsize

/-- A GET with a body of one byte between empty chunks. -/
theorem transfers_get : ([getHeader] ≠ [] ∧ Qpack.RoundTrips Qpack.xxHost [getHeader] [0, 0, 0xd1]) ∧
    Transferred Qpack.xxHost serverProcess 0 [getHeader] [⟨[]⟩, ⟨[7]⟩, ⟨[]⟩] :=
  ⟨⟨List.cons_ne_nil _ _, getHeader_roundTrips⟩,
    (transfers Qpack.xxHost serverProcess 0 (List.cons_ne_nil _ _) [⟨[]⟩, ⟨[7]⟩, ⟨[]⟩]
      getHeader_roundTrips).1 (by decide) (by decide)⟩

end Bnl.Http3.Endpoint.Request.Transfer
