import Bnl.Laws.HeaderBlock
import Bnl.Laws.Numbering
import Bnl.Laws.Requests
import Bnl.Library.Run

/-!
# The streams of the client

The client passes what its HTTP/3 connection sends on to its QUIC connection, which opens a stream when it first
has something to send on it. The HTTP/3 connection gives a request its id when the application asks for the
request, and sends it when the application starts it: the ids are those of QUIC where the requests come to be
opened in the order of their ids.

**The law** is `opened_always_iff`, over any requests, calls, sends and acknowledgements, for any ngtcp2 that
numbers its streams in order (`Numbers`, which is what its documentation says). Opened under its id is every
stream exactly in the runs in which each loop of `send` comes to its streams in order; otherwise the assertion
in `open` fails. The condition is on the state before a step and the streams the loop comes to.

**The invariant** has three parts: the ids of the HTTP/3 connection (`Ids`), the numbers of the QUIC connection
(`Numbered`), and what is between them, that what was sent on a stream has come to it and that a stream that may
still be sent on is not ended. So data that is sent finds a stream that takes it (`Inv.sent`), and no assertion
but that of `open` is at stake.

Two requests made in one order and started in the other are enough for it to fail. How an application is to know
is not said in the source, which speaks of ascending order where it asserts it.
-/

namespace Bnl.Client

open Bnl.Base Bnl.Quic Bnl.Http3.Endpoint Entries

variable {C : Type}

/-- The two connections of a client, and what the QUIC connection runs on. -/
structure World (C : Type) where
  http3 : Client.Connection := {}
  quic : Connection := {}
  transport : C

/-- What an application and the network do with a client. -/
inductive Action where
  | request
  | call (id : UInt64) (call : Call)
  | sendHttp3
  | sendQuic
  | ack (id : UInt64) (size : Nat)
  deriving DecidableEq, Repr

/-- An action; where an assertion fails there is no world behind it. -/
def step (transport : Transport C) (host : Host) (w : World C) : Action → Option (World C)
  | .request => some { w with http3 := w.http3.request.2 }
  | .call id call => some { w with http3 := (w.http3.callHandle host id call).2 }
  | .sendHttp3 =>
    match w.http3.send host with
    | (.ok event, http3) => (w.quic.add event).map fun (_, quic) => { w with http3, quic }
    | (.error _, http3) => some { w with http3 }
  | .sendQuic =>
    (w.quic.send transport w.transport).map fun (_, quic, transport) => { w with quic, transport }
  | .ack id size => some { w with quic := (w.quic.acked_stream_data_offset id size).2 }

/-- A send opens the streams it comes to in the order of their ids. -/
def Admits (transport : Transport C) (opened : Kind → C → Nat) (w : World C) : Action → Prop
  | .sendQuic => ∀ e ∈ Connection.comes transport w.quic w.transport,
      Connection.InOrder transport (opened · w.transport) w.quic.streams_.toList e
  | _ => True

instance (transport : Transport C) (opened : Kind → C → Nat) (w : World C) (a : Action) :
    Decidable (Admits transport opened w a) := by
  cases a <;> unfold Admits <;> infer_instance

/-! ## What the HTTP/3 connection sends -/

/-- A stream that the HTTP/3 connection may still send on. -/
def Live (c : Client.Connection) (k : UInt64) : Prop :=
  k = Control.clientStreamControlId ∨
    ∃ sender receiver, c.requests[k]? = some (sender, receiver) ∧ sender.finished = false

/-- The ids of the streams are those a client may use. -/
structure Ids (c : Client.Connection) : Prop where
  control : c.control.1.id = Control.clientStreamControlId
  next : c.nextStreamId.toNat % 4 = 0
  request : ∀ {k : UInt64} {request : Http3.Endpoint.Request.Sender × Http3.Endpoint.Request.Receiver},
    c.requests[k]? = some request → request.1.id = k ∧ k.toNat % 4 = 0

/-- What a step makes of the HTTP/3 connection: no stream is lost, and none comes back. -/
structure Forth (c c' : Client.Connection) : Prop where
  ids : Ids c'
  known : ∀ k : UInt64, c.requests[k]? ≠ none → c'.requests[k]? ≠ none
  live : ∀ k : UInt64, Live c' k → Live c k ∨ c.requests[k]? = none

variable {c c' : Client.Connection} {host : Host}

/-- Where each request is what it was, or what became of its sender. -/
theorem forth_of_senders (h : Ids c) (hcontrol : c'.control.1.id = c.control.1.id)
    (hnext : c'.nextStreamId = c.nextStreamId)
    (hsenders : ∀ k : UInt64, c'.requests[k]? = c.requests[k]? ∨ ∃ sender receiver sender' receiver',
      c.requests[k]? = some (sender, receiver) ∧ c'.requests[k]? = some (sender', receiver') ∧
        sender'.id = sender.id ∧ (sender.finished = true → sender'.finished = true)) : Forth c c' := by
  refine ⟨⟨hcontrol.trans h.control, by rw [hnext]; exact h.next, fun {k request} hk => ?_⟩,
    fun k hk => ?_, fun k hk => ?_⟩
  · rcases hsenders k with hsame | ⟨sender, receiver, sender', receiver', hbefore, hafter, hid, -⟩
    · exact h.request (hsame ▸ hk)
    · cases hk.symm.trans hafter
      exact ⟨hid.trans (h.request hbefore).1, (h.request hbefore).2⟩
  · rcases hsenders k with hsame | ⟨sender, receiver, sender', receiver', hbefore, hafter, -⟩
    · rw [hsame]
      exact hk
    · rw [hafter]
      nofun
  · rcases hk with hk | ⟨s, r, hs, hlive⟩
    · exact .inl (.inl hk)
    · rcases hsenders k with hsame | ⟨sender, receiver, sender', receiver', hbefore, hafter, -, hfin⟩
      · exact .inl (.inr ⟨s, r, hsame ▸ hs, hlive⟩)
      · cases hs.symm.trans hafter
        refine .inl (.inr ⟨sender, receiver, hbefore, eq_false_of_ne_true fun hf => ?_⟩)
        exact nomatch (hfin hf).symm.trans hlive

/-- A request gets the next id. -/
theorem Ids.forth_request (h : Ids c) : Forth c c.request.2 := by
  have hrequests (k : UInt64) : c.request.2.requests[k]? =
      if compare c.nextStreamId k = .eq ∧ c.nextStreamId ∉ c.requests then
        some ({ id := c.nextStreamId }, { id := c.nextStreamId })
      else c.requests[k]? := Std.TreeMap.getElem?_insertIfNew
  refine ⟨⟨h.control, ?_, fun {k request} hk => ?_⟩, fun k hk => ?_, fun k hk => ?_⟩
  · show (c.nextStreamId + 4).toNat % 4 = 0
    have hnext := h.next
    rw [UInt64.toNat_add]
    show (c.nextStreamId.toNat + 4) % 2 ^ 64 % 4 = 0
    omega
  · rw [hrequests] at hk
    split at hk
    · next hnew =>
      cases hk
      obtain rfl := Std.LawfulEqCmp.eq_of_compare hnew.1
      exact ⟨rfl, h.next⟩
    · exact h.request hk
  · rw [hrequests]
    split
    · nofun
    · exact hk
  · rcases hk with hk | ⟨sender, receiver, hs, hlive⟩
    · exact .inl (.inl hk)
    · rw [hrequests] at hs
      split at hs
      · next hnew =>
        obtain rfl := Std.LawfulEqCmp.eq_of_compare hnew.1
        exact .inr (Std.TreeMap.getElem?_eq_none hnew.2)
      · exact .inl (.inr ⟨sender, receiver, hs, hlive⟩)

/-- A call through a handle gives none. -/
theorem Ids.forth_call (h : Ids c) (host : Host) (id : UInt64) (call : Call) :
    Forth c (c.callHandle host id call).2 := by
  have hcall : (c.callHandle host id call).2.toStreams = (c.toStreams.callHandle host id call).2 := rfl
  refine forth_of_senders h ?_ rfl fun k => ?_
  · rw [hcall]
    unfold Streams.callHandle
    split <;> rfl
  · rw [hcall]
    unfold Streams.callHandle
    match hrequest : c.requests[id]? with
    | none => exact .inl rfl
    | some (sender, receiver) =>
      obtain ⟨hid, hfin⟩ := Request.Sender.call_kept host sender call
      by_cases hk : k = id
      · subst hk
        exact .inr ⟨sender, receiver, _, _, hrequest, getElem_insert_self _, hid,
          fun hf => hfin.trans hf⟩
      · exact .inl (getElem_insert_ne hk _)

theorem Ids.forth_send (h : Ids c) (host : Host) : Forth c (c.send host).2 := by
  refine forth_of_senders h (Streams.send_id c.toStreams) rfl fun k => ?_
  have hkept (sender : Request.Sender) : (sender.finished = true → (sender.send host).2.finished = true) :=
    fun hf => by rw [Request.Sender.send_finished hf]; exact hf
  rcases Streams.send_sent host Client.Connection.sent c.toStreams k with
    hsame | ⟨-, hsame | ⟨sender, receiver, hmem, hsent | ⟨-, hsent⟩⟩⟩
  · exact .inl hsame
  · exact .inl hsame
  · exact .inr ⟨sender, receiver, _, _, mem_toList.mp hmem, hsent, sender.send_id host, hkept sender⟩
  · exact .inr ⟨sender, receiver, _, _, mem_toList.mp hmem, hsent, sender.send_id host, hkept sender⟩

/-- **What is sent is data of a live stream**; once it is the last of it, the stream is not live. -/
theorem Ids.live_of_send (h : Ids c) {event : Event} (hs : c.send host = (.ok event, c')) :
    ∃ data, event = .data data ∧ Live c data.id ∧ (data.fin = true → ¬ Live c' data.id) := by
  have hsend : c.toStreams.send host Client.Connection.sent = (.ok event, c'.toStreams) := by
    unfold Client.Connection.send at hs
    rcases hstreams : c.toStreams.send host Client.Connection.sent with ⟨r, streams⟩
    rw [hstreams] at hs
    cases hs
    rfl
  rcases Streams.send_ok hsend with ⟨sender, hcontrol⟩ | ⟨k, sender, receiver, hrequest, hok, hafter⟩
  · obtain ⟨data, hevent, hid, hfin⟩ := Control.Sender.send_ok hcontrol
    exact ⟨data, hevent, .inl (hid.trans h.control), fun hf => nomatch hfin.symm.trans hf⟩
  · rcases hsender : sender.send host with ⟨r, sender'⟩
    rw [hsender] at hok hafter
    obtain rfl : r = .ok event := hok
    obtain ⟨data, hevent, hid, hfin⟩ := Request.Sender.send_ok hsender
    obtain ⟨hsenderId, hmod⟩ := h.request hrequest
    have hk : data.id = k := hid.trans hsenderId
    refine ⟨data, hevent, .inr ⟨sender, receiver, hk ▸ hrequest, ?_⟩, fun hf hlive => ?_⟩
    · exact Request.Sender.unfinished_of_send (by rw [hsender])
    · rcases hlive with hcontrol | ⟨s, r, hs', hunfinished⟩
      · rw [hk] at hcontrol
        rw [hcontrol] at hmod
        cases hmod
      · rw [hk] at hs'
        cases hs'.symm.trans hafter
        exact nomatch (hfin.symm.trans hf).symm.trans hunfinished

/-! ## A step -/

/-- Each stream is opened under its number; one that the HTTP/3 connection may still send on has not
been sent to its end, and was not opened before it was there. -/
structure Inv (opened : Kind → C → Nat) (w : World C) : Prop where
  ids : Ids w.http3
  numbered : Connection.Numbered opened w.quic w.transport
  known : ∀ k : UInt64, k.toNat % 4 = 0 →
    w.quic.streams_[k]? ≠ none ∨ index k < opened (Kind.of k) w.transport →
    w.http3.requests[k]? ≠ none
  unfinished : ∀ k : UInt64, Live w.http3 k → ∀ s, w.quic.streams_[k]? = some s → s.fin_ = false
  unopened : ∀ k : UInt64, Live w.http3 k → w.quic.streams_[k]? = none →
    opened (Kind.of k) w.transport ≤ index k

variable {transport : Transport C} {opened limit : Kind → C → Nat} {w w' : World C}

/-- A live stream is one that the client may open. -/
theorem Live.openable (h : Ids c) {k : UInt64} (hk : Live c k) :
    Openable k ∧ (k.toNat % 4 = 0 ∨ k = Control.clientStreamControlId) := by
  rcases hk with rfl | ⟨sender, receiver, hs, -⟩
  · exact ⟨rfl, .inr rfl⟩
  · exact ⟨(openable_bidi (h.request hs).2).2, .inl (h.request hs).2⟩

/-- A request that was not there has no stream. -/
theorem Inv.fresh (h : Inv opened w) {k : UInt64} (hk : k.toNat % 4 = 0)
    (hnew : w.http3.requests[k]? = none) :
    w.quic.streams_[k]? = none ∧ opened (Kind.of k) w.transport ≤ index k := by
  refine ⟨?_, Nat.le_of_not_lt fun hlt => h.known k hk (.inr hlt) hnew⟩
  by_contra hs
  exact h.known k hk (.inl hs) hnew

/-- A step of the HTTP/3 connection alone. -/
theorem Inv.forth (h : Inv opened w) (hforth : Forth w.http3 c') :
    Inv opened { w with http3 := c' } := by
  have hlive (k : UInt64) (hk : Live c' k) : Live w.http3 k ∨
      w.quic.streams_[k]? = none ∧ opened (Kind.of k) w.transport ≤ index k := by
    rcases hk with hcontrol | ⟨sender, receiver, hs, hunfinished⟩
    · exact .inl (.inl hcontrol)
    · exact (hforth.live k (.inr ⟨sender, receiver, hs, hunfinished⟩)).imp_right
        (h.fresh (hforth.ids.request hs).2)
  refine ⟨hforth.ids, h.numbered, fun k hk hbefore => hforth.known k (h.known k hk hbefore),
    fun k hk s hs => ?_, fun k hk hs => ?_⟩
  · rcases hlive k hk with hlive | hnew
    · exact h.unfinished k hlive s hs
    · exact nomatch hnew.1.symm.trans hs
  · rcases hlive k hk with hlive | hnew
    · exact h.unopened k hlive hs
    · exact hnew.2

/-- A send opens no stream that was not there, and finishes none. -/
theorem Inv.progress (h : Inv opened w) {q' : Connection} {t : C}
    (hprogress : Connection.Progress opened w.quic w.transport q' t) :
    Inv opened { w with quic := q', transport := t } := by
  have hthere (k : UInt64) : q'.streams_[k]? = none ↔ w.quic.streams_[k]? = none := by
    have hfin := hprogress.fin_ k
    rcases hafter : q'.streams_[k]? with _ | s <;> rcases hbefore : w.quic.streams_[k]? with _ | t
    · exact ⟨fun _ => rfl, fun _ => rfl⟩
    · rw [hafter, hbefore] at hfin
      cases hfin
    · rw [hafter, hbefore] at hfin
      cases hfin
    · exact ⟨nofun, nofun⟩
  -- what is opened was opened before, or is there
  have hcounted (k : UInt64) (hk : Openable k) (hlt : index k < opened (Kind.of k) t) :
      index k < opened (Kind.of k) w.transport ∨ w.quic.streams_[k]? ≠ none := by
    have hcounted := hprogress.counted hlt
    rwa [hk.id_index] at hcounted
  refine ⟨h.ids, hprogress.numbered, fun k hk hafter => ?_, fun k hk s hs => ?_, fun k hk hs => ?_⟩
  · refine h.known k hk ?_
    rcases hafter with hs | hlt
    · exact .inl fun hnone => hs ((hthere k).mpr hnone)
    · exact (hcounted k (openable_bidi hk).2 hlt).symm
  · have hfin := hprogress.fin_ k
    rw [hs] at hfin
    obtain ⟨s₀, hs₀, hsame⟩ := Option.map_eq_some_iff.mp hfin.symm
    exact hsame ▸ h.unfinished k hk s₀ hs₀
  · refine Nat.le_of_not_lt fun hlt => ?_
    have hnone := (hthere k).mp hs
    rcases hcounted k (hk.openable h.ids).1 hlt with hbefore | hs
    · exact Nat.not_lt.mpr (h.unopened k hk hnone) hbefore
    · exact hs hnone

/-- A stream that is put under its id. -/
theorem Inv.insert (h : Inv opened w) {k : UInt64} {s : Stream} (hid : s.id = k) (hk : Openable k)
    (hopened : s.opened_ = true ↔ index k < opened (Kind.of k) w.transport)
    (hknown : k.toNat % 4 = 0 → w.http3.requests[k]? ≠ none)
    (hfin : Live w.http3 k → s.fin_ = false) :
    Inv opened { w with quic := ⟨w.quic.streams_.insert k s⟩ } := by
  refine ⟨h.ids, h.numbered.insert hid hk (fun _ hj => h.numbered.opened hj) hopened,
    fun j hj hafter => ?_, fun j hj t ht => ?_, fun j hj hnone => ?_⟩
  · by_cases heq : j = k
    · subst heq
      exact hknown hj
    · exact h.known j hj (hafter.imp_left fun hs => getElem_insert_ne heq s ▸ hs)
  · by_cases heq : j = k
    · subst heq
      cases (getElem_insert_self s).symm.trans ht
      exact hfin hj
    · exact h.unfinished j hj t ((getElem_insert_ne heq s).symm.trans ht)
  · by_cases heq : j = k
    · subst heq
      exact nomatch (getElem_insert_self s).symm.trans hnone
    · exact h.unopened j hj ((getElem_insert_ne heq s).symm.trans hnone)

/-- A stream that is erased, on which nothing more is sent. -/
theorem Inv.erase (h : Inv opened w) {k : UInt64} (hk : ¬ Live w.http3 k) :
    Inv opened { w with quic := ⟨w.quic.streams_.erase k⟩ } := by
  have hbefore {j : UInt64} {s : Stream} (hs : (w.quic.streams_.erase k)[j]? = some s) :
      w.quic.streams_[j]? = some s := by
    by_cases heq : j = k
    · subst heq
      exact nomatch getElem_erase_self.symm.trans hs
    · exact (getElem_erase_ne heq).symm.trans hs
  refine ⟨h.ids, ⟨fun hs => h.numbered.id (hbefore hs), fun hs => h.numbered.openable (hbefore hs),
    fun hs => h.numbered.opened (hbefore hs)⟩, fun j hj hafter => h.known j hj (hafter.imp_left ?_),
    fun j hj s hs => h.unfinished j hj s (hbefore hs), fun j hj hnone => ?_⟩
  · intro hs
    obtain ⟨s, hs⟩ := Option.ne_none_iff_exists'.mp hs
    rw [hbefore hs]
    nofun
  · have hne : j ≠ k := by
      rintro rfl
      exact hk hj
    exact h.unopened j hj ((getElem_erase_ne hne).symm.trans hnone)

/-- The acknowledgement of a stream. -/
theorem Inv.acked (h : Inv opened w) (id : UInt64) (size : Nat) :
    Inv opened { w with quic := (w.quic.acked_stream_data_offset id size).2 } := by
  unfold Connection.acked_stream_data_offset
  match hs : w.quic.streams_[id]? with
  | none => exact h
  | some stream =>
    have hack : (stream.ack size).2.id = stream.id ∧ (stream.ack size).2.fin_ = stream.fin_ ∧
        (stream.ack size).2.opened_ = stream.opened_ := by
      unfold Stream.ack
      split <;> exact ⟨rfl, rfl, rfl⟩
    dsimp only
    rcases hr : stream.ack size with ⟨r, stream'⟩
    rw [hr] at hack
    obtain ⟨hid, hfin, hopened⟩ := hack
    -- the stream is there still
    have hinsert : Inv opened { w with quic := ⟨w.quic.streams_.insert id stream'⟩ } := by
      refine h.insert (hid.trans (h.numbered.id hs)) (h.numbered.openable hs)
        (hopened ▸ h.numbered.opened hs) (fun hk => h.known id hk (.inl ?_)) fun hlive => ?_
      · rw [hs]
        nofun
      · exact hfin.trans (h.unfinished id hlive stream hs)
    -- the stream is erased: it is finished, so nothing more is sent on it
    have herase (hfinished : stream'.finished = true) :
        Inv opened { w with quic := ⟨w.quic.streams_.erase id⟩ } := by
      refine h.erase fun hlive => ?_
      have hopen := hfin.trans (h.unfinished id hlive stream hs)
      unfold Stream.finished at hfinished
      rw [hopen, Bool.false_and] at hfinished
      cases hfinished
    rcases r with error | ⟨⟩
    · exact hinsert
    · dsimp only
      split
      · next hfinished => exact herase hfinished
      · exact hinsert

/-- **What is sent comes to its stream**: no assertion of the stream fails. -/
theorem Inv.sent (h : Inv opened w) {event : Event} (hs : w.http3.send host = (.ok event, c')) :
    ∃ q, w.quic.add event = some (.ok (), q) ∧ Inv opened { w with http3 := c', quic := q } := by
  obtain ⟨data, rfl, hlive, hfin⟩ := h.ids.live_of_send hs
  have hforth : Forth w.http3 c' := by
    have hforth := h.ids.forth_send host
    rw [hs] at hforth
    exact hforth
  have hinv := h.forth hforth
  obtain ⟨hopenable, hmod⟩ := hlive.openable h.ids
  have hknown (hk : data.id.toNat % 4 = 0) : c'.requests[data.id]? ≠ none := by
    rcases hlive with hcontrol | ⟨sender, receiver, hrequest, -⟩
    · rw [hcontrol] at hk
      cases hk
    · exact hforth.known _ (by rw [hrequest]; nofun)
  -- the stream that the data is added to
  obtain ⟨stream, hstream, hid, hopen, hopened⟩ : ∃ stream,
      w.quic.streams_.getD data.id { id := data.id } = stream ∧ stream.id = data.id ∧
        stream.fin_ = false ∧
        (stream.opened_ = true ↔ index data.id < opened (Kind.of data.id) w.transport) := by
    refine ⟨_, rfl, ?_⟩
    rw [Std.TreeMap.getD_eq_getD_getElem?]
    match hentry : w.quic.streams_[data.id]? with
    | none =>
      exact ⟨rfl, rfl, ⟨nofun, fun hlt => absurd hlt (Nat.not_lt.mpr (h.unopened _ hlive hentry))⟩⟩
    | some s => exact ⟨h.numbered.id hentry, h.unfinished _ hlive s hentry, h.numbered.opened hentry⟩
  have hadd : w.quic.add (.data data) = some (.ok (), ⟨w.quic.streams_.insert data.id
      { stream with buffers_ := stream.buffers_.push data.buffer, fin_ := data.fin }⟩) := by
    show (w.quic.addData data).map _ = _
    unfold Connection.addData
    rw [hstream]
    unfold Stream.add Stream.fin
    rw [hopen]
    rcases data with ⟨id, _ | _, buffer⟩ <;> rfl
  refine ⟨_, hadd, hinv.insert hid hopenable hopened hknown fun hafter => ?_⟩
  exact eq_false_of_ne_true fun hf => hfin hf hafter

/-- **The condition is exactly what a step needs**, and a step keeps the invariant. -/
theorem step_taken (hn : Numbers transport opened limit) (h : Inv opened w) (a : Action) :
    (Admits transport opened w a ↔ ∃ w', step transport host w a = some w' ∧ True) ∧
      ∀ w', step transport host w a = some w' → Inv opened w' := by
  -- a step that is always taken
  have htaken {w' : World C} (hs : step transport host w a = some w')
      (ha : Admits transport opened w a) (hinv : Inv opened w') :
      (Admits transport opened w a ↔ ∃ w', step transport host w a = some w' ∧ True) ∧
        ∀ w', step transport host w a = some w' → Inv opened w' := by
    refine ⟨⟨fun _ => ⟨w', hs, trivial⟩, fun _ => ha⟩, fun w'' hs'' => ?_⟩
    cases hs.symm.trans hs''
    exact hinv
  cases a with
  | request => exact htaken rfl trivial (h.forth h.ids.forth_request)
  | call id call => exact htaken rfl trivial (h.forth (h.ids.forth_call host id call))
  | ack id size => exact htaken rfl trivial (h.acked id size)
  | sendHttp3 =>
    rcases hs : w.http3.send host with ⟨error | event, c'⟩
    · have hforth := h.ids.forth_send host
      rw [hs] at hforth
      have hstep : step transport host w .sendHttp3 = some { w with http3 := c' } := by
        unfold step
        rw [hs]
      exact htaken hstep trivial (h.forth hforth)
    · obtain ⟨q, hadd, hinv⟩ := h.sent hs
      have hstep : step transport host w .sendHttp3 =
          some { w with http3 := c', quic := q } := by
        unfold step
        rw [hs]
        dsimp only
        rw [hadd]
        rfl
      exact htaken hstep trivial hinv
  | sendQuic =>
    have hiff := Connection.send_ne_iff hn h.numbered
    have hstep : step transport host w .sendQuic = (w.quic.send transport w.transport).map
        fun (_, quic, transport) => { w with quic, transport } := rfl
    rw [hstep]
    rcases hs : w.quic.send transport w.transport with _ | ⟨r, q, t⟩
    · rw [hs] at hiff
      exact ⟨⟨fun ha => absurd rfl (hiff.mpr ha), fun ⟨_, hs, _⟩ => nomatch hs⟩, fun _ hs => nomatch hs⟩
    · rw [hs] at hiff
      refine ⟨⟨fun _ => ⟨_, rfl, trivial⟩, fun _ => hiff.mp nofun⟩, fun w' hs' => ?_⟩
      cases hs'
      exact h.progress (Connection.send_progress hn h.numbered hs)

/-! ## Runs -/

/-- A client on an ngtcp2 that has opened nothing. -/
def start (c : C) : World C := { transport := c }

theorem inv_start {c : C} (h : ∀ kind, opened kind c = 0) : Inv opened (start c) := by
  have hnone {V : Type} (k : UInt64) : (∅ : Std.TreeMap UInt64 V)[k]? = none :=
    Std.TreeMap.getElem?_emptyc
  have hsome {V : Type} {P : Prop} {k : UInt64} {v : V}
      (hs : (∅ : Std.TreeMap UInt64 V)[k]? = some v) : P := nomatch (hnone k).symm.trans hs
  refine ⟨⟨rfl, rfl, hsome⟩, ⟨hsome, hsome, hsome⟩, fun k _ hbefore => ?_,
    fun k _ s hs => hsome hs, fun k _ _ => ?_⟩
  · rcases hbefore with hs | hlt
    · exact absurd (hnone k) hs
    · exact absurd (h _ ▸ hlt : index k < 0) (Nat.not_lt_zero _)
  · show opened (Kind.of k) c ≤ index k
    rw [h]
    exact Nat.zero_le _

/-- **Each stream is opened under the id of its request** in exactly those runs in which the streams
come to be opened in the order of their ids. -/
theorem opened_always_iff (hn : Numbers transport opened limit) (host : Host) {c : C}
    (hc : ∀ kind, opened kind c = 0) (actions : List Action) :
    Run.Always (step transport host) (fun _ _ _ => True) (start c) actions ↔
      Run.Meets (step transport host) (Admits transport opened) (start c) actions :=
  Run.always_iff (fun _ a h => (step_taken hn h a).1)
    (fun _ a w' h hs _ => (step_taken hn h a).2 w' hs) (inv_start hc)

/-- An ngtcp2 whose peer allows a hundred streams of each kind, and that writes all it is offered. -/
def counting : Transport (Nat × Nat) where
  openBidiStream c := if c.1 < 100 then (.ok (Kind.bidi.id c.1), (c.1 + 1, c.2)) else (.streamIdBlocked, c)
  openUniStream c := if c.2 < 100 then (.ok (Kind.uni.id c.2), (c.1, c.2 + 1)) else (.streamIdBlocked, c)
  writePkt c := (.ok {}, c)
  writeStream c _ _ data := (.ok (data, some data.size), c)
  handshakeSend c := (.ok (), c)
  handshakeCompleted _ := true

/-- What it has opened. -/
def counted : Kind → Nat × Nat → Nat
  | .bidi, c => c.1
  | .uni, c => c.2

/-- It opens a hundred of each kind. -/
theorem counting_openKind (kind : Kind) (c : Nat × Nat) : counting.openKind kind c =
    if counted kind c < 100 then
      (.ok (kind.id (counted kind c)), match kind with | .bidi => (c.1 + 1, c.2) | .uni => (c.1, c.2 + 1))
    else (.streamIdBlocked, c) := by
  cases kind <;> rfl

theorem counting_numbers : Numbers counting counted fun _ _ => 100 := by
  have hopen := counting_openKind
  refine ⟨fun {kind c id c'} h => ?_, fun {kind c c'} h => ?_, fun {kind c answer c'} h hne => ?_,
    fun _ _ _ _ => .refl _, fun _ => .refl _, fun _ => .refl _⟩
  · rw [hopen] at h
    split at h
    · next hlt =>
      cases h
      refine ⟨rfl, hlt, fun k => ?_, fun _ => rfl⟩
      cases kind <;> cases k <;> rfl
    · cases h
  · rw [hopen] at h
    split at h
    · cases h
    · next hlt => exact Nat.le_of_not_lt hlt
  · rw [hopen] at h
    split at h
    · cases h
      exact absurd rfl (hne _)
    · cases h
      exact .refl _

/-- An application that asks for two requests and starts the second. -/
def secondFirst : List Action :=
  [.request, .request, .call 4 (.header ⟨[0x78], [0x79]⟩), .call 4 .start,
    .sendHttp3, .sendHttp3, .sendHttp3, .sendQuic, .sendQuic, .sendQuic]

/-- The second request is opened as the first stream. -/
theorem opened_not : ¬ ∀ (host : Host) (actions : List Action),
    Run.Always (step counting host) (fun _ _ _ => True) (start (0, 0)) actions := by
  intro h
  refine (h Http3.Qpack.xxHost secondFirst).after_ne ?_
  exact Option.isNone_iff_eq_none.mp (by decide)

/-- An application that starts its requests in the order in which it asks for them. -/
def inTurn : List Action :=
  [.request, .request, .call 0 (.header ⟨[0x78], [0x79]⟩), .call 0 .start,
    .sendHttp3, .sendHttp3, .sendHttp3, .call 4 (.header ⟨[0x78], [0x79]⟩), .call 4 .start,
    .sendQuic, .sendQuic, .sendQuic, .sendHttp3, .sendQuic]

/-- Requests that are started in turn. -/
theorem opened_always_inTurn : Run.Always (step counting Http3.Qpack.xxHost) (fun _ _ _ => True)
    (start (0, 0)) inTurn :=
  (opened_always_iff counting_numbers Http3.Qpack.xxHost (fun kind => by cases kind <;> rfl)
    inTurn).mpr (by decide)

end Bnl.Client
