import Bnl.Laws.Hearing
import Bnl.Laws.Lifecycle
import Bnl.Laws.Speaking

/-!
# A client and a server

Two connections talk over a network that keeps the order of a stream's bytes, cuts them as it likes, and
delivers when it likes; the applications at both ends act in any order. What each of them hears on a request
stream is the beginning of what the other has said there, and the end of it is heard only when all of it was.

An endpoint is its connection and, for each stream, a log of what passed there: what was said, sent, got and
heard. The logs are kept beside the connections and decide nothing. `Admits` is what the two ends and the
network owe one another: a network delivers what was sent, in order (`Carries`); an application says headers
that survive their encoding, and starts a message behind one that was accepted, with sizes that a `size_t` can
say; the server's does not end a response to a request that was not read to its end.

The idea of the proof: whatever an action does, it does to each stream one of a few things (`Moves`), and to at
most one of them. `Tracks` says how the request of a stream and its log belong together, and `Tracks.moves` that
each of these few things keeps that. What the functions of a connection do is then a matter of naming the move
they make (`send_steps`, `callHandle_steps`, `recvData_steps`, `process_steps`); what follows for runs of both
ends is in `EndToEnd`.

**What it does not establish.** Push, and the control streams beyond that nothing on them reaches a request:
settings are in `Control`. No action of the network loses bytes, and none of them repeats any; both are what
QUIC promises.
-/

namespace Bnl.Http3.Endpoint

open Bnl.Base Entries Request

/-! ## Two endpoints -/

/-- What passed at one end of a stream: what its application said, what was sent of it, what came from the other
end, and what the application heard. -/
structure Log where
  said : Said := {}
  sent : List Quic.Data := []
  got : List Quic.Data := []
  heard : List Event := []
  deriving DecidableEq

/-- An endpoint, and what passed on its streams. -/
structure Peer (C : Type) where
  world : World C
  log : UInt64 → Log := fun _ => {}

/-- A side of the exchange, with the answers of its functions. -/
structure Party (C : Type) extends Side C where
  answer : C → UInt64 → Call → Except Error Unit
  event : C → Except Error Quic.Event

namespace Party

variable {C : Type}

/-- What passes in an action. -/
def note (party : Party C) (p : Peer C) : Action → UInt64 → Log
  | .recv (.data data) =>
    Function.update p.log data.id { p.log data.id with got := (p.log data.id).got ++ [data] }
  | .next i =>
    match p.world.generators[i]? with
    | none => p.log
    | some g =>
      match g.next party.process p.world.connection with
      | some (true, g', _) =>
        Function.update p.log g.id { p.log g.id with heard := (p.log g.id).heard ++ answered g'.r }
      | _ => p.log
  | .call id call =>
    Function.update p.log id { p.log id with
      said := (p.log id).said.note call (party.answer p.world.connection id call) }
  | .send =>
    match party.event p.world.connection with
    | .ok (.data data) =>
      Function.update p.log data.id { p.log data.id with sent := (p.log data.id).sent ++ [data] }
    | _ => p.log
  | _ => p.log

/-- The connection acts, and its log is kept. -/
def step (party : Party C) (p : Peer C) (a : Action) : Option (Peer C) :=
  (party.toSide.step p.world a).map fun world => { world, log := party.note p a }

end Party

/-- The client at one end. -/
def Client.party (host : Host) : Party Client.Connection where
  toSide := Client.side host
  answer c id call := (c.callHandle host id call).1
  event c := (c.send host).1

/-- The server at the other. -/
def Server.party (host : Host) : Party Server.Connection where
  toSide := Server.side host
  answer c id call := (c.callHandle host id call).1
  event c := (c.send host).1

/-- Both ends. What is on its way between them is the difference of their logs. -/
structure Exchange where
  client : Peer Client.Connection := { world := Client.start }
  server : Peer Server.Connection := { world := Server.start }

namespace Exchange

/-- One of the two ends acts. That the network delivers is an action of the end it delivers to. -/
inductive Action where
  | client (a : Endpoint.Action)
  | server (a : Endpoint.Action)
  deriving DecidableEq

/-- The end that acts makes a step, the other one waits. -/
def step (host : Host) (x : Exchange) : Action → Option Exchange
  | .client a => ((Client.party host).step x.client a).map fun client => { x with client }
  | .server a => ((Server.party host).step x.server a).map fun server => { x with server }

/-- What a network may have delivered of what was sent: the bytes in order, cut anywhere, and FIN with the last
of them. -/
def Carries (sent got : List Quic.Data) : Prop :=
  sent ≠ [] ∧ eventBytes got <+: eventBytes sent ∧ (∀ data ∈ got.dropLast, data.fin = false) ∧
    ((∃ data ∈ got, data.fin = true) → eventBytes got = eventBytes sent ∧ ∃ data ∈ sent, data.fin = true)

instance (sent got : List Quic.Data) : Decidable (Carries sent got) :=
  inferInstanceAs (Decidable (_ ∧ _ ∧ _ ∧ (_ → _)))

/-- What the network and an application may do at one end. -/
def PeerAdmits (host : Host) (mine theirs : UInt64 → Log) : Endpoint.Action → Prop
  | .recv (.data data) => Carries (theirs data.id).sent ((mine data.id).got ++ [data])
  | .call id call => (mine id).said.Admits host call
  | _ => True

instance (host : Host) (mine theirs : UInt64 → Log) : ∀ a, Decidable (PeerAdmits host mine theirs a)
  | .recv (.data _) => inferInstanceAs (Decidable (Carries _ _))
  | .recv (.error _) => isTrue trivial
  | .call id call => inferInstanceAs (Decidable ((mine id).said.Admits host call))
  | .next _ => isTrue trivial
  | .get _ => isTrue trivial
  | .drop _ => isTrue trivial
  | .handle _ => isTrue trivial
  | .send => isTrue trivial

/-- The actions that are as they should be: the network delivers what was sent, the server's application does no
harm, and the client does not run out of streams. -/
def Admits (host : Host) (x : Exchange) : Action → Prop
  | .client a => PeerAdmits host x.client.log x.server.log a ∧
      (x.client.world.connection.nextStreamId.toNat + 4 < 2 ^ 64 ∨ ∀ id, a ≠ .handle id)
  | .server a => PeerAdmits host x.server.log x.client.log a ∧ Server.Admits x.server.world a

/-- A request for a new stream, as a test. -/
def isHandle : Endpoint.Action → Bool
  | .handle _ => true
  | _ => false

/-- The test tells a request for a new stream from all else. -/
theorem isHandle_iff (a : Endpoint.Action) : isHandle a = false ↔ ∀ id, a ≠ .handle id := by
  cases a with
  | handle id => exact ⟨nofun, fun h => absurd rfl (h id)⟩
  | _ => exact ⟨fun _ => nofun, fun _ => rfl⟩

instance decidableNotHandle (a : Endpoint.Action) : Decidable (∀ id, a ≠ .handle id) :=
  decidable_of_iff (isHandle a = false) (isHandle_iff a)

instance (host : Host) (x : Exchange) : ∀ a, Decidable (Admits host x a)
  | .client a =>
    @instDecidableAnd _ _ _ (@instDecidableOr _ _ (Nat.decLt _ _) (decidableNotHandle a))
  | .server a => inferInstanceAs (Decidable (_ ∧ Server.Admits x.server.world a))

end Exchange

/-! ## What a step can do -/

/-- The two control streams. -/
def isControl (id : UInt64) : Prop := id = Control.clientStreamControlId ∨ id = Control.serverStreamControlId

/-- Which requests may come in a step: by data of a new stream, or by `request`. -/
structure Turn where
  accepts : UInt64 → Prop := fun _ => False
  opens : UInt64 → Prop := fun _ => False

/-- What one step makes of a request and its log. -/
inductive Moves (host : Host) (turn : Turn) (k : UInt64) : Log → Option (Sender × Receiver) →
    Log → Option (Sender × Receiver) → Prop where
  | stays {log request} : Moves host turn k log request log request
  | call {log sender receiver} (call : Call) : log.said.Admits host call →
      Moves host turn k log (some (sender, receiver))
        { log with said := log.said.note call (call.apply host sender).1 }
        (some ((call.apply host sender).2, receiver))
  | send {log sender sender' receiver receiver' data} : sender.send host = (.ok (.data data), sender') →
      receiver' = receiver ∨ receiver' = receiver.start ∧ receiver.closed = true →
      Moves host turn k log (some (sender, receiver)) { log with sent := log.sent ++ [data] }
        (some (sender', receiver'))
  | leave {log sender sender' receiver data} : sender.send host = (.ok (.data data), sender') →
      receiver.finished = true →
      Moves host turn k log (some (sender, receiver)) { log with sent := log.sent ++ [data] } none
  | recv {log sender receiver} (data : Quic.Data) :
      Moves host turn k log (some (sender, receiver)) { log with got := log.got ++ [data] }
        (some (sender, (receiver.recv data).2))
  | accept (data : Quic.Data) : turn.accepts k → Moves host turn k {} none { got := [data] }
      (some ({ id := k }, ((Receiver.start { id := k }).recv data).2))
  | process {log sender receiver receiver' a} (f : ProcessFrame) : receiver.process f = (a, receiver') →
      Moves host turn k log (some (sender, receiver)) { log with heard := log.heard ++ answered a }
        (some (sender, receiver'))
  | finish {log sender receiver} : receiver.finished = true →
      Moves host turn k log (some (sender, receiver)) { log with heard := log.heard ++ [.finished receiver.id] } none
  | request : turn.opens k → Moves host turn k {} none {} (some ({ id := k }, { id := k }))

/-- What one step makes of the streams and their logs. -/
structure Steps (host : Host) (turn : Turn) (s : Streams) (log : UInt64 → Log) (s' : Streams) (log' : UInt64 → Log) :
    Prop where
  moves : ∀ k, ¬ isControl k → Moves host turn k (log k) s.requests[k]? (log' k) s'.requests[k]?
  control : ∀ k : UInt64, isControl k → s'.requests[k]? = s.requests[k]?
  own : s'.control.1.id = s.control.1.id
  peer : s'.control.2.id = s.control.2.id
  silent : (log' s.control.2.id).sent = (log s.control.2.id).sent

/-! ## What is kept of a request -/

namespace Request

namespace Receiver

/-- Whatever an error makes of a receiver, it stays with its stream. -/
theorem handleError_id (f : ProcessFrame) (r : Receiver) (error : Error) :
    (handleError f r error).2.id = r.id := by
  unfold handleError
  split
  · rfl
  split
  · rcases Frame.decode r.buffers with ⟨e | frame, s⟩
    · rfl
    · cases frame with
      | headers size =>
        dsimp only
        split <;> rfl
      | _ => rfl
  · rfl

/-- A receiver that is asked stays with its stream. -/
theorem process_id (f : ProcessFrame) (r : Receiver) : (process f r).2.id = r.id := by
  unfold process
  cases r.state with
  | closed => rfl
  | fin => rfl
  | headers =>
    dsimp only
    rcases r.headers.decode r.buffers with ⟨e | header, headers, s⟩
    · exact handleError_id f _ e
    · rfl
  | body =>
    dsimp only
    rcases r.body.decode r.buffers with ⟨e | part, body, s⟩
    · exact handleError_id f _ e
    · dsimp only
      split
      · split <;> rfl
      · rfl

/-- A receiver that is told stays with its stream. -/
theorem recv_id (r : Receiver) (data : Quic.Data) : (r.recv data).2.id = r.id := by
  unfold recv
  split <;> rfl

/-- A receiver that is finished says so. -/
theorem process_finished {r : Receiver} (h : r.finished = true) (f : ProcessFrame) :
    r.process f = (.ok (.finished r.id), r) := by
  have hs : r.state = .fin := of_decide_eq_true h
  unfold process
  rw [hs]

end Receiver

/-- A receiver that got these events and was heard to say this: it follows every message that they begin. -/
structure Listens (r : Receiver) (got : List Quic.Data) (heard : List Event) : Prop where
  fin : r.finReceived = true ↔ ∃ data ∈ got, data.fin = true
  follows : ∀ {said : Said} {wire x : List UInt8}, said.Wire wire → wire = eventBytes got ++ x →
    (r.finReceived = true → x = []) → Follows said.headers said.payload r.onBytes x heard

namespace Listens

variable {r r' : Receiver} {got : List Quic.Data} {heard : List Event}

/-- A new receiver follows every message. -/
theorem new (id : UInt64) : Listens { id } [] [] := by
  refine ⟨⟨nofun, nofun⟩, fun {said wire x} hwire hx _ => ?_⟩
  obtain ⟨hne, block, payloads, hreads, hmessage, hpayload⟩ := hwire
  exact .opening (.inl rfl) rfl rfl (hx ▸ hmessage) hpayload hne hreads

/-- One that is started follows what it followed. -/
theorem start (h : Listens r got heard) (hclosed : r.closed = true) : Listens r.start got heard := by
  have hs : r.state = .closed := of_decide_eq_true hclosed
  refine ⟨h.fin, fun hwire hx hfin => ?_⟩
  cases h.follows hwire hx hfin with
  | opening _ hd hb hw hbody hne hreads => exact .opening (.inr rfl) hd hb hw hbody hne hreads
  | block hs' => exact nomatch hs.symm.trans hs'
  | body hs' => exact nomatch hs.symm.trans hs'
  | ended n hs' => exact nomatch hs.symm.trans hs'

/-- An event that was not behind the end brings the receiver on by its bytes. -/
theorem recv (h : Listens r got heard) (hopen : ∀ data ∈ got, data.fin = false) (data : Quic.Data) :
    Listens (r.recv data).2 (got ++ [data]) heard := by
  have hfin : r.finReceived = false := by
    refine eq_false_of_ne_true fun hfin => ?_
    obtain ⟨d, hmem, hd⟩ := h.fin.mp hfin
    exact nomatch (hopen d hmem).symm.trans hd
  have hrecv : (r.recv data).2.finReceived = data.fin := by
    unfold Receiver.recv
    rw [hfin]
    rfl
  have hbytes : (r.recv data).2.onBytes = r.onBytes.fed data := by
    have hrecv := congrArg Prod.snd (r.recv_bytes data)
    refine hrecv.trans ?_
    unfold ByteReceiver.recv
    rw [show r.onBytes.finReceived = false from hfin]
    rfl
  refine ⟨?_, fun {said wire x} hwire hx _ => ?_⟩
  · rw [hrecv]
    refine ⟨fun hdata => ⟨data, List.mem_append_right _ List.mem_cons_self, hdata⟩, ?_⟩
    rintro ⟨d, hmem, hd⟩
    rcases List.mem_append.mp hmem with hmem | hmem
    · exact nomatch (hopen d hmem).symm.trans hd
    · exact List.mem_singleton.mp hmem ▸ hd
  · rw [hbytes]
    refine Follows.fed hfin data (h.follows hwire ?_ fun hfin' => ?_)
    · rw [hx, eventBytes_append, List.append_assoc]
      exact congrArg (fun b => _ ++ (b ++ x)) (List.append_nil data.buffer.bytes)
    · exact nomatch hfin.symm.trans hfin'

/-- An answer brings the receiver on in the message. -/
theorem process (h : Listens r got heard) {f : ProcessFrame} {a : Except Error Event}
    (hr : r.process f = (a, r')) : Listens r' got (heard ++ answered a) := by
  have hfin := r.process_finReceived f
  rw [hr] at hfin
  refine ⟨?_, fun {said wire x} hwire hx hend => ?_⟩
  · rw [show r'.finReceived = r.finReceived from hfin]
    exact h.fin
  · have hbytes := r.process_bytes f
    rw [hr] at hbytes
    rw [show r'.finReceived = r.finReceived from hfin] at hend
    exact (h.follows hwire hx hend).process hend hbytes.symm

/-- A receiver that follows a message to its end was told of the end. -/
theorem fin_of_finished (h : Listens r got heard) (hfinished : r.finished = true)
    (hwire : ∃ (said : Said) (wire : List UInt8), said.Wire wire ∧ eventBytes got <+: wire) :
    r.finReceived = true := by
  refine eq_true_of_ne_false fun hfin => ?_
  have hs : r.state = .fin := of_decide_eq_true hfinished
  obtain ⟨said, wire, hwire, x, hx⟩ := hwire
  cases h.follows hwire hx.symm fun hfin' => (nomatch hfin.symm.trans hfin') with
  | opening hs' => rcases hs' with hs' | hs' <;> exact nomatch hs.symm.trans hs'
  | block hs' => exact nomatch hs.symm.trans hs'
  | body hs' => exact nomatch hs.symm.trans hs'
  | ended n _ hfin' => exact nomatch hfin.symm.trans hfin'

end Listens

end Request

/-- A request, and what passed on its stream. -/
structure Dialogue (host : Host) (k : UInt64) (log : Log) (sender : Sender) (receiver : Receiver) : Prop where
  sender_id : sender.id = k
  receiver_id : receiver.id = k
  speaks : ∃ accepted, Speaks host log.said sender log.sent accepted
  listens : Listens receiver log.got log.heard

/-- A request that is there, or has left behind the end of its stream, or never was. -/
def Tracks (host : Host) (k : UInt64) (log : Log) : Option (Sender × Receiver) → Prop
  | some (sender, receiver) => Dialogue host k log sender receiver
  | none => log = {} ∨ ∃ sender receiver, Dialogue host k log sender receiver ∧ receiver.finReceived = true

section Moves

variable {host : Host} {turn : Turn} {k : UInt64} {log log' : Log} {request request' : Option (Sender × Receiver)}

/-- **Every move keeps the request in line with its log.** -/
theorem Tracks.moves (h : Tracks host k log request) (hmoves : Moves host turn k log request log' request')
    (hopen : log'.got ≠ log.got → ∀ data ∈ log.got, data.fin = false)
    (hwire : ∃ (said : Said) (wire : List UInt8), said.Wire wire ∧ eventBytes log.got <+: wire) :
    Tracks host k log' request' := by
  have happends {data : Quic.Data} : log.got ++ [data] ≠ log.got :=
    fun heq => List.cons_ne_nil _ _ (List.append_right_eq_self.mp heq)
  cases hmoves with
  | stays => exact h
  | call call hadmits =>
    obtain ⟨hsender, hreceiver, ⟨accepted, hspeaks⟩, hlistens⟩ := h
    obtain ⟨accepted', hspeaks'⟩ := hspeaks.call hadmits
    exact ⟨(Sender.call_kept host _ call).1.trans hsender, hreceiver, ⟨accepted', hspeaks'⟩, hlistens⟩
  | @send _ sender _ _ _ _ hsend hreceiver' =>
    obtain ⟨hsender, hreceiver, ⟨accepted, hspeaks⟩, hlistens⟩ := h
    have hid := sender.send_id host
    rw [hsend] at hid
    rcases hreceiver' with rfl | ⟨rfl, hclosed⟩
    · exact ⟨hid.trans hsender, hreceiver, ⟨accepted, hspeaks.send hsend⟩, hlistens⟩
    · exact ⟨hid.trans hsender, hreceiver, ⟨accepted, hspeaks.send hsend⟩, hlistens.start hclosed⟩
  | @leave _ sender _ _ _ hsend hfinished =>
    obtain ⟨hsender, hreceiver, ⟨accepted, hspeaks⟩, hlistens⟩ := h
    have hid := sender.send_id host
    rw [hsend] at hid
    exact .inr ⟨_, _, ⟨hid.trans hsender, hreceiver, ⟨accepted, hspeaks.send hsend⟩, hlistens⟩,
      hlistens.fin_of_finished hfinished hwire⟩
  | @recv _ _ receiver data =>
    obtain ⟨hsender, hreceiver, hspeaks, hlistens⟩ := h
    exact ⟨hsender, (receiver.recv_id data).trans hreceiver, hspeaks, hlistens.recv (hopen happends) data⟩
  | accept data _ =>
    have hlistens := ((Listens.new k).start rfl).recv nofun data
    exact ⟨rfl, Receiver.recv_id _ data, ⟨[], .new host k⟩, hlistens⟩
  | @process _ _ receiver _ _ f hr =>
    obtain ⟨hsender, hreceiver, hspeaks, hlistens⟩ := h
    have hid := receiver.process_id f
    rw [hr] at hid
    exact ⟨hsender, hid.trans hreceiver, hspeaks, hlistens.process hr⟩
  | finish hfinished =>
    obtain ⟨hsender, hreceiver, hspeaks, hlistens⟩ := h
    have hprocess := hlistens.process (Receiver.process_finished hfinished serverProcess)
    exact .inr ⟨_, _, ⟨hsender, hreceiver, hspeaks, hprocess⟩, hlistens.fin_of_finished hfinished hwire⟩
  | request _ => exact ⟨rfl, rfl, ⟨[], .new host k⟩, .new k⟩

end Moves

/-! ## What the functions of a connection do -/

/-- The streams of an endpoint are in line with what passed on them. -/
structure Kept (host : Host) (s : Streams) (log : UInt64 → Log) : Prop where
  tracks : ∀ k, ¬ isControl k → Tracks host k (log k) s.requests[k]?
  control : ∀ k : UInt64, isControl k → s.requests[k]? = none
  own : isControl s.control.1.id
  peer : isControl s.control.2.id
  apart : s.control.1.id ≠ s.control.2.id
  silent : (log s.control.2.id).sent = []

section Steps

variable {host : Host} {turn : Turn} {s s' : Streams} {log log' : UInt64 → Log}

/-- A request that is there is in line with its log, and on a stream of its own. -/
theorem Kept.dialogue (h : Kept host s log) {k : UInt64} {sender : Sender} {receiver : Receiver}
    (hrequest : s.requests[k]? = some (sender, receiver)) :
    ¬ isControl k ∧ Dialogue host k (log k) sender receiver := by
  have hk : ¬ isControl k := fun hk => nomatch (h.control k hk).symm.trans hrequest
  have htracks := h.tracks k hk
  rw [hrequest] at htracks
  exact ⟨hk, htracks⟩

/-- What a step does keeps all requests in line, if nothing comes behind the end of a stream and what came is
the beginning of a message. -/
theorem Kept.steps (h : Kept host s log) (hsteps : Steps host turn s log s' log')
    (hopen : ∀ k, ¬ isControl k → (log' k).got ≠ (log k).got → ∀ data ∈ (log k).got, data.fin = false)
    (hwire : ∀ k, ¬ isControl k →
      ∃ (said : Said) (wire : List UInt8), said.Wire wire ∧ eventBytes (log k).got <+: wire) :
    Kept host s' log' where
  tracks k hk := (h.tracks k hk).moves (hsteps.moves k hk) (hopen k hk) (hwire k hk)
  control k hk := (hsteps.control k hk).trans (h.control k hk)
  own := hsteps.own ▸ h.own
  peer := hsteps.peer ▸ h.peer
  apart := by
    rw [hsteps.own, hsteps.peer]
    exact h.apart
  silent := by
    rw [hsteps.peer]
    exact hsteps.silent.trans h.silent

/-- Where nothing happens to the requests, and the logs change on a control stream only. -/
theorem Steps.of_requests (hrequests : ∀ k : UInt64, s'.requests[k]? = s.requests[k]?)
    (hown : s'.control.1.id = s.control.1.id) (hpeer : s'.control.2.id = s.control.2.id)
    (hlog : ∀ k, ¬ isControl k → log' k = log k)
    (hsilent : (log' s.control.2.id).sent = (log s.control.2.id).sent) : Steps host turn s log s' log' := by
  refine ⟨fun k hk => ?_, fun k _ => hrequests k, hown, hpeer, hsilent⟩
  rw [hrequests k, hlog k hk]
  exact .stays

/-- Where something happens to one request and its log. -/
theorem Steps.of_request {id : UInt64} {l : Log} {request request' : Option (Sender × Receiver)}
    (hpeer : isControl s.control.2.id) (hid : ¬ isControl id) (hrequest : s.requests[id]? = request)
    (hrequest' : s'.requests[id]? = request') (hmoves : Moves host turn id (log id) request l request')
    (hrequests : ∀ k : UInt64, k ≠ id → s'.requests[k]? = s.requests[k]?)
    (hown : s'.control.1.id = s.control.1.id) (hpeer' : s'.control.2.id = s.control.2.id) :
    Steps host turn s log s' (Function.update log id l) := by
  have hne {k : UInt64} (hk : isControl k) : k ≠ id := fun heq => hid (heq ▸ hk)
  refine ⟨fun k hk => ?_, fun k hk => hrequests k (hne hk), hown, hpeer', ?_⟩
  · by_cases heq : k = id
    · subst heq
      rw [Function.update_self, hrequest, hrequest']
      exact hmoves
    · rw [Function.update_of_ne heq, hrequests k heq]
      exact .stays
  · rw [Function.update_of_ne (hne hpeer)]

namespace Streams

variable {sent : Request.Sender → Request.Receiver → Option (Request.Sender × Request.Receiver)}

/-- The loop fails and leaves the requests as they were, or one of them sends an event. -/
theorem sendRequests_cases (host : Host)
    (sent : Request.Sender → Request.Receiver → Option (Request.Sender × Request.Receiver))
    {entries : List Entry} {requests : Requests}
    (hthere : ∀ e ∈ entries, requests[e.1]? = some e.2) :
    ((∃ e, (sendRequests host sent entries requests).1 = .error e) ∧
        ∀ k : UInt64, (sendRequests host sent entries requests).2[k]? = requests[k]?) ∨
      ∃ (k : UInt64) (sender sender' : Request.Sender) (receiver : Request.Receiver) (data : Quic.Data),
        (sendRequests host sent entries requests).1 = .ok (.data data) ∧
          requests[k]? = some (sender, receiver) ∧ sender.send host = (.ok (.data data), sender') ∧
            (sendRequests host sent entries requests).2[k]? = sent sender' receiver ∧
              ∀ k', k' ≠ k → (sendRequests host sent entries requests).2[k']? = requests[k']? := by
  induction entries generalizing requests with
  | nil => exact .inl ⟨⟨.idle, rfl⟩, fun _ => rfl⟩
  | cons e entries ih =>
    obtain ⟨id, sender, receiver⟩ := e
    have hself := hthere _ List.mem_cons_self
    have hrest : ∀ e ∈ entries, requests[e.1]? = some e.2 := fun e he => hthere e (List.mem_cons_of_mem _ he)
    unfold sendRequests
    by_cases hfinished : sender.finished = true
    · rw [if_pos hfinished]
      exact ih hrest
    · rw [if_neg hfinished]
      rcases hsend : sender.send host with ⟨error | event, sender'⟩
      · obtain rfl := Sender.send_fails hsend
        have hsame (k : UInt64) : (requests.insert id (sender', receiver))[k]? = requests[k]? := by
          by_cases hk : k = id
          · rw [hk, getElem_insert_self]
            exact hself.symm
          · exact getElem_insert_ne hk _
        dsimp only
        split
        · have hrest' : ∀ e ∈ entries, (requests.insert id (sender', receiver))[e.1]? = some e.2 :=
            fun e he => (hsame e.1).trans (hrest e he)
          rcases ih hrest' with ⟨herror, hkeeps⟩ | ⟨k, s, s', r, data, hdata, hrequest, hs, hk, hothers⟩
          · exact .inl ⟨herror, fun k => (hkeeps k).trans (hsame k)⟩
          · exact .inr ⟨k, s, s', r, data, hdata, (hsame k).symm.trans hrequest, hs, hk,
              fun k' hk' => (hothers k' hk').trans (hsame k')⟩
        · exact .inl ⟨⟨error, rfl⟩, hsame⟩
      · obtain ⟨data, rfl, -, -⟩ := Sender.send_ok hsend
        exact .inr ⟨id, sender, sender', receiver, data, rfl, hself, hsend, getElem_alter_self,
          fun k' hk' => getElem_alter_ne hk'⟩

/-- What `send` leaves on the logs. -/
def noteSent (log : UInt64 → Log) : Except Error Quic.Event → UInt64 → Log
  | .ok (.data data) => Function.update log data.id { log data.id with sent := (log data.id).sent ++ [data] }
  | _ => log

/-- **`send`** serves the control stream or one request. -/
theorem send_steps (h : Kept host s log) (hsent : ∀ sender receiver, sent sender receiver = none ∨
      ∃ receiver', sent sender receiver = some (sender, receiver') ∧
        (receiver' = receiver ∨ receiver' = receiver.start ∧ receiver.closed = true))
    (hleaves : ∀ {k : UInt64} {sender sender' : Request.Sender} {receiver : Request.Receiver},
      s.requests[k]? = some (sender, receiver) → sent sender' receiver = none →
        (s.send host sent).2.requests[k]? = none → receiver.finished = true) :
    Steps host turn s log (s.send host sent).2 (noteSent log (s.send host sent).1) := by
  have hown : (s.send host sent).2.control.1.id = s.control.1.id := s.send_id
  have hpeer : (s.send host sent).2.control.2.id = s.control.2.id := congrArg _ s.send_receiver
  rcases hsend : s.control.1.send host with ⟨error | event, sender⟩
  · by_cases hidle : error = .idle
    · have heq : s.send host sent = ((sendRequests host sent s.requests.toList s.requests).1,
          { s with
            control := (sender, s.control.2)
            requests := (sendRequests host sent s.requests.toList s.requests).2 }) := by
        unfold send
        rw [hsend]
        dsimp only
        rw [if_pos hidle]
      rw [heq] at hown hpeer hleaves ⊢
      have hthere : ∀ e ∈ s.requests.toList, s.requests[e.1]? = some e.2 := fun e he => mem_toList.mp he
      rcases sendRequests_cases host sent hthere with
        ⟨⟨e, he⟩, hkeeps⟩ | ⟨k, sender', sender'', receiver, data, hdata, hrequest, hs, hk, hothers⟩
      · rw [he]
        exact .of_requests hkeeps hown hpeer (fun _ _ => rfl) rfl
      · rw [hdata]
        obtain ⟨hcontrol, hdialogue⟩ := h.dialogue hrequest
        obtain ⟨data', heq', hdataid, -⟩ := Sender.send_ok hs
        obtain rfl := Quic.Event.data.inj heq'
        have hid : data.id = k := hdataid.trans hdialogue.sender_id
        unfold noteSent
        dsimp only
        rw [hid]
        rcases hsent sender'' receiver with hnone | ⟨receiver', hsome, hreceiver⟩
        · exact .of_request h.peer hcontrol hrequest (hk.trans hnone)
            (.leave hs (hleaves hrequest hnone (hk.trans hnone))) hothers hown hpeer
        · exact .of_request h.peer hcontrol hrequest (hk.trans hsome) (.send hs hreceiver) hothers hown hpeer
    · have heq : s.send host sent = (.error error, { s with control := (sender, s.control.2) }) := by
        unfold send
        rw [hsend]
        dsimp only
        rw [if_neg hidle]
      rw [heq] at hown hpeer ⊢
      exact .of_requests (fun _ => rfl) hown hpeer (fun _ _ => rfl) rfl
  · have heq : s.send host sent = (.ok event, { s with control := (sender, s.control.2) }) := by
      unfold send
      rw [hsend]
    obtain ⟨data, rfl, hid, -⟩ := Control.Sender.send_ok hsend
    rw [heq] at hown hpeer ⊢
    unfold noteSent
    dsimp only
    rw [hid]
    refine .of_requests (fun _ => rfl) hown hpeer (fun k hk => ?_) ?_
    · have hne : k ≠ s.control.1.id := by
        rintro rfl
        exact hk h.own
      exact Function.update_of_ne hne _ _
    · rw [Function.update_of_ne h.apart.symm]

/-- **A call** reaches the sender of its stream, or none. -/
theorem callHandle_steps (h : Kept host s log) (id : UInt64) (call : Call)
    (hadmits : (log id).said.Admits host call) :
    Steps host turn s log (s.callHandle host id call).2 (Function.update log id
      { log id with said := (log id).said.note call (s.callHandle host id call).1 }) := by
  match hrequest : s.requests[id]? with
  | none =>
    have heq : s.callHandle host id call = (.error .invalidHandle, s) := by
      unfold callHandle
      rw [hrequest]
    rw [heq]
    have hlog : Function.update log id { log id with said := (log id).said.note call (.error .invalidHandle) } =
        log := Function.update_eq_self id log
    dsimp only
    rw [hlog]
    exact .of_requests (fun _ => rfl) rfl rfl (fun _ _ => rfl) rfl
  | some (sender, receiver) =>
    have heq : s.callHandle host id call = ((call.apply host sender).1,
        { s with requests := s.requests.insert id ((call.apply host sender).2, receiver) }) := by
      unfold callHandle
      rw [hrequest]
    rw [heq]
    exact .of_request h.peer (h.dialogue hrequest).1 hrequest (getElem_insert_self _) (.call call hadmits)
      (fun k hk => getElem_insert_ne hk _) rfl rfl

end Streams

/-- A control stream is one's own or the peer's. -/
theorem Kept.control_cases (h : Kept host s log) {k : UInt64} (hk : isControl k) :
    k = s.control.1.id ∨ k = s.control.2.id := by
  have hown := h.own
  have hpeer := h.peer
  have hapart := h.apart
  unfold isControl at hk hown hpeer
  rcases hk with rfl | rfl <;> rcases hown with hown | hown <;> rcases hpeer with hpeer | hpeer
  all_goals first
    | exact absurd (hown.trans hpeer.symm) hapart
    | exact .inl hown.symm
    | exact .inr hpeer.symm

/-- What an event leaves on the logs. -/
def noteGot (log : UInt64 → Log) (data : Quic.Data) : UInt64 → Log :=
  Function.update log data.id { log data.id with got := (log data.id).got ++ [data] }

/-- What an answer to a generator leaves on the logs. -/
def noteHeard (log : UInt64 → Log) (id : UInt64) (r : Except Error Event) : UInt64 → Log :=
  Function.update log id { log id with heard := (log id).heard ++ answered r }

/-- Where nothing was answered, nothing was heard. -/
theorem noteHeard_nil {id : UInt64} {r : Except Error Event} (hr : answered r = []) : noteHeard log id r = log := by
  unfold noteHeard
  rw [hr, List.append_nil]
  exact Function.update_eq_self id log

/-- What happens on a control stream leaves no trace elsewhere. -/
theorem Steps.of_control {id : UInt64} {l : Log} (hid : isControl id)
    (hrequests : ∀ k : UInt64, s'.requests[k]? = s.requests[k]?) (hown : s'.control.1.id = s.control.1.id)
    (hpeer : s'.control.2.id = s.control.2.id) (hsent : l.sent = (log id).sent) :
    Steps host turn s log s' (Function.update log id l) := by
  refine .of_requests hrequests hown hpeer (fun k hk => ?_) ?_
  · have hne : k ≠ id := by
      rintro rfl
      exact hk hid
    exact Function.update_of_ne hne _ _
  · by_cases heq : s.control.2.id = id
    · rw [heq, Function.update_self, hsent]
    · rw [Function.update_of_ne heq]

namespace Server.Connection

variable {c c' : Connection}

/-- Data at the server reaches its stream, or opens one. -/
theorem recvData_steps (h : Kept host c.toStreams log) {data : Quic.Data} (hown : data.id ≠ c.control.1.id)
    (haccepts : turn.accepts data.id)
    (hfresh : ¬ isControl data.id → c.requests[data.id]? = none → log data.id = {}) :
    Steps host turn c.toStreams log (c.recvData data).2.toStreams (noteGot log data) := by
  by_cases hcontrol : data.id = c.control.2.id
  · rw [recvData_control hcontrol]
    exact .of_control (hcontrol ▸ h.peer) (fun _ => rfl) rfl (c.recvControl_id data) rfl
  · have hid : ¬ isControl data.id := fun hid => (h.control_cases hid).elim hown hcontrol
    rw [recvData_request hcontrol]
    refine .of_request h.peer hid rfl (getElem_insert_self _) ?_ (fun k hk => getElem_insert_ne hk _) rfl rfl
    rw [Std.TreeMap.getD_eq_getD_getElem?]
    match hrequest : c.requests[data.id]? with
    | none =>
      rw [hfresh hid hrequest]
      exact .accept data haccepts
    | some (sender, receiver) => exact .recv data

/-- A generator of the server asks one receiver. -/
theorem process_steps (h : Kept host c.toStreams log) {id : UInt64} {r : Except Error Event}
    (hprocess : c.process id = some (r, c')) :
    Steps host turn c.toStreams log c'.toStreams (noteHeard log id r) := by
  by_cases hcontrol : id = c.control.2.id
  · rw [process_control hcontrol] at hprocess
    obtain ⟨rfl, rfl⟩ := Prod.mk.inj (Option.some.inj hprocess)
    obtain ⟨-, -, hrequests⟩ := c.processControl_receiver Control.serverProcess
    have hown : (c.processControl Control.serverProcess).2.control.1 = c.control.1 := by
      unfold Streams.processControl
      rcases c.control.2.process Control.serverProcess with ⟨e | event, receiver⟩
      · rfl
      · cases event <;> rfl
    exact .of_control (hcontrol ▸ h.peer) (fun k => congrArg (fun m : Requests => m[k]?) hrequests)
      (congrArg _ hown) (c.processControl_id _) rfl
  · match hrequest : c.requests[id]? with
    | none =>
      rw [process_throws hcontrol hrequest] at hprocess
      cases hprocess
    | some (sender, receiver) =>
      rw [process_request hcontrol hrequest] at hprocess
      obtain ⟨rfl, rfl⟩ := Prod.mk.inj (Option.some.inj hprocess)
      exact .of_request h.peer (h.dialogue hrequest).1 hrequest (getElem_insert_self _)
        (.process Request.serverProcess rfl) (fun k hk => getElem_insert_ne hk _) rfl rfl

end Server.Connection

namespace Client.Connection

variable {c c' : Connection}

/-- Data at the client reaches its stream, which is there. -/
theorem recvData_steps (h : Kept host c.toStreams log) {data : Quic.Data}
    (hthere : ¬ isControl data.id →
      c.requests[data.id]? ≠ none ∧ ¬ unidirectional data.id = true) :
    Steps host turn c.toStreams log (c.recvData data).2.toStreams (noteGot log data) := by
  by_cases hid : isControl data.id
  · have hsame : ∀ {r : Except Error Unit × Connection}, r = c.recvData data →
        (∀ k : UInt64, r.2.requests[k]? = c.requests[k]?) ∧ r.2.control.1.id = c.control.1.id ∧
          r.2.control.2.id = c.control.2.id := by
      rintro _ rfl
      by_cases hcontrol : data.id = c.control.2.id
      · rw [recvData_control hcontrol]
        exact ⟨fun _ => rfl, rfl, c.recvControl_id data⟩
      · have hrequest := h.control data.id hid
        unfold recvData
        rw [if_neg hcontrol]
        split
        · exact ⟨fun _ => rfl, rfl, rfl⟩
        · rw [hrequest]
          exact ⟨fun _ => rfl, rfl, rfl⟩
    obtain ⟨hrequests, hown, hpeer⟩ := hsame rfl
    exact .of_control hid hrequests hown hpeer rfl
  · obtain ⟨hsome, hbidirectional⟩ := hthere hid
    have hcontrol : data.id ≠ c.control.2.id := by
      intro heq
      rw [heq] at hid
      exact hid h.peer
    obtain ⟨⟨sender, receiver⟩, hrequest⟩ := Option.ne_none_iff_exists'.mp hsome
    rw [recvData_request hcontrol hbidirectional hrequest]
    exact .of_request h.peer hid hrequest (getElem_insert_self _) (.recv data)
      (fun k hk => getElem_insert_ne hk _) rfl rfl

/-- A request that is not at its end stays. -/
theorem processed_other {id : UInt64} {sender : Sender} {r : Except Error Event × Receiver}
    (hr : ∀ i, r.1 ≠ .ok (.finished i)) :
    c.processed id sender r = { c with requests := c.requests.insert id (sender, r.2) } := by
  unfold processed
  split
  · exact absurd rfl (hr _)
  · rfl

/-- A generator of the client asks one receiver, and a request whose end was heard leaves. -/
theorem process_steps (h : Kept host c.toStreams log) {id : UInt64} {r : Except Error Event}
    (hprocess : c.process id = some (r, c')) :
    Steps host turn c.toStreams log c'.toStreams (noteHeard log id r) := by
  have hquiet {e : Error} (heq : c.process id = some (.error e, c)) :
      Steps host turn c.toStreams log c'.toStreams (noteHeard log id r) := by
    obtain ⟨rfl, rfl⟩ := Prod.mk.inj (Option.some.inj (heq.symm.trans hprocess))
    rw [noteHeard_nil rfl]
    exact .of_requests (fun _ => rfl) rfl rfl (fun _ _ => rfl) rfl
  by_cases hcontrol : id = c.control.2.id
  · rw [process_control hcontrol] at hprocess
    obtain ⟨rfl, rfl⟩ := Prod.mk.inj (Option.some.inj hprocess)
    obtain ⟨-, -, hrequests⟩ := c.processControl_receiver Control.clientProcess
    have hown : (c.processControl Control.clientProcess).2.control.1 = c.control.1 := by
      unfold Streams.processControl
      rcases c.control.2.process Control.clientProcess with ⟨e | event, receiver⟩
      · rfl
      · cases event <;> rfl
    exact .of_control (hcontrol ▸ h.peer) (fun k => congrArg (fun m : Requests => m[k]?) hrequests)
      (congrArg _ hown) (c.processControl_id _) rfl
  · by_cases hu : unidirectional id = true
    · exact hquiet (process_unidirectional hcontrol hu)
    · match hrequest : c.requests[id]? with
      | none => exact hquiet (process_none hcontrol hu hrequest)
      | some (sender, receiver) =>
        rw [process_request hcontrol hu hrequest] at hprocess
        obtain ⟨rfl, rfl⟩ := Prod.mk.inj (Option.some.inj hprocess)
        have hid := (h.dialogue hrequest).1
        by_cases hfinished : receiver.finished = true
        · rw [Receiver.process_finished hfinished]
          exact .of_request h.peer hid hrequest getElem_erase_self (.finish hfinished)
            (fun k hk => getElem_erase_ne hk) rfl rfl
        · have hother : ∀ i, (receiver.process Request.clientProcess).1 ≠ .ok (.finished i) :=
            fun i hi => hfinished (finished_of_process hi)
          rw [processed_other hother]
          exact .of_request h.peer hid hrequest (getElem_insert_self _) (.process Request.clientProcess rfl)
            (fun k hk => getElem_insert_ne hk _) rfl rfl

end Client.Connection

end Steps

end Bnl.Http3.Endpoint
