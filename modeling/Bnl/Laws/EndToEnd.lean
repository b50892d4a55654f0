import Bnl.Laws.Exchange

/-!
# What both ends hear

The invariant of an exchange: each endpoint is in line with what passed on its streams, and what came to one of
them was sent by the other. From it, whatever the order of the actions and the cuts of the network, what is
heard at one end begins what was said at the other.

**The laws**: in every run whose actions are admitted

* `exchange_conveys`: each step is taken, and what is heard of a stream is a beginning of its message: headers
  first and in order, then parts of the body, and the end behind the whole of both or not at all.
* `exchange_sound`: a receiver fails only for want of bytes, or as a client's that waits for its request to be
  sent, or at the end of a message that it has handed out whole.

The idea of the proof: `Inv` is kept by the steps of either end (`step_server`, `step_client`). An end that acts
keeps its own streams in line (`Kept.steps`); for the other end nothing changes but that more may have been
sent, and what came before is still the beginning of it (`Carried.others`). Of a message of which only a
beginning came it is not yet known which message it is; so `Listens` speaks of all that begin so, and `conveys`
picks the one that was said.

**What it does not establish.** That the end is heard once everything came: for one response that is in
`Program`, for a receiver alone in `Delivery`. An application that says nothing leaves the other end waiting.
-/

namespace Bnl.Http3.Endpoint

open Bnl.Base Entries Request

/-! ## The steps of an endpoint -/

section Party

variable {C : Type} {party : Party C} {host : Host} {turn : Turn} {p p' : Peer C}
  {a : Action}

/-- A generator asks for its stream, unless it is at its end, and keeps the answer if it is one. -/
theorem Generator.next_cases {process : C → UInt64 → Option (Except Error Event × C)} {g g' : Generator}
    {c c' : C} {more : Bool} (h : g.next process c = some (more, g', c')) :
    (more = false ∧ c' = c) ∨ ∃ r, process c g.id = some (r, c') ∧
      (more = true ∧ answered g'.r = answered r ∨ more = false ∧ answered r = []) := by
  cases hfinished : g.finished_ with
  | true =>
    rw [next_finished hfinished] at h
    cases h
    exact .inl ⟨rfl, rfl⟩
  | false =>
    unfold next at h
    rw [hfinished, if_neg Bool.false_ne_true] at h
    refine .inr ?_
    match hprocess : process c g.id with
    | none =>
      rw [hprocess] at h
      cases h
    | some (.error e, c'') =>
      rw [hprocess] at h
      cases e <;> cases h
      case incomplete => exact ⟨_, rfl, .inr ⟨rfl, rfl⟩⟩
      all_goals exact ⟨_, rfl, .inl ⟨rfl, rfl⟩⟩
    | some (.ok event, c'') =>
      rw [hprocess] at h
      cases event <;>
        cases h
      all_goals exact ⟨_, rfl, .inl ⟨rfl, rfl⟩⟩

/-- What data does to a connection, it does by `recvData`. -/
theorem Generator.recv_snd {recvData : C → Quic.Data → Except Error Unit × C} (c : C) (data : Quic.Data) :
    (Generator.recv recvData c (.data data)).2 = (recvData c data).2 := by
  unfold Generator.recv
  dsimp only
  rcases recvData c data with ⟨e | u, c'⟩ <;> rfl

/-- A generator that cannot be asked makes no step. -/
theorem Side.step_next_stuck {i : Nat} {g : Generator} (hi : p.world.generators[i]? = some g)
    (hnext : g.next party.process p.world.connection = none) : party.toSide.step p.world (.next i) = none := by
  unfold Side.step
  dsimp only
  rw [hi]
  dsimp only
  rw [hnext]

/-- What a generator that is asked leaves on the logs. -/
theorem Party.note_next {i : Nat} {g g' : Generator} {more : Bool} {c' : C}
    (hi : p.world.generators[i]? = some g) (hnext : g.next party.process p.world.connection = some (more, g', c')) :
    party.note p (.next i) = if more then noteHeard p.log g.id g'.r else p.log := by
  unfold Party.note
  dsimp only
  rw [hi]
  dsimp only
  rw [hnext]
  cases more <;> rfl

/-- Where no generator answers, nothing passes. -/
theorem Party.note_next_none {i : Nat}
    (hi : ∀ g, p.world.generators[i]? = some g → g.next party.process p.world.connection = none) :
    party.note p (.next i) = p.log := by
  unfold Party.note
  dsimp only
  match hg : p.world.generators[i]? with
  | none => rfl
  | some g =>
    dsimp only
    rw [hi g hg]

/-- **An action is one call of one function**, or leaves the connection alone. -/
theorem Party.steps (streams : C → Streams)
    (hrecv : ∀ data, a = .recv (.data data) → Steps host turn (streams p.world.connection) p.log
      (streams (party.recv p.world.connection (.data data)).2) (noteGot p.log data))
    (herror : ∀ e, (party.recv p.world.connection (.error e)).2 = p.world.connection)
    (hprocess : ∀ {id r c'}, party.process p.world.connection id = some (r, c') →
      Steps host turn (streams p.world.connection) p.log (streams c') (noteHeard p.log id r))
    (hhandle : ∀ id, a = .handle id → Steps host turn (streams p.world.connection) p.log
      (streams (party.handle p.world.connection id)) p.log)
    (hcall : ∀ id call, a = .call id call → Steps host turn (streams p.world.connection) p.log
      (streams (party.call p.world.connection id call)) (Function.update p.log id { p.log id with
        said := (p.log id).said.note call (party.answer p.world.connection id call) }))
    (hsend : a = .send → Steps host turn (streams p.world.connection) p.log
      (streams (party.send p.world.connection)) (Streams.noteSent p.log (party.event p.world.connection)))
    (hs : party.step p a = some p') :
    Steps host turn (streams p.world.connection) p.log (streams p'.world.connection) p'.log := by
  have hsame {w : World C} (hw : w.connection = p.world.connection) :
      Steps host turn (streams p.world.connection) p.log (streams w.connection) p.log := by
    rw [hw]
    exact .of_requests (fun _ => rfl) rfl rfl (fun _ _ => rfl) rfl
  obtain ⟨world, hworld, rfl⟩ := Option.map_eq_some_iff.mp hs
  cases a with
  | recv event =>
    have hconnection : world.connection = (party.recv p.world.connection event).2 := by
      unfold Side.step at hworld
      dsimp only at hworld
      have hnote : (p.world.note event).connection = p.world.connection := by cases event <;> rfl
      rw [hnote] at hworld
      rcases hr : party.recv p.world.connection event with ⟨e | g, c⟩
      all_goals
        rw [hr] at hworld
        cases hworld
        rfl
    cases event with
    | error e => exact hsame (hconnection.trans (herror e))
    | data data =>
      have hsteps := hrecv data rfl
      rw [← hconnection] at hsteps
      exact hsteps
  | next i =>
    match hi : p.world.generators[i]? with
    | none =>
      rw [Side.step_next_none hi] at hworld
      cases hworld
      dsimp only
      rw [Party.note_next_none fun g hg => nomatch hi.symm.trans hg]
      exact hsame rfl
    | some g =>
      match hnext : g.next party.process p.world.connection with
      | none =>
        rw [Side.step_next_stuck hi hnext] at hworld
        cases hworld
      | some (more, g', c') =>
        rw [Side.step_next_some hi hnext] at hworld
        cases hworld
        dsimp only
        rw [Party.note_next hi hnext]
        rcases Generator.next_cases hnext with ⟨rfl, rfl⟩ | ⟨r, hr, ⟨rfl, hheard⟩ | ⟨rfl, hquiet⟩⟩
        · exact hsame rfl
        · have hsteps := hprocess hr
          unfold noteHeard at hsteps ⊢
          rw [← hheard] at hsteps
          exact hsteps
        · have hsteps := hprocess hr
          rw [noteHeard_nil hquiet] at hsteps
          exact hsteps
  | get i =>
    unfold Side.step at hworld
    dsimp only at hworld
    split at hworld <;>
      · cases hworld
        exact hsame rfl
  | drop i =>
    cases hworld
    exact hsame rfl
  | handle id =>
    cases hworld
    exact hhandle id rfl
  | call id call =>
    cases hworld
    exact hcall id call rfl
  | send =>
    cases hworld
    exact hsend rfl

end Party

/-! ## The two endpoints -/

variable {host : Host}

/-- What one step of the server does: requests come by data. -/
theorem Server.steps {p p' : Peer Server.Connection} {a : Action}
    (h : Kept host p.world.connection.toStreams p.log) (hlives : Server.Lives host p.world a p'.world)
    (hrecv : ∀ data, a = .recv (.data data) → data.id ≠ p.world.connection.control.1.id ∧
      (¬ isControl data.id → p.world.connection.requests[data.id]? = none → p.log data.id = {}))
    (hcall : ∀ id call, a = .call id call → (p.log id).said.Admits host call)
    (hs : (Server.party host).step p a = some p') :
    Steps host { accepts := fun _ => True } p.world.connection.toStreams p.log p'.world.connection.toStreams
      p'.log := by
  refine Party.steps Server.Connection.toStreams (fun data ha => ?_) (fun _ => rfl)
    (fun hprocess => Server.Connection.process_steps h hprocess)
    (fun _ _ => .of_requests (fun _ => rfl) rfl rfl (fun _ _ => rfl) rfl)
    (fun id call ha => Streams.callHandle_steps h id call (hcall id call ha)) (fun ha => ?_) hs
  · obtain ⟨hown, hfresh⟩ := hrecv data ha
    have hconnection : ((Server.party host).recv p.world.connection (.data data)).2 =
        (p.world.connection.recvData data).2 := Generator.recv_snd p.world.connection data
    rw [hconnection]
    exact Server.Connection.recvData_steps h hown trivial hfresh
  · refine Streams.send_steps h (fun sender receiver => ?_) fun hrequest _ hnone => ?_
    · unfold Server.Connection.sent
      by_cases hfinished : sender.finished = true
      · exact .inl (if_pos hfinished)
      · exact .inr ⟨receiver, if_neg hfinished, .inl rfl⟩
    · obtain ⟨world, hworld, rfl⟩ := Option.map_eq_some_iff.mp hs
      subst ha
      cases hworld
      exact (hlives.leaves hrequest hnone).2

/-- What one step of the client does: requests come by `request`. -/
theorem Client.steps {p p' : Peer Client.Connection} {a : Action}
    (h : Kept host p.world.connection.toStreams p.log)
    (hrecv : ∀ data, a = .recv (.data data) → ¬ isControl data.id →
      p.world.connection.requests[data.id]? ≠ none ∧ ¬ unidirectional data.id = true)
    (hhandle : ∀ id, a = .handle id → ¬ isControl p.world.connection.nextStreamId ∧
      p.world.connection.requests[p.world.connection.nextStreamId]? = none ∧
        p.log p.world.connection.nextStreamId = {})
    (hcall : ∀ id call, a = .call id call → (p.log id).said.Admits host call)
    (hs : (Client.party host).step p a = some p') :
    Steps host { opens := fun k => (∃ id, a = .handle id) ∧ k = p.world.connection.nextStreamId }
      p.world.connection.toStreams p.log p'.world.connection.toStreams p'.log := by
  refine Party.steps Client.Connection.toStreams (fun data ha => ?_) (fun _ => rfl)
    (fun hprocess => Client.Connection.process_steps h hprocess) (fun id ha => ?_)
    (fun id call ha => Streams.callHandle_steps h id call (hcall id call ha)) (fun _ => ?_) hs
  · have hconnection : ((Client.party host).recv p.world.connection (.data data)).2 =
        (p.world.connection.recvData data).2 := Generator.recv_snd p.world.connection data
    rw [hconnection]
    exact Client.Connection.recvData_steps h (hrecv data ha)
  · obtain ⟨hid, hnone, hlog⟩ := hhandle id ha
    have hself : ((Client.party host).handle p.world.connection id).requests[
        p.world.connection.nextStreamId]? =
          some ({ id := p.world.connection.nextStreamId }, { id := p.world.connection.nextStreamId }) := by
      show (p.world.connection.requests.insertIfNew _ _)[_]? = _
      rw [Std.TreeMap.getElem?_insertIfNew, if_pos]
      refine ⟨Std.ReflCmp.compare_self, fun hmem => ?_⟩
      have hsome := Std.TreeMap.isSome_getElem?_iff_mem.mpr hmem
      rw [hnone] at hsome
      cases hsome
    have hother (k : UInt64) (hk : k ≠ p.world.connection.nextStreamId) :
        ((Client.party host).handle p.world.connection id).requests[k]? =
          p.world.connection.requests[k]? := by
      show (p.world.connection.requests.insertIfNew _ _)[_]? = _
      rw [Std.TreeMap.getElem?_insertIfNew, if_neg]
      rintro ⟨heq, -⟩
      exact hk (Std.LawfulEqCmp.eq_of_compare heq).symm
    have hsteps : Steps host { opens := fun k => (∃ id, a = .handle id) ∧ k = p.world.connection.nextStreamId }
        p.world.connection.toStreams p.log ((Client.party host).handle p.world.connection id).toStreams
        (Function.update p.log p.world.connection.nextStreamId (p.log p.world.connection.nextStreamId)) :=
      .of_request h.peer hid hnone hself (hlog ▸ .request ⟨⟨id, ha⟩, rfl⟩) hother rfl rfl
    rw [Function.update_eq_self] at hsteps
    exact hsteps
  · refine Streams.send_steps h (fun sender receiver => .inr ?_) fun _ hnone => nomatch hnone
    refine ⟨_, rfl, ?_⟩
    by_cases hclosed : receiver.closed = true
    · exact .inr ⟨if_pos hclosed, hclosed⟩
    · exact .inl (if_neg hclosed)

/-! ## The exchange -/

namespace Exchange

/-- What came to one end was sent by the other, on every stream. -/
def Carried (mine theirs : UInt64 → Log) : Prop :=
  ∀ k, ¬ isControl k → (mine k).got ≠ [] → Carries (theirs k).sent (mine k).got

/-- What holds of every exchange a run comes to. -/
structure Inv (host : Host) (x : Exchange) : Prop where
  client : Kept host x.client.world.connection.toStreams x.client.log
  server : Kept host x.server.world.connection.toStreams x.server.log
  client_own : x.client.world.connection.control.1.id = x.server.world.connection.control.2.id
  server_own : x.server.world.connection.control.1.id = x.client.world.connection.control.2.id
  lives : Server.Inv x.server.world
  to_client : Carried x.client.log x.server.log
  to_server : Carried x.server.log x.client.log
  next : x.client.world.connection.nextStreamId.toNat % 4 = 0
  fresh : ∀ k : UInt64, k.toNat % 4 ≠ 0 ∨ x.client.world.connection.nextStreamId ≤ k →
    x.client.world.connection.requests[k]? = none ∧ (¬ isControl k → x.client.log k = {})
  opened : ∀ k, ¬ isControl k → (x.server.log k).got = [] →
    x.server.world.connection.requests[k]? = none ∧ x.server.log k = {}

theorem inv_start (host : Host) : Inv host {} := by
  have hempty (k : UInt64) : (∅ : Requests)[k]? = none := Std.TreeMap.getElem?_emptyc
  have htracks (k : UInt64) : Tracks host k {} (∅ : Requests)[k]? := by
    rw [hempty k]
    exact .inl rfl
  exact {
    client := ⟨fun k _ => htracks k, fun k _ => hempty k, .inl rfl, .inr rfl, nofun, rfl⟩
    server := ⟨fun k _ => htracks k, fun k _ => hempty k, .inr rfl, .inl rfl, nofun, rfl⟩
    client_own := rfl
    server_own := rfl
    lives := Server.inv_start
    to_client := fun k _ hgot => absurd rfl hgot
    to_server := fun k _ hgot => absurd rfl hgot
    next := rfl
    fresh := fun k _ => ⟨hempty k, fun _ => rfl⟩
    opened := fun k _ _ => ⟨hempty k, rfl⟩ }

/-! ### What was carried -/

section Carried

variable {s s' : Streams} {mine theirs log' : UInt64 → Log} {turn : Turn} {k : UInt64}

/-- A message there always is. -/
def anything : Said := { headers := [getHeader], bodies := [⟨[0x68, 0x69]⟩] }

/-- It is a header block of three bytes, then a body of two. -/
theorem anything_wire : anything.Wire [1, 3, 0, 0, 0xd1, 0, 2, 0x68, 0x69] :=
  ⟨List.cons_ne_nil _ _, _, _, getHeader_roundTrips.reads, getWire_message, rfl⟩

/-- Where something was sent there is or was a request. -/
theorem speaks_of_sent {log : Log} {request : Option (Sender × Receiver)} (h : Tracks host k log request)
    (hsent : log.sent ≠ []) : ∃ sender accepted, Speaks host log.said sender log.sent accepted := by
  cases request with
  | some request =>
    obtain ⟨accepted, hspeaks⟩ := Dialogue.speaks h
    exact ⟨request.1, accepted, hspeaks⟩
  | none =>
    rcases h with hlog | ⟨sender, receiver, hdialogue, -⟩
    · rw [hlog] at hsent
      exact absurd rfl hsent
    · obtain ⟨accepted, hspeaks⟩ := hdialogue.speaks
      exact ⟨sender, accepted, hspeaks⟩

/-- What came is the beginning of a message. -/
theorem Carried.wire (h : Carried mine theirs) (hkept : Kept host s theirs) (hk : ¬ isControl k) :
    ∃ (said : Said) (wire : List UInt8), said.Wire wire ∧ eventBytes (mine k).got <+: wire := by
  have hnothing (hgot : eventBytes (mine k).got = []) :
      ∃ (said : Said) (wire : List UInt8), said.Wire wire ∧ eventBytes (mine k).got <+: wire :=
    ⟨anything, _, anything_wire, hgot ▸ List.nil_prefix⟩
  by_cases hgot : (mine k).got = []
  · exact hnothing (by rw [hgot]; rfl)
  · obtain ⟨hsent, hbytes, -⟩ := h k hk hgot
    obtain ⟨sender, accepted, hspeaks⟩ := speaks_of_sent (hkept.tracks k hk) hsent
    rcases hspeaks.begins with hnil | ⟨wire, hwire, hbegins⟩
    · exact hnothing (List.prefix_nil.mp (hnil ▸ hbytes))
    · exact ⟨_, wire, hwire, hbytes.trans hbegins⟩

/-- Nothing comes behind the end of a stream. -/
theorem Carries.open {sent got : List Quic.Data} {data : Quic.Data} (h : Carries sent (got ++ [data])) :
    ∀ d ∈ got, d.fin = false := by
  obtain ⟨-, -, hlast, -⟩ := h
  rwa [List.dropLast_concat] at hlast

/-- More that is sent does not change what came, for nothing is sent behind an end that came. -/
theorem Carries.sends {sent got : List Quic.Data} (h : Carries sent got) (data : Quic.Data)
    (hopen : ∀ d ∈ sent, d.fin = false) : Carries (sent ++ [data]) got := by
  obtain ⟨hsent, hbytes, hlast, hwhole⟩ := h
  refine ⟨List.append_ne_nil_of_left_ne_nil hsent _, hbytes.trans ?_, hlast, fun hfin => ?_⟩
  · rw [eventBytes_append]
    exact List.prefix_append _ _
  · obtain ⟨-, d, hmem, hd⟩ := hwhole hfin
    exact nomatch (hopen d hmem).symm.trans hd

/-- A sender that sends an event has not sent its last. -/
theorem open_of_send {said : Said} {sender sender' : Sender} {sent : List Quic.Data}
    {accepted : List Buffer} (h : Speaks host said sender sent accepted) {event : Quic.Event}
    (hsend : sender.send host = (.ok event, sender')) : ∀ d ∈ sent, d.fin = false := by
  intro d hmem
  refine eq_false_of_ne_true fun hd => ?_
  have hfinished := (h.closes ⟨d, hmem, hd⟩).1
  exact nomatch (Sender.unfinished_of_send (congrArg Prod.fst hsend)).symm.trans hfinished

/-- What the other end does leaves what came as it is. -/
theorem Carried.others (h : Carried mine theirs) (hkept : Kept host s theirs)
    (hsteps : Steps host turn s theirs s' log') : Carried mine log' := by
  intro k hk hgot
  have hcarries := h k hk hgot
  have htracks := hkept.tracks k hk
  have hmoves := hsteps.moves k hk
  generalize s.requests[k]? = request, s'.requests[k]? = request' at htracks hmoves
  generalize theirs k = log, log' k = log' at htracks hmoves hcarries
  cases hmoves with
  | send hsend _ =>
    obtain ⟨accepted, hspeaks⟩ := htracks.speaks
    exact hcarries.sends _ (open_of_send hspeaks hsend)
  | leave hsend _ =>
    obtain ⟨accepted, hspeaks⟩ := htracks.speaks
    exact hcarries.sends _ (open_of_send hspeaks hsend)
  | accept => exact absurd rfl hcarries.1
  | request => exact absurd rfl hcarries.1
  | _ => exact hcarries

/-- Events come by `recv`, and in no other way. -/
theorem note_got {C : Type} (party : Party C) (p : Peer C) (a : Endpoint.Action) (k : UInt64) :
    (party.note p a k).got = (p.log k).got ∨ ∃ data : Quic.Data, a = .recv (.data data) ∧ k = data.id ∧
      (party.note p a k).got = (p.log k).got ++ [data] := by
  have hupdate {id : UInt64} {l : Log} (hl : l.got = (p.log id).got) :
      (Function.update p.log id l k).got = (p.log k).got := by
    by_cases hk : k = id
    · rw [hk, Function.update_self, hl]
    · rw [Function.update_of_ne hk]
  cases a with
  | recv event =>
    cases event with
    | error e => exact .inl rfl
    | data data =>
      have hnote : party.note p (.recv (.data data)) = noteGot p.log data := rfl
      rw [hnote, noteGot]
      by_cases hk : k = data.id
      · subst hk
        rw [Function.update_self]
        exact .inr ⟨data, rfl, rfl, rfl⟩
      · rw [Function.update_of_ne hk]
        exact .inl rfl
  | next i =>
    refine .inl ?_
    match hnext : (p.world.generators[i]?.bind fun g => (g.next party.process p.world.connection).map fun r =>
        (g, r)) with
    | none =>
      rw [Party.note_next_none fun g hg => ?_]
      rw [hg] at hnext
      exact Option.map_eq_none_iff.mp hnext
    | some (g, more, g', c') =>
      obtain ⟨g₀, hg, hmap⟩ := Option.bind_eq_some_iff.mp hnext
      obtain ⟨r, hr, heq⟩ := Option.map_eq_some_iff.mp hmap
      obtain ⟨rfl, rfl⟩ := Prod.mk.inj heq
      rw [Party.note_next hg hr]
      cases more with
      | false => rfl
      | true => exact hupdate rfl
  | call id call => exact .inl (hupdate rfl)
  | send =>
    refine .inl ?_
    have hnote : party.note p .send = Streams.noteSent p.log (party.event p.world.connection) := by
      unfold Party.note Streams.noteSent
      rcases party.event p.world.connection with e | ⟨data | e⟩ <;> rfl
    rw [hnote]
    rcases party.event p.world.connection with e | ⟨data | e⟩
    · rfl
    · exact hupdate rfl
    · rfl
  | _ => exact .inl rfl

section Peer

variable {C : Type} {party : Party C} {p p' : Peer C} {a : Endpoint.Action}

/-- The log a step leaves is the one it notes. -/
theorem log_of_step (hs : party.step p a = some p') : p'.log = party.note p a := by
  obtain ⟨world, -, rfl⟩ := Option.map_eq_some_iff.mp hs
  rfl

/-- What an admitted action brings was sent by the other end. -/
theorem Carried.own (h : Carried p.log theirs) (ha : PeerAdmits host p.log theirs a)
    (hs : party.step p a = some p') : Carried p'.log theirs := by
  intro k hk hgot
  have hgot' := note_got party p a k
  rw [← log_of_step hs] at hgot'
  rcases hgot' with hsame | ⟨data, rfl, rfl, hmore⟩
  · rw [hsame] at hgot ⊢
    exact h k hk hgot
  · rw [hmore]
    exact ha

/-- An admitted action brings nothing behind the end of a stream. -/
theorem open_of_step (ha : PeerAdmits host p.log theirs a) (hs : party.step p a = some p')
    (hgot : (p'.log k).got ≠ (p.log k).got) : ∀ data ∈ (p.log k).got, data.fin = false := by
  have hgot' := note_got party p a k
  rw [← log_of_step hs] at hgot'
  rcases hgot' with hsame | ⟨data, rfl, rfl, -⟩
  · exact absurd hsame hgot
  · exact Carries.open ha

end Peer

end Carried

/-! ### One step -/

variable {x : Exchange}

/-- The ids of requests are bidirectional. -/
theorem unidirectional_of_mod {k : UInt64} (h : k.toNat % 4 = 0) : ¬ Client.unidirectional k = true := by
  have hand : k &&& 0x2 = 0 := by
    apply UInt64.toNat.inj
    rw [UInt64.toNat_and]
    show k.toNat &&& (3 &&& 2) = 0
    have hmask : k.toNat &&& 3 = 0 := (Nat.and_two_pow_sub_one_eq_mod k.toNat 2).trans h
    rw [← Nat.and_assoc, hmask]
    rfl
  unfold Client.unidirectional
  rw [hand]
  decide

/-- A stream whose end has not come, and whose request is not there, never had one. -/
theorem fresh_of_open {k : UInt64} {log : Log} (h : Tracks host k log none)
    (hopen : ∀ data ∈ log.got, data.fin = false) : log = {} := by
  rcases h with hlog | ⟨sender, receiver, hdialogue, hfin⟩
  · exact hlog
  · obtain ⟨data, hmem, hdata⟩ := hdialogue.listens.fin.mp hfin
    exact nomatch (hopen data hmem).symm.trans hdata

/-- Nothing comes without an event on the stream. -/
theorem opened_of_moves {turn : Turn} {k : UInt64} {log log' : Log}
    {request request' : Option (Sender × Receiver)} (hmoves : Moves host turn k log request log' request')
    (hopens : ¬ turn.opens k) (h : log.got = [] → request = none ∧ log = {}) (hgot : log'.got = []) :
    request' = none ∧ log' = {} := by
  cases hmoves with
  | stays => exact h hgot
  | recv data => exact absurd hgot (List.append_ne_nil_of_right_ne_nil _ (List.cons_ne_nil _ _))
  | accept data _ => exact absurd hgot (List.cons_ne_nil _ _)
  | request hopen => exact absurd hopen hopens
  | _ => exact nomatch (h hgot).1

/-- An admitted action of the server keeps the exchange. -/
theorem step_server (h : Inv host x) {a : Endpoint.Action} (ha : Admits host x (.server a)) :
    ∃ x', step host x (.server a) = some x' ∧ Inv host x' := by
  obtain ⟨hpeer, hadmits⟩ := ha
  obtain ⟨world, hworld, hlives, hinv⟩ : ∃ world, (Server.side host).step x.server.world a = some world ∧
      Server.Lives host x.server.world a world ∧ Server.Inv world := Server.step_lives x.server.world a h.lives hadmits
  obtain ⟨server, hserver⟩ : ∃ p', (Server.party host).step x.server a = some p' :=
    ⟨_, congrArg (Option.map _) hworld⟩
  have hserver_world : server.world = world := by
    obtain ⟨world', hworld', rfl⟩ := Option.map_eq_some_iff.mp hserver
    exact Option.some.inj (hworld'.symm.trans hworld)
  subst hserver_world
  have hsteps := Server.steps h.server hlives (fun data heq => ?_) (fun id call heq => ?_) hserver
  · refine ⟨{ x with server }, congrArg (Option.map _) hserver, {
      client := h.client
      server := h.server.steps hsteps (fun k _ => open_of_step hpeer hserver) fun k hk => h.to_server.wire h.client hk
      client_own := h.client_own.trans hsteps.peer.symm
      server_own := hsteps.own.trans h.server_own
      lives := hinv
      to_client := h.to_client.others h.server hsteps
      to_server := h.to_server.own hpeer hserver
      next := h.next
      fresh := h.fresh
      opened := fun k hk => opened_of_moves (hsteps.moves k hk) not_false (h.opened k hk) }⟩
  · subst heq
    refine ⟨fun hown => ?_, fun hid hnone => ?_⟩
    · have hsilent := h.client.silent
      rw [← h.server_own, ← hown] at hsilent
      exact hpeer.1 hsilent
    · have htracks := h.server.tracks data.id hid
      rw [hnone] at htracks
      exact fresh_of_open htracks (Carries.open hpeer)
  · subst heq
    exact hpeer

/-- The client's program never ends. -/
theorem client_some (host : Host) (p : Peer Client.Connection) (a : Endpoint.Action) :
    ∃ p', (Client.party host).step p a = some p' := by
  suffices hworld : ∃ world, (Client.side host).step p.world a = some world by
    obtain ⟨world, hworld⟩ := hworld
    exact ⟨_, congrArg (Option.map _) hworld⟩
  cases a with
  | recv event =>
    unfold Side.step
    dsimp only
    split <;> exact ⟨_, rfl⟩
  | next i =>
    match hi : p.world.generators[i]? with
    | none => exact ⟨_, Side.step_next_none hi⟩
    | some g =>
      cases hfinished : g.finished_ with
      | true => exact ⟨_, Side.step_next_some hi (Generator.next_finished hfinished)⟩
      | false =>
        obtain ⟨⟨r, c'⟩, hprocess⟩ := p.world.connection.process_some g.id
        obtain ⟨more, g', hnext, -⟩ := Generator.next_asks hfinished hprocess
        exact ⟨_, Side.step_next_some hi hnext⟩
  | get i =>
    unfold Side.step
    dsimp only
    split <;> exact ⟨_, rfl⟩
  | _ => exact ⟨_, rfl⟩

/-- Ids are given out by `request`, and nowhere else. -/
theorem next_of_step {p p' : Peer Client.Connection} {a : Endpoint.Action}
    (hs : (Client.party host).step p a = some p') :
    ((∃ id, a = .handle id) ∧
        p'.world.connection.nextStreamId = p.world.connection.nextStreamId + 4) ∨
      (¬ ∃ id, a = .handle id) ∧ p'.world.connection.nextStreamId = p.world.connection.nextStreamId := by
  have hrecv (c : Client.Connection) (data : Quic.Data) : (c.recvData data).2.nextStreamId = c.nextStreamId := by
    unfold Client.Connection.recvData
    split
    · rfl
    · split
      · rfl
      · split <;> rfl
  have hprocess {c c' : Client.Connection} {id : UInt64} {r : Except Error Event}
      (h : c.process id = some (r, c')) : c'.nextStreamId = c.nextStreamId := by
    unfold Client.Connection.process at h
    split at h
    · cases h
      rfl
    · split at h
      · cases h
        rfl
      · split at h
        · cases h
          rfl
        · split at h <;>
          · cases h
            rfl
  obtain ⟨world, hworld, rfl⟩ := Option.map_eq_some_iff.mp hs
  cases a with
  | handle id =>
    cases hworld
    exact .inl ⟨⟨id, rfl⟩, rfl⟩
  | recv event =>
    refine .inr ⟨nofun, ?_⟩
    cases event with
    | error e =>
      cases hworld
      rfl
    | data data =>
      have hkeeps := hrecv p.world.connection data
      unfold Side.step World.note at hworld
      dsimp only [Client.party, Client.side] at hworld
      unfold Client.Connection.recv Generator.recv at hworld
      dsimp only at hworld
      rcases hr : p.world.connection.recvData data with ⟨e | u, c⟩
      all_goals
        rw [hr] at hworld hkeeps
        cases hworld
        exact hkeeps
  | next i =>
    refine .inr ⟨nofun, ?_⟩
    match hi : p.world.generators[i]? with
    | none =>
      rw [Side.step_next_none hi] at hworld
      cases hworld
      rfl
    | some g =>
      match hnext : g.next (Client.party host).process p.world.connection with
      | none =>
        rw [Side.step_next_stuck hi hnext] at hworld
        cases hworld
      | some (more, g', c') =>
        rw [Side.step_next_some hi hnext] at hworld
        cases hworld
        rcases Generator.next_cases hnext with ⟨-, rfl⟩ | ⟨r, hr, -⟩
        · rfl
        · exact hprocess hr
  | get i =>
    refine .inr ⟨nofun, ?_⟩
    unfold Side.step at hworld
    dsimp only at hworld
    split at hworld <;>
    · cases hworld
      rfl
  | _ =>
    cases hworld
    exact .inr ⟨nofun, rfl⟩

/-- A stream that is not opened stays as it never was. -/
theorem fresh_of_moves {turn : Turn} {k : UInt64} {log log' : Log}
    {request request' : Option (Sender × Receiver)} (hmoves : Moves host turn k log request log' request')
    (haccepts : ¬ turn.accepts k) (hopens : ¬ turn.opens k) (hrequest : request = none) (hlog : log = {}) :
    request' = none ∧ log' = {} := by
  cases hmoves with
  | stays => exact ⟨hrequest, hlog⟩
  | accept data haccept => exact absurd haccept haccepts
  | request hopen => exact absurd hopen hopens
  | _ => cases hrequest

/-- An admitted action of the client keeps the exchange. -/
theorem step_client (h : Inv host x) {a : Endpoint.Action} (ha : Admits host x (.client a)) :
    ∃ x', step host x (.client a) = some x' ∧ Inv host x' := by
  obtain ⟨hpeer, hstreams⟩ := ha
  obtain ⟨client, hclient⟩ := client_some host x.client a
  have hcontrol : ¬ isControl x.client.world.connection.nextStreamId := by
    have hmod := h.next
    rintro (heq | heq) <;>
    · rw [heq] at hmod
      cases hmod
  have hsteps := Client.steps h.client (fun data heq hid => ?_) (fun _ _ => ⟨hcontrol, ?_⟩)
    (fun id call heq => ?_) hclient
  · have hnext : client.world.connection.nextStreamId.toNat % 4 = 0 ∧
        x.client.world.connection.nextStreamId ≤ client.world.connection.nextStreamId ∧
          ((∃ id, a = .handle id) →
            ¬ client.world.connection.nextStreamId ≤ x.client.world.connection.nextStreamId) := by
      rcases next_of_step hclient with ⟨⟨id, rfl⟩, heq⟩ | ⟨hnot, heq⟩
      · have hroom := hstreams.resolve_right fun hno => hno id rfl
        have hadd : client.world.connection.nextStreamId.toNat =
            x.client.world.connection.nextStreamId.toNat + 4 := by
          rw [heq, UInt64.toNat_add]
          exact Nat.mod_eq_of_lt hroom
        have hmod := h.next
        rw [UInt64.le_iff_toNat_le, UInt64.le_iff_toNat_le, hadd]
        exact ⟨by omega, by omega, fun _ => by omega⟩
      · rw [heq]
        exact ⟨h.next, UInt64.le_refl _, fun hhandle => absurd hhandle hnot⟩
    obtain ⟨hmod, hle, hmore⟩ := hnext
    refine ⟨{ x with client }, congrArg (Option.map _) hclient, {
      client := h.client.steps hsteps (fun k _ => open_of_step hpeer hclient) fun k hk => h.to_client.wire h.server hk
      server := h.server
      client_own := hsteps.own.trans h.client_own
      server_own := h.server_own.trans hsteps.peer.symm
      lives := h.lives
      to_client := h.to_client.own hpeer hclient
      to_server := h.to_server.others h.client hsteps
      next := hmod
      fresh := fun k hk => ?_
      opened := h.opened }⟩
    obtain ⟨hnone, hlog⟩ := h.fresh k (hk.imp_right (UInt64.le_trans hle))
    by_cases hid : isControl k
    · exact ⟨(hsteps.control k hid).trans hnone, fun hnot => absurd hid hnot⟩
    · have hopens : ¬ ((∃ id, a = .handle id) ∧ k = x.client.world.connection.nextStreamId) := by
        rintro ⟨hhandle, rfl⟩
        rcases hk with hk | hk
        · exact hk h.next
        · exact hmore hhandle hk
      obtain ⟨hnone', hlog'⟩ := fresh_of_moves (hsteps.moves k hid) not_false hopens hnone (hlog hid)
      exact ⟨hnone', fun _ => hlog'⟩
  · subst heq
    -- the server has sent on this stream, so something came to it, so the client has opened the stream
    have hserver : (x.server.log data.id).got ≠ [] := by
      intro hgot
      obtain ⟨-, hlog⟩ := h.opened data.id hid hgot
      exact hpeer.1 (by rw [hlog])
    have hclient_log : x.client.log data.id ≠ {} := by
      intro hlog
      exact (h.to_server data.id hid hserver).1 (by rw [hlog])
    have hold := mt (h.fresh data.id) fun hfresh => hclient_log (hfresh.2 hid)
    refine ⟨fun hnone => ?_, unidirectional_of_mod (not_not.mp (not_or.mp hold).1)⟩
    have htracks := h.client.tracks data.id hid
    rw [hnone] at htracks
    exact hclient_log (fresh_of_open htracks (Carries.open hpeer))
  · obtain ⟨hnone, hlog⟩ := h.fresh _ (.inr (UInt64.le_refl _))
    exact ⟨hnone, hlog hcontrol⟩
  · subst heq
    exact hpeer

/-! ## Runs -/

/-- What is heard at one end of what was said at the other. -/
def Conveys (id : UInt64) (theirs mine : Log) : Prop :=
  Hears id theirs.said.headers theirs.said.payload (theirs.said.ended = true) mine.heard

/-- Another message there always is. -/
def anythingElse : Said := { headers := [⟨ascii ":method", ascii "POST"⟩] }

/-- It is a header block of three bytes, with another header. -/
theorem anythingElse_wire : anythingElse.Wire [1, 3, 0, 0, 0xd4] := by
  have hround : Qpack.RoundTrips Qpack.xxHost [⟨ascii ":method", ascii "POST"⟩] [0, 0, 0xd4] :=
    ⟨⟨⟨.header, 3⟩, by decide⟩, ⟨.header, 3⟩, ⟨[]⟩, by decide, rfl⟩
  exact ⟨List.cons_ne_nil _ _, _, [], hround.reads, ⟨3, [1, 3], [], ⟨[1], [3], rfl, rfl, rfl⟩, rfl, .nil, rfl⟩, rfl⟩

/-- Who has heard nothing has heard the beginning. -/
theorem hears_nil {id : UInt64} {headers : List Header} {body : List UInt8} {ended : Prop} :
    Hears id headers body ended [] :=
  ⟨[], [], [], rfl, List.nil_prefix, nofun, List.nil_prefix, nofun, nofun, nofun⟩

/-- Of a message with one header the header is heard first. -/
theorem hears_first {id : UInt64} {header : Header} {body : List UInt8} {ended : Prop} {heard : List Event}
    (h : Hears id [header] body ended heard) :
    heard = [] ∨ ∃ rest, heard = .header id true header :: rest := by
  obtain ⟨heads, parts, ends, rfl, htells⟩ := h
  have hone : headersOf id [header] = [.header id true header] := rfl
  cases heads with
  | nil =>
    refine .inl ?_
    have hnil : ¬ (parts ≠ [] ∨ ends ≠ []) := fun hsome => by
      have hall := htells.in_order hsome
      rw [hone] at hall
      cases hall
    obtain ⟨hparts, hends⟩ := not_or.mp hnil
    rw [not_not.mp hparts, not_not.mp hends]
    rfl
  | cons first heads =>
    have hbegins := htells.begins
    rw [hone] at hbegins
    exact .inr ⟨heads ++ parts ++ ends, by rw [(List.cons_prefix_cons.mp hbegins).1]; rfl⟩

/-- A receiver that was told of no end and got no bytes says nothing: no two messages begin with the same
header. -/
theorem heard_nil {r : Receiver} {got : List Quic.Data} {heard : List Event} (h : Listens r got heard)
    (hfin : r.finReceived = false) (hgot : eventBytes got = []) : heard = [] := by
  have hears {said : Said} {wire : List UInt8} (hwire : said.Wire wire) :
      Hears r.id said.headers said.payload (r.finReceived = true) heard := by
    have hx : wire = eventBytes got ++ wire := by rw [hgot, List.nil_append]
    exact (h.follows hwire hx fun hend => (nomatch hfin.symm.trans hend)).hears
  rcases hears_first (hears anything_wire) with hnil | ⟨rest, hrest⟩
  · exact hnil
  · rcases hears_first (hears anythingElse_wire) with hnil | ⟨rest', hrest'⟩
    · exact hnil
    · have hfirst := (List.cons.inj (hrest.symm.trans hrest')).1
      exact absurd (Event.header.inj hfirst).2.2 (by decide)

/-- What came of what was said, of a message of the other end: the end with the whole of it, or its beginning. -/
theorem Carried.follows {s : Streams} {mine theirs : UInt64 → Log} (h : Carried mine theirs)
    (htheirs : Kept host s theirs) {k : UInt64} (hk : ¬ isControl k) {receiver : Receiver}
    (hlistens : Listens receiver (mine k).got (mine k).heard) :
    (∃ x, (receiver.finReceived = true → x = []) ∧ (receiver.finReceived = true → (theirs k).said.ended = true) ∧
        Follows (theirs k).said.headers (theirs k).said.payload receiver.onBytes x (mine k).heard) ∨
      receiver.finReceived = false ∧ (mine k).heard = [] ∧ ∃ (said : Said) (x : List UInt8),
        Follows said.headers said.payload receiver.onBytes x (mine k).heard := by
  by_cases hfin : receiver.finReceived = true
  · -- the end has come, and all that was sent with it
    obtain ⟨data, hmem, hdata⟩ := hlistens.fin.mp hfin
    obtain ⟨hsent, -, -, hwhole⟩ := h k hk (List.ne_nil_of_mem hmem)
    obtain ⟨hall, hclosed⟩ := hwhole ⟨data, hmem, hdata⟩
    obtain ⟨sender, accepted, hspeaks⟩ := speaks_of_sent (htheirs.tracks k hk) hsent
    obtain ⟨-, hended, hwire⟩ := hspeaks.closes hclosed
    have hx : eventBytes (theirs k).sent = eventBytes (mine k).got ++ [] := by rw [hall, List.append_nil]
    exact .inl ⟨[], fun _ => rfl, fun _ => hended, hlistens.follows hwire hx fun _ => rfl⟩
  · have hopen := eq_false_of_ne_true hfin
    have hnothing (hgot : eventBytes (mine k).got = []) : receiver.finReceived = false ∧ (mine k).heard = [] ∧
        ∃ (said : Said) (x : List UInt8),
          Follows said.headers said.payload receiver.onBytes x (mine k).heard := by
      have hx : [1, 3, 0, 0, 0xd1, 0, 2, 0x68, 0x69] = eventBytes (mine k).got ++
          [1, 3, 0, 0, 0xd1, 0, 2, 0x68, 0x69] := by rw [hgot, List.nil_append]
      exact ⟨hopen, heard_nil hlistens hopen hgot, anything, _,
        hlistens.follows anything_wire hx fun hend => absurd hend hfin⟩
    by_cases hgot : (mine k).got = []
    · exact .inr (hnothing (by rw [hgot]; rfl))
    · obtain ⟨hsent, hbytes, -⟩ := h k hk hgot
      obtain ⟨sender, accepted, hspeaks⟩ := speaks_of_sent (htheirs.tracks k hk) hsent
      rcases hspeaks.begins with hnil | ⟨wire, hwire, hbegins⟩
      · exact .inr (hnothing (List.prefix_nil.mp (hnil ▸ hbytes)))
      · obtain ⟨x, hx⟩ := hbytes.trans hbegins
        exact .inl ⟨x, fun hend => absurd hend hfin, fun hend => absurd hend hfin,
          hlistens.follows hwire hx.symm fun hend => absurd hend hfin⟩

/-- **What is heard was said.** -/
theorem conveys {s s' : Streams} {mine theirs : UInt64 → Log} (h : Carried mine theirs)
    (hmine : Kept host s mine) (htheirs : Kept host s' theirs) {k : UInt64} (hk : ¬ isControl k) :
    Conveys k (theirs k) (mine k) := by
  have hdialogue {receiver : Receiver} (hid : receiver.id = k)
      (hlistens : Listens receiver (mine k).got (mine k).heard) : Conveys k (theirs k) (mine k) := by
    rcases h.follows htheirs hk hlistens with ⟨x, -, hended, hfollows⟩ | ⟨-, hnil, -⟩
    · obtain ⟨heads, parts, ends, hheard, htells⟩ := hfollows.hears
      rw [show receiver.onBytes.id = k from hid] at htells
      exact ⟨heads, parts, ends, hheard, htells.begins, htells.of_body, htells.payload, htells.of_end,
        htells.in_order, fun hne => (htells.whole hne).imp_right hended⟩
    · unfold Conveys
      rw [hnil]
      exact hears_nil
  have htracks := hmine.tracks k hk
  match hrequest : s.requests[k]? with
  | some (sender, receiver) =>
    rw [hrequest] at htracks
    exact hdialogue htracks.receiver_id htracks.listens
  | none =>
    rw [hrequest] at htracks
    rcases htracks with hlog | ⟨sender, receiver, hd, -⟩
    · unfold Conveys
      rw [hlog]
      exact hears_nil
    · exact hdialogue hd.receiver_id hd.listens

/-- An admitted action of either end keeps the exchange. -/
theorem step_inv (x : Exchange) (a : Action) (h : Inv host x) (ha : Admits host x a) :
    ∃ x', step host x a = some x' ∧ Inv host x' := by
  cases a with
  | client a => exact step_client h ha
  | server a => exact step_server h ha

/-- What is heard at both ends, on every stream of a request. -/
def Safe (_ : Exchange) (_ : Action) (x : Exchange) : Prop :=
  ∀ k, ¬ isControl k →
    Conveys k (x.client.log k) (x.server.log k) ∧ Conveys k (x.server.log k) (x.client.log k)

/-- **What each end hears is what the other end has said**, as far as it has come: in every run whose actions are
admitted, whatever their order and however the network cuts the streams, every step is taken, the headers heard
on a stream are the first of those that were said, the parts of the body come behind all of them and begin the
body, and the end is heard behind the whole of it and nowhere else. -/
theorem exchange_conveys (host : Host) (actions : List Action)
    (h : Run.Meets (step host) (Admits host) {} actions) : Run.Always (step host) Safe {} actions := by
  refine Run.always_of_meets (I := Inv host) (fun x a hinv ha => ?_) (inv_start host) h
  obtain ⟨x', hx', hinv'⟩ := step_inv x a hinv ha
  exact ⟨x', hx', fun k hk => ⟨conveys hinv'.to_server hinv'.server hinv'.client hk,
    conveys hinv'.to_client hinv'.client hinv'.server hk⟩, hinv'⟩

/-- All that was said at one end was heard at the other, but for the end of it. -/
def Whole (id : UInt64) (theirs mine : Log) : Prop :=
  theirs.said.ended = true ∧ ∃ parts, mine.heard = headersOf id theirs.said.headers ++ parts ∧ Parts id parts ∧
    bodyBytes parts = theirs.said.payload

/-- How a receiver may fail. -/
def Fails (k : UInt64) (theirs mine : Log) (receiver : Receiver) (f : ProcessFrame) : Prop :=
  ∀ e, (receiver.process f).1 = .error e → e = .incomplete ∨ receiver.closed = true ∧ e = .internal ∨
    e = .malformedFrame ∧ Whole k theirs mine

/-- A receiver of a stream in line with what came fails as it may. -/
theorem fails {s s' : Streams} {mine theirs : UInt64 → Log} (h : Carried mine theirs) (hmine : Kept host s mine)
    (htheirs : Kept host s' theirs) {k : UInt64} {sender : Sender} {receiver : Receiver}
    (hrequest : s.requests[k]? = some (sender, receiver)) (f : ProcessFrame) :
    Fails k (theirs k) (mine k) receiver f := by
  intro e he
  obtain ⟨hk, hdialogue⟩ := hmine.dialogue hrequest
  have hprocess : receiver.onBytes.process f = (.error e, (receiver.process f).2.onBytes) := by
    rw [← receiver.process_bytes f]
    exact Prod.ext he rfl
  rcases h.follows htheirs hk hdialogue.listens with ⟨x, hx, hended, hfollows⟩ | ⟨hopen, -, said, x, hfollows⟩
  · rcases hfollows.fails hx hprocess with hinc | ⟨hclosed, hint⟩ | ⟨hmal, hfin, parts, hheard, hparts, hbody⟩
    · exact .inl hinc.1
    · exact .inr (.inl ⟨decide_eq_true hclosed, hint⟩)
    · rw [show receiver.onBytes.id = k from hdialogue.receiver_id] at hheard hparts
      exact .inr (.inr ⟨hmal, hended hfin, parts, hheard, hparts, hbody⟩)
  · rcases hfollows.fails (fun hend => (nomatch hopen.symm.trans hend)) hprocess with
      hinc | ⟨hclosed, hint⟩ | ⟨-, hfin, -⟩
    · exact .inl hinc.1
    · exact .inr (.inl ⟨decide_eq_true hclosed, hint⟩)
    · exact nomatch hopen.symm.trans hfin

/-- How the receivers of both ends may fail. -/
def Sound (_ : Exchange) (_ : Action) (x : Exchange) : Prop :=
  (∀ {k : UInt64} {sender : Sender} {receiver : Receiver},
    x.server.world.connection.requests[k]? = some (sender, receiver) →
      Fails k (x.client.log k) (x.server.log k) receiver serverProcess) ∧
    ∀ {k : UInt64} {sender : Sender} {receiver : Receiver},
      x.client.world.connection.requests[k]? = some (sender, receiver) →
        Fails k (x.server.log k) (x.client.log k) receiver clientProcess

/-- **Nothing of a message is lost to a failure**: in every run whose actions are admitted, a receiver that is asked
answers, or has too little of the message yet, or is a client's that waits for its request to be sent; or it
misses the end of a message whose headers and whole body it has handed out. -/
theorem exchange_sound (host : Host) (actions : List Action)
    (h : Run.Meets (step host) (Admits host) {} actions) : Run.Always (step host) Sound {} actions := by
  refine Run.always_of_meets (I := Inv host) (fun x a hinv ha => ?_) (inv_start host) h
  obtain ⟨x', hx', hinv'⟩ := step_inv x a hinv ha
  exact ⟨x', hx', ⟨fun hrequest => fails hinv'.to_server hinv'.server hinv'.client hrequest _,
    fun hrequest => fails hinv'.to_client hinv'.client hinv'.server hrequest _⟩, hinv'⟩

/-- A request with a body, delivered in three events, and an answer. -/
def getAndAnswer : List Action :=
  [.client (.handle 0), .client (.call 0 (.header getHeader)), .client (.call 0 .start),
    .client (.call 0 (.body ⟨[0x68, 0x69]⟩)), .client .send, .client .send, .client .send, .client .send,
    .server (.recv (.data { id := 0, buffer := ⟨[1, 3, 0, 0]⟩ })), .server (.next 0), .client (.call 0 .fin),
    .client .send, .client .send, .server (.recv (.data { id := 0, buffer := ⟨[0xd1, 0]⟩ })), .server (.next 1),
    .server (.recv (.data { id := 0, fin := true, buffer := ⟨[2, 0x68, 0x69]⟩ })), .server (.next 2),
    .server (.next 2), .server (.call 0 (.header ⟨ascii ":status", ascii "200"⟩)), .server (.call 0 .start),
    .server .send, .server .send, .server .send, .server .send, .client (.recv (.data { id := 0, buffer := ⟨[1]⟩ })),
    .client (.next 0)]

example : (Run.after (step Qpack.xxHost) {} getAndAnswer).map (fun x => (x.server.log 0).heard) =
    some [.header 0 true getHeader, .body 0 true ⟨[0x68, 0x69]⟩, .finished 0] := by decide +kernel

/-- Nothing of that request is lost. -/
theorem exchange_sound_get : Run.Always (step Qpack.xxHost) Sound {} getAndAnswer :=
  exchange_sound Qpack.xxHost getAndAnswer (by decide +kernel)

/-- And the server hears it as it was said, as far as it comes. -/
theorem exchange_conveys_get : Run.Always (step Qpack.xxHost) Safe {} getAndAnswer :=
  exchange_conveys Qpack.xxHost getAndAnswer (by decide +kernel)

end Exchange

end Bnl.Http3.Endpoint
