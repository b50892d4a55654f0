import Bnl.Laws.HeaderBlock
import Bnl.Laws.Streams
import Bnl.Library.Run

/-!
# The life of a request

An application receives, asks the generators it holds, writes responses or requests and sends, in any order. A
request comes into the map with its first data (server) or with `request` (client). The server erases it when
its sender is finished, the client when its receiver is; that the other half is finished too is up to the
application (`Admits`). Where every step is so admitted, no request leaves before both halves are finished, no
generator asks for a request that is gone, and no stream is taken for a new one.

**The law** is `requests_live`, one half for each endpoint. What is to hold of a step is `Lives`, and `Admits`
is on the state before the step: at the server that a response is not sent to its end before the request was
read to its end, and that no data comes behind the end of a stream; at the client that a response is not read to
its end before the request was sent.

**The invariants** differ. The server's (`Server.Inv`) relates the generators that are held to the requests that
are there, and the streams that were seen to those that ended. The client's is that senders are sound: one that
is finished has nothing queued. Most steps keep the requests (`Keeps`) or let them grow (`Grows`), and are done
with that; a send at the server and a last event at the client are the two that erase.

Both conditions are enough, and both are about what an application can see. That they are the weakest is not
shown; the two runs that fail without them are given.
-/

namespace Bnl.Http3.Endpoint

open Bnl.Base Entries

/-! ## Applications -/

/-- What an application does with a connection. -/
inductive Action where
  | recv (event : Quic.Event)
  | next (i : Nat)
  | get (i : Nat)
  | drop (i : Nat)
  | handle (id : UInt64)
  | call (id : UInt64) (call : Call)
  | send
  deriving DecidableEq, Repr

/-- A connection and the generators the application holds; with it, the streams data has come for,
and the streams whose end has come. -/
structure World (C : Type) where
  connection : C
  generators : List Generator := []
  seen : List UInt64 := []
  ended : List UInt64 := []

/-- The functions of a connection. `handle` stands for `request` and for `response`. -/
structure Side (C : Type) where
  recv : C → Quic.Event → Except Error Generator × C
  process : C → UInt64 → Option (Except Error Event × C)
  handle : C → UInt64 → C
  call : C → UInt64 → Call → C
  send : C → C

variable {C : Type}

/-- The streams and ends that are noted of an event. -/
def World.note (w : World C) : Quic.Event → World C
  | .data data =>
    { w with
      seen := data.id :: w.seen
      ended := if data.fin then data.id :: w.ended else w.ended }
  | .error _ => w

/-- An action. A generator that is not there is not asked; a `process` that throws ends the
program. -/
def Side.step (side : Side C) (w : World C) : Action → Option (World C)
  | .recv event =>
    let w := w.note event
    match side.recv w.connection event with
    | (.error _, connection) => some { w with connection }
    | (.ok g, connection) => some { w with connection, generators := w.generators ++ [g] }
  | .next i =>
    match w.generators[i]? with
    | none => some w
    | some g =>
      match g.next side.process w.connection with
      | none => none
      | some (_, g, connection) =>
        some { w with connection, generators := w.generators.set i g }
  | .get i =>
    match w.generators[i]? with
    | none => some w
    | some g => some { w with generators := w.generators.set i g.get.2 }
  | .drop i => some { w with generators := w.generators.eraseIdx i }
  | .handle id => some { w with connection := side.handle w.connection id }
  | .call id call => some { w with connection := side.call w.connection id call }
  | .send => some { w with connection := side.send w.connection }

namespace Side

variable {side : Side C} {w : World C} {i : Nat} {g : Generator}

theorem step_get_none (hi : w.generators[i]? = none) : side.step w (.get i) = some w := by
  unfold step
  dsimp only
  rw [hi]

theorem step_get_some (hi : w.generators[i]? = some g) :
    side.step w (.get i) = some { w with generators := w.generators.set i g.get.2 } := by
  unfold step
  dsimp only
  rw [hi]

theorem step_next_none (hi : w.generators[i]? = none) : side.step w (.next i) = some w := by
  unfold step
  dsimp only
  rw [hi]

theorem step_next_some {more : Bool} {g' : Generator} {c' : C} (hi : w.generators[i]? = some g)
    (hn : g.next side.process w.connection = some (more, g', c')) :
    side.step w (.next i) =
      some { w with connection := c', generators := w.generators.set i g' } := by
  unfold step
  dsimp only
  rw [hi]
  dsimp only
  rw [hn]

end Side

namespace Server

/-- The server, as an application sees it. -/
def side (host : Host) : Side Connection where
  recv := Connection.recv
  process := Connection.process
  handle c _ := c
  call c id call := (c.callHandle host id call).2
  send c := (c.send host).2

/-- When an action does no harm: a response is sent to its end only once the request was read to
its end, by every generator there is; and no data comes behind the end of its stream. -/
def Admits (w : World Connection) : Action → Prop
  | .send =>
    w.connection.control.1.state = .idle → ∀ e ∈ w.connection.requests.toList,
      Serves w.connection.requests.toList e → e.2.1.lastLeft = true →
        (e.2.2.finished = true ∧ e.2.2.finReceived = true) ∧
          ∀ g ∈ w.generators, g.id = e.1 → g.finished_ = true
  | .recv (.data data) => data.id ∉ w.ended
  | _ => True

instance (w : World Connection) : ∀ a, Decidable (Admits w a)
  | .send => inferInstanceAs (Decidable (_ → ∀ e ∈ w.connection.requests.toList, _ → _ → _))
  | .recv (.data data) => inferInstanceAs (Decidable (data.id ∉ w.ended))
  | .recv (.error _) => isTrue trivial
  | .next _ => isTrue trivial
  | .get _ => isTrue trivial
  | .drop _ => isTrue trivial
  | .handle _ => isTrue trivial
  | .call _ _ => isTrue trivial

/-- What is to hold of every step: a request leaves with both halves finished (the sender by this
very send), and data of a stream that was seen finds its request. -/
structure Lives (host : Host) (w : World Connection) (a : Action) (w' : World Connection) :
    Prop where
  leaves : ∀ {id : UInt64} {sender : Request.Sender} {receiver : Request.Receiver},
    w.connection.requests[id]? = some (sender, receiver) → w'.connection.requests[id]? = none →
      (sender.send host).2.finished = true ∧ receiver.finished = true
  fresh : ∀ {data}, a = .recv (.data data) → data.id ≠ w.connection.control.2.id →
    data.id ∈ w.seen → w.connection.requests[data.id]? ≠ none

end Server

namespace Client

/-- The client, as an application sees it. -/
def side (host : Host) : Side Connection where
  recv := Connection.recv
  process := Connection.process
  handle c _ := c.request.2
  call c id call := (c.callHandle host id call).2
  send c := (c.send host).2

/-- When an action does no harm: a generator is not asked for the end of a response whose request is
not sent to its end. -/
def Admits (w : World Connection) : Action → Prop
  | .next i => ∀ g ∈ w.generators[i]?, g.finished_ = false →
      ∀ request ∈ w.connection.requests[g.id]?,
        request.2.finished = true → request.1.finished = true
  | _ => True

instance (w : World Connection) : ∀ a, Decidable (Admits w a)
  | .next i => inferInstanceAs (Decidable (∀ g ∈ w.generators[i]?, _ → ∀ request ∈
      w.connection.requests[g.id]?, _ → _))
  | .recv _ => isTrue trivial
  | .get _ => isTrue trivial
  | .drop _ => isTrue trivial
  | .handle _ => isTrue trivial
  | .call _ _ => isTrue trivial
  | .send => isTrue trivial

/-- What is to hold of every step: a request leaves with both halves finished, and with nothing
queued. -/
def Lives (w : World Connection) (_ : Action) (w' : World Connection) : Prop :=
  ∀ {id : UInt64} {sender : Request.Sender} {receiver : Request.Receiver},
    w.connection.requests[id]? = some (sender, receiver) → w'.connection.requests[id]? = none →
      (sender.finished = true ∧ receiver.finished = true) ∧ sender.queued = []

end Client

/-! ## What the functions leave in place -/

namespace Request.Receiver

/-- No error changes whether the end was received. -/
theorem handleError_finReceived (f : ProcessFrame) (r : Receiver) (error : Error) :
    (handleError f r error).2.finReceived = r.finReceived := by
  unfold handleError
  split
  · rfl
  split
  · rcases Frame.decode r.buffers with ⟨e | frame, s⟩
    · rfl
    · cases frame with
      | headers size =>
        dsimp only
        split <;> rfl
      | _ => rfl
  · rfl

theorem process_finReceived (f : ProcessFrame) (r : Receiver) :
    (process f r).2.finReceived = r.finReceived := by
  unfold process
  cases r.state with
  | closed => rfl
  | fin => rfl
  | headers =>
    dsimp only
    rcases r.headers.decode r.buffers with ⟨e | header, headers, s⟩
    · exact handleError_finReceived f _ e
    · rfl
  | body =>
    dsimp only
    rcases r.body.decode r.buffers with ⟨e | part, body, s⟩
    · exact handleError_finReceived f _ e
    · dsimp only
      split
      · split <;> rfl
      · rfl

/-- The end of a stream is noted, by the receiver too. -/
theorem recv_finReceived {r : Receiver} {data : Quic.Data}
    (h : (r.recv data).2.finReceived = true) : r.finReceived = true ∨ data.fin = true := by
  unfold recv at h
  split at h
  · next hfin => exact .inl hfin
  · exact .inr h

end Request.Receiver

namespace Generator

variable {process : C → UInt64 → Option (Except Error Event × C)} {g : Generator} {c c' : C}

/-- A generator that is finished asks no more. -/
theorem next_finished (h : g.finished_ = true) : g.next process c = some (false, g, c) := if_pos h

/-- A generator that asks stays the generator of its stream. -/
theorem next_asks {r : Except Error Event} (h : g.finished_ = false)
    (hp : process c g.id = some (r, c')) :
    ∃ (more : Bool) (g' : Generator), g.next process c = some (more, g', c') ∧ g'.id = g.id := by
  unfold next
  rw [if_neg (by rw [h]; nofun), hp]
  rcases r with e | event
  · cases e <;> exact ⟨_, _, rfl, rfl⟩
  · cases event <;> exact ⟨_, _, rfl, rfl⟩

end Generator

/-- Requests that are there stay, with what their receivers know of the end, and none comes. -/
structure Keeps (s t : Streams) : Prop where
  id : t.control.2.id = s.control.2.id
  absent : ∀ {k : UInt64}, s.requests[k]? = none → t.requests[k]? = none
  present : ∀ {k : UInt64} {request : Request.Sender × Request.Receiver}, s.requests[k]? = some request →
    ∃ request', t.requests[k]? = some request' ∧ request'.2.finReceived = request.2.finReceived

namespace Keeps

variable {s t : Streams}

/-- What is kept is kept. -/
theorem refl (s : Streams) : Keeps s s := ⟨rfl, fun h => h, fun h => ⟨_, h, rfl⟩⟩

/-- The same requests are kept. -/
theorem of_requests (hid : t.control.2.id = s.control.2.id) (h : t.requests = s.requests) :
    Keeps s t := ⟨hid, fun hk => h ▸ hk, fun hk => ⟨_, h ▸ hk, rfl⟩⟩

/-- A request with another value. -/
theorem insert {id : UInt64} {request request' : Request.Sender × Request.Receiver}
    (h : s.requests[id]? = some request) (hfin : request'.2.finReceived = request.2.finReceived) :
    Keeps s { s with requests := s.requests.insert id request' } := by
  refine ⟨rfl, fun {k} hk => ?_, fun {k r} hk => ?_⟩
  · by_cases hid : k = id
    · rw [hid, h] at hk
      cases hk
    · exact (getElem_insert_ne hid _).trans hk
  · by_cases hid : k = id
    · subst hid
      obtain rfl := Option.some.inj (h.symm.trans hk)
      exact ⟨_, getElem_insert_self _, hfin⟩
    · exact ⟨_, (getElem_insert_ne hid _).trans hk, rfl⟩

/-- A call through a handle keeps the requests. -/
theorem callHandle (host : Host) (s : Streams) (id : UInt64) (call : Call) :
    Keeps s (s.callHandle host id call).2 := by
  unfold Streams.callHandle
  match h : s.requests[id]? with
  | none => exact refl s
  | some (sender, receiver) => exact insert h rfl

end Keeps

namespace Server

/-- `process` keeps the requests. -/
theorem Connection.process_keeps {c c' : Connection} {id : UInt64} {r : Except Error Event}
    (h : c.process id = some (r, c')) : Keeps c.toStreams c'.toStreams := by
  by_cases hid : id = c.control.2.id
  · rw [process_control hid] at h
    cases h
    exact .of_requests (c.processControl_id _) (c.processControl_receiver _).2.2
  · match hrequest : c.requests[id]? with
    | none =>
      rw [process_throws hid hrequest] at h
      cases h
    | some (sender, receiver) =>
      rw [process_request hid hrequest] at h
      cases h
      exact .insert hrequest (receiver.process_finReceived _)

/-- What holds of every world an admitted run comes to. -/
structure Inv (w : World Connection) : Prop where
  held : ∀ g ∈ w.generators, g.finished_ = false → g.id ≠ w.connection.control.2.id →
    w.connection.requests[g.id]? ≠ none
  gone : ∀ id ∈ w.seen, id ≠ w.connection.control.2.id → w.connection.requests[id]? = none →
    id ∈ w.ended
  ended : ∀ {id : UInt64} {request : Request.Sender × Request.Receiver},
    w.connection.requests[id]? = some request → request.2.finReceived = true → id ∈ w.ended

variable {host : Host} {w w' : World Connection}

/-- A new server. -/
def start : World Connection := { connection := {} }

theorem inv_start : Inv start := by
  refine ⟨nofun, nofun, fun {id request} h => ?_⟩
  exact nomatch Std.TreeMap.getElem?_emptyc.symm.trans h

/-- A step that keeps the requests, and asks no more than what was asked. -/
theorem Inv.keeps (h : Inv w) (hkeeps : Keeps w.connection.toStreams w'.connection.toStreams)
    (hseen : w'.seen = w.seen) (hended : w'.ended = w.ended)
    (hheld : ∀ g ∈ w'.generators, g.finished_ = false →
      ∃ g' ∈ w.generators, g'.finished_ = false ∧ g'.id = g.id) : Inv w' := by
  have hsome {k : UInt64} (hk : w.connection.requests[k]? ≠ none) :
      w'.connection.requests[k]? ≠ none := by
    obtain ⟨request, hrequest⟩ := Option.ne_none_iff_exists'.mp hk
    obtain ⟨request', hrequest', -⟩ := hkeeps.present hrequest
    exact Option.ne_none_iff_exists'.mpr ⟨request', hrequest'⟩
  refine ⟨fun g hg hlive hid => ?_, fun id hid hne hnone => ?_, fun {id request} hid hfin => ?_⟩
  · obtain ⟨g', hg', hlive', hsame⟩ := hheld g hg hlive
    rw [hkeeps.id] at hid
    exact hsame ▸ hsome (h.held g' hg' hlive' (hsame ▸ hid))
  · rw [hseen] at hid
    rw [hkeeps.id] at hne
    rw [hended]
    refine h.gone id hid hne (by_contra fun hk => ?_)
    exact hsome hk hnone
  · rw [hended]
    match hrequest : w.connection.requests[id]? with
    | none => exact nomatch (hkeeps.absent hrequest).symm.trans hid
    | some request' =>
      obtain ⟨request'', hrequest', hsame⟩ := hkeeps.present hrequest
      obtain rfl := Option.some.inj (hrequest'.symm.trans hid)
      exact h.ended hrequest (hsame ▸ hfin)

/-- Where the requests are kept, all there is to hold does. -/
theorem Lives.keeps {a : Action} (hkeeps : Keeps w.connection.toStreams w'.connection.toStreams)
    (ha : ∀ data, a ≠ .recv (.data data)) : Lives host w a w' := by
  refine ⟨fun {id sender receiver} h hnone => ?_, fun heq => absurd heq (ha _)⟩
  obtain ⟨request', hrequest', -⟩ := hkeeps.present h
  exact nomatch hnone.symm.trans hrequest'

/-- `recv` of data. -/
theorem recv_lives {data : Quic.Data} (h : Inv w) (hp : data.id ∉ w.ended) :
    ∃ w', (side host).step w (.recv (.data data)) = some w' ∧
      Lives host w (.recv (.data data)) w' ∧ Inv w' := by
  obtain ⟨c, generators, seen, ended⟩ := w
  -- what the data leaves of the requests: the one it belongs to is there, the others are as they were
  have hcontrol := c.recvData_id data
  have hown (hid : data.id ≠ c.control.2.id) : ∃ request,
      (c.recvData data).2.requests[data.id]? = some request ∧
        (request.2.finReceived = true → data.fin = true ∨ data.id ∈ ended) := by
    rw [Connection.recvData_request hid]
    refine ⟨_, getElem_insert_self _, fun hfin => ?_⟩
    rcases Request.Receiver.recv_finReceived hfin with hbefore | hfin
    · rw [Std.TreeMap.getD_eq_getD_getElem?] at hbefore
      match hrequest : c.requests[data.id]? with
      | none =>
        rw [hrequest] at hbefore
        cases hbefore
      | some request =>
        rw [hrequest] at hbefore
        exact .inr (h.ended hrequest hbefore)
    · exact .inl hfin
  have hother {k : UInt64} (hk : k ≠ data.id ∨ data.id = c.control.2.id) :
      (c.recvData data).2.requests[k]? = c.requests[k]? := by
    by_cases hid : data.id = c.control.2.id
    · rw [Connection.recvData_control hid]
      rfl
    · rw [Connection.recvData_request hid]
      exact getElem_insert_ne (hk.resolve_right hid) _
  have hstays {k : UInt64} (hk : c.requests[k]? ≠ none) : (c.recvData data).2.requests[k]? ≠ none := by
    by_cases hid : k ≠ data.id ∨ data.id = c.control.2.id
    · rw [hother hid]
      exact hk
    · obtain ⟨hk', hne⟩ := not_or.mp hid
      obtain rfl := not_not.mp hk'
      obtain ⟨request, hrequest, -⟩ := hown hne
      rw [hrequest]
      nofun
  have hlives (w' : World Connection) (hw' : w'.connection = (c.recvData data).2) :
      Lives host ⟨c, generators, seen, ended⟩ (.recv (.data data)) w' := by
    refine ⟨fun {id sender receiver} hsome hnone => ?_, fun heq hid hseen hnone => ?_⟩
    · rw [hw'] at hnone
      exact absurd hnone (hstays (by rw [hsome]; nofun))
    · cases heq
      exact hp (h.gone data.id hseen hid hnone)
  have hinv (generators' : List Generator)
      (hheld : ∀ g ∈ generators', g ∈ generators ∨ g.id = data.id) :
      Inv ⟨(c.recvData data).2, generators', data.id :: seen,
        if data.fin then data.id :: ended else ended⟩ := by
    have hended {id : UInt64} (hid : id ∈ ended) :
        id ∈ if data.fin then data.id :: ended else ended := by
      split
      · exact List.mem_cons_of_mem _ hid
      · exact hid
    refine ⟨fun g hg hlive hid => ?_, fun id hseen hne hnone => ?_, fun {id request} hsome hfin => ?_⟩
    · rw [hcontrol] at hid
      rcases hheld g hg with hg | hg
      · exact hstays (h.held g hg hlive hid)
      · obtain ⟨request, hrequest, -⟩ := hown (hg ▸ hid)
        rw [hg, hrequest]
        nofun
    · rw [hcontrol] at hne
      by_cases hid : id = data.id
      · subst hid
        obtain ⟨request, hrequest, -⟩ := hown hne
        exact nomatch hnone.symm.trans hrequest
      · rw [hother (.inl hid)] at hnone
        exact hended (h.gone id ((List.mem_cons.mp hseen).resolve_left hid) hne hnone)
    · by_cases hid : id ≠ data.id ∨ data.id = c.control.2.id
      · rw [hother hid] at hsome
        exact hended (h.ended hsome hfin)
      · obtain ⟨hk', hne⟩ := not_or.mp hid
        obtain rfl := not_not.mp hk'
        obtain ⟨request', hrequest, hnoted⟩ := hown hne
        obtain rfl := Option.some.inj (hrequest.symm.trans hsome)
        rcases hnoted hfin with hfin | hfin
        · rw [hfin]
          exact List.mem_cons_self
        · exact hended hfin
  unfold Side.step World.note
  dsimp only [side]
  unfold Connection.recv Generator.recv
  dsimp only
  rcases hr : c.recvData data with ⟨e | u, c'⟩
  · rw [hr] at hlives hinv
    exact ⟨_, rfl, hlives _ rfl, hinv _ fun g hg => .inl hg⟩
  · rw [hr] at hlives hinv
    refine ⟨_, rfl, hlives _ rfl, hinv _ fun g hg => ?_⟩
    rcases List.mem_append.mp hg with hg | hg
    · exact .inl hg
    · exact .inr (List.mem_singleton.mp hg ▸ rfl)

/-- `send`. -/
theorem send_lives (h : Inv w) (hp : Admits w .send) :
    ∃ w', (side host).step w .send = some w' ∧ Lives host w .send w' ∧ Inv w' := by
  refine ⟨_, rfl, ?_⟩
  obtain ⟨c, generators, seen, ended⟩ := w
  have hreceiver : (c.send host).2.control.2 = c.control.2 := Streams.send_receiver c.toStreams
  -- what becomes of a request: it stays, with its receiver, or is served for the last time
  have hcases {k : UInt64} : (c.requests[k]? = none ∧ (c.send host).2.requests[k]? = none) ∨
      ∃ sender receiver, c.requests[k]? = some (sender, receiver) ∧
        ((∃ sender', (c.send host).2.requests[k]? = some (sender', receiver)) ∨
          ((c.send host).2.requests[k]? = none ∧ (sender.send host).2.finished = true ∧
            (receiver.finished = true ∧ receiver.finReceived = true) ∧
              ∀ g ∈ generators, g.id = k → g.finished_ = true)) := by
    have hsame (hsame : (c.send host).2.requests[k]? = c.requests[k]?) :
        (c.requests[k]? = none ∧ (c.send host).2.requests[k]? = none) ∨
          ∃ sender receiver, c.requests[k]? = some (sender, receiver) ∧
            (∃ sender', (c.send host).2.requests[k]? = some (sender', receiver)) := by
      match hk : c.requests[k]? with
      | none => exact .inl ⟨rfl, hsame.trans hk⟩
      | some (sender, receiver) => exact .inr ⟨sender, receiver, rfl, sender, hsame.trans hk⟩
    have hsent := Streams.send_sent host Connection.sent c.toStreams k
    rcases hsent with hsent | ⟨hidle, hsent | ⟨sender, receiver, hmem, hsent | ⟨hserves, hsent⟩⟩⟩
    · exact (hsame hsent).imp_right fun ⟨s, r, hk, hs⟩ => ⟨s, r, hk, .inl hs⟩
    · exact (hsame hsent).imp_right fun ⟨s, r, hk, hs⟩ => ⟨s, r, hk, .inl hs⟩
    · exact .inr ⟨sender, receiver, mem_toList.mp hmem, .inl ⟨_, hsent⟩⟩
    · refine .inr ⟨sender, receiver, mem_toList.mp hmem, ?_⟩
      unfold Connection.sent at hsent
      split at hsent
      · next hfinished =>
        have hlast := Request.Sender.lastLeft_of_send hserves.2 hfinished
        exact .inr ⟨hsent, hfinished, hp hidle _ hmem hserves hlast⟩
      · exact .inl ⟨_, hsent⟩
  refine ⟨⟨fun {id sender receiver} hsome hnone => ?_, nofun⟩, ?_⟩
  · rcases hcases (k := id) with ⟨hk, -⟩ | ⟨s, r, hk, ⟨s', hs'⟩ | ⟨-, hfinished, hcomplete, -⟩⟩
    · exact nomatch hsome.symm.trans hk
    · exact nomatch hnone.symm.trans hs'
    · obtain ⟨rfl, rfl⟩ := Prod.mk.inj (Option.some.inj (hsome.symm.trans hk))
      exact ⟨hfinished, hcomplete.1⟩
  · refine ⟨fun g hg hlive hid => ?_, fun id hseen hid hnone => ?_, fun {id request} hsome hfin => ?_⟩
    · dsimp only [side] at hid ⊢
      rw [hreceiver] at hid
      have hthere := h.held g hg hlive hid
      rcases hcases (k := g.id) with ⟨hk, -⟩ | ⟨s, r, hk, ⟨s', hs'⟩ | ⟨-, -, -, hdone⟩⟩
      · exact absurd hk hthere
      · rw [hs']
        nofun
      · exact nomatch hlive.symm.trans (hdone g hg rfl)
    · dsimp only [side] at hid hnone ⊢
      rw [hreceiver] at hid
      rcases hcases (k := id) with ⟨hk, -⟩ | ⟨s, r, hk, ⟨s', hs'⟩ | ⟨-, -, hcomplete, -⟩⟩
      · exact h.gone id hseen hid hk
      · exact nomatch hnone.symm.trans hs'
      · exact h.ended hk hcomplete.2
    · dsimp only [side] at hsome ⊢
      rcases hcases (k := id) with ⟨-, hk⟩ | ⟨s, r, hk, ⟨s', hs'⟩ | ⟨hnone, -⟩⟩
      · exact nomatch hk.symm.trans hsome
      · obtain rfl := Option.some.inj (hs'.symm.trans hsome)
        exact h.ended hk hfin
      · exact nomatch hnone.symm.trans hsome

/-- **An admitted step does no harm.** -/
theorem step_lives (w : World Connection) (a : Action) (h : Inv w) (hp : Admits w a) :
    ∃ w', (side host).step w a = some w' ∧ Lives host w a w' ∧ Inv w' := by
  have hsame (w' : World Connection) (hc : w'.connection = w.connection) (hseen : w'.seen = w.seen)
      (hended : w'.ended = w.ended)
      (hheld : ∀ g ∈ w'.generators, g.finished_ = false →
        ∃ g' ∈ w.generators, g'.finished_ = false ∧ g'.id = g.id)
      (ha : ∀ data, a ≠ .recv (.data data)) : Lives host w a w' ∧ Inv w' := by
    have hkeeps : Keeps w.connection.toStreams w'.connection.toStreams := hc ▸ Keeps.refl _
    exact ⟨.keeps hkeeps ha, h.keeps hkeeps hseen hended hheld⟩
  cases a with
  | send => exact send_lives h hp
  | handle id =>
    exact ⟨w, rfl, hsame w rfl rfl rfl (fun g hg hlive => ⟨g, hg, hlive, rfl⟩) nofun⟩
  | drop i =>
    refine ⟨_, rfl, hsame _ rfl rfl rfl (fun g hg hlive => ⟨g, ?_, hlive, rfl⟩) nofun⟩
    exact List.mem_of_mem_eraseIdx hg
  | call id call =>
    have hkeeps := Keeps.callHandle host w.connection.toStreams id call
    exact ⟨_, rfl, .keeps hkeeps nofun,
      h.keeps hkeeps rfl rfl fun g hg hlive => ⟨g, hg, hlive, rfl⟩⟩
  | get i =>
    match hi : w.generators[i]? with
    | none =>
      exact ⟨w, Side.step_get_none hi,
        hsame w rfl rfl rfl (fun g hg hlive => ⟨g, hg, hlive, rfl⟩) nofun⟩
    | some g₀ =>
      refine ⟨_, Side.step_get_some hi, hsame _ rfl rfl rfl (fun g hg hlive => ?_) nofun⟩
      rcases List.mem_or_eq_of_mem_set hg with hg | rfl
      · exact ⟨g, hg, hlive, rfl⟩
      · exact ⟨g₀, List.mem_of_getElem? hi, hlive, rfl⟩
  | recv event =>
    cases event with
    | data data => exact recv_lives h hp
    | error e => exact ⟨w, rfl, hsame w rfl rfl rfl (fun g hg hlive => ⟨g, hg, hlive, rfl⟩) nofun⟩
  | next i =>
    match hi : w.generators[i]? with
    | none =>
      exact ⟨w, Side.step_next_none hi,
        hsame w rfl rfl rfl (fun g hg hlive => ⟨g, hg, hlive, rfl⟩) nofun⟩
    | some g₀ =>
      have hmem := List.mem_of_getElem? hi
      cases hf : g₀.finished_ with
      | true =>
        refine ⟨_, Side.step_next_some hi (Generator.next_finished hf),
          hsame _ rfl rfl rfl (fun g hg hlive => ?_) nofun⟩
        rcases List.mem_or_eq_of_mem_set hg with hg | rfl
        · exact ⟨g, hg, hlive, rfl⟩
        · exact nomatch hf.symm.trans hlive
      | false =>
        match hp' : w.connection.process g₀.id with
        | none =>
          -- the invariant has the request that is asked for
          by_cases hid : g₀.id = w.connection.control.2.id
          · rw [Connection.process_control hid] at hp'
            cases hp'
          · obtain ⟨⟨sender, receiver⟩, hrequest⟩ :=
              Option.ne_none_iff_exists'.mp (h.held g₀ hmem hf hid)
            rw [Connection.process_request hid hrequest] at hp'
            cases hp'
        | some (r, c') =>
          obtain ⟨more, g', hnext, hid⟩ := Generator.next_asks hf hp'
          have hkeeps := Connection.process_keeps hp'
          refine ⟨_, Side.step_next_some hi hnext, .keeps hkeeps nofun,
            h.keeps hkeeps rfl rfl fun g hg hlive => ?_⟩
          rcases List.mem_or_eq_of_mem_set hg with hg | rfl
          · exact ⟨g, hg, hlive, rfl⟩
          · exact ⟨g₀, hmem, hf, hid.symm⟩

end Server

namespace Client

/-- The receiver that reports the end has come to it. -/
theorem finished_of_process {r : Request.Receiver} {id : UInt64}
    (h : (r.process Request.clientProcess).1 = .ok (.finished id)) : r.finished = true := by
  have herror (r : Request.Receiver) (e : Error) :
      (r.handleError Request.clientProcess e).1 ≠ .ok (.finished id) := by
    unfold Request.Receiver.handleError
    split
    · exact nofun
    split
    · rcases Frame.decode r.buffers with ⟨e | frame, s⟩
      · exact nofun
      · cases frame with
        | headers size =>
          dsimp only
          split <;> exact nofun
        | _ => exact nofun
    · exact nofun
  obtain ⟨state, buffers, finReceived, headers, body, i⟩ := r
  cases state with
  | fin => rfl
  | closed => cases h
  | headers =>
    unfold Request.Receiver.process at h
    dsimp only at h
    rcases hd : headers.decode buffers with ⟨e | header, headers', s⟩
    · rw [hd] at h
      exact absurd h (herror _ e)
    · rw [hd] at h
      cases h
  | body =>
    unfold Request.Receiver.process at h
    dsimp only at h
    rcases hd : body.decode buffers with ⟨e | part, body', s⟩
    · rw [hd] at h
      exact absurd h (herror _ e)
    · rw [hd] at h
      dsimp only at h
      split at h
      · split at h <;> cases h
      · cases h

/-- What holds of every world a run comes to. -/
def Inv (w : World Connection) : Prop :=
  ∀ {id : UInt64} {request : Request.Sender × Request.Receiver},
    w.connection.requests[id]? = some request → request.1.Sound

/-- A new client. -/
def start : World Connection := { connection := {} }

theorem inv_start : Inv start := by
  intro id request h
  exact nomatch Std.TreeMap.getElem?_emptyc.symm.trans h

/-- The requests that are there stay, with sound senders, and those that come are sound. -/
def Grows (requests requests' : Requests) : Prop :=
  ∀ k : UInt64, requests'[k]? = requests[k]? ∨ ∃ request', requests'[k]? = some request' ∧
    ((∀ request ∈ requests[k]?, request.1.Sound) → request'.1.Sound)

variable {host : Host} {w w' : World Connection} {requests : Requests}

/-- Requests that stay have grown. -/
theorem Grows.refl (requests : Requests) : Grows requests requests := fun _ => .inl rfl

theorem Grows.insert {id : UInt64} {request request' : Request.Sender × Request.Receiver}
    (h : requests[id]? = some request) (hsound : request.1.Sound → request'.1.Sound) :
    Grows requests (requests.insert id request') := by
  intro k
  by_cases hk : k = id
  · subst hk
    exact .inr ⟨request', getElem_insert_self _, fun hall => hsound (hall request h)⟩
  · exact .inl (getElem_insert_ne hk _)

/-- Where the requests grow, none leaves, and all stay sound. -/
theorem lives_of_grows (h : Inv w) {a : Action}
    (hgrows : Grows w.connection.requests w'.connection.requests) : Lives w a w' ∧ Inv w' := by
  refine ⟨fun {id sender receiver} hsome hnone => ?_, fun {id request} hsome => ?_⟩
  · rcases hgrows id with hsame | ⟨request', hrequest', -⟩
    · exact nomatch (hsame.symm.trans hnone).symm.trans hsome
    · exact nomatch hnone.symm.trans hrequest'
  · rcases hgrows id with hsame | ⟨request', hrequest', hsound⟩
    · exact h (hsame.symm.trans hsome)
    · obtain rfl := Option.some.inj (hsome.symm.trans hrequest')
      exact hsound fun _ hbefore => h hbefore

theorem Connection.recvData_grows (c : Connection) (data : Quic.Data) :
    Grows c.requests (c.recvData data).2.requests := by
  by_cases hid : data.id = c.control.2.id
  · rw [recvData_control hid]
    exact .refl _
  · by_cases hu : unidirectional data.id = true
    · rw [recvData_unidirectional hid hu]
      exact .refl _
    · match hrequest : c.requests[data.id]? with
      | none =>
        rw [recvData_none hid hu hrequest]
        exact .refl _
      | some request =>
        rw [recvData_request hid hu hrequest]
        exact .insert hrequest id

/-- A call through a handle leaves a sound sender sound. -/
theorem Connection.callHandle_grows (host : Host) (c : Connection) (id : UInt64) (call : Call) :
    Grows c.requests (c.callHandle host id call).2.requests := by
  have hcall : (c.callHandle host id call).2.requests =
      (c.toStreams.callHandle host id call).2.requests := rfl
  rw [hcall]
  unfold Streams.callHandle
  match hrequest : c.requests[id]? with
  | none => exact .refl _
  | some (sender, receiver) => exact .insert hrequest fun hsound => hsound.call call

/-- A request that comes is sound. -/
theorem Connection.request_grows (c : Connection) : Grows c.requests c.request.2.requests := by
  intro k
  have hrequests : c.request.2.requests =
      c.requests.insertIfNew c.nextStreamId ({ id := c.nextStreamId }, { id := c.nextStreamId }) := rfl
  rw [hrequests, Std.TreeMap.getElem?_insertIfNew]
  split
  · exact .inr ⟨_, rfl, fun _ => Request.Sender.sound_new _⟩
  · exact .inl rfl

/-- A send leaves sound senders sound. -/
theorem Connection.send_grows (host : Host) (c : Connection) :
    Grows c.requests (c.send host).2.requests := by
  intro k
  have hsent := Streams.send_sent host Connection.sent c.toStreams k
  rcases hsent with hsame | ⟨-, hsame | ⟨sender, receiver, hmem, hsent⟩⟩
  · exact .inl hsame
  · exact .inl hsame
  · have hsound (hall : ∀ request ∈ c.requests[k]?, request.1.Sound) : (sender.send host).2.Sound :=
      (hall _ (mem_toList.mp hmem)).send
    rcases hsent with hsent | ⟨-, hsent⟩
    · exact .inr ⟨_, hsent, hsound⟩
    · exact .inr ⟨_, hsent, hsound⟩

/-- The client looks a request up before it uses it. -/
theorem Connection.process_some (c : Connection) (id : UInt64) : ∃ r, c.process id = some r := by
  by_cases hid : id = c.control.2.id
  · exact ⟨_, process_control hid⟩
  · by_cases hu : unidirectional id = true
    · exact ⟨_, process_unidirectional hid hu⟩
    · match hrequest : c.requests[id]? with
      | none => exact ⟨_, process_none hid hu hrequest⟩
      | some (sender, receiver) => exact ⟨_, process_request hid hu hrequest⟩

/-- A `process` that does not report the end leaves the requests where they are. -/
theorem Connection.process_grows {c c' : Connection} {id : UInt64} {r : Except Error Event}
    (h : c.process id = some (r, c')) (hr : ∀ i, r ≠ .ok (.finished i)) :
    Grows c.requests c'.requests := by
  by_cases hid : id = c.control.2.id
  · rw [process_control hid] at h
    cases h
    have hsame : (c.processControl Control.clientProcess).2.requests = c.requests :=
      (c.processControl_receiver _).2.2
    exact fun k => .inl (congrArg (fun requests : Requests => requests[k]?) hsame)
  · by_cases hu : unidirectional id = true
    · rw [process_unidirectional hid hu] at h
      cases h
      exact .refl _
    · match hrequest : c.requests[id]? with
      | none =>
        rw [process_none hid hu hrequest] at h
        cases h
        exact .refl _
      | some (sender, receiver) =>
        rw [process_request hid hu hrequest] at h
        cases h
        rcases hp : receiver.process Request.clientProcess with ⟨r, receiver'⟩
        rw [hp] at hr
        unfold processed
        split
        · next heq =>
          cases heq
          exact absurd rfl (hr _)
        · next heq =>
          cases heq
          exact .insert hrequest fun hsound => hsound

/-- A `process` that reports the end erases its request, and no other. -/
theorem Connection.process_erases {c c' : Connection} {id i : UInt64}
    (h : c.process id = some (.ok (.finished i), c')) :
    c'.requests = c.requests ∨ ∃ sender receiver, c.requests[id]? = some (sender, receiver) ∧
      receiver.finished = true ∧ c'.requests = c.requests.erase id := by
  by_cases hid : id = c.control.2.id
  · rw [process_control hid] at h
    obtain ⟨-, rfl⟩ := Prod.mk.inj (Option.some.inj h)
    exact .inl (c.processControl_receiver _).2.2
  · by_cases hu : unidirectional id = true
    · rw [process_unidirectional hid hu] at h
      cases h
    · match hrequest : c.requests[id]? with
      | none =>
        rw [process_none hid hu hrequest] at h
        cases h
      | some (sender, receiver) =>
        rw [process_request hid hu hrequest] at h
        obtain ⟨hr, rfl⟩ := Prod.mk.inj (Option.some.inj h)
        refine .inr ⟨sender, receiver, rfl, finished_of_process hr, ?_⟩
        unfold processed
        rcases hp : receiver.process Request.clientProcess with ⟨r, receiver'⟩
        rw [hp] at hr
        obtain rfl : r = .ok (.finished i) := hr
        rfl

/-- **An admitted step does no harm.** -/
theorem step_lives (w : World Connection) (a : Action) (h : Inv w) (hp : Admits w a) :
    ∃ w', (side host).step w a = some w' ∧ Lives w a w' ∧ Inv w' := by
  have hsame (w' : World Connection) (hc : w'.connection = w.connection) : Lives w a w' ∧ Inv w' :=
    lives_of_grows h (by rw [hc]; exact .refl _)
  cases a with
  | send => exact ⟨_, rfl, lives_of_grows h (w.connection.send_grows host)⟩
  | handle id => exact ⟨_, rfl, lives_of_grows h w.connection.request_grows⟩
  | drop i => exact ⟨_, rfl, hsame _ rfl⟩
  | call id call => exact ⟨_, rfl, lives_of_grows h (w.connection.callHandle_grows host id call)⟩
  | get i =>
    match hi : w.generators[i]? with
    | none => exact ⟨w, Side.step_get_none hi, hsame w rfl⟩
    | some g => exact ⟨_, Side.step_get_some hi, hsame _ rfl⟩
  | recv event =>
    cases event with
    | error e => exact ⟨w, rfl, hsame w rfl⟩
    | data data =>
      have hgrows := w.connection.recvData_grows data
      unfold Side.step World.note
      dsimp only [side]
      unfold Connection.recv Generator.recv
      dsimp only
      rcases hr : w.connection.recvData data with ⟨e | u, c'⟩
      · rw [hr] at hgrows
        exact ⟨_, rfl, lives_of_grows h hgrows⟩
      · rw [hr] at hgrows
        exact ⟨_, rfl, lives_of_grows h hgrows⟩
  | next i =>
    match hi : w.generators[i]? with
    | none => exact ⟨w, Side.step_next_none hi, hsame w rfl⟩
    | some g =>
      cases hf : g.finished_ with
      | true => exact ⟨_, Side.step_next_some hi (Generator.next_finished hf), hsame _ rfl⟩
      | false =>
        obtain ⟨⟨r, c'⟩, hprocess⟩ := w.connection.process_some g.id
        obtain ⟨more, g', hnext, -⟩ := Generator.next_asks hf hprocess
        refine ⟨_, Side.step_next_some hi hnext, ?_⟩
        by_cases hr : ∀ i, r ≠ .ok (.finished i)
        · exact lives_of_grows h (Connection.process_grows hprocess hr)
        · obtain ⟨i', hi'⟩ := not_forall.mp hr
          obtain rfl := not_not.mp hi'
          rcases Connection.process_erases hprocess with hkeep | ⟨s₀, r₀, hrequest, hreceiver, herase⟩
          · exact lives_of_grows h (by rw [hkeep]; exact .refl _)
          · -- the request is erased: its receiver came to the end, and by the condition its sender did
            have hsender := hp g hi hf _ hrequest hreceiver
            refine ⟨fun {id sender receiver} hsome hnone => ?_, fun {id request} hsome => ?_⟩
            · by_cases hid : id = g.id
              · subst hid
                obtain ⟨rfl, rfl⟩ := Prod.mk.inj (Option.some.inj (hsome.symm.trans hrequest))
                exact ⟨⟨hsender, hreceiver⟩, (h hsome).queued_eq hsender⟩
              · dsimp only at hnone
                rw [herase, getElem_erase_ne hid] at hnone
                exact nomatch hnone.symm.trans hsome
            · dsimp only at hsome
              rw [herase] at hsome
              by_cases hid : id = g.id
              · subst hid
                exact nomatch getElem_erase_self.symm.trans hsome
              · rw [getElem_erase_ne hid] at hsome
                exact h hsome

end Client

/-! ## Runs -/

/-- **Requests live until both halves are finished**, in every run whose steps are admitted: at the
server no generator asks for one that is gone and none is taken for new, and the client discards
nothing that is queued. -/
theorem requests_live (host : Host) (actions : List Action) :
    (Run.Meets (Server.side host).step Server.Admits Server.start actions →
      Run.Always (Server.side host).step (Server.Lives host) Server.start actions) ∧
    (Run.Meets (Client.side host).step Client.Admits Client.start actions →
      Run.Always (Client.side host).step Client.Lives Client.start actions) :=
  ⟨Run.always_of_meets Server.step_lives Server.inv_start,
    Run.always_of_meets Client.step_lives Client.inv_start⟩

/-- A HEADERS frame with one header. -/
def headersBytes : Buffer := ⟨[0x01, 0x03, 0x00, 0x00, 0xd1]⟩

/-- An application that answers a request before its end has come. -/
def earlyResponse : List Action :=
  [.recv (.data { id := 0, buffer := headersBytes }), .handle 0,
    .call 0 (.header ⟨[0x78], [0x79]⟩), .call 0 .start, .call 0 .fin, .send, .send, .send, .send,
    .next 0]

/-- An application whose request is answered before it is sent. -/
def earlyAnswer : List Action :=
  [.handle 0, .call 0 (.header ⟨[0x78], [0x79]⟩), .call 0 .start, .call 0 (.body ⟨[0x01]⟩),
    .send, .send, .send, .send, .recv (.data { id := 0, fin := true, buffer := headersBytes }),
    .next 0]

/-- A request that is gone and is asked for, at the server; a body that is discarded, at the
client. -/
theorem requests_live_not :
    ¬ (∀ (host : Host) (actions : List Action),
      Run.Always (Server.side host).step (Server.Lives host) Server.start actions) ∧
    ¬ (∀ (host : Host) (actions : List Action),
      Run.Always (Client.side host).step Client.Lives Client.start actions) := by
  refine ⟨fun h => ?_, fun h => ?_⟩
  · refine (h Qpack.xxHost earlyResponse).after_ne ?_
    exact Option.isNone_iff_eq_none.mp (by decide)
  · have hlast : ((Run.after (Client.side Qpack.xxHost).step Client.start earlyAnswer).bind fun w =>
        ((Client.side Qpack.xxHost).step w (.next 0)).map fun w' =>
          (w.connection.requests[(0 : UInt64)]?.any fun request => !request.1.finished) &&
            w'.connection.requests[(0 : UInt64)]?.isNone) = some true := by decide
    obtain ⟨w, hw, hlast⟩ := Option.bind_eq_some_iff.mp hlast
    obtain ⟨w', hw', hlast⟩ := Option.map_eq_some_iff.mp hlast
    obtain ⟨hbefore, hnone⟩ := Bool.and_eq_true_iff.mp hlast
    have hlives : Client.Lives w (.next 0) w' :=
      (h Qpack.xxHost (earlyAnswer ++ [.next 0])).last hw hw'
    match hrequest : w.connection.requests[(0 : UInt64)]? with
    | none =>
      rw [hrequest] at hbefore
      cases hbefore
    | some (sender, receiver) =>
      rw [hrequest] at hbefore
      have hfinished := (hlives hrequest (Option.isNone_iff_eq_none.mp hnone)).1.1
      have hlive : (!sender.finished) = true := hbefore
      rw [hfinished] at hlive
      cases hlive

/-- An application that answers a request that has come to its end. -/
def wholeResponse : List Action :=
  [.recv (.data { id := 0, fin := true, buffer := headersBytes }), .next 0, .next 0, .handle 0,
    .call 0 (.header ⟨[0x78], [0x79]⟩), .call 0 .start, .call 0 .fin, .send, .send, .send, .send]

/-- An application that sends a request to its end, and reads the answer. -/
def wholeRequest : List Action :=
  [.handle 0, .call 0 (.header ⟨[0x78], [0x79]⟩), .call 0 .start, .call 0 .fin,
    .send, .send, .send, .send, .recv (.data { id := 0, fin := true, buffer := headersBytes }),
    .next 0, .next 0]

/-- Both go through to their ends. -/
theorem requests_live_whole :
    Run.Always (Server.side Qpack.xxHost).step (Server.Lives Qpack.xxHost) Server.start
        wholeResponse ∧
      Run.Always (Client.side Qpack.xxHost).step Client.Lives Client.start wholeRequest :=
  ⟨(requests_live Qpack.xxHost wholeResponse).1 (by decide),
    (requests_live Qpack.xxHost wholeRequest).2 (by decide)⟩

end Bnl.Http3.Endpoint
