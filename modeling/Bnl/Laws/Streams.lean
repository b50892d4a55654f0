import Bnl.Endpoint.Connection
import Bnl.Laws.Control
import Bnl.Laws.Requests
import Bnl.Library.Parts

/-!
# Streams do not interfere

What a connection receives on a stream is about that stream alone: the receiver of the stream, and the peer's
settings for the control stream. `part` is what a connection holds of a stream, and receiving is separate in the
sense of `Parts.Separate`, for the server and for the client; so how the data of different streams is
interleaved shows on none of them.

**The law** is `streams_independent`: take any two sequences of events, from any state, that agree stream by
stream. Then each stream is handed the same events in the same order with the same errors, and the settings of
the peer are the same. Streams that were never opened and events for streams that are gone are among them.

An exchange is one event taken in and its generator drained (`Receiving.exchange`); the loop around a generator
is a machine with no input, and it ends because an event takes something from the stream (`process_lt`).
Separate are the two functions of a connection, each in two ways: what it does with a stream depends on the part
of that stream (`own`), and it leaves the other parts alone (`frame`). That much is shown twice, for the server
and for the client, a case for each branch of `recv` and `process`; that exchanges and runs are separate then is
shown once (`exchange_separate`).

**What it does not establish.** A generator is drained before the next event comes. Generators that are kept and
asked later are in `Lifecycle`. Sending is not in it: which stream sends next does depend on the others.
-/

namespace Bnl.Http3.Endpoint

open Incremental Bnl.Base Entries

/-! ## The loop around a generator -/

namespace Generator

variable {C : Type} {process : C → UInt64 → Option (Except Error Event × C)} {g : Generator} {c c' : C}

/-- What `next` and `get` make of what `process` answers: an event, the end of this round, or the
error that ends it. -/
def outcome (g : Generator) : Except Error Event → Step Event (Option Error) × Generator
  | .error .incomplete => (.wait, { g with r := .error .incomplete })
  | .ok (.finished id) => (.emit (.finished id), { g with r := .error .internal, finished_ := true })
  | .ok event => (.emit event, { g with r := .error .internal })
  | .error error => (.stop (some error), { g with r := .error .internal })

/-- A turn of the loop around a generator: `next`, then `get` if there is something to get. -/
def turn (process : C → UInt64 → Option (Except Error Event × C)) (s : Generator × C) :
    Step Event (Option Error) × (Generator × C) :=
  match s.1.next process s.2 with
  | none => (.stop none, s)
  | some (false, g, c) => (.wait, (g, c))
  | some (true, g, c) =>
    match g.get with
    | (.ok event, g) => (.emit event, (g, c))
    | (.error error, g) => (.stop (some error), (g, c))

/-- A generator that is finished has nothing more. -/
theorem turn_finished (h : g.finished_ = true) : turn process (g, c) = (.wait, (g, c)) := by
  unfold turn next
  rw [if_pos h]

/-- A `process` that throws ends the loop. -/
theorem turn_none (h : g.finished_ = false) (hp : process c g.id = none) :
    turn process (g, c) = (.stop none, (g, c)) := by
  unfold turn next
  rw [if_neg (by rw [h]; nofun), hp]

/-- A turn is what `process` answers, seen through the generator. -/
theorem turn_some {r : Except Error Event} (h : g.finished_ = false)
    (hp : process c g.id = some (r, c')) :
    turn process (g, c) = ((outcome g r).1, ((outcome g r).2, c')) := by
  unfold turn next
  rw [if_neg (by rw [h]; nofun), hp]
  rcases r with e | event
  · cases e <;> rfl
  · cases event <;> rfl

/-- A generator stays that of its stream. -/
theorem outcome_id (g : Generator) (r : Except Error Event) : (outcome g r).2.id = g.id := by
  unfold outcome
  split <;> rfl

/-- An event ends the generator, or it is not the last one. -/
theorem outcome_emit {r : Except Error Event} {event : Event}
    (h : (outcome g r).1 = .emit event) :
    r = .ok event ∧ ((outcome g r).2.finished_ = true ∨ ∀ id, event ≠ .finished id) := by
  unfold outcome at h ⊢
  split at h
  · cases h
  · cases h
    exact ⟨rfl, .inl rfl⟩
  · next hne =>
    cases h
    exact ⟨rfl, .inr hne⟩
  · cases h

end Generator

/-! ## Receiving -/

/-- How a connection receives: `recvData` takes data in, and generators call `process`, which comes
to an end on every stream. -/
structure Receiving (C : Type) where
  recvData : C → Quic.Data → Except Error Unit × C
  process : C → UInt64 → Option (Except Error Event × C)
  size : C → UInt64 → Nat
  process_lt : ∀ {c c' id event}, process c id = some (.ok event, c') →
    (∀ i, event ≠ .finished i) → size c' id < size c id

namespace Receiving

variable {C V : Type}

/-- The loop around a generator. -/
def loop (R : Receiving C) : Machine (Generator × C) Empty Event (Option Error) where
  step := Generator.turn R.process
  feed s _ := s
  size s := if s.1.finished_ then 0 else R.size s.2 s.1.id + 1
  step_lt := by
    rintro ⟨g, c⟩ event s' h
    cases hf : g.finished_ with
    | true =>
      rw [Generator.turn_finished hf] at h
      cases h
    | false =>
      match hp : R.process c g.id with
      | none =>
        rw [Generator.turn_none hf hp] at h
        cases h
      | some (r, c') =>
        rw [Generator.turn_some hf hp] at h
        obtain ⟨hr, rfl⟩ := Prod.mk.inj h
        obtain ⟨rfl, hlast⟩ := Generator.outcome_emit hr
        dsimp only
        rw [if_neg Bool.false_ne_true, Generator.outcome_id]
        split
        · exact Nat.succ_pos _
        · next hlive =>
          have hlt := R.process_lt hp (hlast.resolve_left hlive)
          omega

/-- A step of the loop is a turn. -/
theorem step_eq (R : Receiving C) (s : Generator × C) :
    R.loop.step s = Generator.turn R.process s := rfl

/-- `recv` an event and drain the generator: the events, and what ended the loop if it was not that
there was nothing more. -/
def exchange (R : Receiving C) (c : C) (event : Quic.Event) :
    (List Event × Option (Option Error)) × C :=
  match Generator.recv R.recvData c event with
  | (.error error, c) => (([], some (some error)), c)
  | (.ok g, c) =>
    (((R.loop.drain (g, c)).1, (R.loop.drain (g, c)).2.1), (R.loop.drain (g, c)).2.2.2)

/-- The two functions of the connection are each about one stream. -/
structure Separate (R : Receiving C) (view : C → UInt64 → V) : Prop where
  recv_own : ∀ {c d data}, view c data.id = view d data.id →
    (R.recvData c data).1 = (R.recvData d data).1 ∧
      view (R.recvData c data).2 data.id = view (R.recvData d data).2 data.id
  recv_frame : ∀ {c data k}, k ≠ data.id → view (R.recvData c data).2 k = view c k
  process_own : ∀ {c d id}, view c id = view d id →
    (R.process c id = none ∧ R.process d id = none) ∨
      ∃ r c' d', R.process c id = some (r, c') ∧ R.process d id = some (r, d') ∧
        view c' id = view d' id
  process_frame : ∀ {c c' id r k}, R.process c id = some (r, c') → k ≠ id → view c' k = view c k

variable {R : Receiving C} {view : C → UInt64 → V}

/-- What `recvData` and `process` keep, an exchange keeps. -/
theorem exchange_invariant {P : C → Prop} (hrecv : ∀ c data, P c → P (R.recvData c data).2)
    (hprocess : ∀ {c id r c'}, P c → R.process c id = some (r, c') → P c') {c : C} (hc : P c)
    (event : Quic.Event) : P (R.exchange c event).2 := by
  have hstep (s : Generator × C) (hs : P s.2) : P (R.loop.step s).2.2 := by
    obtain ⟨g, c⟩ := s
    rw [step_eq]
    cases hf : g.finished_ with
    | true =>
      rw [Generator.turn_finished hf]
      exact hs
    | false =>
      match hp : R.process c g.id with
      | none =>
        rw [Generator.turn_none hf hp]
        exact hs
      | some (r, c') =>
        rw [Generator.turn_some hf hp]
        exact hprocess hs hp
  cases event with
  | error e => exact hc
  | data data =>
    have hdata := hrecv c data hc
    unfold exchange Generator.recv
    dsimp only
    match hr : R.recvData c data with
    | (.error e, c') =>
      rw [hr] at hdata
      exact hdata
    | (.ok u, c') =>
      rw [hr] at hdata
      exact R.loop.drain_invariant (P := fun s => P s.2) hstep (s := ({ id := data.id }, c')) hdata

/-- Two loops over the same part of a connection go together. -/
theorem Separate.simulation (H : R.Separate view) (id : UInt64) :
    Machine.Simulation R.loop R.loop fun s t =>
      s.1 = t.1 ∧ s.1.id = id ∧ view s.2 id = view t.2 id where
  feed := fun c _ => c.elim
  step := by
    rintro ⟨g, c⟩ ⟨_, d⟩ ⟨rfl, rfl, hview⟩
    rw [step_eq, step_eq]
    cases hf : g.finished_ with
    | true =>
      rw [Generator.turn_finished hf, Generator.turn_finished hf]
      exact ⟨rfl, rfl, rfl, hview⟩
    | false =>
      rcases H.process_own hview with ⟨hc, hd⟩ | ⟨r, c', d', hc, hd, hview'⟩
      · rw [Generator.turn_none hf hc, Generator.turn_none hf hd]
        exact ⟨rfl, rfl, rfl, hview⟩
      · rw [Generator.turn_some hf hc, Generator.turn_some hf hd]
        exact ⟨rfl, rfl, Generator.outcome_id g r, hview'⟩

/-- A loop keeps the other parts of the connection. -/
theorem Separate.drain_frame (H : R.Separate view) (g : Generator) (c : C) {k : UInt64}
    (hk : k ≠ g.id) : view (R.loop.drain (g, c)).2.2.2 k = view c k := by
  have hstep (s : Generator × C) (hs : s.1.id = g.id ∧ view s.2 k = view c k) :
      (R.loop.step s).2.1.id = g.id ∧ view (R.loop.step s).2.2 k = view c k := by
    obtain ⟨g', c'⟩ := s
    obtain ⟨hid, hview⟩ := hs
    rw [step_eq]
    cases hf : g'.finished_ with
    | true =>
      rw [Generator.turn_finished hf]
      exact ⟨hid, hview⟩
    | false =>
      match hp : R.process c' g'.id with
      | none =>
        rw [Generator.turn_none hf hp]
        exact ⟨hid, hview⟩
      | some (r, c'') =>
        rw [Generator.turn_some hf hp]
        have hkeep := H.process_frame hp (hid.symm ▸ hk)
        exact ⟨(Generator.outcome_id g' r).trans hid, hkeep.trans hview⟩
  exact (R.loop.drain_invariant (P := fun s => s.1.id = g.id ∧ view s.2 k = view c k) hstep
    ⟨rfl, rfl⟩).2

/-- **Receiving is about one stream at a time.** -/
theorem Separate.exchange_separate (H : R.Separate view) :
    Parts.Separate R.exchange Quic.Event.id view where
  own := by
    intro c d event hview
    cases event with
    | error e => exact ⟨rfl, hview⟩
    | data data =>
      obtain ⟨hanswer, hrecv⟩ := H.recv_own hview
      unfold exchange Generator.recv
      dsimp only
      match hc : R.recvData c data, hd : R.recvData d data with
      | (.error e, c'), (r, d') =>
        rw [hc, hd] at hanswer hrecv
        obtain rfl : .error e = r := hanswer
        exact ⟨rfl, hrecv⟩
      | (.ok u, c'), (r, d') =>
        rw [hc, hd] at hanswer hrecv
        obtain rfl : .ok u = r := hanswer
        obtain ⟨hos, hv, -, -, hdrain⟩ := (H.simulation data.id).drain_eq
          (s := ({ id := data.id }, c')) (t := ({ id := data.id }, d')) ⟨rfl, rfl, hrecv⟩
        exact ⟨Prod.ext hos hv, hdrain⟩
  frame := by
    intro c event k hk
    cases event with
    | error e => rfl
    | data data =>
      have hrecv := H.recv_frame (c := c) hk
      unfold exchange Generator.recv
      dsimp only
      match hc : R.recvData c data with
      | (.error e, c') =>
        rw [hc] at hrecv
        exact hrecv
      | (.ok u, c') =>
        rw [hc] at hrecv
        exact (H.drain_frame { id := data.id } c' hk).trans hrecv

end Receiving

namespace Control.Receiver

/-- The receiver of the control stream keeps its id, whatever comes. -/
theorem recv_id (r : Receiver) (data : Quic.Data) : (r.recv data).2.id = r.id := by
  unfold recv
  split <;> rfl

theorem processSettings_id (r : Receiver) : (processSettings r).2.id = r.id := by
  unfold processSettings
  rcases Frame.decode r.buffers with ⟨e | frame, s⟩
  · rfl
  · cases frame <;> rfl

theorem process_id (f : ProcessFrame) (r : Receiver) : (process f r).2.id = r.id := by
  unfold process
  cases hs : r.state with
  | settings => exact processSettings_id r
  | active =>
    unfold processActive
    rcases Frame.decode r.buffers with ⟨e | frame, s⟩
    · rfl
    · cases frame <;> rfl
  | type =>
    dsimp only
    rcases Varint.decode r.buffers with ⟨e | v, s⟩
    · rfl
    · exact processSettings_id { r with buffers := s, state := .settings }

end Control.Receiver

/-! ## The parts of a connection -/

/-- What a connection holds of one stream. -/
inductive Part where
  | control (receiver : Control.Receiver) (peer : Settings)
  | request (request : Option (Request.Sender × Request.Receiver))

/-- What is left to read on a stream. -/
def Part.size : Part → Nat
  | .control receiver _ => receiver.onBytes.bytes.length
  | .request none => 0
  | .request (some (_, receiver)) => receiver.onBytes.size

namespace Streams

/-- The part of a stream. -/
def part (s : Streams) (id : UInt64) : Part :=
  if id = s.control.2.id then .control s.control.2 s.peer else .request s.requests[id]?

variable {s t : Streams} {id k : UInt64}

/-- The part of the control stream. -/
theorem part_control (h : id = s.control.2.id) : s.part id = .control s.control.2 s.peer := if_pos h

/-- The part of any other stream. -/
theorem part_request (h : id ≠ s.control.2.id) : s.part id = .request s.requests[id]? := if_neg h

/-- Equal parts are both the control stream's, or both a request's. -/
theorem part_cases (h : s.part id = t.part id) :
    (id = s.control.2.id ∧ id = t.control.2.id ∧ s.control.2 = t.control.2 ∧ s.peer = t.peer) ∨
      (id ≠ s.control.2.id ∧ id ≠ t.control.2.id ∧ s.requests[id]? = t.requests[id]?) := by
  by_cases hs : id = s.control.2.id <;> by_cases ht : id = t.control.2.id
  · rw [part_control hs, part_control ht] at h
    obtain ⟨hcontrol, hpeer⟩ := Part.control.inj h
    exact .inl ⟨hs, ht, hcontrol, hpeer⟩
  · rw [part_control hs, part_request ht] at h
    cases h
  · rw [part_request hs, part_control ht] at h
    cases h
  · rw [part_request hs, part_request ht] at h
    exact .inr ⟨hs, ht, Part.request.inj h⟩

/-- What keeps the id of the control stream and the requests keeps the parts of the requests. -/
theorem part_frame_control (hid : t.control.2.id = s.control.2.id) (hrequests : t.requests = s.requests)
    (hk : k ≠ s.control.2.id) : t.part k = s.part k := by
  rw [part_request (hid ▸ hk), part_request hk, hrequests]

/-- What keeps the control stream and a request keeps the part of the request. -/
theorem part_frame_request (hcontrol : t.control = s.control) (hpeer : t.peer = s.peer)
    (hrequest : t.requests[k]? = s.requests[k]?) : t.part k = s.part k := by
  unfold part
  rw [hcontrol, hpeer, hrequest]

/-! ### The control stream's functions -/

/-- Data of the control stream leaves the requests alone. -/
theorem recvControl_requests (s : Streams) (data : Quic.Data) :
    (s.recvControl data).2.requests = s.requests := rfl

theorem recvControl_id (s : Streams) (data : Quic.Data) :
    (s.recvControl data).2.control.2.id = s.control.2.id := s.control.2.recv_id data

/-- What it does depends on the receiver of the control stream. -/
theorem recvControl_own (data : Quic.Data) (hcontrol : s.control.2 = t.control.2)
    (hpeer : s.peer = t.peer) (hid : id = s.control.2.id) :
    (s.recvControl data).1 = (t.recvControl data).1 ∧
      (s.recvControl data).2.part id = (t.recvControl data).2.part id := by
  rw [part_control (hid.trans (s.recvControl_id data).symm),
    part_control ((hid.trans (congrArg _ hcontrol)).trans (t.recvControl_id data).symm)]
  unfold recvControl
  rw [hcontrol, hpeer]
  exact ⟨rfl, rfl⟩

/-- What `processControl` does, but for where the settings come from. -/
theorem processControl_receiver (f : Control.ProcessFrame) (s : Streams) :
    (s.processControl f).1 = (s.control.2.process f).1 ∧
      (s.processControl f).2.control.2 = (s.control.2.process f).2 ∧
        (s.processControl f).2.requests = s.requests := by
  unfold processControl
  rcases s.control.2.process f with ⟨e | event, receiver⟩
  · exact ⟨rfl, rfl, rfl⟩
  · cases event <;> exact ⟨rfl, rfl, rfl⟩

/-- An event of the control stream leaves its id. -/
theorem processControl_id (f : Control.ProcessFrame) (s : Streams) :
    (s.processControl f).2.control.2.id = s.control.2.id := by
  rw [(s.processControl_receiver f).2.1]
  exact Control.Receiver.process_id f s.control.2

/-- What it is depends on the receiver of the control stream. -/
theorem processControl_own (f : Control.ProcessFrame) (hcontrol : s.control.2 = t.control.2)
    (hpeer : s.peer = t.peer) (hid : id = s.control.2.id) :
    (s.processControl f).1 = (t.processControl f).1 ∧
      (s.processControl f).2.part id = (t.processControl f).2.part id := by
  rw [part_control (hid.trans (s.processControl_id f).symm),
    part_control ((hid.trans (congrArg _ hcontrol)).trans (t.processControl_id f).symm)]
  unfold processControl
  rw [hcontrol, hpeer]
  rcases t.control.2.process f with ⟨e | event, receiver⟩
  · exact ⟨rfl, rfl⟩
  · cases event <;> exact ⟨rfl, rfl⟩

/-- It leaves the requests alone. -/
theorem processControl_frame (f : Control.ProcessFrame) (hk : k ≠ s.control.2.id) :
    (s.processControl f).2.part k = s.part k :=
  part_frame_control (s.processControl_id f) (s.processControl_receiver f).2.2 hk

/-- An event of the control stream took bytes. -/
theorem processControl_lt (f : Control.ProcessFrame) (hid : id = s.control.2.id) {event : Event}
    (h : (s.processControl f).1 = .ok event) (hfin : ∀ i, event ≠ .finished i) :
    ((s.processControl f).2.part id).size < (s.part id).size := by
  obtain ⟨hr, hreceiver, -⟩ := s.processControl_receiver f
  rw [part_control hid, part_control (hid.trans (s.processControl_id f).symm)]
  show (s.processControl f).2.control.2.onBytes.bytes.length < _
  rw [hreceiver]
  exact Control.Receiver.process_lt (Prod.ext (hr.symm.trans h) rfl) hfin

/-! ### The requests' functions -/

/-- What data does to a request depends on that request. -/
theorem recvRequest_own {data : Quic.Data} (request : Request.Sender × Request.Receiver)
    (hs : data.id ≠ s.control.2.id) (ht : data.id ≠ t.control.2.id) :
    (s.recvRequest request data).1 = (t.recvRequest request data).1 ∧
      (s.recvRequest request data).2.part data.id = (t.recvRequest request data).2.part data.id := by
  refine ⟨rfl, ?_⟩
  have hs' : data.id ≠ (s.recvRequest request data).2.control.2.id := hs
  have ht' : data.id ≠ (t.recvRequest request data).2.control.2.id := ht
  rw [part_request hs', part_request ht']
  unfold recvRequest
  rw [getElem_insert_self, getElem_insert_self]

/-- It leaves the other parts alone. -/
theorem recvRequest_frame {data : Quic.Data} (request : Request.Sender × Request.Receiver)
    (hk : k ≠ data.id) : (s.recvRequest request data).2.part k = s.part k :=
  part_frame_request rfl rfl (getElem_insert_ne hk _)

/-- A request with another receiver. -/
theorem part_insert_self (hid : id ≠ s.control.2.id) (request : Request.Sender × Request.Receiver) :
    ({ s with requests := s.requests.insert id request } : Streams).part id =
      .request (some request) := by
  have hid' : id ≠ ({ s with requests := s.requests.insert id request } : Streams).control.2.id := hid
  rw [part_request hid', getElem_insert_self]

/-- The other parts do not change. -/
theorem part_insert_ne (hk : k ≠ id) (request : Request.Sender × Request.Receiver) :
    ({ s with requests := s.requests.insert id request } : Streams).part k = s.part k :=
  part_frame_request rfl rfl (getElem_insert_ne hk _)

end Streams

/-! ## The server -/

namespace Server.Connection

variable {c d : Connection} {data : Quic.Data} {id k : UInt64}

/-- Data of the control stream, at the server. -/
theorem recvData_control (h : data.id = c.control.2.id) :
    c.recvData data = ((c.recvControl data).1, { toStreams := (c.recvControl data).2 }) := by
  unfold recvData
  rw [if_pos h]

/-- Data of a request, which is opened if it is not there. -/
theorem recvData_request (h : data.id ≠ c.control.2.id) :
    c.recvData data = ((c.recvRequest (c.requests.getD data.id (opened data.id)) data).1,
      { toStreams := (c.recvRequest (c.requests.getD data.id (opened data.id)) data).2 }) := by
  unfold recvData
  rw [if_neg h]

/-- What data does depends on the part of its stream. -/
theorem recvData_own (h : c.part data.id = d.part data.id) :
    (c.recvData data).1 = (d.recvData data).1 ∧
      (c.recvData data).2.part data.id = (d.recvData data).2.part data.id := by
  rcases Streams.part_cases h with ⟨hc, hd, hcontrol, hpeer⟩ | ⟨hc, hd, hrequest⟩
  · rw [recvData_control hc, recvData_control hd]
    exact Streams.recvControl_own data hcontrol hpeer hc
  · have hsame : c.requests.getD data.id (opened data.id) =
        d.requests.getD data.id (opened data.id) := by
      rw [Std.TreeMap.getD_eq_getD_getElem?, Std.TreeMap.getD_eq_getD_getElem?, hrequest]
    rw [recvData_request hc, recvData_request hd, hsame]
    exact Streams.recvRequest_own _ hc hd

/-- It leaves the other parts alone. -/
theorem recvData_frame (hk : k ≠ data.id) : (c.recvData data).2.part k = c.part k := by
  by_cases hid : data.id = c.control.2.id
  · rw [recvData_control hid]
    exact Streams.part_frame_control (c.recvControl_id data) (c.recvControl_requests data) (hid ▸ hk)
  · rw [recvData_request hid]
    exact Streams.recvRequest_frame _ hk

/-- `process` on the control stream. -/
theorem process_control (h : id = c.control.2.id) :
    c.process id = some ((c.processControl Control.serverProcess).1,
      { toStreams := (c.processControl Control.serverProcess).2 }) := by
  unfold process
  rw [if_pos h]

/-- `process` on a request that is there. -/
theorem process_request {sender : Request.Sender} {receiver : Request.Receiver}
    (h : id ≠ c.control.2.id) (hrequest : c.requests[id]? = some (sender, receiver)) :
    c.process id = some ((receiver.process Request.serverProcess).1,
      { c with requests :=
          c.requests.insert id (sender, (receiver.process Request.serverProcess).2) }) := by
  unfold process
  rw [if_neg h, hrequest]

/-- `process` on one that is not. -/
theorem process_throws (h : id ≠ c.control.2.id) (hrequest : c.requests[id]? = none) :
    c.process id = none := by
  unfold process
  rw [if_neg h, hrequest]

/-- An event takes something from its stream, or is the last. -/
theorem process_lt {c' : Connection} {event : Event} (h : c.process id = some (.ok event, c'))
    (hfin : ∀ i, event ≠ .finished i) : (c'.part id).size < (c.part id).size := by
  by_cases hid : id = c.control.2.id
  · rw [process_control hid] at h
    obtain ⟨hr, rfl⟩ := Prod.mk.inj (Option.some.inj h)
    exact Streams.processControl_lt _ hid hr hfin
  · match hrequest : c.requests[id]? with
    | none =>
      rw [process_throws hid hrequest] at h
      cases h
    | some (sender, receiver) =>
      rw [process_request hid hrequest] at h
      obtain ⟨hr, rfl⟩ := Prod.mk.inj (Option.some.inj h)
      rw [Streams.part_request hid, hrequest]
      show (Streams.part { c.toStreams with requests := _ } id).size < _
      rw [Streams.part_insert_self hid]
      exact Request.Receiver.process_lt (Prod.ext hr rfl) hfin

/-- Which stream is the control stream does not change. -/
theorem recvData_id (c : Connection) (data : Quic.Data) :
    (c.recvData data).2.control.2.id = c.control.2.id := by
  by_cases hid : data.id = c.control.2.id
  · rw [recvData_control hid]
    exact c.recvControl_id data
  · rw [recvData_request hid]
    rfl

theorem process_id {c' : Connection} {r : Except Error Event} (h : c.process id = some (r, c')) :
    c'.control.2.id = c.control.2.id := by
  by_cases hid : id = c.control.2.id
  · rw [process_control hid] at h
    cases h
    exact c.processControl_id _
  · match hrequest : c.requests[id]? with
    | none =>
      rw [process_throws hid hrequest] at h
      cases h
    | some (sender, receiver) =>
      rw [process_request hid hrequest] at h
      cases h
      rfl

/-- How the server receives. -/
def receiving : Receiving Connection where
  recvData := recvData
  process := process
  size c id := (c.part id).size
  process_lt := process_lt

/-- **The server's streams are separate.** -/
theorem separate : receiving.Separate fun c id => c.part id where
  recv_own := recvData_own
  recv_frame := recvData_frame
  process_own := by
    intro c d id h
    rcases Streams.part_cases h with ⟨hc, hd, hcontrol, hpeer⟩ | ⟨hc, hd, hrequest⟩
    · obtain ⟨hr, hpart⟩ := Streams.processControl_own Control.serverProcess hcontrol hpeer hc
      exact .inr ⟨_, _, _, process_control hc, hr ▸ process_control hd, hpart⟩
    · match hsome : c.requests[id]? with
      | none => exact .inl ⟨process_throws hc hsome, process_throws hd (hrequest ▸ hsome)⟩
      | some (sender, receiver) =>
        refine .inr ⟨_, _, _, process_request hc hsome, process_request hd (hrequest ▸ hsome), ?_⟩
        exact (Streams.part_insert_self hc _).trans (Streams.part_insert_self hd _).symm
  process_frame := by
    intro c c' id r k h hk
    change c.process id = _ at h
    by_cases hid : id = c.control.2.id
    · rw [process_control hid] at h
      obtain ⟨-, rfl⟩ := Prod.mk.inj (Option.some.inj h)
      exact Streams.processControl_frame _ (hid ▸ hk)
    · match hrequest : c.requests[id]? with
      | none =>
        rw [process_throws hid hrequest] at h
        cases h
      | some (sender, receiver) =>
        rw [process_request hid hrequest] at h
        obtain ⟨-, rfl⟩ := Prod.mk.inj (Option.some.inj h)
        exact Streams.part_insert_ne hk _

end Server.Connection

/-! ## The client -/

namespace Client.Connection

variable {c d : Connection} {data : Quic.Data} {id k : UInt64}

/-- Data of the control stream, at the client. -/
theorem recvData_control (h : data.id = c.control.2.id) :
    c.recvData data = ((c.recvControl data).1, { c with toStreams := (c.recvControl data).2 }) := by
  unfold recvData
  rw [if_pos h]

/-- Data of a stream of the server that is none of the requests' is dropped. -/
theorem recvData_unidirectional (h : data.id ≠ c.control.2.id)
    (hu : unidirectional data.id = true) : c.recvData data = (.ok (), c) := by
  unfold recvData
  rw [if_neg h, if_pos hu]

/-- Data of a request that is not there is an error. -/
theorem recvData_none (h : data.id ≠ c.control.2.id) (hu : ¬ unidirectional data.id = true)
    (hrequest : c.requests[data.id]? = none) : c.recvData data = (.error .internal, c) := by
  unfold recvData
  rw [if_neg h, if_neg hu, hrequest]

/-- Data of a request that is there. -/
theorem recvData_request {request : Request.Sender × Request.Receiver}
    (h : data.id ≠ c.control.2.id) (hu : ¬ unidirectional data.id = true)
    (hrequest : c.requests[data.id]? = some request) :
    c.recvData data = ((c.recvRequest request data).1,
      { c with toStreams := (c.recvRequest request data).2 }) := by
  unfold recvData
  rw [if_neg h, if_neg hu, hrequest]

/-- What data does depends on the part of its stream. -/
theorem recvData_own (h : c.part data.id = d.part data.id) :
    (c.recvData data).1 = (d.recvData data).1 ∧
      (c.recvData data).2.part data.id = (d.recvData data).2.part data.id := by
  rcases Streams.part_cases h with ⟨hc, hd, hcontrol, hpeer⟩ | ⟨hc, hd, hrequest⟩
  · rw [recvData_control hc, recvData_control hd]
    exact Streams.recvControl_own data hcontrol hpeer hc
  · by_cases hu : unidirectional data.id = true
    · rw [recvData_unidirectional hc hu, recvData_unidirectional hd hu]
      exact ⟨rfl, h⟩
    · match hsome : c.requests[data.id]? with
      | none =>
        rw [recvData_none hc hu hsome, recvData_none hd hu (hrequest ▸ hsome)]
        exact ⟨rfl, h⟩
      | some request =>
        rw [recvData_request hc hu hsome, recvData_request hd hu (hrequest ▸ hsome)]
        exact Streams.recvRequest_own request hc hd

/-- It leaves the other parts alone. -/
theorem recvData_frame (hk : k ≠ data.id) : (c.recvData data).2.part k = c.part k := by
  by_cases hid : data.id = c.control.2.id
  · rw [recvData_control hid]
    exact Streams.part_frame_control (c.recvControl_id data) (c.recvControl_requests data) (hid ▸ hk)
  · by_cases hu : unidirectional data.id = true
    · rw [recvData_unidirectional hid hu]
    · match hsome : c.requests[data.id]? with
      | none => rw [recvData_none hid hu hsome]
      | some request =>
        rw [recvData_request hid hu hsome]
        exact Streams.recvRequest_frame request hk

/-- `process` on the control stream. -/
theorem process_control (h : id = c.control.2.id) :
    c.process id = some ((c.processControl Control.clientProcess).1,
      { c with toStreams := (c.processControl Control.clientProcess).2 }) := by
  unfold process
  rw [if_pos h]

/-- A stream that is dropped has no event. -/
theorem process_unidirectional (h : id ≠ c.control.2.id) (hu : unidirectional id = true) :
    c.process id = some (.error .incomplete, c) := by
  unfold process
  rw [if_neg h, if_pos hu]

/-- `process` on a request that is not there is an error. -/
theorem process_none (h : id ≠ c.control.2.id) (hu : ¬ unidirectional id = true)
    (hrequest : c.requests[id]? = none) : c.process id = some (.error .internal, c) := by
  unfold process
  rw [if_neg h, if_neg hu, hrequest]

/-- What is left of a request that was processed: nothing once it is finished. -/
def processed (c : Connection) (id : UInt64) (sender : Request.Sender)
    (r : Except Error Event × Request.Receiver) : Connection :=
  match r with
  | (.ok (.finished _), _) => { c with requests := c.requests.erase id }
  | (_, receiver) => { c with requests := c.requests.insert id (sender, receiver) }

/-- `process` on one that is there, which goes with its last event. -/
theorem process_request {sender : Request.Sender} {receiver : Request.Receiver}
    (h : id ≠ c.control.2.id) (hu : ¬ unidirectional id = true)
    (hrequest : c.requests[id]? = some (sender, receiver)) :
    c.process id = some ((receiver.process Request.clientProcess).1,
      c.processed id sender (receiver.process Request.clientProcess)) := by
  unfold process processed
  rw [if_neg h, if_neg hu, hrequest]
  dsimp only
  rcases receiver.process Request.clientProcess with ⟨e | event, receiver'⟩
  · rfl
  · cases event <;> rfl

/-- The part of a request that was processed. -/
def processedPart (sender : Request.Sender) (r : Except Error Event × Request.Receiver) : Part :=
  match r with
  | (.ok (.finished _), _) => .request none
  | (_, receiver) => .request (some (sender, receiver))

/-- What is left is the part of that request. -/
theorem processed_own (h : id ≠ c.control.2.id) (sender : Request.Sender)
    (r : Except Error Event × Request.Receiver) :
    (c.processed id sender r).part id = processedPart sender r := by
  have hinsert (receiver : Request.Receiver) :=
    Streams.part_insert_self (s := c.toStreams) h (sender, receiver)
  have herase : ({ c.toStreams with requests := c.requests.erase id } : Streams).part id =
      .request none := by
    have hid : id ≠ ({ c.toStreams with requests := c.requests.erase id } : Streams).control.2.id := h
    rw [Streams.part_request hid, getElem_erase_self]
  rcases r with ⟨e | event, receiver⟩
  · exact hinsert receiver
  · cases event with
    | finished i => exact herase
    | settings s => exact hinsert receiver
    | header i fin header => exact hinsert receiver
    | body i fin buffer => exact hinsert receiver

/-- The other parts are as they were. -/
theorem processed_frame (hk : k ≠ id) (sender : Request.Sender)
    (r : Except Error Event × Request.Receiver) : (c.processed id sender r).part k = c.part k := by
  have hinsert (receiver : Request.Receiver) :=
    Streams.part_insert_ne (s := c.toStreams) hk (sender, receiver)
  rcases r with ⟨e | event, receiver⟩
  · exact hinsert receiver
  · cases event with
    | finished i => exact Streams.part_frame_request rfl rfl (getElem_erase_ne hk)
    | settings s => exact hinsert receiver
    | header i fin header => exact hinsert receiver
    | body i fin buffer => exact hinsert receiver

/-- An event takes something from its stream, or is the last. -/
theorem process_lt {c' : Connection} {event : Event} (h : c.process id = some (.ok event, c'))
    (hfin : ∀ i, event ≠ .finished i) : (c'.part id).size < (c.part id).size := by
  by_cases hid : id = c.control.2.id
  · rw [process_control hid] at h
    obtain ⟨hr, rfl⟩ := Prod.mk.inj (Option.some.inj h)
    exact Streams.processControl_lt _ hid hr hfin
  · by_cases hu : unidirectional id = true
    · rw [process_unidirectional hid hu] at h
      cases h
    · match hrequest : c.requests[id]? with
      | none =>
        rw [process_none hid hu hrequest] at h
        cases h
      | some (sender, receiver) =>
        rw [process_request hid hu hrequest] at h
        obtain ⟨hr, rfl⟩ := Prod.mk.inj (Option.some.inj h)
        rw [Streams.part_request hid, hrequest, processed_own hid]
        rcases hp : receiver.process Request.clientProcess with ⟨r, receiver'⟩
        rw [hp] at hr
        obtain rfl : r = .ok event := hr
        have hlt := Request.Receiver.process_lt hp hfin
        cases event with
        | finished i => exact absurd rfl (hfin i)
        | settings s => exact hlt
        | header i fin header => exact hlt
        | body i fin buffer => exact hlt

/-- Which stream is the control stream does not change. -/
theorem recvData_id (c : Connection) (data : Quic.Data) :
    (c.recvData data).2.control.2.id = c.control.2.id := by
  by_cases hid : data.id = c.control.2.id
  · rw [recvData_control hid]
    exact c.recvControl_id data
  · by_cases hu : unidirectional data.id = true
    · rw [recvData_unidirectional hid hu]
    · match hrequest : c.requests[data.id]? with
      | none => rw [recvData_none hid hu hrequest]
      | some request =>
        rw [recvData_request hid hu hrequest]
        rfl

/-- A request that goes leaves the control stream. -/
theorem processed_id (c : Connection) (id : UInt64) (sender : Request.Sender)
    (r : Except Error Event × Request.Receiver) :
    (c.processed id sender r).control = c.control := by
  unfold processed
  split <;> rfl

/-- Which stream is the control stream does not change when an event is asked for. -/
theorem process_id {c' : Connection} {r : Except Error Event} (h : c.process id = some (r, c')) :
    c'.control.2.id = c.control.2.id := by
  by_cases hid : id = c.control.2.id
  · rw [process_control hid] at h
    cases h
    exact c.processControl_id _
  · by_cases hu : unidirectional id = true
    · rw [process_unidirectional hid hu] at h
      cases h
      rfl
    · match hrequest : c.requests[id]? with
      | none =>
        rw [process_none hid hu hrequest] at h
        cases h
        rfl
      | some (sender, receiver) =>
        rw [process_request hid hu hrequest] at h
        cases h
        rw [processed_id]

/-- How the client receives. -/
def receiving : Receiving Connection where
  recvData := recvData
  process := process
  size c id := (c.part id).size
  process_lt := process_lt

/-- **The client's streams are separate.** -/
theorem separate : receiving.Separate fun c id => c.part id where
  recv_own := recvData_own
  recv_frame := recvData_frame
  process_own := by
    intro c d id h
    rcases Streams.part_cases h with ⟨hc, hd, hcontrol, hpeer⟩ | ⟨hc, hd, hrequest⟩
    · obtain ⟨hr, hpart⟩ := Streams.processControl_own Control.clientProcess hcontrol hpeer hc
      exact .inr ⟨_, _, _, process_control hc, hr ▸ process_control hd, hpart⟩
    · by_cases hu : unidirectional id = true
      · exact .inr ⟨_, _, _, process_unidirectional hc hu, process_unidirectional hd hu, h⟩
      · match hsome : c.requests[id]? with
        | none =>
          exact .inr ⟨_, _, _, process_none hc hu hsome, process_none hd hu (hrequest ▸ hsome), h⟩
        | some (sender, receiver) =>
          refine .inr ⟨_, _, _, process_request hc hu hsome,
            process_request hd hu (hrequest ▸ hsome), ?_⟩
          exact (processed_own hc sender _).trans (processed_own hd sender _).symm
  process_frame := by
    intro c c' id r k h hk
    change c.process id = _ at h
    by_cases hid : id = c.control.2.id
    · rw [process_control hid] at h
      obtain ⟨-, rfl⟩ := Prod.mk.inj (Option.some.inj h)
      exact Streams.processControl_frame _ (hid ▸ hk)
    · by_cases hu : unidirectional id = true
      · rw [process_unidirectional hid hu] at h
        obtain ⟨-, rfl⟩ := Prod.mk.inj (Option.some.inj h)
        rfl
      · match hrequest : c.requests[id]? with
        | none =>
          rw [process_none hid hu hrequest] at h
          obtain ⟨-, rfl⟩ := Prod.mk.inj (Option.some.inj h)
          rfl
        | some (sender, receiver) =>
          rw [process_request hid hu hrequest] at h
          obtain ⟨-, rfl⟩ := Prod.mk.inj (Option.some.inj h)
          exact processed_frame hk sender _

end Client.Connection

/-! ## Two runs -/

namespace Receiving

variable {C : Type}

/-- What the generators of a stream hand out while the events are received: for each event of the
stream the events, and the error if one ended the loop. -/
def received (R : Receiving C) (id : UInt64) (c : C) (events : List Quic.Event) :
    List (List Event × Option (Option Error)) :=
  Parts.observed R.exchange Quic.Event.id id c events

/-- The connection once the events are received. -/
def after (R : Receiving C) (c : C) (events : List Quic.Event) : C :=
  Parts.after R.exchange c events

end Receiving

/-- Events that agree stream by stream. -/
def Interleavings (events events' : List Quic.Event) : Prop :=
  ∀ id, events.filter (·.id = id) = events'.filter (·.id = id)

/-- A part of the control stream has the settings. -/
theorem Streams.peer_eq {s t : Streams} {id : UInt64} (hs : s.control.2.id = id)
    (h : s.part id = t.part id) : s.peer = t.peer := by
  rcases part_cases h with ⟨-, -, -, hpeer⟩ | ⟨hne, -, -⟩
  · exact hpeer
  · exact absurd hs.symm hne

theorem Server.Connection.after_id (c : Server.Connection) (events : List Quic.Event) :
    (Server.Connection.receiving.after c events).control.2.id = c.control.2.id :=
  Parts.after_invariant (P := fun d : Server.Connection => d.control.2.id = c.control.2.id)
    (fun _ event hd => Receiving.exchange_invariant (R := Server.Connection.receiving)
      (fun d data hd => (Server.Connection.recvData_id d data).trans hd)
      (fun hd hp => (Server.Connection.process_id hp).trans hd) hd event) rfl events

theorem Client.Connection.after_id (c : Client.Connection) (events : List Quic.Event) :
    (Client.Connection.receiving.after c events).control.2.id = c.control.2.id :=
  Parts.after_invariant (P := fun d : Client.Connection => d.control.2.id = c.control.2.id)
    (fun _ event hd => Receiving.exchange_invariant (R := Client.Connection.receiving)
      (fun d data hd => (Client.Connection.recvData_id d data).trans hd)
      (fun hd hp => (Client.Connection.process_id hp).trans hd) hd event) rfl events

/-- **Streams do not interfere**, at the server and at the client: however the events of different
streams are interleaved, every stream is handed the same, and the settings of the peer are the
same. -/
theorem streams_independent {events events' : List Quic.Event} (h : Interleavings events events') :
    (∀ c : Server.Connection,
      (∀ id, Server.Connection.receiving.received id c events =
        Server.Connection.receiving.received id c events') ∧
      (Server.Connection.receiving.after c events).peer =
        (Server.Connection.receiving.after c events').peer) ∧
    ∀ c : Client.Connection,
      (∀ id, Client.Connection.receiving.received id c events =
        Client.Connection.receiving.received id c events') ∧
      (Client.Connection.receiving.after c events).peer =
        (Client.Connection.receiving.after c events').peer := by
  refine ⟨fun c => ⟨fun id => ?_, ?_⟩, fun c => ⟨fun id => ?_, ?_⟩⟩
  · exact (Server.Connection.separate.exchange_separate.observed_eq (h id) c).1
  · exact Streams.peer_eq (Server.Connection.after_id c events)
      (Server.Connection.separate.exchange_separate.observed_eq (h c.control.2.id) c).2
  · exact (Client.Connection.separate.exchange_separate.observed_eq (h id) c).1
  · exact Streams.peer_eq (Client.Connection.after_id c events)
      (Client.Connection.separate.exchange_separate.observed_eq (h c.control.2.id) c).2

/-- Settings and a malformed frame, in either order. -/
theorem streams_independent_swap :
    Server.Connection.receiving.received 0 {}
        [.data { id := 2, buffer := ⟨[0x00, 0x04, 0x00]⟩ }, .data { id := 0, buffer := ⟨[0x04, 0x00]⟩ }] =
      Server.Connection.receiving.received 0 {}
        [.data { id := 0, buffer := ⟨[0x04, 0x00]⟩ }, .data { id := 2, buffer := ⟨[0x00, 0x04, 0x00]⟩ }] := by
  have hswap : Interleavings
      [.data { id := 2, buffer := ⟨[0x00, 0x04, 0x00]⟩ }, .data { id := 0, buffer := ⟨[0x04, 0x00]⟩ }]
      [.data { id := 0, buffer := ⟨[0x04, 0x00]⟩ }, .data { id := 2, buffer := ⟨[0x00, 0x04, 0x00]⟩ }] := by
    intro id
    by_cases h₀ : (0 : UInt64) = id
    · subst h₀
      rfl
    · by_cases h₂ : (2 : UInt64) = id
      · subst h₂
        rfl
      · simp [Quic.Event.id, h₀, h₂]
  exact ((streams_independent hswap).1 {}).1 0

end Bnl.Http3.Endpoint
