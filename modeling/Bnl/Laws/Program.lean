import Bnl.App.Receive
import Bnl.Laws.Response
import Bnl.Laws.SendLoop

/-!
# The client program

Packets come in whatever way ngtcp2 makes of them callbacks, and the application sends, makes requests and calls
in between. The loops over the events of a packet end, and hand on all of them in order or what was in front of
the first failure. Of a response that comes as it was sent the handler hears the beginning, and all of it once
all of it has come and nothing has failed.

**The law** (`session_hears`): in every run in which data comes on the streams of responses only once the client
has opened them, and is then the beginning of a header block and DATA frames, each loop ends, what has come is
taken in its order, and the handler hears of every response a beginning, or the whole of it if its end has come
and neither an error nor the handler has interrupted.

The idea of the proof: `recv_once` is two loops, one in the other. `Drains` and `Hands` say what each of them
does as a relation, without fuel, and `drain_drains` and `handOut_hands` that the loops do it with the fuel they
have; a generator has at most one event for each byte its stream keeps, and the end. What is kept of the
responses on the way is a `Tracker`, a parameter of all that follows up to `run_inv`. `Response` has the one for
responses that come as they were sent, `Phases` the one for responses of any bytes.

**What it does not establish.** What the handler makes of its events; it is a function that sees the client no
more than through them, and cannot call back. The library answers and calls back whatever it likes, so nothing
is said of a handshake that gets stuck, or of a response that never comes.
-/

/-! ## What the library is called for -/

namespace Bnl.Quic

open Bnl.Base

namespace Stream

variable {C : Type} {transport : Transport C} {c c' : C} {s s' : Stream} {r : Except Error Buffer}

/-- Whatever a stream sends, it does by calls of the library. -/
theorem send_calls (h : s.send transport.toNgtcp2 c = some (r, s', c')) : transport.Calls c c' := by
  rcases send_offer transport c s with ⟨c₁, s₁, fin, data, hcalls, -, hsend⟩ |
    ⟨-, ⟨-, hsend⟩ | ⟨error, s₁, c₁, hcalls, hsend, -⟩⟩
  · obtain ⟨-, -, rfl⟩ : _ ∧ _ ∧ (transport.writeStream c₁ s.id fin data).2 = c' := by
      simpa using hsend.symm.trans h
    exact hcalls.tail (.writeStream c₁ s.id fin data)
  · cases h.symm.trans hsend
  · cases h.symm.trans hsend
    exact hcalls

end Stream

namespace Connection

variable {C : Type} {transport : Transport C} {entries : List (UInt64 × Stream)} {q q' : Connection} {c c' : C}
  {r : Except Error Buffer}

theorem sendStreams_calls (h : sendStreams transport entries q c = some (r, q', c')) : transport.Calls c c' := by
  induction entries generalizing q c with
  | nil =>
    cases h
    exact .refl
  | cons e entries ih =>
    obtain ⟨id, s⟩ := e
    unfold sendStreams at h
    rcases hs : s.send transport.toNgtcp2 c with _ | ⟨r', s', c₁⟩
    all_goals
      rw [hs] at h
      dsimp only at h
    · cases h
    · have hcalls := Stream.send_calls hs
      split at h
      · exact hcalls.trans (ih h)
      · cases h
        exact hcalls

theorem send_calls (h : q.send transport c = some (r, q', c')) : transport.Calls c c' := by
  obtain ⟨c₁, hcalls, ⟨error', hs, -⟩ | ⟨packet, hs, -⟩ | ⟨hs, -⟩⟩ := send_comes transport q c
  · cases h.symm.trans hs
    exact hcalls
  · cases h.symm.trans hs
    exact hcalls
  · exact hcalls.trans (sendStreams_calls (hs.symm.trans h))

end Connection

namespace Client

variable {C : Type} (library : Library C) {client client' : Client C}

/-- Sending leaves what has come where it is. -/
theorem event_buffer_of_calls (h : (transport library).Calls client client') :
    client'.event_buffer_ = client.event_buffer_ := by
  induction h with
  | refl => rfl
  | @tail b _ _ hcall ih =>
    refine Eq.trans ?_ ih
    cases hcall with
    | openBidiStream | openUniStream | writeStream => rfl
    | handshakeSend => rfl
    | writePkt =>
      show (writePkt library b).2.event_buffer_ = _
      unfold writePkt clientInitial
      rcases library.writePkt b.library with ⟨_ | _, answer, l⟩
      · rfl
      · dsimp only
        rcases hcall : handshake (Handshake.send library.toTls) { b with library := l } with ⟨e | u, c'⟩ <;>
          exact congrArg (fun r : Except Error Unit × Client C => r.2.event_buffer_) hcall.symm

/-- A callback adds to what has come. -/
theorem callback_appends (q : Connection) (client : Client C) (callback : Ngtcp2Callback) :
    client.event_buffer_ <+: (client.callback library q callback).2.2.event_buffer_ := by
  cases callback with
  | recvStreamData id fin data => exact List.prefix_append _ _
  | streamReset id => exact List.prefix_append _ _
  | recvCryptoData level data =>
    show _ <+: (recvCryptoData library level data client).2.event_buffer_
    unfold recvCryptoData
    split <;>
      · next hcall => exact congrArg (fun r : Except Error Unit × Client C => r.2.event_buffer_) hcall ▸ List.prefix_rfl
  | _ => exact List.prefix_rfl

/-- Callbacks add to what has come. -/
theorem callbacks_append (cs : List Ngtcp2Callback) (q : Connection) (client : Client C) :
    client.event_buffer_ <+: (callbacks library cs q client).2.2.event_buffer_ := by
  induction cs generalizing q client with
  | nil => exact List.prefix_rfl
  | cons c cs ih =>
    have happends := client.callback_appends library q c
    unfold callbacks
    rcases hc : client.callback library q c with ⟨e | u, q', client'⟩
    all_goals rw [hc] at happends
    · exact happends
    · exact happends.trans (ih q' client')

/-- A packet adds to what has come. -/
theorem recv_appends (packet : Buffer) (q : Connection) (client : Client C) :
    client.event_buffer_ <+: (client.recv library packet q).2.event_buffer_ := by
  have happends {cs : List Ngtcp2Callback} {l : C} {r : Except Error Unit × Connection × Client C}
      (h : callbacks library cs q { client with library := l } = r) :
      client.event_buffer_ <+: r.2.2.event_buffer_ := h ▸ callbacks_append library cs q { client with library := l }
  unfold recv readPkt
  rcases library.readPkt client.library packet with ⟨cs, succeeded, l⟩
  dsimp only
  rcases hcs : callbacks library cs q { client with library := l } with ⟨e | u, q', client'⟩
  · exact (happends hcs).trans (List.prefix_append _ _)
  · cases succeeded
    · exact (happends hcs).trans (List.prefix_append _ _)
    · exact happends hcs

/-- What a packet has come to. -/
def came (packet : Buffer) (q : Connection) (client : Client C) : List (Except Error Event) :=
  (client.recv library packet q).2.event_buffer_.drop client.event_buffer_.length

/-- The event buffer behind a packet: what was there, and what has come. -/
theorem recv_buffer (packet : Buffer) (q : Connection) (client : Client C) :
    (client.recv library packet q).2.event_buffer_ = client.event_buffer_ ++ came library packet q client :=
  (List.prefix_iff_eq_append.mp (recv_appends library packet q client)).symm

end Client

end Bnl.Quic

namespace Bnl.App.Program

open Bnl.Base Bnl.Http3.Endpoint Http3.Endpoint.Client.Connection
open Http3.Endpoint.Request (Said eventBytes getHeader)

variable {C H : Type} {on_event_ : H → Http3.Event → Verdict × H}

/-! ## The loops of `recv_once` -/

/-- A program whose HTTP/3 connection is this one. -/
def setHttp3 (p : Program C H) (http3_ : Http3.Endpoint.Client.Connection) : Program C H :=
  { p with client := { p.client with http3_ } }

/-- A program whose event buffer is this one. -/
def setBuffer (p : Program C H) (event_buffer_ : List (Except Quic.Error Quic.Event)) : Program C H :=
  { p with client := { p.client with ngtcp2 := { p.client.ngtcp2 with event_buffer_ } } }

/-- The events of a generator go to the handler, until it has no more, or fails, or the handler exits. -/
inductive Drains (on_event_ : H → Http3.Event → Verdict × H) (id : UInt64) :
    Bool → Program C H → Drained → Program C H → Prop where
  | finished {p} : Drains on_event_ id true p .through p
  | waits {p http3_} : p.client.http3_.process id = some (.error .incomplete, http3_) →
      Drains on_event_ id false p .through (p.setHttp3 http3_)
  | fails {p error http3_} : p.client.http3_.process id = some (.error error, http3_) →
      Drains on_event_ id false p (.failed (.http3 error)) (p.setHttp3 http3_)
  | exits {p event http3_} : p.client.http3_.process id = some (.ok event, http3_) →
      Drains on_event_ id false p .exited { p.setHttp3 http3_ with
        handler := (on_event_ p.handler event).2, exit_ := some (on_event_ p.handler event).1 }
  | hands {p event http3_ finished d p'} : p.client.http3_.process id = some (.ok event, http3_) →
      (finished = true → ∃ i, event = .finished i) →
      Drains on_event_ id finished { p.setHttp3 http3_ with handler := (on_event_ p.handler event).2 } d p' →
      Drains on_event_ id false p d p'

/-- A generator that has an answer hands it out, and is finished with the end of the stream. -/
theorem next_event {g : Generator} {c c' : Http3.Endpoint.Client.Connection} {event : Http3.Event}
    (hfinished : g.finished_ = false) (hprocess : c.process g.id = some (.ok event, c')) :
    ∃ g', g.next Http3.Endpoint.Client.Connection.process c = some (true, g', c') ∧ g'.r = .ok event ∧ g'.id = g.id ∧
      (g'.finished_ = true ↔ ∃ i, event = .finished i) := by
  unfold Generator.next
  rw [hfinished, if_neg Bool.false_ne_true, hprocess]
  cases event with
  | finished i => exact ⟨_, rfl, rfl, rfl, ⟨fun _ => ⟨i, rfl⟩, fun _ => rfl⟩⟩
  | _ =>
    refine ⟨_, rfl, rfl, rfl, nofun, ?_⟩
    rintro ⟨i, h⟩
    cases h

variable (on_event_) in
/-- **The loop over a generator ends**, with as much fuel as there may be events. -/
theorem drain_drains (g : Generator) (p : Program C H) {fuel : Nat}
    (h : (if g.finished_ then 0 else (p.client.http3_.part g.id).size + 1) < fuel) :
    ∃ d p', drain on_event_ fuel g p = some (d, p') ∧ Drains on_event_ g.id g.finished_ p d p' := by
  induction fuel generalizing g p with
  | zero => exact absurd h (Nat.not_lt_zero _)
  | succ fuel ih =>
    unfold drain
    cases hfinished : g.finished_ with
    | true =>
      rw [Generator.next_finished hfinished]
      exact ⟨_, _, rfl, .finished⟩
    | false =>
      rw [hfinished, if_neg Bool.false_ne_true] at h
      obtain ⟨⟨r, http3_⟩, hprocess⟩ := p.client.http3_.process_some g.id
      cases r with
      | error e =>
        unfold Generator.next
        rw [hfinished, if_neg Bool.false_ne_true, hprocess]
        by_cases he : e = .incomplete
        · subst he
          exact ⟨_, _, rfl, .waits hprocess⟩
        · refine ⟨.failed (.http3 e), p.setHttp3 http3_, ?_, .fails hprocess⟩
          cases e <;> first | exact absurd rfl he | rfl
      | ok event =>
        obtain ⟨g', hnext, hr, hid, hend⟩ := next_event hfinished hprocess
        rw [hnext]
        unfold Generator.get
        dsimp only
        rw [hr]
        dsimp only
        by_cases hsuccess : (on_event_ p.handler event).1 = .success
        · rw [if_pos hsuccess]
          have hfuel : (if g'.finished_ then 0 else (http3_.part g'.id).size + 1) < fuel := by
            split
            · omega
            · next hmore =>
              have hlt := process_lt hprocess fun i hi => hmore (hend.mpr ⟨i, hi⟩)
              rw [hid]
              omega
          obtain ⟨d, p', hdrain, hdrains⟩ := ih (g := { g' with r := .error .internal })
            { p.setHttp3 http3_ with handler := (on_event_ p.handler event).2 } hfuel
          rw [show ({ g' with r := .error .internal } : Generator).id = g.id from hid] at hdrains
          exact ⟨d, p', hdrain, .hands hprocess hend.mp hdrains⟩
        · rw [if_neg hsuccess]
          exact ⟨_, _, rfl, .exits hprocess⟩

/-- There is fuel for an event from each byte and one more. -/
theorem size_lt_enough (c : Http3.Endpoint.Client.Connection) (id : UInt64) :
    (c.part id).size + 1 < enough c id := by
  unfold enough pending
  by_cases hcontrol : id = c.control.2.id
  · rw [Streams.part_control hcontrol, if_pos hcontrol, Buffers.size_eq]
    show c.control.2.buffers.bytes.length + 1 < _
    omega
  · rw [Streams.part_request hcontrol, if_neg hcontrol]
    match c.requests[id]? with
    | none => exact Nat.lt_add_left _ (by decide)
    | some (sender, receiver) =>
      show 2 * receiver.buffers.bytes.length + (if receiver.body.state = .data then 1 else 0) + 1 < _
      dsimp only
      rw [Buffers.size_eq]
      split <;> omega

/-- The events of the event buffer are handed on one after another, until one of them fails or the handler exits. -/
inductive Hands (on_event_ : H → Http3.Event → Verdict × H) :
    List (Except Quic.Error Quic.Event) → Program C H → Drained → Program C H → Prop where
  | through {p} : Hands on_event_ [] p .through p
  | error {error rest p} : Hands on_event_ (.error error :: rest) p (.failed (.quic error)) (p.setBuffer rest)
  | refused {event rest p error http3_} : p.client.http3_.recv event = (.error error, http3_) →
      Hands on_event_ (.ok event :: rest) p (.failed (.http3 error)) ((p.setBuffer rest).setHttp3 http3_)
  | stops {data rest p http3_ d p'} : p.client.http3_.recvData data = (.ok (), http3_) →
      Drains on_event_ data.id false ((p.setBuffer rest).setHttp3 http3_) d p' → d ≠ .through →
      Hands on_event_ (.ok (.data data) :: rest) p d p'
  | hands {data rest p http3_ p₁ d p'} : p.client.http3_.recvData data = (.ok (), http3_) →
      Drains on_event_ data.id false ((p.setBuffer rest).setHttp3 http3_) .through p₁ →
      Hands on_event_ rest p₁ d p' → Hands on_event_ (.ok (.data data) :: rest) p d p'

/-- **The loop over the event buffer ends**, whatever is in it. -/
theorem handOut_hands (on_event_ : H → Http3.Event → Verdict × H) (buffer : List (Except Quic.Error Quic.Event))
    (p : Program C H) :
    ∃ d p', handOut on_event_ buffer p = some (d, p') ∧ Hands on_event_ buffer p d p' := by
  induction buffer generalizing p with
  | nil => exact ⟨_, _, rfl, .through⟩
  | cons r rest ih =>
    unfold handOut
    cases r with
    | error error => exact ⟨_, _, rfl, .error⟩
    | ok event =>
      dsimp only
      cases event with
      | error e => exact ⟨_, _, rfl, .refused rfl⟩
      | data data =>
        rcases hdata : p.client.http3_.recvData data with ⟨error | u, http3_⟩
        · have hrecv : p.client.http3_.recv (.data data) = (.error error, http3_) := by
            unfold Http3.Endpoint.Client.Connection.recv Generator.recv
            dsimp only
            rw [hdata]
          rw [hrecv]
          exact ⟨_, _, rfl, .refused hrecv⟩
        · have hrecv : p.client.http3_.recv (.data data) = (.ok { id := data.id }, http3_) := by
            unfold Http3.Endpoint.Client.Connection.recv Generator.recv
            dsimp only
            rw [hdata]
          obtain ⟨d, p₁, hdrain, hdrains⟩ := drain_drains on_event_ { id := data.id }
            ((p.setBuffer rest).setHttp3 http3_) (size_lt_enough http3_ data.id)
          rw [hrecv]
          dsimp only
          unfold setBuffer setHttp3 at hdrain
          dsimp only at hdrain
          rw [hdrain]
          cases d with
          | through =>
            obtain ⟨d, p', hout, hhands⟩ := ih p₁
            exact ⟨d, p', hout, .hands hdata hdrains hhands⟩
          | exited => exact ⟨_, _, rfl, .stops hdata hdrains nofun⟩
          | failed e => exact ⟨_, _, rfl, .stops hdata hdrains nofun⟩

/-- How a loop ends where it does not go through: the handler exited, or a connection has failed. -/
def Ends (d : Drained) (p : Program C H) : Prop :=
  d = .through ∨ (d = .exited ∧ p.exit_ ≠ none) ∨ ∃ error, d = .failed error ∧ error ≠ .again

/-- The loop over a generator ends in one of these ways. -/
theorem Drains.ends {id : UInt64} {finished : Bool} {p p' : Program C H} {d : Drained}
    (h : Drains on_event_ id finished p d p') : Ends d p' := by
  induction h with
  | finished => exact .inl rfl
  | waits => exact .inl rfl
  | fails => exact .inr (.inr ⟨_, rfl, nofun⟩)
  | exits => exact .inr (.inl ⟨rfl, nofun⟩)
  | hands _ _ _ ih => exact ih

/-- The loop over the event buffer does too. -/
theorem Hands.ends {buffer : List (Except Quic.Error Quic.Event)} {p p' : Program C H} {d : Drained}
    (h : Hands on_event_ buffer p d p') : Ends d p' := by
  induction h with
  | through => exact .inl rfl
  | error => exact .inr (.inr ⟨_, rfl, nofun⟩)
  | refused => exact .inr (.inr ⟨_, rfl, nofun⟩)
  | stops _ hdrains _ => exact hdrains.ends
  | hands _ _ _ ih => exact ih

/-! ## Runs of the program -/

/-- A handler that keeps what it has heard. -/
def noted (on_event_ : H → Http3.Event → Verdict × H) (h : H × List Http3.Event) (event : Http3.Event) :
    Verdict × H × List Http3.Event :=
  ((on_event_ h.1 event).1, (on_event_ h.1 event).2, h.2 ++ [event])

/-- The program and what has come to it; whether receiving has failed or the handler has exited. -/
structure Session (C H : Type) where
  program : Program C (H × List Http3.Event)
  delivered : List (Except Quic.Error Quic.Event) := []
  interrupted : Bool := false

/-- What the program may do, and what comes from outside: datagrams and a timer. -/
inductive Action where
  | send (transmit : Transmit)
  | recv (receive : Receive)
  | expire
  | request
  | call (id : UInt64) (call : Call)

/-- The data that an event is. -/
def dataOf : Except Quic.Error Quic.Event → Option Quic.Data
  | .ok (.data data) => some data
  | _ => none

/-- The data of a stream among what has come. -/
def dataOn (k : UInt64) (delivered : List (Except Quic.Error Quic.Event)) : List Quic.Data :=
  (delivered.filterMap dataOf).filter fun data => data.id = k

namespace Session

/-- A program that has done nothing, with a library and a handler. -/
def start (c : C) (h : H) : Session C H where
  program := { client := { ngtcp2 := { library := c } }, handler := (h, []) }

/-- What a datagram brings. -/
def came (library : Quic.Library C) (s : Session C H) : Receive → List (Except Quic.Error Quic.Event)
  | .datagram packet => Quic.Client.came library packet s.program.client.quic_ s.program.client.ngtcp2
  | _ => []

/-- What the handler has heard of a stream. -/
def heard (s : Session C H) (k : UInt64) : List Http3.Event := heardOn k s.program.handler.2

/-- The program acts. A session is interrupted where receiving fails for more than want of a datagram, or the
handler exits. -/
def step (library : Quic.Library C) (on_event_ : H → Http3.Event → Verdict × H) (host : Host) (s : Session C H) :
    Action → Option (Session C H)
  | .send transmit =>
    (s.program.sendOnce library host transmit).map fun (_, program) => { s with program }
  | .recv receive =>
    (recvOnce (noted on_event_) library receive s.program).map fun (r, program) => {
      program
      delivered := s.delivered ++ s.came library receive
      interrupted := s.interrupted || (r ≠ .ok () && r ≠ .error .again) || program.exit_.isSome }
  | .expire => some { s with program := (s.program.expire library).2 }
  | .request => some { s with program := s.program.request.2 }
  | .call id call => some { s with program := (s.program.callHandle host id call).2 }

/-- Data of the responses comes on streams that the client has opened, and is as it should be. -/
def Delivers (fits : UInt64 → List Quic.Data → Prop) (c : Http3.Endpoint.Client.Connection)
    (delivered : List (Except Quic.Error Quic.Event)) : Prop :=
  ∀ data ∈ delivered.filterMap dataOf, data.id.toNat % 4 = 0 →
    c.Opened data.id ∧ fits data.id (dataOn data.id delivered)

instance (fits : UInt64 → List Quic.Data → Prop) [∀ k got, Decidable (fits k got)]
    (c : Http3.Endpoint.Client.Connection) (delivered : List (Except Quic.Error Quic.Event)) :
    Decidable (Delivers fits c delivered) :=
  inferInstanceAs (Decidable (∀ data ∈ delivered.filterMap dataOf, _ → _ ∧ _))

/-- The network does what it should, and the client does not run out of streams. -/
def Admits (fits : UInt64 → List Quic.Data → Prop) (library : Quic.Library C) (s : Session C H) : Action → Prop
  | .recv receive => Delivers fits s.program.client.http3_ (s.delivered ++ s.came library receive)
  | .request => s.program.client.http3_.nextStreamId.toNat + 4 < 2 ^ 64
  | _ => True

instance (fits : UInt64 → List Quic.Data → Prop) [∀ k got, Decidable (fits k got)] (library : Quic.Library C)
    (s : Session C H) : ∀ a, Decidable (Admits fits library s a)
  | .recv _ => inferInstanceAs (Decidable (Delivers _ _ _))
  | .request => inferInstanceAs (Decidable (_ < _))
  | .send _ => isTrue trivial
  | .expire => isTrue trivial
  | .call _ _ => isTrue trivial

variable {t : Tracker} {c c' : Http3.Endpoint.Client.Connection}
  {came₁ came₂ : List (Except Quic.Error Quic.Event)} {k : UInt64}

/-- What has come of a stream before and then. -/
theorem dataOn_append (k : UInt64) (came₁ came₂ : List (Except Quic.Error Quic.Event)) :
    dataOn k (came₁ ++ came₂) = dataOn k came₁ ++ dataOn k came₂ := by
  unfold dataOn
  rw [List.filterMap_append, List.filter_append]

/-- What came first came as it should. -/
theorem Delivers.left (h : Delivers t.fits c (came₁ ++ came₂)) : Delivers t.fits c came₁ := by
  intro data hmem hmod
  have hmem' : data ∈ (came₁ ++ came₂).filterMap dataOf := by
    rw [List.filterMap_append]
    exact List.mem_append_left _ hmem
  obtain ⟨hopened, hfits⟩ := h data hmem' hmod
  rw [dataOn_append] at hfits
  exact ⟨hopened, t.fits_left hfits⟩

/-- What has come of a response is as it should be. -/
theorem Delivers.fits (h : Delivers t.fits c came₁) (hopened : c.Opened k) : t.fits k (dataOn k came₁) := by
  by_cases hnil : dataOn k came₁ = []
  · rw [hnil]
    exact t.fits_nil
  · obtain ⟨data, hmem⟩ := List.exists_mem_of_ne_nil _ hnil
    obtain ⟨hcame, hid⟩ := List.mem_filter.mp hmem
    obtain rfl := of_decide_eq_true hid
    exact (h data hcame hopened.1).2

/-- More streams may be opened. -/
theorem Delivers.opens {fits : UInt64 → List Quic.Data → Prop} (h : Delivers fits c came₁)
    (hopens : ∀ k, c.Opened k → c'.Opened k) : Delivers fits c' came₁ :=
  fun data hmem hmod => (h data hmem hmod).imp_left (hopens _)

/-! ### What a packet comes to -/

/-- What is kept of the responses while events are handed on. -/
abbrev Listening (t : Tracker) (p : Program C (H × List Http3.Event)) (got : UInt64 → List Quic.Data) : Prop :=
  Receives t p.client.http3_ got fun k => heardOn k p.handler.2

/-- What is kept of a response is done. -/
def Complete (t : Tracker) (p : Program C (H × List Http3.Event)) (got : UInt64 → List Quic.Data) (k : UInt64) : Prop :=
  k.toNat % 4 = 0 → t.done k (got k) (heardOn k p.handler.2)

/-- The streams that are opened stay so, and what was heard. -/
structure Later (p p' : Program C (H × List Http3.Event)) : Prop where
  next : p'.client.http3_.nextStreamId = p.client.http3_.nextStreamId
  heard : p.handler.2 <+: p'.handler.2

variable {on_event_ : H → Http3.Event → Verdict × H} {p p' p'' : Program C (H × List Http3.Event)} {id : UInt64}
  {finished : Bool} {d : Drained} {got got' : UInt64 → List Quic.Data} {r : Except Http3.Error Unit}

theorem Later.trans (h : Later p p') (h' : Later p' p'') : Later p p'' := ⟨h'.next.trans h.next, h.heard.trans h'.heard⟩

/-- The handler opens no stream. -/
theorem Later.opened (h : Later p p') (k : UInt64) : p'.client.http3_.Opened k ↔ p.client.http3_.Opened k := by
  unfold Opened
  rw [h.next]

/-- What is done stays so while other streams are served. -/
theorem Complete.later (h : Complete t p got k) (hlater : Later p p') (hgot : got' k = got k) :
    Complete t p' got' k := by
  intro hmod
  obtain ⟨rest, hrest⟩ := hlater.heard
  rw [hgot, ← hrest, heardOn_append]
  exact t.done_more _ (h hmod)

/-- One event is handed on. -/
theorem Listening.process (h : Listening t p got) {event : Http3.Event}
    (hfits : p.client.http3_.Opened id → t.fits id (got id))
    (hprocess : p.client.http3_.process id = some (.ok event, c')) :
    Receives t c' got fun k => heardOn k (noted on_event_ p.handler event).2.2 := by
  refine Eq.mp (congrArg (Receives t c' got) (funext fun k => ?_)) (Receives.process h hfits hprocess)
  exact (heardOn_append k p.handler.2 [event]).symm

/-- There is no event now. -/
theorem Listening.error (h : Listening t p got) {error : Http3.Error}
    (hfits : p.client.http3_.Opened id → t.fits id (got id))
    (hprocess : p.client.http3_.process id = some (.error error, c')) : Listening t (p.setHttp3 c') got :=
  Eq.mp (congrArg (Receives t c' got) (funext fun _ => List.append_nil _)) (Receives.process h hfits hprocess)

/-- **A loop over a generator** hands on events of one stream, and where it goes through, what is kept of the stream is
done. -/
theorem drains_listening (hd : Drains (noted on_event_) id finished p d p') (h : Listening t p got)
    (hfits : p.client.http3_.Opened id → t.fits id (got id)) (hfinished : finished = true → Complete t p got id) :
    Listening t p' got ∧ p'.client.ngtcp2 = p.client.ngtcp2 ∧ Later p p' ∧
      (d = .through → Complete t p' got id) := by
  induction hd with
  | finished => exact ⟨h, rfl, ⟨rfl, List.prefix_rfl⟩, fun _ => hfinished rfl⟩
  | waits hprocess =>
    exact ⟨h.error hfits hprocess, rfl, ⟨process_next hprocess, List.prefix_rfl⟩,
      fun _ hmod => Receives.waits h hmod hfits hprocess⟩
  | fails hprocess => exact ⟨h.error hfits hprocess, rfl, ⟨process_next hprocess, List.prefix_rfl⟩, nofun⟩
  | exits hprocess =>
    exact ⟨h.process hfits hprocess, rfl, ⟨process_next hprocess, List.prefix_append _ _⟩, nofun⟩
  | @hands p event http3_ finished d p' hprocess hend _ ih =>
    have hlater : Later p { p.setHttp3 http3_ with
        handler := (noted on_event_ p.handler event).2 } := ⟨process_next hprocess, List.prefix_append _ _⟩
    have hlistening : Listening t { p.setHttp3 http3_ with handler := (noted on_event_ p.handler event).2 } got :=
      h.process hfits hprocess
    obtain ⟨hlistening', hngtcp2, hrest, hthrough⟩ := ih hlistening
      (fun hopened => hfits ((hlater.opened id).mp hopened)) fun hfinished hmod => by
        obtain ⟨i, rfl⟩ := hend hfinished
        exact Receives.gone hlistening hmod (Receives.finished h hprocess)
    exact ⟨hlistening', hngtcp2, hlater.trans hrest, hthrough⟩

theorem dataOn_self (data : Quic.Data) : dataOn data.id [.ok (.data data)] = [data] :=
  List.filter_cons_of_pos (decide_eq_true rfl)

theorem dataOn_ne {data : Quic.Data} (hk : k ≠ data.id) : dataOn k [.ok (.data data)] = [] :=
  List.filter_cons_of_neg fun h => hk (of_decide_eq_true h).symm

/-- Data is taken. -/
theorem Listening.recvData {data : Quic.Data} (h : Listening t p fun k => dataOn k came₁)
    (hdelivers : Delivers t.fits p.client.http3_ (came₁ ++ .ok (.data data) :: came₂))
    (hrecv : p.client.http3_.recvData data = (r, c')) :
    Receives t c' (fun k => dataOn k (came₁ ++ [.ok (.data data)])) fun k => heardOn k p.handler.2 := by
  have hdelivers' : Delivers t.fits p.client.http3_ ((came₁ ++ [.ok (.data data)]) ++ came₂) := by
    rwa [List.append_assoc]
  have hmem : data ∈ (came₁ ++ [Except.ok (Quic.Event.data data)]).filterMap dataOf := by
    rw [List.filterMap_append]
    exact List.mem_append_right _ List.mem_cons_self
  have hreceives := Receives.recvData h data (fun k => dataOn k (came₁ ++ [.ok (.data data)])) (fun hmod => ?_) ?_
    fun k hk => ?_
  · rwa [hrecv] at hreceives
  · obtain ⟨hopened, hfits⟩ := hdelivers'.left data hmem hmod
    rw [dataOn_append, dataOn_self] at hfits
    exact ⟨hopened, hfits⟩
  · rw [dataOn_append, dataOn_self]
  · rw [dataOn_append, dataOn_ne hk, List.append_nil]

/-- **The loop over the event buffer** takes events off its front, and where it goes through it takes them all and
completes the responses whose end they bring. -/
theorem hands_listening {buffer : List (Except Quic.Error Quic.Event)}
    (hd : Hands (noted on_event_) buffer p d p') (hbuffer : p.client.ngtcp2.event_buffer_ = buffer)
    (hdelivers : Delivers t.fits p.client.http3_ (came₁ ++ buffer)) (h : Listening t p fun k => dataOn k came₁) :
    ∃ taken, came₁ ++ buffer = taken ++ p'.client.ngtcp2.event_buffer_ ∧
      (Listening t p' fun k => dataOn k taken) ∧ Later p p' ∧
        (d = .through → p'.client.ngtcp2.event_buffer_ = [] ∧
          ((∀ k, Complete t p (fun k => dataOn k came₁) k) → ∀ k, Complete t p' (fun k => dataOn k taken) k)) := by
  have hmore (r : Except Quic.Error Quic.Event) (came₁ rest : List (Except Quic.Error Quic.Event)) :
      came₁ ++ r :: rest = (came₁ ++ [r]) ++ rest := (List.append_assoc _ [r] _).symm
  -- what one event comes to, and the generator of its stream
  have hdrains {data : Quic.Data} {came₁ rest : List (Except Quic.Error Quic.Event)}
      {p p₁ : Program C (H × List Http3.Event)} {http3_ : Http3.Endpoint.Client.Connection} {d : Drained}
      (hdelivers : Delivers t.fits p.client.http3_ (came₁ ++ .ok (.data data) :: rest))
      (h : Listening t p fun k => dataOn k came₁) (hrecv : p.client.http3_.recvData data = (.ok (), http3_))
      (hd : Drains (noted on_event_) data.id false ((p.setBuffer rest).setHttp3 http3_) d p₁) :
      (Listening t p₁ fun k => dataOn k (came₁ ++ [.ok (.data data)])) ∧ p₁.client.ngtcp2.event_buffer_ = rest ∧
        Later p p₁ ∧ (d = .through → Complete t p₁ (fun k => dataOn k (came₁ ++ [.ok (.data data)])) data.id) := by
    have hfirst : Later p ((p.setBuffer rest).setHttp3 http3_) := by
      have hnext := recvData_next p.client.http3_ data
      rw [hrecv] at hnext
      exact ⟨hnext, List.prefix_rfl⟩
    obtain ⟨hlistening, hngtcp2, hrest, hthrough⟩ := drains_listening hd (h.recvData hdelivers hrecv)
      (fun hopened => (hmore _ _ _ ▸ hdelivers).left.fits ((hfirst.opened _).mp hopened)) nofun
    exact ⟨hlistening, by rw [hngtcp2]; rfl, hfirst.trans hrest, hthrough⟩
  induction hd generalizing came₁ with
  | through => exact ⟨came₁, by rw [hbuffer], h, ⟨rfl, List.prefix_rfl⟩, fun _ => ⟨hbuffer, fun hcomplete => hcomplete⟩⟩
  | @error error rest p =>
    have hsame : (fun k => dataOn k (came₁ ++ [.error error])) = fun k => dataOn k came₁ :=
      funext fun k => by rw [dataOn_append]; exact List.append_nil _
    exact ⟨came₁ ++ [.error error], hmore _ _ _, hsame ▸ h, ⟨rfl, List.prefix_rfl⟩, nofun⟩
  | @refused event rest p error http3_ hrecv =>
    cases event with
    | error e =>
      obtain ⟨-, rfl⟩ := Prod.mk.inj hrecv
      have hsame : (fun k => dataOn k (came₁ ++ [.ok (.error e)])) = fun k => dataOn k came₁ :=
        funext fun k => by rw [dataOn_append]; exact List.append_nil _
      exact ⟨came₁ ++ [.ok (.error e)], hmore _ _ _, hsame ▸ h, ⟨rfl, List.prefix_rfl⟩, nofun⟩
    | data data =>
      obtain ⟨r, hdata⟩ : ∃ r, p.client.http3_.recvData data = (r, http3_) := by
        unfold Http3.Endpoint.Client.Connection.recv Generator.recv at hrecv
        dsimp only at hrecv
        rcases hdata : p.client.http3_.recvData data with ⟨e | u, c₁⟩
        all_goals
          rw [hdata] at hrecv
          cases hrecv
        exact ⟨_, rfl⟩
      have hnext := recvData_next p.client.http3_ data
      rw [hdata] at hnext
      exact ⟨_, hmore _ _ _, h.recvData hdelivers hdata, ⟨hnext, List.prefix_rfl⟩, nofun⟩
  | @stops data rest p http3_ d p' hrecv hd hne =>
    obtain ⟨hlistening, hrest, hlater, -⟩ := hdrains hdelivers h hrecv hd
    exact ⟨came₁ ++ [.ok (.data data)], by rw [hrest]; exact hmore _ _ _, hlistening, hlater,
      fun heq => absurd heq hne⟩
  | @hands data rest p http3_ p₁ d p' hrecv hd _ ih =>
    obtain ⟨hlistening, hrest, hlater, hthrough⟩ := hdrains hdelivers h hrecv hd
    rw [hmore] at hdelivers
    obtain ⟨taken, htaken, hlistening', hlater', hall⟩ :=
      ih hrest (hdelivers.opens fun k => (hlater.opened k).mpr) hlistening
    refine ⟨taken, (hmore _ _ _).trans htaken, hlistening', hlater.trans hlater', fun heq => ?_⟩
    obtain ⟨hempty, hcomplete⟩ := hall heq
    refine ⟨hempty, fun hbefore => hcomplete fun k => ?_⟩
    by_cases hk : k = data.id
    · exact hk ▸ hthrough rfl
    · exact (hbefore k).later hlater (by rw [dataOn_append, dataOn_ne hk, List.append_nil])

/-! ### Sessions -/

/-- What holds of every session a run comes to. -/
structure Inv (t : Tracker) (s : Session C H) : Prop where
  delivers : Delivers t.fits s.program.client.http3_ s.delivered
  takes : ∃ taken, s.delivered = taken ++ s.program.client.ngtcp2.event_buffer_ ∧
    (Listening t s.program fun k => dataOn k taken) ∧ (s.interrupted = false →
      s.program.client.ngtcp2.event_buffer_ = [] ∧ ∀ k, Complete t s.program (fun k => dataOn k taken) k)

/-- A program that has done nothing has heard nothing. -/
theorem inv_start (t : Tracker) (c : C) (h : H) : Inv t (start c h) :=
  ⟨nofun, [], rfl, receives_start t, fun _ => ⟨rfl, fun _ _ => t.done_nil⟩⟩

/-- Sending sends for the HTTP/3 connection or not at all. -/
theorem sendOnce_cases {library : Quic.Library C} {host : Host} {transmit : Transmit}
    {client client' : Client (Quic.Client C)} {r : Except Error Unit}
    (h : Client.sendOnce (Quic.Client.transport library) host transmit client = some (r, client')) :
    client'.ngtcp2.event_buffer_ = client.ngtcp2.event_buffer_ ∧
      (client'.http3_ = client.http3_ ∨ client'.http3_ = (client.http3_.send host).2) := by
  have hhttp3 {client₁ : Client (Quic.Client C)} (h : client₁.sendHttp3 host = some (r, client')) :
      client'.ngtcp2 = client₁.ngtcp2 ∧ client'.http3_ = (client₁.http3_.send host).2 := by
    unfold Client.sendHttp3 at h
    rcases hsend : client₁.http3_.send host with ⟨e | event, http3_⟩
    all_goals
      rw [hsend] at h
      dsimp only at h
    · split at h <;>
        · cases h
          exact ⟨rfl, rfl⟩
    · split at h <;> cases h <;> exact ⟨rfl, rfl⟩
  unfold Client.sendOnce at h
  generalize client.socket_.send transmit = sent at h
  rcases sent with ⟨e | u, socket_⟩
  all_goals dsimp only at h
  · split at h
    · cases h
      exact ⟨rfl, .inl rfl⟩
    · rcases hquic : client.quic_.send (Quic.Client.transport library) client.ngtcp2 with
        _ | ⟨e | packet, quic_, ngtcp2⟩
      all_goals
        rw [hquic] at h
        dsimp only at h
      · cases h
      · have hbuffer := Quic.Client.event_buffer_of_calls library (Quic.Connection.send_calls hquic)
        split at h
        · cases h
          exact ⟨hbuffer, .inl rfl⟩
        · obtain ⟨hngtcp2, hsent⟩ := hhttp3 h
          exact ⟨(congrArg _ hngtcp2).trans hbuffer, .inr hsent⟩
      · cases h
        exact ⟨Quic.Client.event_buffer_of_calls library (Quic.Connection.send_calls hquic), .inl rfl⟩
  · cases h
    exact ⟨rfl, .inl rfl⟩

variable {library : Quic.Library C} {host : Host} {s s' : Session C H} {a : Action}

/-- Every datagram is handed out. -/
theorem recvOnce_some (library : Quic.Library C) (receive : Receive) (p : Program C H)
    (on_event_ : H → Http3.Event → Verdict × H) :
    ∃ r p', recvOnce on_event_ library receive p = some (r, p') := by
  cases receive with
  | datagram packet =>
    obtain ⟨d, p', hout, -⟩ := handOut_hands on_event_
      (p.client.ngtcp2.recv library packet p.client.quic_).2.event_buffer_
      { p with client := { p.client with
          quic_ := (p.client.ngtcp2.recv library packet p.client.quic_).1
          ngtcp2 := (p.client.ngtcp2.recv library packet p.client.quic_).2 } }
    exact ⟨_, _, congrArg (Option.map _) hout⟩
  | again => exact ⟨_, _, rfl⟩
  | failed => exact ⟨_, _, rfl⟩

/-- What is done with the requests of a client leaves what was heard as it is. -/
theorem Inv.http3 (h : Inv t s) {program : Program C (H × List Http3.Event)}
    (hbuffer : program.client.ngtcp2.event_buffer_ = s.program.client.ngtcp2.event_buffer_)
    (hhandler : program.handler = s.program.handler)
    (hopens : ∀ k, s.program.client.http3_.Opened k → program.client.http3_.Opened k)
    (hreceives : ∀ got heard, Receives t s.program.client.http3_ got heard →
      Receives t program.client.http3_ got heard) : Inv t { s with program } := by
  obtain ⟨hdelivers, taken, htaken, hlistening, hcomplete⟩ := h
  refine ⟨hdelivers.opens hopens, taken, ?_, ?_, fun hs => ?_⟩
  · rw [hbuffer]
    exact htaken
  · unfold Listening
    rw [hhandler]
    exact hreceives _ _ hlistening
  · obtain ⟨hempty, hcomplete⟩ := hcomplete hs
    refine ⟨hbuffer.trans hempty, fun k => ?_⟩
    unfold Complete
    rw [hhandler]
    exact hcomplete k

/-- **A datagram** is taken as far as nothing fails. -/
theorem recv_inv (h : Inv t s) {packet : Buffer}
    (ha : Delivers t.fits s.program.client.http3_ (s.delivered ++ s.came library (.datagram packet)))
    (hs : step library on_event_ host s (.recv (.datagram packet)) = some s') : Inv t s' := by
  obtain ⟨-, taken, htaken, hlistening, hcomplete⟩ := h
  obtain ⟨⟨r, program⟩, hrecv, rfl⟩ := Option.map_eq_some_iff.mp hs
  obtain ⟨d, p', hout, hhands⟩ := handOut_hands (noted on_event_)
    (s.program.client.ngtcp2.recv library packet s.program.client.quic_).2.event_buffer_
    { s.program with client := { s.program.client with
        quic_ := (s.program.client.ngtcp2.recv library packet s.program.client.quic_).1
        ngtcp2 := (s.program.client.ngtcp2.recv library packet s.program.client.quic_).2 } }
  obtain ⟨rfl, rfl⟩ := Prod.mk.inj (Option.some.inj (hrecv.symm.trans (congrArg (Option.map _) hout)))
  -- what was left in the event buffer comes first
  have hall : s.delivered ++ s.came library (.datagram packet) =
      taken ++ (s.program.client.ngtcp2.recv library packet s.program.client.quic_).2.event_buffer_ := by
    rw [htaken, List.append_assoc, Quic.Client.recv_buffer]
    rfl
  rw [hall] at ha
  obtain ⟨taken', htaken', hlistening', hlater, hthrough⟩ := hands_listening hhands rfl ha hlistening
  have hdelivered : s.delivered ++ s.came library (.datagram packet) =
      taken' ++ program.client.ngtcp2.event_buffer_ := hall.trans htaken'
  refine ⟨?_, taken', hdelivered, hlistening', fun hgoes => ?_⟩
  · dsimp only
    rw [hall]
    exact ha.opens fun k => (hlater.opened k).mpr
  · dsimp only at hgoes
    rw [Bool.or_eq_false_iff, Bool.or_eq_false_iff] at hgoes
    obtain ⟨⟨hquiet, hresult⟩, hexit⟩ := hgoes
    have hd : d = .through := by
      rcases hhands.ends with rfl | ⟨rfl, hexited⟩ | ⟨error, rfl, hagain⟩
      · rfl
      · exact absurd (Option.isNone_iff_eq_none.mp (by rw [← Option.not_isSome, hexit]; rfl)) hexited
      · rcases Bool.and_eq_false_iff.mp hresult with hok | hfailed
        · exact absurd (not_not.mp (of_decide_eq_false hok)) nofun
        · exact absurd (Except.error.inj (not_not.mp (of_decide_eq_false hfailed))) hagain
    obtain ⟨hempty, hcompletes⟩ := hthrough hd
    exact ⟨hempty, hcompletes (hcomplete hquiet).2⟩

/-- **An admitted step** keeps the session. -/
theorem step_inv (h : Inv t s) (ha : Admits t.fits library s a)
    (hs : step library on_event_ host s a = some s') : Inv t s' := by
  cases a with
  | send transmit =>
    obtain ⟨⟨r, program⟩, hsend, rfl⟩ := Option.map_eq_some_iff.mp hs
    obtain ⟨⟨r', client⟩, hclient, heq⟩ := Option.map_eq_some_iff.mp hsend
    obtain ⟨rfl, rfl⟩ := Prod.mk.inj heq
    obtain ⟨hbuffer, hhttp3 | hhttp3⟩ := sendOnce_cases hclient
    · refine h.http3 hbuffer rfl (fun k hopened => ?_) fun got heard hreceives => ?_
      all_goals
        dsimp only
        rw [hhttp3]
        assumption
    · refine h.http3 hbuffer rfl (fun k hopened => ?_) fun got heard hreceives => ?_
      all_goals
        dsimp only
        rw [hhttp3]
      · exact hopened
      · exact hreceives.send host
  | recv receive =>
    cases receive with
    | datagram packet => exact recv_inv h ha hs
    | again =>
      cases hs
      obtain ⟨-, taken, htaken, hlistening, hcomplete⟩ := h
      refine ⟨ha, taken, (List.append_nil _).trans htaken, hlistening, fun hgoes => hcomplete ?_⟩
      exact (Bool.or_eq_false_iff.mp (Bool.or_eq_false_iff.mp hgoes).1).1
    | failed =>
      cases hs
      obtain ⟨-, taken, htaken, hlistening, -⟩ := h
      refine ⟨ha, taken, (List.append_nil _).trans htaken, hlistening, fun hgoes => ?_⟩
      exact nomatch (Bool.or_eq_false_iff.mp (Bool.or_eq_false_iff.mp hgoes).1).2
  | expire =>
    cases hs
    have hsame : (s.program.expire library).2.client.ngtcp2.event_buffer_ = s.program.client.ngtcp2.event_buffer_ ∧
        (s.program.expire library).2.handler = s.program.handler ∧
          (s.program.expire library).2.client.http3_ = s.program.client.http3_ := by
      unfold Program.expire Quic.Client.expire
      cases (library.expire s.program.client.ngtcp2.library).1 <;> exact ⟨rfl, rfl, rfl⟩
    obtain ⟨hbuffer, hhandler, hhttp3⟩ := hsame
    refine h.http3 hbuffer hhandler ?_ ?_ <;> rw [hhttp3]
    · exact fun _ hopened => hopened
    · exact fun _ _ hreceives => hreceives
  | request =>
    cases hs
    refine h.http3 rfl rfl (fun k hopened => ⟨hopened.1, UInt64.lt_trans hopened.2 ?_⟩)
      fun got heard hreceives => Receives.request hreceives ha
    rw [UInt64.lt_iff_toNat_lt]
    show s.program.client.http3_.nextStreamId.toNat < (s.program.client.http3_.nextStreamId + 4).toNat
    rw [UInt64.toNat_add, Nat.mod_eq_of_lt (show _ + UInt64.toNat 4 < 2 ^ 64 from ha)]
    exact Nat.lt_add_of_pos_right (by decide)
  | call id call =>
    cases hs
    exact h.http3 rfl rfl (fun _ hopened => hopened) fun got heard hreceives => hreceives.call host id call

/-- **A run keeps the session**, and no loop over the events of a datagram goes on without end. -/
theorem run_inv {on_event_ : H → Http3.Event → Verdict × H} {c : C} {h : H} {actions : List Action}
    (hmeets : Run.Meets (step library on_event_ host) (Admits t.fits library) (start c h) actions)
    (hrun : Run.after (step library on_event_ host) (start c h) actions = some s) :
    Inv t s ∧ ∀ receive, step library on_event_ host s (.recv receive) ≠ none := by
  refine ⟨hmeets.invariant (fun _ _ _ hinv ha hs => step_inv hinv ha hs) (inv_start t c h) hrun,
    fun receive hnone => ?_⟩
  obtain ⟨r, p', hrecv⟩ := recvOnce_some library receive s.program (noted on_event_)
  unfold step at hnone
  dsimp only at hnone
  rw [hrecv] at hnone
  cases hnone

/-- **What the handler hears is what was sent**: in every run in which the network does what QUIC promises, whatever the
library calls back, the handler returns and the application does, the loops over the events of a datagram end, and what
has come is taken in its order. The headers of a response are heard in order and the body behind them as far as it has
come, and while nothing has failed, a response whose end has come was heard to its end. -/
theorem session_hears (library : Quic.Library C) (on_event_ : H → Http3.Event → Verdict × H) (host : Host) (c : C)
    (h : H) (said : UInt64 → Said) (wire : UInt64 → List UInt8) (hwire : ∀ k, (said k).Wire (wire k))
    (actions : List Action) {s : Session C H}
    (hmeets : Run.Meets (step library on_event_ host) (Admits (fun k => Came (wire k)) library) (start c h) actions)
    (hrun : Run.after (step library on_event_ host) (start c h) actions = some s) :
    (∀ receive, step library on_event_ host s (.recv receive) ≠ none) ∧
      (∃ taken, s.delivered = taken ++ s.program.client.ngtcp2.event_buffer_) ∧
      (∀ k, s.program.client.http3_.Opened k → Request.Hears k (said k).headers (said k).payload
        (∃ data ∈ dataOn k s.delivered, data.fin = true) (s.heard k)) ∧
      (s.interrupted = false → ∀ k, s.program.client.http3_.Opened k →
        (∃ data ∈ dataOn k s.delivered, data.fin = true) → Heard k (said k) (s.heard k)) := by
  obtain ⟨⟨hdelivers, taken, htaken, hlistening, hcomplete⟩, hends⟩ := run_inv (t := ofMessages hwire) hmeets hrun
  have hcame {k : UInt64} (hopened : s.program.client.http3_.Opened k) : Came (wire k) (dataOn k taken) := by
    rw [htaken] at hdelivers
    exact hdelivers.left.fits hopened
  refine ⟨hends, ⟨taken, htaken⟩, fun k hopened => ?_, fun hgoes k hopened hfin => ?_⟩
  · have hattends : Attends k _ _ _ := hlistening.opened hopened
    obtain ⟨heads, parts, ends, hheard, htells⟩ := hattends.hears (hcame hopened) (hwire k)
    refine ⟨heads, parts, ends, hheard, htells.begins, htells.of_body, htells.payload, htells.of_end, htells.in_order,
      fun hne => (htells.whole hne).imp_right ?_⟩
    rintro ⟨data, hmem, hfin⟩
    rw [htaken, dataOn_append]
    exact ⟨data, List.mem_append_left _ hmem, hfin⟩
  · obtain ⟨hempty, hcomplete⟩ := hcomplete hgoes
    rw [htaken, hempty, List.append_nil] at hfin
    have hattends : Attends k _ _ _ := hlistening.opened hopened
    have hmem : .finished k ∈ heardOn k s.program.handler.2 := hcomplete k hopened.1 hfin
    match hrequest : s.program.client.http3_.requests[k]? with
    | none =>
      rw [hrequest] at hattends
      exact hattends.whole (hcame hopened) (hwire k)
    | some request =>
      rw [hrequest] at hattends
      exact absurd hmem hattends.2.2

/-- A library whose datagrams are what comes on the first stream; the end of it is in a datagram that is empty. -/
def plainLibrary : Quic.Library Unit where
  hkdf := ⟨fun _ _ _ => none, fun _ _ _ _ => none⟩
  ngtcp2 _ _ := (true, ())
  handshakeCompleted _ := false
  currentCipher _ := none
  provideQuicData _ _ _ := (true, ())
  doHandshake _ := ([], .want, ())
  processQuicPostHandshake _ := ([], true, ())
  peerQuicTransportParams _ := {}
  openBidiStream _ := (.ok 0, ())
  openUniStream _ := (.ok 2, ())
  writePkt _ := (false, .ok {}, ())
  writeStream _ _ _ data := (.ok (data, some data.size), ())
  readPkt _ packet := ([.recvStreamData 0 (decide (packet.bytes.length < 3)) packet], true, ())
  expire _ := (true, ())

/-- A request and a response that comes in three datagrams. -/
def oneResponse : List Action :=
  [.request, .call 0 (.header getHeader), .call 0 .start, .call 0 .fin, .send .taken, .send .taken, .send .taken,
    .send .taken, .send .taken, .recv (.datagram ⟨[1, 3, 0, 0]⟩), .recv .again,
    .recv (.datagram ⟨[0xd1, 0, 2]⟩), .recv (.datagram ⟨[0x68, 0x69]⟩)]

example : (Run.after (step plainLibrary (fun n _ => (.success, n + 1)) Http3.Qpack.xxHost) (start () 0) oneResponse).map
    (fun s => (s.program.handler, s.interrupted)) =
      some ((3, [.header 0 true getHeader, .body 0 true ⟨[0x68, 0x69]⟩, .finished 0]), false) := by decide +kernel

/-- A response in three datagrams is heard to its end. -/
theorem session_hears_oneResponse : ∃ s, Run.after (step plainLibrary (fun n _ => (.success, n + 1)) Http3.Qpack.xxHost)
    (start () 0) oneResponse = some s ∧ Heard 0 Exchange.anything (s.heard 0) := by
  have hends : (Run.after (step plainLibrary (fun n _ => (.success, n + 1)) Http3.Qpack.xxHost) (start () 0)
      oneResponse).map (fun s : Session Unit Nat => decide (s.interrupted = false ∧ s.program.client.http3_.Opened 0 ∧
        ∃ data ∈ dataOn 0 s.delivered, data.fin = true)) = some true := by decide +kernel
  obtain ⟨s, hs, hgoes⟩ := Option.map_eq_some_iff.mp hends
  obtain ⟨hgoes, hopened, hfin⟩ := of_decide_eq_true hgoes
  have hears := session_hears plainLibrary (fun n _ => (.success, n + 1)) Http3.Qpack.xxHost () 0
    (fun _ => Exchange.anything) (fun _ => [1, 3, 0, 0, 0xd1, 0, 2, 0x68, 0x69]) (fun _ => Exchange.anything_wire)
    oneResponse (by decide +kernel) hs
  exact ⟨s, hs, hears.2.2.2 hgoes 0 hopened hfin⟩

end Session

end Bnl.App.Program
