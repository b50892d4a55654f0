import Bnl.Laws.EndToEnd

/-!
# The responses of a client

Whatever a server sends, and in whatever order the application makes its requests, calls, sends and receives,
each receiver of the client is where the data of its stream puts it, and each event is one of the stream it came
for. The receiver of a response that was handed out to its end is gone, and its stream is not used again.

A `Tracker` is something that is kept of every response, said of one stream: what came for it, what was heard of
it, and its receiver while that is there. `Receives` is that over a connection, and it is kept by every function
of the client: by data (`Receives.recvData`), by `process` (`process_cases`), by requests, calls and sends. So
to show something of all responses of all runs it is enough to show it of one receiver, call by call; the fields
of `Tracker` are the list of what is to be shown.

`Message.ofMessages` is the tracker of responses that are messages: what is heard is the beginning of what the
stream says (`Attends.hears`), and all of it and the end once the stream's end was received. The responses have
one shape, a readable HEADERS frame and then DATA frames. Of a stream with another frame in it only the first
part holds.

`done` is the part that needs the loop around a generator to have come to its end. It is not kept but reached.
-/

namespace Bnl.Http3.Endpoint

open Bnl.Base Entries Request

/-- The stream an event is of. -/
def eventStream : Event → Option UInt64
  | .settings _ => none
  | .header id _ _ => some id
  | .body id _ _ => some id
  | .finished id => some id

/-- The events of a stream. -/
def heardOn (k : UInt64) (heard : List Event) : List Event :=
  heard.filter fun event => eventStream event = some k

/-- Events heard one after the other. -/
theorem heardOn_append (k : UInt64) (heard heard' : List Event) :
    heardOn k (heard ++ heard') = heardOn k heard ++ heardOn k heard' := List.filter_append ..

namespace Request.Receiver

/-- Behind a decoder that failed, only the end of a body is handed out. -/
theorem handleError_event {r r' : Receiver} {error : Error} {event : Event}
    (h : r.handleError clientProcess error = (.ok event, r')) : event = .body r.id true {} := by
  unfold handleError at h
  split at h
  · cases h
  split at h
  · generalize Frame.decode r.buffers = decoded at h
    rcases decoded with ⟨e | frame, s⟩
    · cases h
    · cases frame with
      | headers size =>
        dsimp only at h
        split at h
        · cases h
          rfl
        · cases h
      | _ => cases h
  · cases h

/-- An event is one of the receiver's stream. -/
theorem process_stream {r r' : Receiver} {event : Event} (h : r.process clientProcess = (.ok event, r')) :
    eventStream event = some r.id := by
  unfold process at h
  split at h
  · cases h
  · split at h
    · rw [handleError_event h]
      rfl
    · cases h
      rfl
  · split at h
    · rw [handleError_event h]
      rfl
    · dsimp only at h
      split at h
      · split at h
        · cases h
        · cases h
          rfl
      · cases h
        rfl
  · cases h
    rfl

end Request.Receiver

namespace Client.Connection

/-- The stream of a request of the client. -/
def Opened (c : Connection) (k : UInt64) : Prop := k.toNat % 4 = 0 ∧ k < c.nextStreamId

instance (c : Connection) (k : UInt64) : Decidable (c.Opened k) := inferInstanceAs (Decidable (_ ∧ _))

/-- Something that is kept of each response: of what came for it, of what was heard of it, and of its receiver while
that is there. `fits` is what it needs of what came, `done` what it comes to where no more is to be heard for now. -/
structure Tracker where
  fits : UInt64 → List Quic.Data → Prop
  keeps : UInt64 → List Quic.Data → List Event → Option Receiver → Prop
  done : UInt64 → List Quic.Data → List Event → Prop
  fits_nil {k} : fits k []
  fits_left {k got₁ got₂} : fits k (got₁ ++ got₂) → fits k got₁
  id {k got heard receiver} : keeps k got heard (some receiver) → receiver.id = k
  new {k} : keeps k [] [] (some { id := k })
  start {k got heard receiver} : keeps k got heard (some receiver) → receiver.closed = true →
    keeps k got heard (some receiver.start)
  recv {k got heard receiver data} : keeps k got heard receiver → fits k (got ++ [data]) →
    keeps k (got ++ [data]) heard (receiver.map fun receiver => (receiver.recv data).2)
  process {k got heard receiver receiver' r} : keeps k got heard (some receiver) → fits k got →
    receiver.finished = false → receiver.process clientProcess = (r, receiver') →
      keeps k got (heard ++ answered r) (some receiver')
  finish {k got heard receiver} : keeps k got heard (some receiver) → fits k got → receiver.finished = true →
    keeps k got (heard ++ [.finished k]) none
  done_nil {k} : done k [] []
  done_gone {k got heard} : keeps k got heard none → done k got heard
  done_waits {k got heard receiver} : keeps k got heard (some receiver) → fits k got →
    (receiver.process clientProcess).1 = .error .incomplete → done k got heard
  done_more {k got heard} (heard') : done k got heard → done k got (heard ++ heard')

/-- What is kept of the responses of a connection. -/
structure Receives (t : Tracker) (c : Connection) (got : UInt64 → List Quic.Data) (heard : UInt64 → List Event) :
    Prop where
  peer : c.control.2.id = Control.serverStreamControlId
  next : c.nextStreamId.toNat % 4 = 0
  opened : ∀ {k}, c.Opened k → t.keeps k (got k) (heard k) (c.requests[k]?.map Prod.snd)
  absent : ∀ {k}, ¬ c.Opened k → c.requests[k]? = none
  silent : ∀ {k}, ¬ c.Opened k → heard k = [] ∧ (k.toNat % 4 = 0 → got k = [])

section Tracker

variable {t : Tracker}

variable {c c' : Connection} {got got' : UInt64 → List Quic.Data} {heard heard' : UInt64 → List Event}

/-- A new client has heard nothing. -/
theorem receives_start (t : Tracker) : Receives t {} (fun _ => []) fun _ => [] := by
  have hempty (k : UInt64) : (∅ : Requests)[k]? = none := Std.TreeMap.getElem?_emptyc
  refine ⟨rfl, rfl, fun {k} hopened => ?_, fun {k} _ => hempty k, fun _ => ⟨rfl, fun _ => rfl⟩⟩
  exact absurd (UInt64.lt_iff_toNat_lt.mp hopened.2) (Nat.not_lt_zero _)

/-- The control stream of the server is not one of a request. -/
theorem Receives.not_control (h : Receives t c got heard) {k : UInt64} (hopened : c.Opened k) :
    k ≠ c.control.2.id := by
  intro heq
  have hmod := hopened.1
  rw [heq, h.peer] at hmod
  exact absurd hmod (by decide)

/-- What happens to one stream leaves the others as they are. -/
theorem Receives.on (h : Receives t c got heard) (id : UInt64) (hpeer : c'.control.2.id = c.control.2.id)
    (hnext : c'.nextStreamId = c.nextStreamId) (hothers : ∀ k, k ≠ id → c'.requests[k]? = c.requests[k]?)
    (hgot : ∀ k, k ≠ id → got' k = got k) (hheard : ∀ k, k ≠ id → heard' k = heard k)
    (hopened : c.Opened id → t.keeps id (got' id) (heard' id) (c'.requests[id]?.map Prod.snd))
    (hclosed : ¬ c.Opened id → c'.requests[id]? = none ∧ heard' id = [] ∧ (id.toNat % 4 = 0 → got' id = [])) :
    Receives t c' got' heard' := by
  have hsame (k : UInt64) : c'.Opened k ↔ c.Opened k := by
    unfold Opened
    rw [hnext]
  refine ⟨hpeer.trans h.peer, hnext ▸ h.next, fun {k} hk => ?_, fun {k} hk => ?_, fun {k} hk => ?_⟩
  all_goals
    rw [hsame k] at hk
    by_cases heq : k = id
  · exact heq ▸ hopened (heq ▸ hk)
  · rw [hgot k heq, hheard k heq, hothers k heq]
    exact h.opened hk
  · exact heq ▸ (hclosed (heq ▸ hk)).1
  · rw [hothers k heq]
    exact h.absent hk
  · exact heq ▸ (hclosed (heq ▸ hk)).2
  · rw [hgot k heq, hheard k heq]
    exact h.silent hk

/-- What changes no request. -/
theorem Receives.of_requests (h : Receives t c got heard) (hpeer : c'.control.2.id = c.control.2.id)
    (hnext : c'.nextStreamId = c.nextStreamId) (hrequests : ∀ k : UInt64, c'.requests[k]? = c.requests[k]?) :
    Receives t c' got heard :=
  h.on 0 hpeer hnext (fun k _ => hrequests k) (fun _ _ => rfl) (fun _ _ => rfl)
    (fun hopened => hrequests 0 ▸ h.opened hopened)
    fun hclosed => ⟨(hrequests 0).trans (h.absent hclosed), h.silent hclosed⟩

/-! ## Receiving -/

/-- Data brings its stream forward. -/
theorem Receives.recvData (h : Receives t c got heard) (data : Quic.Data) (got' : UInt64 → List Quic.Data)
    (hfits : data.id.toNat % 4 = 0 → c.Opened data.id ∧ t.fits data.id (got data.id ++ [data]))
    (hself : got' data.id = got data.id ++ [data]) (hothers : ∀ k, k ≠ data.id → got' k = got k) :
    Receives t (c.recvData data).2 got' heard := by
  by_cases hopened : c.Opened data.id
  · have hkeeps := t.recv (h.opened hopened) (hfits hopened.1).2
    have hcontrol := h.not_control hopened
    have hu := Exchange.unidirectional_of_mod hopened.1
    match hrequest : c.requests[data.id]? with
    | none =>
      rw [recvData_none hcontrol hu hrequest]
      refine h.on data.id rfl rfl (fun _ _ => rfl) hothers (fun _ _ => rfl) (fun _ => ?_)
        fun hclosed => absurd hopened hclosed
      rw [hrequest] at hkeeps
      rw [hself, hrequest]
      exact hkeeps
    | some (sender, receiver) =>
      rw [recvData_request hcontrol hu hrequest]
      refine h.on data.id rfl rfl (fun k hk => getElem_insert_ne hk _) hothers (fun _ _ => rfl) (fun _ => ?_)
        fun hclosed => absurd hopened hclosed
      rw [hrequest] at hkeeps
      have hinserted : (c.toStreams.recvRequest (sender, receiver) data).2.requests[data.id]? =
          some (sender, (receiver.recv data).2) := getElem_insert_self _
      rw [hself, hinserted]
      exact hkeeps
  · -- there is no request of this stream, and none comes
    have hnone := h.absent hopened
    have hmod : data.id.toNat % 4 ≠ 0 := fun hmod => hopened (hfits hmod).1
    obtain ⟨hpeer, hnext, hrequests⟩ : (c.recvData data).2.control.2.id = c.control.2.id ∧
        (c.recvData data).2.nextStreamId = c.nextStreamId ∧ (c.recvData data).2.requests = c.requests := by
      unfold Connection.recvData
      split
      · exact ⟨c.recvControl_id data, rfl, rfl⟩
      split
      · exact ⟨rfl, rfl, rfl⟩
      · rw [hnone]
        exact ⟨rfl, rfl, rfl⟩
    exact h.on data.id hpeer hnext (fun k _ => by rw [hrequests]) hothers (fun _ _ => rfl)
      (fun hopened' => absurd hopened' hopened) fun _ =>
        ⟨by rw [hrequests, hnone], (h.silent hopened).1, fun hmod' => absurd hmod' hmod⟩

/-- Events of the control stream are settings. -/
theorem processControl_event {event : Event} (h : (c.processControl Control.clientProcess).1 = .ok event) :
    eventStream event = none := by
  have hsettings {r : Control.Receiver} (hr : r.processSettings.1 = .ok event) : eventStream event = none := by
    unfold Control.Receiver.processSettings at hr
    generalize Frame.decode r.buffers = decoded at hr
    rcases decoded with ⟨e | frame, s⟩
    · cases hr
    · cases frame <;> cases hr
      rfl
  have hactive {r : Control.Receiver} (hr : (r.processActive Control.clientProcess).1 = .ok event) :
      eventStream event = none := by
    unfold Control.Receiver.processActive at hr
    generalize Frame.decode r.buffers = decoded at hr
    rcases decoded with ⟨e | frame, s⟩
    · cases hr
    · cases frame <;> cases hr
  have hprocess {r : Control.Receiver} (hr : (r.process Control.clientProcess).1 = .ok event) :
      eventStream event = none := by
    unfold Control.Receiver.process at hr
    split at hr
    · split at hr
      · cases hr
      · exact hsettings hr
    · exact hsettings hr
    · exact hactive hr
  refine hprocess (r := c.control.2) ?_
  unfold Streams.processControl at h
  rcases hr : c.control.2.process Control.clientProcess with ⟨e | event', receiver⟩
  · rw [hr] at h
    cases h
  · rw [hr] at h
    cases event' <;> exact h

/-- **What `process` does**: it asks the receiver of a response, or changes no request. -/
theorem process_cases (h : Receives t c got heard) {id : UInt64} {r : Except Error Event}
    (hprocess : c.process id = some (r, c')) :
    (c'.control.2.id = c.control.2.id ∧ c'.nextStreamId = c.nextStreamId ∧ c'.requests = c.requests ∧
        ∀ k, heardOn k (answered r) = []) ∨
      c.Opened id ∧ ∃ sender receiver receiver', c.requests[id]? = some (sender, receiver) ∧
        receiver.process clientProcess = (r, receiver') ∧ c' = c.processed id sender (r, receiver') := by
  by_cases hcontrol : id = c.control.2.id
  · rw [process_control hcontrol] at hprocess
    obtain ⟨rfl, rfl⟩ := Prod.mk.inj (Option.some.inj hprocess)
    refine .inl ⟨c.processControl_id _, rfl, (c.processControl_receiver _).2.2, fun k => ?_⟩
    rcases hr : (c.processControl Control.clientProcess).1 with e | event
    · rfl
    · exact List.filter_eq_nil_iff.mpr fun event' hmem => by
        rw [List.mem_singleton.mp hmem, processControl_event hr]
        exact nofun
  · by_cases hu : unidirectional id = true
    · rw [process_unidirectional hcontrol hu] at hprocess
      cases hprocess
      exact .inl ⟨rfl, rfl, rfl, fun _ => rfl⟩
    · match hrequest : c.requests[id]? with
      | none =>
        rw [process_none hcontrol hu hrequest] at hprocess
        cases hprocess
        exact .inl ⟨rfl, rfl, rfl, fun _ => rfl⟩
      | some (sender, receiver) =>
        rw [process_request hcontrol hu hrequest] at hprocess
        obtain ⟨rfl, rfl⟩ := Prod.mk.inj (Option.some.inj hprocess)
        refine .inr ⟨not_not.mp fun hopened => ?_, sender, receiver, _, rfl, rfl, rfl⟩
        exact nomatch (h.absent hopened).symm.trans hrequest

/-- The next event of a stream. -/
theorem Receives.process (h : Receives t c got heard) {id : UInt64} {r : Except Error Event}
    (hfits : c.Opened id → t.fits id (got id)) (hprocess : c.process id = some (r, c')) :
    Receives t c' got fun k => heard k ++ heardOn k (answered r) := by
  rcases process_cases h hprocess with ⟨hpeer, hnext, hrequests, hquiet⟩ |
    ⟨hopened, sender, receiver, receiver', hrequest, hr, rfl⟩
  · have hsame : (fun k => heard k ++ heardOn k (answered r)) = heard :=
      funext fun k => by rw [hquiet k, List.append_nil]
    rw [hsame]
    exact h.of_requests hpeer hnext fun k => by rw [hrequests]
  · have hkeeps := h.opened hopened
    rw [hrequest] at hkeeps
    have hid : receiver.id = id := t.id hkeeps
    -- what is heard is of this stream
    have hstream : ∀ event ∈ answered r, eventStream event = some id := by
      intro event hmem
      cases r with
      | error e => nomatch hmem
      | ok event' => rw [List.mem_singleton.mp hmem, Receiver.process_stream hr, hid]
    have hown : heardOn id (answered r) = answered r :=
      List.filter_eq_self.mpr fun event hmem => decide_eq_true (hstream event hmem)
    have hothers (k : UInt64) (hk : k ≠ id) : heardOn k (answered r) = [] :=
      List.filter_eq_nil_iff.mpr fun event hmem => by
        rw [hstream event hmem]
        exact fun heq => hk (Option.some.inj (of_decide_eq_true heq)).symm
    refine h.on id (congrArg (fun p => p.2.id) (c.processed_id id sender _)) ?_ (fun k hk => ?_) (fun _ _ => rfl)
      (fun k hk => by rw [hothers k hk, List.append_nil]) (fun _ => ?_) fun hclosed => absurd hopened hclosed
    · unfold processed
      split <;> rfl
    · unfold processed
      split
      · exact getElem_erase_ne hk
      · exact getElem_insert_ne hk _
    · rw [hown]
      by_cases hfinished : receiver.finished = true
      · rw [Receiver.process_finished hfinished] at hr
        cases hr
        have hgone : (c.processed id sender (.ok (.finished receiver.id), receiver)).requests[id]? = none :=
          getElem_erase_self
        rw [hgone, hid]
        exact t.finish hkeeps (hfits hopened) hfinished
      · have hother (i : UInt64) : r ≠ .ok (.finished i) := by
          rintro rfl
          exact hfinished (finished_of_process (congrArg Prod.fst hr))
        have hthere : (c.processed id sender (r, receiver')).requests[id]? = some (sender, receiver') := by
          rw [processed_other (r := (r, receiver')) hother]
          exact getElem_insert_self _
        rw [hthere]
        exact t.process hkeeps (hfits hopened) (eq_false_of_ne_true hfinished) hr

theorem process_next {id : UInt64} {r : Except Error Event} (hprocess : c.process id = some (r, c')) :
    c'.nextStreamId = c.nextStreamId := by
  unfold Connection.process at hprocess
  split at hprocess
  · cases hprocess
    rfl
  split at hprocess
  · cases hprocess
    rfl
  split at hprocess
  · cases hprocess
    rfl
  · split at hprocess <;>
      · cases hprocess
        rfl

theorem recvData_next (c : Connection) (data : Quic.Data) : (c.recvData data).2.nextStreamId = c.nextStreamId := by
  unfold Connection.recvData
  split
  · rfl
  split
  · rfl
  split <;> rfl

/-- A response that is at its end is gone. -/
theorem Receives.finished (h : Receives t c got heard) {id i : UInt64}
    (hprocess : c.process id = some (.ok (.finished i), c')) : c'.requests[id]? = none := by
  rcases process_cases h hprocess with ⟨-, -, -, hquiet⟩ | ⟨-, sender, receiver, receiver', -, -, rfl⟩
  · have hsome : heardOn i (answered (.ok (.finished i))) = [.finished i] :=
      List.filter_cons_of_pos (decide_eq_true rfl)
    exact absurd ((hquiet i).symm.trans hsome) (List.cons_ne_nil _ _).symm
  · exact getElem_erase_self

/-! ## Requesting and sending -/

/-- A new request. -/
theorem Receives.request (h : Receives t c got heard) (hroom : c.nextStreamId.toNat + 4 < 2 ^ 64) :
    Receives t c.request.2 got heard := by
  have hnext : c.request.2.nextStreamId.toNat = c.nextStreamId.toNat + 4 := by
    show (c.nextStreamId + 4).toNat = _
    rw [UInt64.toNat_add]
    exact Nat.mod_eq_of_lt hroom
  have hrequests (k : UInt64) : c.request.2.requests[k]? =
      (c.requests.insertIfNew c.nextStreamId ({ id := c.nextStreamId }, { id := c.nextStreamId }))[k]? := rfl
  have hfresh : ¬ c.Opened c.nextStreamId := fun hopened => UInt64.lt_irrefl _ hopened.2
  have hnone := h.absent hfresh
  have hself : c.request.2.requests[c.nextStreamId]? =
      some ({ id := c.nextStreamId }, { id := c.nextStreamId }) := by
    rw [hrequests, Std.TreeMap.getElem?_insertIfNew, if_pos]
    refine ⟨Std.ReflCmp.compare_self, fun hmem => ?_⟩
    have hsome := Std.TreeMap.isSome_getElem?_iff_mem.mpr hmem
    rw [hnone] at hsome
    cases hsome
  have hother (k : UInt64) (hk : k ≠ c.nextStreamId) : c.request.2.requests[k]? = c.requests[k]? := by
    rw [hrequests, Std.TreeMap.getElem?_insertIfNew, if_neg]
    rintro ⟨heq, -⟩
    exact hk (Std.LawfulEqCmp.eq_of_compare heq).symm
  -- the streams that are opened are those that were, and the new one
  have hopened (k : UInt64) : c.request.2.Opened k ↔ c.Opened k ∨ k = c.nextStreamId := by
    unfold Opened
    rw [UInt64.lt_iff_toNat_lt, UInt64.lt_iff_toNat_lt, hnext, ← UInt64.toNat_inj]
    have hmod := h.next
    omega
  refine ⟨h.peer, by rw [hnext]; exact (Nat.add_mod_right _ _).trans h.next, fun {k} hk => ?_, fun {k} hk => ?_,
    fun {k} hk => h.silent fun hk' => hk ((hopened k).mpr (.inl hk'))⟩
  · by_cases heq : k = c.nextStreamId
    · subst heq
      obtain ⟨hheard, hgot⟩ := h.silent hfresh
      rw [hself, hgot h.next, hheard]
      exact t.new
    · rw [hother k heq]
      exact h.opened (((hopened k).mp hk).resolve_right heq)
  · obtain ⟨hk, heq⟩ := not_or.mp (mt (hopened k).mpr hk)
    rw [hother k heq]
    exact h.absent hk

/-- A sender may do what it likes, and a receiver may be started. -/
theorem Receives.of_receivers (h : Receives t c got heard) (hpeer : c'.control.2.id = c.control.2.id)
    (hnext : c'.nextStreamId = c.nextStreamId) (hrequests : ∀ k : UInt64, c'.requests[k]? = c.requests[k]? ∨
      ∃ sender sender' receiver receiver', c.requests[k]? = some (sender, receiver) ∧
        c'.requests[k]? = some (sender', receiver') ∧
          (receiver' = receiver ∨ receiver' = receiver.start ∧ receiver.closed = true)) :
    Receives t c' got heard := by
  have hsame (k : UInt64) : c'.Opened k ↔ c.Opened k := by
    unfold Opened
    rw [hnext]
  refine ⟨hpeer.trans h.peer, hnext ▸ h.next, fun {k} hk => ?_, fun {k} hk => ?_,
    fun {k} hk => h.silent (mt (hsame k).mpr hk)⟩
  · have hkeeps := h.opened ((hsame k).mp hk)
    rcases hrequests k with heq | ⟨sender, sender', receiver, receiver', hold, hnew, hreceiver⟩
    · rwa [heq]
    · rw [hold] at hkeeps
      rw [hnew]
      rcases hreceiver with rfl | ⟨rfl, hclosed⟩
      · exact hkeeps
      · exact t.start hkeeps hclosed
  · have hnone := h.absent (mt (hsame k).mpr hk)
    rcases hrequests k with heq | ⟨sender, sender', receiver, receiver', hold, -⟩
    · exact heq.trans hnone
    · exact nomatch hnone.symm.trans hold

/-- A call through a handle changes no receiver. -/
theorem Receives.call (h : Receives t c got heard) (host : Host) (id : UInt64) (call : Call) :
    Receives t (c.callHandle host id call).2 got heard := by
  have hstreams : (c.callHandle host id call).2.toStreams = (c.toStreams.callHandle host id call).2 := rfl
  match hrequest : c.requests[id]? with
  | none =>
    have heq : (c.toStreams.callHandle host id call).2 = c.toStreams := by
      unfold Streams.callHandle
      rw [hrequest]
    refine h.of_requests ?_ rfl fun k => ?_ <;> rw [hstreams, heq]
  | some (sender, receiver) =>
    have heq : (c.toStreams.callHandle host id call).2 =
        { c.toStreams with requests := c.requests.insert id ((call.apply host sender).2, receiver) } := by
      unfold Streams.callHandle
      rw [hrequest]
    refine h.of_receivers ?_ rfl fun k => ?_ <;> rw [hstreams, heq]
    by_cases hk : k = id
    · subst hk
      exact .inr ⟨sender, _, receiver, receiver, hrequest, getElem_insert_self _, .inl rfl⟩
    · exact .inl (getElem_insert_ne hk _)

/-- A send starts receivers, and changes nothing else of them. -/
theorem Receives.send (h : Receives t c got heard) (host : Host) : Receives t (c.send host).2 got heard := by
  refine h.of_receivers (congrArg _ (Streams.send_receiver c.toStreams)) rfl fun k => ?_
  rcases Streams.send_sent host Connection.sent c.toStreams k with hsame | ⟨-, hsame | hsent⟩
  · exact .inl hsame
  · exact .inl hsame
  · obtain ⟨sender, receiver, hmem, hsent⟩ := hsent
    have hold := mem_toList.mp hmem
    rcases hsent with hsent | ⟨-, hsent⟩
    · exact .inr ⟨sender, _, receiver, receiver, hold, hsent, .inl rfl⟩
    · refine .inr ⟨sender, _, receiver, _, hold, hsent, ?_⟩
      by_cases hclosed : receiver.closed = true
      · exact .inr ⟨if_pos hclosed, hclosed⟩
      · exact .inl (if_neg hclosed)

/-- Where there is no event now, what is kept is done. -/
theorem Receives.waits (h : Receives t c got heard) {k : UInt64} (hmod : k.toNat % 4 = 0)
    (hfits : c.Opened k → t.fits k (got k)) (hprocess : c.process k = some (.error .incomplete, c')) :
    t.done k (got k) (heard k) := by
  by_cases hopened : c.Opened k
  · have hkeeps := h.opened hopened
    have hcontrol := h.not_control hopened
    have hu := Exchange.unidirectional_of_mod hopened.1
    match hrequest : c.requests[k]? with
    | none =>
      rw [process_none hcontrol hu hrequest] at hprocess
      cases hprocess
    | some (sender, receiver) =>
      rw [hrequest] at hkeeps
      rw [process_request hcontrol hu hrequest] at hprocess
      exact t.done_waits hkeeps (hfits hopened) (congrArg Prod.fst (Option.some.inj hprocess))
  · obtain ⟨hheard, hgot⟩ := h.silent hopened
    rw [hheard, hgot hmod]
    exact t.done_nil

/-- Where there is no receiver, what is kept is done. -/
theorem Receives.gone (h : Receives t c got heard) {k : UInt64} (hmod : k.toNat % 4 = 0)
    (hnone : c.requests[k]? = none) : t.done k (got k) (heard k) := by
  by_cases hopened : c.Opened k
  · have hkeeps := h.opened hopened
    rw [hnone] at hkeeps
    exact t.done_gone hkeeps
  · obtain ⟨hheard, hgot⟩ := h.silent hopened
    rw [hheard, hgot hmod]
    exact t.done_nil

end Tracker

/-! ## What is heard of a message -/

/-- What may come of a message: its bytes in order, cut anywhere, and FIN with the last of them alone. -/
def Came (wire : List UInt8) (got : List Quic.Data) : Prop :=
  eventBytes got <+: wire ∧ (∀ data ∈ got.dropLast, data.fin = false) ∧
    ((∃ data ∈ got, data.fin = true) → eventBytes got = wire)

instance (wire : List UInt8) (got : List Quic.Data) : Decidable (Came wire got) :=
  inferInstanceAs (Decidable (_ ∧ _ ∧ (_ → _)))

/-- All of a message was heard, and then its end. -/
def Heard (id : UInt64) (said : Said) (heard : List Event) : Prop :=
  ∃ parts, heard = headersOf id said.headers ++ parts ++ [.finished id] ∧ Parts id parts ∧
    bodyBytes parts = said.payload

section Message

variable {k : UInt64} {wire : List UInt8} {said : Said} {got₁ got₂ : List Quic.Data}

/-- What came by an earlier time is a beginning as well. -/
theorem Came.left (h : Came wire (got₁ ++ got₂)) : Came wire got₁ := by
  cases got₂ with
  | nil => rwa [List.append_nil] at h
  | cons data₂ got₂ =>
    obtain ⟨hbegins, hlast, -⟩ := h
    rw [eventBytes_append] at hbegins
    rw [List.dropLast_append_of_ne_nil (List.cons_ne_nil _ _)] at hlast
    have hopen : ∀ data ∈ got₁, data.fin = false := fun data hmem => hlast data (List.mem_append_left _ hmem)
    refine ⟨(List.prefix_append _ _).trans hbegins, fun data hmem => hopen data (List.mem_of_mem_dropLast hmem), ?_⟩
    rintro ⟨data, hmem, hfin⟩
    exact nomatch (hopen data hmem).symm.trans hfin

/-- A receiver is somewhere in the message. -/
theorem Came.follows {receiver : Receiver} {got : List Quic.Data} {heard : List Event} (hcame : Came wire got)
    (hwire : said.Wire wire) (h : Listens receiver got heard) :
    ∃ x, (receiver.finReceived = true → x = []) ∧
      Follows said.headers said.payload receiver.onBytes x heard := by
  obtain ⟨x, hx⟩ := hcame.1
  have hfin (hend : receiver.finReceived = true) : x = [] := by
    have hall := hcame.2.2 (h.fin.mp hend)
    rw [hall] at hx
    exact List.append_right_eq_self.mp hx
  exact ⟨x, hfin, h.follows hwire hx.symm hfin⟩

/-- What came for a response and what was heard of it: its receiver is there and has not said that it is finished, or
that was the last it said. -/
def Attends (k : UInt64) (got : List Quic.Data) (heard : List Event) : Option Receiver → Prop
  | some receiver => receiver.id = k ∧ Listens receiver got heard ∧ .finished k ∉ heard
  | none => ∃ receiver heard', receiver.id = k ∧ Listens receiver got heard' ∧ .finished k ∉ heard' ∧
      receiver.finished = true ∧ receiver.finReceived = true ∧ heard = heard' ++ [.finished k]

/-- Nothing comes behind the end. -/
theorem Came.open {data : Quic.Data} {got : List Quic.Data} (h : Came wire (got ++ [data])) :
    ∀ d ∈ got, d.fin = false := by
  obtain ⟨-, hlast, -⟩ := h
  rwa [List.dropLast_concat] at hlast

/-- A receiver that waits for more was not told of the end. -/
theorem Attends.waits {got : List Quic.Data} {heard : List Event} {receiver : Receiver}
    (h : Attends k got heard (some receiver)) (hcame : Came wire got) (hwire : said.Wire wire)
    (hprocess : (receiver.process clientProcess).1 = .error .incomplete) : ¬ ∃ data ∈ got, data.fin = true := by
  obtain ⟨-, hlistens, -⟩ := h
  have hbytes : receiver.onBytes.process clientProcess =
      (.error .incomplete, (receiver.process clientProcess).2.onBytes) := by
    rw [← receiver.process_bytes clientProcess]
    exact Prod.ext hprocess rfl
  obtain ⟨x, hx, hfollows⟩ := hcame.follows hwire hlistens
  rcases hfollows.fails hx hbytes with ⟨-, hopen⟩ | ⟨-, hinternal⟩ | ⟨hmalformed, -⟩
  · exact fun hfin => nomatch hopen.symm.trans (hlistens.fin.mpr hfin)
  · cases hinternal
  · cases hmalformed

/-- An event that is handed out before the end is not the end. -/
theorem Attends.process {got : List Quic.Data} {heard : List Event} {receiver receiver' : Receiver}
    {r : Except Error Event} (h : Attends k got heard (some receiver)) (hunfinished : receiver.finished = false)
    (hr : receiver.process clientProcess = (r, receiver')) :
    Attends k got (heard ++ answered r) (some receiver') := by
  obtain ⟨hid, hlistens, hheard⟩ := h
  refine ⟨?_, hlistens.process hr, fun hmem => ?_⟩
  · rw [← hid, ← receiver.process_id clientProcess, hr]
  · rcases List.mem_append.mp hmem with hmem | hmem
    · exact hheard hmem
    · cases r with
      | error e => nomatch hmem
      | ok event =>
        have hanswer : (receiver.process clientProcess).1 = .ok (.finished k) := by
          rw [hr, ← List.mem_singleton.mp hmem]
        have hfinished := finished_of_process hanswer
        exact nomatch hunfinished.symm.trans hfinished

/-- A response that is gone was heard as a whole. -/
theorem Attends.whole {got : List Quic.Data} {heard : List Event} (h : Attends k got heard none)
    (hcame : Came wire got) (hwire : said.Wire wire) : Heard k said heard := by
  obtain ⟨receiver, heard', hid, hlistens, hunfinished, hfinished, -, rfl⟩ := h
  obtain ⟨x, -, hfollows⟩ := hcame.follows hwire hlistens
  have hid' : receiver.onBytes.id = k := hid
  have hs : receiver.onBytes.state = .fin := of_decide_eq_true hfinished
  cases hfollows with
  | opening hs' => rcases hs' with hs' | hs' <;> exact nomatch hs.symm.trans hs'
  | block hs' => exact nomatch hs.symm.trans hs'
  | body hs' => exact nomatch hs.symm.trans hs'
  | @ended parts n _ hfin hparts hbody =>
    cases n with
    | zero =>
      rw [hid'] at hparts ⊢
      exact ⟨parts, by rw [List.replicate_zero, List.append_nil], hparts, hbody⟩
    | succ n =>
      refine absurd (List.mem_append_right _ ?_) hunfinished
      rw [hid']
      exact List.mem_replicate.mpr ⟨Nat.succ_ne_zero n, rfl⟩

/-- **What is heard of a response is the beginning of it.** -/
theorem Attends.hears {got : List Quic.Data} {heard : List Event} {receiver : Option Receiver}
    (h : Attends k got heard receiver) (hcame : Came wire got) (hwire : said.Wire wire) :
    Hears k said.headers said.payload (∃ data ∈ got, data.fin = true) heard := by
  cases receiver with
  | some receiver =>
    obtain ⟨hid, hlistens, -⟩ := h
    obtain ⟨x, -, hfollows⟩ := hcame.follows hwire hlistens
    obtain ⟨heads, parts, ends, rfl, htells⟩ := hfollows.hears
    rw [show receiver.onBytes.id = k from hid] at htells
    exact ⟨heads, parts, ends, rfl, htells.begins, htells.of_body, htells.payload, htells.of_end, htells.in_order,
      fun hne => (htells.whole hne).imp_right hlistens.fin.mp⟩
  | none =>
    obtain ⟨parts, rfl, hparts, hbody⟩ := h.whole hcame hwire
    obtain ⟨receiver, heard', -, hlistens, -, -, hfin, -⟩ := h
    exact ⟨_, parts, _, rfl, List.prefix_rfl, hparts, ⟨[], by rw [List.append_nil, hbody]⟩,
      fun event hmem => List.mem_singleton.mp hmem, fun _ => rfl, fun _ => ⟨hbody, hlistens.fin.mp hfin⟩⟩

/-- That responses are heard as they were sent, and to their end where that has come. -/
def ofMessages {said : UInt64 → Said} {wire : UInt64 → List UInt8} (hwire : ∀ k, (said k).Wire (wire k)) : Tracker where
  fits k got := Came (wire k) got
  keeps := Attends
  done k got heard := (∃ data ∈ got, data.fin = true) → .finished k ∈ heard
  fits_nil := ⟨List.nil_prefix, nofun, nofun⟩
  fits_left := Came.left
  id h := h.1
  new := ⟨rfl, .new _, List.not_mem_nil⟩
  start h hclosed := ⟨h.1, h.2.1.start hclosed, h.2.2⟩
  recv {k got heard receiver data} h hcame := by
    cases receiver with
    | some receiver => exact ⟨(receiver.recv_id data).trans h.1, h.2.1.recv hcame.open data, h.2.2⟩
    | none =>
      obtain ⟨receiver, heard', -, hlistens, -, -, hfin, -⟩ := h
      obtain ⟨d, hmem, hd⟩ := hlistens.fin.mp hfin
      exact absurd ((hcame.open d hmem).symm.trans hd) Bool.false_ne_true
  process h _ hunfinished hr := h.process hunfinished hr
  finish {k got heard receiver} h hcame hfinished := by
    obtain ⟨hid, hlistens, hheard⟩ := h
    exact ⟨receiver, heard, hid, hlistens, hheard, hfinished,
      hlistens.fin_of_finished hfinished ⟨_, _, hwire k, hcame.1⟩, rfl⟩
  done_nil := by
    rintro k ⟨data, hmem, -⟩
    exact absurd hmem List.not_mem_nil
  done_gone {k got heard} h _ := by
    obtain ⟨receiver, heard', -, -, -, -, -, rfl⟩ := h
    exact List.mem_append_right _ List.mem_cons_self
  done_waits {k got heard receiver} h hcame hprocess hfin := absurd hfin (h.waits hcame (hwire k) hprocess)
  done_more _ h hfin := List.mem_append_left _ (h hfin)

end Message

end Client.Connection

end Bnl.Http3.Endpoint
