import Bnl.Laws.Program

/-!
# What a handler may rely on

Whatever bytes a server sends, the events of a response come in the order headers, body, end: headers that are
not the last, one that is, parts of the body that are not the last, one that may be, and the end at most once
and behind all of them. Nothing is heard of a stream that the client has not opened.

**The law** (`session_inOrder`): the events a handler has heard of a stream take the automaton `Phase` from its
start to one of its states, at every point of every run in which data comes on the streams of responses only
once the client has opened them.

The idea of the proof: a phase and the state of the receiver belong together (`Agrees`), and an answer moves
both (`process_speaks`). That makes a `Tracker`, with which `Program.run_inv` carries it through the loops of
the program.

**What it does not establish.** That any of these events comes, or that what was heard is what the server meant:
bytes that happen to decode are heard.
-/

namespace Bnl.Http3.Endpoint

open Bnl.Base Request

/-- How far the events of a response have come. The last header may be followed by the end, a part of the body that is
not the last may not. -/
inductive Phase where
  | headers
  | opened
  | body
  | fin
  | gone
  deriving DecidableEq, Repr

namespace Phase

/-- The phase behind an event, or none where the event is out of order. -/
def next : Phase → Event → Option Phase
  | .headers, .header _ last _ => some (if last then .opened else .headers)
  | .opened, .body _ last _ => some (if last then .fin else .body)
  | .opened, .finished _ => some .gone
  | .body, .body _ last _ => some (if last then .fin else .body)
  | .fin, .finished _ => some .gone
  | _, _ => none

/-- The phase some events come to, where they come in order. -/
def after (events : List Event) : Option Phase := events.foldlM next .headers

/-- The states a receiver may have in a phase. -/
def Agrees : Phase → Receiver.State → Prop
  | .headers, state => state = .closed ∨ state = .headers
  | .opened, state => state = .body ∨ state = .fin
  | .body, state => state = .body
  | .fin, state => state = .fin
  | .gone, _ => False

variable {phase : Phase} {events : List Event} {r r' : Receiver} {a : Except Error Event} {error : Error}

/-- The phase behind some events and then others. -/
theorem after_append (h : after events = some phase) (events' : List Event) :
    after (events ++ events') = events'.foldlM next phase := by
  unfold after
  rw [List.foldlM_append]
  exact congrArg (· >>= fun phase => events'.foldlM next phase) h

/-- A phase that goes on with an answer. -/
def Speaks (phase : Phase) (a : Except Error Event) (state : Receiver.State) : Prop :=
  ∃ phase', (answered a).foldlM next phase = some phase' ∧ phase'.Agrees state

/-- An error is no event, so the phase stays. -/
theorem speaks_error {state : Receiver.State} (h : phase.Agrees state) : phase.Speaks (.error error) state :=
  ⟨phase, rfl, h⟩

/-- A part of the body. -/
theorem speaks_body (h : phase.Agrees .body) (id : UInt64) (last : Bool) (part : Buffer) :
    phase.Speaks (.ok (.body id last part)) (if last then .fin else .body) := by
  have hnext : phase.next (.body id last part) = some (if last then .fin else .body) := by
    cases phase with
    | headers => rcases h with h | h <;> cases h
    | opened => rfl
    | body => rfl
    | fin => cases h
    | gone => exact h.elim
  refine ⟨if last then .fin else .body, congrArg (· >>= pure) hnext, ?_⟩
  cases last <;> rfl

/-- A header, the last or another one. -/
theorem speaks_header (h : phase.Agrees .headers) (id : UInt64) (last : Bool) (header : Header)
    {state : Receiver.State} (hstate : if last then state = .body ∨ state = .fin else state = .headers) :
    phase.Speaks (.ok (.header id last header)) state := by
  obtain rfl : phase = .headers := by
    cases phase with
    | headers => rfl
    | opened => rcases h with h | h <;> cases h
    | body => cases h
    | fin => cases h
    | gone => exact h.elim
  refine ⟨if last then .opened else .headers, rfl, ?_⟩
  cases last with
  | true => exact hstate
  | false => exact .inr hstate

/-- Behind a decoder that failed comes an error, or the end of the body. -/
theorem handleError_speaks (h : phase.Agrees r.state) (hr : r.handleError clientProcess error = (a, r')) :
    phase.Speaks a r'.state := by
  unfold Receiver.handleError at hr
  split at hr
  · cases hr
    exact speaks_error h
  split at hr
  · generalize Frame.decode r.buffers = decoded at hr
    rcases decoded with ⟨e | frame, s⟩
    · cases hr
      exact speaks_error h
    · cases frame with
      | headers size =>
        dsimp only at hr
        split at hr
        · next hbody =>
          cases hr
          exact speaks_body (hbody ▸ h) r.id true {}
        · cases hr
          exact speaks_error h
      | _ =>
        cases hr
        exact speaks_error h
  · cases hr
    exact speaks_error h

/-- **An answer of a receiver** that is not finished goes on with the phase. -/
theorem process_speaks (h : phase.Agrees r.state) (hunfinished : r.finished = false)
    (hr : r.process clientProcess = (a, r')) : phase.Speaks a r'.state := by
  unfold Receiver.process at hr
  split at hr
  · cases hr
    exact speaks_error h
  · next hs =>
    split at hr
    · refine handleError_speaks ?_ hr
      exact h
    · next headers buffers _ =>
      cases hr
      rw [hs] at h
      refine speaks_header h r.id _ _ ?_
      dsimp only
      cases headers.finished with
      | true => cases buffers.empty && r.finReceived <;> simp
      | false => exact hs
  · next hs =>
    split at hr
    · refine handleError_speaks ?_ hr
      exact h
    · rw [hs] at h
      dsimp only at hr
      split at hr
      · next hfin =>
        split at hr
        · cases hr
          exact speaks_error (by rw [hs]; exact h)
        · cases hr
          rw [hfin]
          exact speaks_body h r.id true _
      · next hfin =>
        cases hr
        rw [eq_false_of_ne_true hfin]
        have hspeaks := speaks_body h r.id false ‹Buffer›
        rw [if_neg Bool.false_ne_true, ← hs] at hspeaks
        exact hspeaks
  · next hs =>
    rw [Receiver.finished, hs] at hunfinished
    cases hunfinished

end Phase

/-- That the events of a response come in order. -/
def Client.Connection.inOrder : Client.Connection.Tracker where
  fits _ _ := True
  keeps k _ heard
    | some receiver => receiver.id = k ∧ ∃ phase, Phase.after heard = some phase ∧ phase.Agrees receiver.state
    | none => Phase.after heard = some .gone
  done _ _ _ := True
  fits_nil := trivial
  fits_left _ := trivial
  id h := h.1
  new := ⟨rfl, .headers, rfl, .inl rfl⟩
  start := by
    rintro k got heard receiver ⟨hid, phase, hafter, hagrees⟩ hclosed
    refine ⟨hid, phase, hafter, ?_⟩
    rw [show receiver.state = .closed from of_decide_eq_true hclosed] at hagrees
    cases phase with
    | headers => exact .inr rfl
    | opened => rcases hagrees with h | h <;> cases h
    | body => cases hagrees
    | fin => cases hagrees
    | gone => exact hagrees.elim
  recv := by
    rintro k got heard (_ | receiver) data h -
    · exact h
    · obtain ⟨hid, phase, hafter, hagrees⟩ := h
      have hstate : (receiver.recv data).2.state = receiver.state := by
        unfold Receiver.recv
        split <;> rfl
      exact ⟨(receiver.recv_id data).trans hid, phase, hafter, hstate ▸ hagrees⟩
  process := by
    rintro k got heard receiver receiver' r ⟨hid, phase, hafter, hagrees⟩ - hunfinished hr
    obtain ⟨phase', hphase', hagrees'⟩ := phase.process_speaks hagrees hunfinished hr
    refine ⟨?_, phase', (Phase.after_append hafter _).trans hphase', hagrees'⟩
    rw [← hid, ← receiver.process_id clientProcess, hr]
  finish := by
    rintro k got heard receiver ⟨hid, phase, hafter, hagrees⟩ - hfinished
    refine (Phase.after_append hafter _).trans ?_
    rw [show receiver.state = .fin from of_decide_eq_true hfinished] at hagrees
    cases phase with
    | headers => rcases hagrees with h | h <;> cases h
    | opened => rfl
    | body => cases hagrees
    | fin => rfl
    | gone => exact hagrees.elim
  done_nil := trivial
  done_gone _ := trivial
  done_waits _ _ _ := trivial
  done_more _ _ := trivial

end Bnl.Http3.Endpoint

namespace Bnl.App.Program.Session

open Bnl.Base Bnl.Http3.Endpoint Http3.Endpoint.Client.Connection

variable {C H : Type}

/-- **The events of a response come in order**, whatever bytes the server sends on whatever streams: in every run in
which data comes on the streams of responses only once the client has opened them. Of a stream that it has not opened
nothing is heard. -/
theorem session_inOrder (library : Quic.Library C) (on_event_ : H → Http3.Event → Verdict × H) (host : Host)
    (c : C) (h : H) (actions : List Action) {s : Session C H}
    (hmeets : Run.Meets (step library on_event_ host) (Admits (fun _ _ => True) library) (start c h) actions)
    (hrun : Run.after (step library on_event_ host) (start c h) actions = some s) (k : UInt64) :
    (Phase.after (s.heard k)).isSome = true ∧ (¬ s.program.client.http3_.Opened k → s.heard k = []) := by
  obtain ⟨⟨-, taken, -, hlistening, -⟩, -⟩ := run_inv (t := inOrder) hmeets hrun
  by_cases hopened : s.program.client.http3_.Opened k
  · refine ⟨?_, fun hclosed => absurd hopened hclosed⟩
    have hkeeps := hlistening.opened hopened
    match hrequest : s.program.client.http3_.requests[k]? with
    | some (sender, receiver) =>
      rw [hrequest] at hkeeps
      obtain ⟨-, phase, hafter, -⟩ := hkeeps
      exact congrArg Option.isSome hafter
    | none =>
      rw [hrequest] at hkeeps
      exact congrArg Option.isSome hkeeps
  · have hheard : s.heard k = [] := (hlistening.silent hopened).1
    rw [hheard]
    exact ⟨rfl, fun _ => rfl⟩

/-- A response that a second HEADERS frame ends, not FIN. -/
def trailers : List Action :=
  [.request, .call 0 (.header Request.getHeader), .call 0 .start, .send .taken, .send .taken, .send .taken,
    .send .taken, .send .taken, .recv (.datagram ⟨[1, 3, 0, 0, 0xd1]⟩), .recv (.datagram ⟨[0, 2, 0x68, 0x69, 1, 1]⟩)]

/-- The events of the response above are in order. -/
theorem session_inOrder_trailers : ∃ s, Run.after (step plainLibrary (fun n _ => (.success, n + 1)) Http3.Qpack.xxHost)
    (start () 0) trailers = some s ∧ (Phase.after (s.heard 0)).isSome = true := by
  have hends : (Run.after (step plainLibrary (fun n _ => (.success, n + 1)) Http3.Qpack.xxHost) (start () 0)
      trailers).isSome = true := by decide +kernel
  obtain ⟨s, hs⟩ := Option.isSome_iff_exists.mp hends
  exact ⟨s, hs, (session_inOrder plainLibrary (fun n _ => (.success, n + 1)) Http3.Qpack.xxHost () 0 trailers
    (by decide +kernel) hs 0).1⟩

end Bnl.App.Program.Session
