import Bnl.Laws.Requests
import Mathlib.Algebra.Order.BigOperators.Group.Finset

/-!
# What is left to send

An HTTP/3 connection that sends has less to send then: a stream has only so many events, and no stream gets more
through a send.

**The law** is `Streams.send_remaining`. `remaining` counts, for an encoder, the calls that may still return
something, for a stream the events it may still send, and for a connection the sum of these over its streams. A
call that returns something lowers the count, and one that fails leaves the encoder as it was, so nothing raises
it: each encoder is a case analysis on its state, and the connection's sum is compared request by request.

It is the measure by which the loop of the client's `send` ends. An application that queues more raises it, and
that is not a send.
-/

namespace Bnl.Http3

open Bnl.Base

/-! ## The encoders -/

/-- How many times `encode` may still return something. -/
def Headers.Encoder.remaining (e : Headers.Encoder) : Nat :=
  match e.state with
  | .idle => 0
  | .frame => e.buffers.buffers.length + 2
  | .qpack => e.buffers.buffers.length + 1
  | .fin => 0

/-- The same of the body's encoder: two calls for each buffer, one for one whose frame is out. -/
def Body.Encoder.remaining (e : Body.Encoder) : Nat :=
  match e.state with
  | .frame => 2 * e.buffers.buffers.length
  | .data => 2 * (e.buffers.buffers.length - 1) + 1
  | .fin => 0

/-- A call that fails changes nothing, one that returns something leaves less to return. -/
theorem Headers.Encoder.encode_remaining (host : Host) (e : Headers.Encoder) :
    (∃ error, e.encode host = (.error error, e)) ∨
      ∃ b e', e.encode host = (.ok b, e') ∧ e'.remaining < e.remaining := by
  obtain ⟨state, ⟨buffers⟩, qpack⟩ := e
  unfold Headers.Encoder.encode
  cases state with
  | idle => exact .inl ⟨_, rfl⟩
  | fin => exact .inl ⟨_, rfl⟩
  | frame =>
    dsimp only
    cases (Frame.headers (UInt64.ofNat qpack.count)).encodeBuffer host with
    | error error => exact .inl ⟨_, rfl⟩
    | ok encoded => exact .inr ⟨_, _, rfl, Nat.lt_succ_self _⟩
  | qpack =>
    refine .inr ⟨_, _, rfl, ?_⟩
    cases buffers with
    | nil => exact Nat.zero_lt_one
    | cons b left =>
      show Headers.Encoder.remaining
        { state := if Buffers.empty ⟨left⟩ then .fin else .qpack, buffers := ⟨left⟩, qpack } < left.length + 2
      cases Buffers.empty ⟨left⟩ with
      | true => exact Nat.succ_pos _
      | false => exact Nat.lt_succ_self _

/-- The same of the body's encoder, which has two calls for each buffer. -/
theorem Body.Encoder.encode_remaining (host : Host) (e : Body.Encoder) :
    (∃ error, e.encode host = (.error error, e)) ∨
      ∃ b e', e.encode host = (.ok b, e') ∧ e'.remaining < e.remaining := by
  obtain ⟨state, fin_, ⟨buffers⟩⟩ := e
  unfold Body.Encoder.encode
  cases state with
  | fin => exact .inl ⟨_, rfl⟩
  | frame =>
    dsimp only
    cases buffers with
    | nil => exact .inl ⟨_, rfl⟩
    | cons b left =>
      split
      · exact .inl ⟨_, rfl⟩
      · cases (Frame.data (UInt64.ofNat (Buffers.front ⟨b :: left⟩).size)).encodeBuffer host with
        | error error => exact .inl ⟨_, rfl⟩
        | ok encoded =>
          refine .inr ⟨_, _, rfl, ?_⟩
          unfold Body.Encoder.remaining
          dsimp only [List.length_cons]
          omega
  | data =>
    refine .inr ⟨_, _, rfl, ?_⟩
    -- the body ends, or a frame may follow
    have hlt (s : Buffers) (left : Nat) (h : s.buffers.length ≤ left) : Body.Encoder.remaining
        { state := if fin_ && s.empty then .fin else .frame, fin_, buffers := s } < 2 * left + 1 := by
      cases fin_ && s.empty with
      | true => exact Nat.succ_pos _
      | false => exact Nat.lt_succ_of_le (Nat.mul_le_mul_left 2 h)
    cases buffers with
    | nil => exact hlt ⟨[]⟩ 0 (Nat.le_refl _)
    | cons b left => exact hlt ⟨left⟩ left.length (Nat.le_refl _)

namespace Endpoint

/-! ## The senders -/

/-- How many events a stream may still send. -/
def Request.Sender.remaining (s : Request.Sender) : Nat :=
  match s.state with
  | .headers => s.headers_.remaining + s.body_.remaining + 1
  | .body => s.body_.remaining + 1
  | .fin => 0

/-- How many events the control stream may still send. -/
def Control.Sender.remaining (s : Control.Sender) : Nat :=
  match s.state with
  | .type => 2
  | .settings => 1
  | .idle => 0

/-- The control stream sends its type and its settings, and no more. -/
theorem Control.Sender.send_remaining (host : Host) (s : Control.Sender) :
    (∃ error, s.send host = (.error error, s)) ∨
      ∃ event s', s.send host = (.ok event, s') ∧ s'.remaining < s.remaining := by
  obtain ⟨state, settings, id⟩ := s
  unfold Control.Sender.send
  cases state with
  | type =>
    dsimp only
    cases Varint.encodeBuffer host Control.type with
    | error error => exact .inl ⟨_, rfl⟩
    | ok encoded => exact .inr ⟨_, _, rfl, Nat.lt_succ_self _⟩
  | settings =>
    dsimp only
    cases (Frame.settings settings).encodeBuffer host with
    | error error => exact .inl ⟨_, rfl⟩
    | ok encoded => exact .inr ⟨_, _, rfl, Nat.lt_succ_self _⟩
  | idle => exact .inl ⟨_, rfl⟩

/-- An event of a stream is one less to send. -/
theorem Request.Sender.send_remaining (host : Host) (s : Request.Sender) :
    (∃ error, s.send host = (.error error, s)) ∨
      ∃ event s', s.send host = (.ok event, s') ∧ s'.remaining < s.remaining := by
  cases hs : s.state with
  | headers =>
    rcases s.headers_.encode_remaining host with ⟨error, he⟩ | ⟨b, e', he, hlt⟩
    · exact .inl ⟨error, send_headers_error hs he⟩
    · refine .inr ⟨_, _, send_headers_ok hs he, ?_⟩
      have hs' : s.remaining = s.headers_.remaining + s.body_.remaining + 1 := by
        unfold Request.Sender.remaining
        rw [hs]
      rw [hs']
      unfold Request.Sender.remaining
      cases e'.finished with
      | false => exact Nat.succ_lt_succ (Nat.add_lt_add_right hlt _)
      | true =>
        cases s.body_.finished with
        | false =>
          show s.body_.remaining + 1 < _
          omega
        | true => exact Nat.succ_pos _
  | body =>
    rcases s.body_.encode_remaining host with ⟨error, he⟩ | ⟨b, e', he, hlt⟩
    · exact .inl ⟨error, send_body_error hs he⟩
    · refine .inr ⟨_, _, send_body_ok hs he, ?_⟩
      have hs' : s.remaining = s.body_.remaining + 1 := by
        unfold Request.Sender.remaining
        rw [hs]
      rw [hs']
      unfold Request.Sender.remaining
      cases e'.finished with
      | false => exact Nat.succ_lt_succ hlt
      | true => exact Nat.succ_pos _
  | fin => exact .inl ⟨_, send_fin hs⟩

/-- What a send leaves, be there an event or not. -/
theorem Request.Sender.send_le (host : Host) (s : Request.Sender) : (s.send host).2.remaining ≤ s.remaining := by
  rcases s.send_remaining host with ⟨error, hs⟩ | ⟨event, s', hs, hlt⟩
  · rw [hs]
  · rw [hs]
    exact Nat.le_of_lt hlt

/-! ## The connection -/

namespace Streams

open Entries

/-- What is left of one request. -/
def left (requests : Requests) (k : UInt64) : Nat := (requests[k]?).elim 0 fun request => request.1.remaining

/-- How many events the streams may still send. -/
def remaining (s : Streams) : Nat := s.control.1.remaining + ∑ k ∈ s.requests.keys.toFinset, left s.requests k

/-- What is left of a request that is there. -/
theorem left_some {requests : Requests} {k : UInt64} {sender : Request.Sender} {receiver : Request.Receiver}
    (h : requests[k]? = some (sender, receiver)) : left requests k = sender.remaining := by
  unfold left
  rw [h]
  rfl

/-- The keys of the map are the requests. -/
theorem mem_keys {requests : Requests} {k : UInt64} : k ∈ requests.keys.toFinset ↔ requests[k]?.isSome := by
  rw [List.mem_toFinset, Std.TreeMap.mem_keys, Std.TreeMap.mem_iff_isSome_getElem?]

/-- Each request is as it was, or was asked to send. -/
theorem sendRequests_left (host : Host) (requests : Requests) (k : UInt64) :
    let requests' := (sendRequests host Client.Connection.sent requests.toList requests).2
    (requests'[k]?.isSome ↔ requests[k]?.isSome) ∧ left requests' k ≤ left requests k := by
  intro requests'
  have hasked {sender : Request.Sender} {receiver receiver' : Request.Receiver}
      (hbefore : requests[k]? = some (sender, receiver))
      (hafter : requests'[k]? = some ((sender.send host).2, receiver')) :
      (requests'[k]?.isSome ↔ requests[k]?.isSome) ∧ left requests' k ≤ left requests k := by
    refine ⟨?_, ?_⟩
    · rw [hbefore, hafter]
      exact Iff.rfl
    · rw [left_some hbefore, left_some hafter]
      exact sender.send_le host
  have hsent : Sent host Client.Connection.sent requests.toList requests requests' k :=
    sendRequests_sent (pairwise_toList requests) requests k
  rcases hsent with hsame | ⟨sender, receiver, hmem, hkept | ⟨-, hserved⟩⟩
  · refine ⟨?_, Nat.le_of_eq ?_⟩
    · rw [hsame]
    · unfold left
      rw [hsame]
  · exact hasked (mem_toList.mp hmem) hkept
  · exact hasked (mem_toList.mp hmem) hserved

/-- **An event that a client sends is one less to send.** -/
theorem send_remaining {host : Host} {s s' : Streams} {event : Quic.Event}
    (h : s.send host Client.Connection.sent = (.ok event, s')) : s'.remaining < s.remaining := by
  unfold send at h
  rcases s.control.1.send_remaining host with ⟨error, hcontrol⟩ | ⟨event', sender, hcontrol, hlt⟩
  · rw [hcontrol] at h
    dsimp only at h
    split at h
    · obtain ⟨hevent, rfl⟩ := Prod.mk.inj h
      have hrequests : Prod.fst (sendRequests host Client.Connection.sent s.requests.toList s.requests) = .ok event :=
        hevent
      obtain ⟨k, sender, receiver, hmem, hok, hafter⟩ := sendRequests_ok (Prod.ext hrequests rfl)
      have hle := sendRequests_left host s.requests
      have hbefore := mem_toList.mp hmem
      refine Nat.add_lt_add_left ?_ _
      show ∑ k ∈ (sendRequests host Client.Connection.sent s.requests.toList s.requests).2.keys.toFinset, _ < _
      have hkeys : (sendRequests host Client.Connection.sent s.requests.toList s.requests).2.keys.toFinset =
          s.requests.keys.toFinset := by
        ext k
        rw [mem_keys, mem_keys]
        exact (hle k).1
      rw [hkeys]
      refine Finset.sum_lt_sum (fun k _ => (hle k).2) ⟨k, ?_, ?_⟩
      · rw [mem_keys, hbefore]
        rfl
      · rw [left_some hbefore, left_some hafter]
        rcases sender.send_remaining host with ⟨error, hsend⟩ | ⟨event', sender', hsend, hlt⟩
        · rw [hsend] at hok
          cases hok
        · rw [hsend]
          exact hlt
    · cases h
  · rw [hcontrol] at h
    cases h
    exact Nat.add_lt_add_right hlt _

end Streams

end Endpoint

end Bnl.Http3
