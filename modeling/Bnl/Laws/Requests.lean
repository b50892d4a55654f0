import Bnl.Laws.Sender
import Bnl.Library.Entries

/-!
# Laws of `requests_`

The loop of `send` over the map from stream ids to requests: it comes past requests that are finished or have
nothing to send, and ends at the first that sends an event or fails. So a request is erased by the send that
serves it, or not at all.

**The law** is `sendRequests_sent`, which says of each request what the loop has made of it: nothing, what a
send without an event makes of it, or what becomes of a request that has sent one (`sent`, the one thing in
which server and client differ). The induction is over the entries of the map, in the order of their ids, with
the map as the loop has left it so far.

Callers use it request by request; what the whole map looks like afterwards is never needed.
-/

namespace Bnl.Http3.Endpoint

open Bnl.Base Entries

/-- Requests with ids. -/
abbrev Entry : Type := UInt64 × Request.Sender × Request.Receiver

/-- The request that `send` is to serve: those in front of it are finished or have nothing to
send. -/
def Serves (entries : List Entry) (e : Entry) : Prop :=
  (∀ e' ∈ entries, e'.1 < e.1 → e'.2.1.finished = true ∨ e'.2.1.waits = true) ∧
    e.2.1.finished = false

instance (entries : List Entry) (e : Entry) : Decidable (Serves entries e) :=
  inferInstanceAs (Decidable (_ ∧ _))

namespace Streams

variable {host : Host}
  {sent : Request.Sender → Request.Receiver → Option (Request.Sender × Request.Receiver)}

/-- What the loop makes of the request under `k`: nothing, what is left of it when it could not
send, or, where the loop serves it, what `sent` says. -/
def Sent (host : Host)
    (sent : Request.Sender → Request.Receiver → Option (Request.Sender × Request.Receiver))
    (entries : List Entry) (requests requests' : Requests) (k : UInt64) : Prop :=
  requests'[k]? = requests[k]? ∨ ∃ sender receiver, (k, sender, receiver) ∈ entries ∧
    (requests'[k]? = some ((sender.send host).2, receiver) ∨
      Serves entries (k, sender, receiver) ∧
        requests'[k]? = sent (sender.send host).2 receiver)

/-- What the loop makes of the request at an id. -/
theorem sendRequests_sent {entries : List Entry} (hsorted : entries.Pairwise fun e e' => e.1 < e'.1)
    (requests : Requests) (k : UInt64) :
    Sent host sent entries requests (sendRequests host sent entries requests).2 k := by
  induction entries generalizing requests with
  | nil => exact .inl rfl
  | cons e entries ih =>
    obtain ⟨id, sender, receiver⟩ := e
    obtain ⟨hfirst, hrest⟩ := List.pairwise_cons.mp hsorted
    -- past a request that is finished or waits, what is served behind it is served
    have hpast (requests' requests'' : Requests) (hdone : sender.finished = true ∨ sender.waits = true)
        (h : Sent host sent entries requests' requests'' k) (hsame : k ≠ id → requests'[k]? = requests[k]?)
        (hown : k = id → requests''[k]? = requests'[k]? →
          Sent host sent ((id, sender, receiver) :: entries) requests requests'' k) :
        Sent host sent ((id, sender, receiver) :: entries) requests requests'' k := by
      by_cases hk : k = id
      · rcases h with h | ⟨s, r, hmem, -⟩
        · exact hown hk h
        · exact absurd (hfirst _ hmem) (by rw [hk]; exact UInt64.lt_irrefl id)
      · rcases h with h | ⟨s, r, hmem, h⟩
        · exact .inl (h.trans (hsame hk))
        · refine .inr ⟨s, r, List.mem_cons_of_mem _ hmem, h.imp_right fun ⟨hserves, h⟩ => ⟨⟨?_, hserves.2⟩, h⟩⟩
          intro e' he' hlt
          rcases List.mem_cons.mp he' with rfl | he'
          · exact hdone
          · exact hserves.1 e' he' hlt
    have hmem : (id, sender, receiver) ∈ (id, sender, receiver) :: entries := List.mem_cons_self
    unfold sendRequests
    by_cases hfinished : sender.finished = true
    · rw [if_pos hfinished]
      exact hpast _ _ (.inl hfinished) (ih hrest requests) (fun _ => rfl) fun _ h => .inl h
    · rw [if_neg hfinished]
      rcases hsend : sender.send host with ⟨error | event, sender'⟩
      · dsimp only
        have herror : (requests.insert id (sender', receiver))[id]? =
            some ((sender.send host).2, receiver) := by
          rw [hsend, getElem_insert_self]
        split
        · next hidle =>
          subst hidle
          have hwaits := Request.Sender.waits_of_send (congrArg Prod.fst hsend)
          refine hpast _ _ (.inr hwaits) (ih hrest _) (fun hk => getElem_insert_ne hk _) ?_
          intro hk h
          subst hk
          exact .inr ⟨sender, receiver, hmem, .inl (h.trans herror)⟩
        · by_cases hk : k = id
          · subst hk
            exact .inr ⟨sender, receiver, hmem, .inl herror⟩
          · exact .inl (getElem_insert_ne hk _)
      · dsimp only
        by_cases hk : k = id
        · subst hk
          refine .inr ⟨sender, receiver, hmem, .inr ⟨⟨?_, Bool.eq_false_iff.mpr hfinished⟩, ?_⟩⟩
          · intro e' he' hlt
            rcases List.mem_cons.mp he' with rfl | he'
            · exact absurd hlt (UInt64.lt_irrefl _)
            · exact absurd hlt (UInt64.lt_asymm (hfirst e' he'))
          · rw [getElem_alter_self, hsend]
        · exact .inl (getElem_alter_ne hk)

variable (host sent) in
/-- What `send` makes of the request under `k`: nothing, unless the control stream is idle. -/
theorem send_sent (s : Streams) (k : UInt64) :
    (s.send host sent).2.requests[k]? = s.requests[k]? ∨
      s.control.1.state = .idle ∧
        Sent host sent s.requests.toList s.requests (s.send host sent).2.requests k := by
  unfold send
  rcases hsend : s.control.1.send host with ⟨error | event, sender⟩
  · dsimp only
    split
    · next hidle =>
      subst hidle
      exact .inr ⟨(Control.Sender.idle_of_send hsend).1,
        sendRequests_sent (pairwise_toList s.requests) s.requests k⟩
    · exact .inl rfl
  · exact .inl rfl

/-- Where the loop sends an event, it is one of a request. -/
theorem sendRequests_ok {entries : List Entry} {requests requests' : Requests} {event : Quic.Event}
    (h : sendRequests host sent entries requests = (.ok event, requests')) :
    ∃ (k : UInt64) (sender : Request.Sender) (receiver : Request.Receiver),
      (k, sender, receiver) ∈ entries ∧ (sender.send host).1 = .ok event ∧
      requests'[k]? = sent (sender.send host).2 receiver := by
  induction entries generalizing requests with
  | nil => cases h
  | cons e entries ih =>
    obtain ⟨id, sender, receiver⟩ := e
    have hlater {requests : Requests}
        (h : sendRequests host sent entries requests = (.ok event, requests')) :
        ∃ (k : UInt64) (s : Request.Sender) (r : Request.Receiver),
          (k, s, r) ∈ (id, sender, receiver) :: entries ∧ (s.send host).1 = .ok event ∧
          requests'[k]? = sent (s.send host).2 r :=
      (ih h).imp fun k ⟨s, r, hmem, hs⟩ => ⟨s, r, List.mem_cons_of_mem _ hmem, hs⟩
    unfold sendRequests at h
    split at h
    · exact hlater h
    · rcases hsend : sender.send host with ⟨error | event', sender'⟩
      · rw [hsend] at h
        dsimp only at h
        split at h
        · exact hlater h
        · cases h
      · rw [hsend] at h
        cases h
        exact ⟨id, sender, receiver, List.mem_cons_self, by rw [hsend],
          getElem_alter_self.trans (by rw [hsend])⟩

/-- An event comes from the control stream or from a request. -/
theorem send_ok {s s' : Streams} {event : Quic.Event} (h : s.send host sent = (.ok event, s')) :
    (∃ sender, s.control.1.send host = (.ok event, sender)) ∨
      ∃ (k : UInt64) (sender : Request.Sender) (receiver : Request.Receiver),
        s.requests[k]? = some (sender, receiver) ∧ (sender.send host).1 = .ok event ∧
          s'.requests[k]? = sent (sender.send host).2 receiver := by
  unfold send at h
  rcases hsend : s.control.1.send host with ⟨error | event', sender⟩
  · rw [hsend] at h
    dsimp only at h
    split at h
    · obtain ⟨hevent, rfl⟩ := Prod.mk.inj h
      obtain ⟨k, sender', receiver, hmem, hs, hsent⟩ := sendRequests_ok
        (Prod.ext hevent rfl : _ = (Except.ok event, _))
      exact .inr ⟨k, sender', receiver, mem_toList.mp hmem, hs, hsent⟩
    · cases h
  · rw [hsend] at h
    cases h
    exact .inl ⟨sender, rfl⟩

/-- A send keeps the id of the control stream. -/
theorem send_id (s : Streams) : (s.send host sent).2.control.1.id = s.control.1.id := by
  have hid := s.control.1.send_id host
  unfold send
  rcases hsend : s.control.1.send host with ⟨error | event, sender⟩
  all_goals
    rw [hsend] at hid
    dsimp only
  · split <;> exact hid
  · exact hid

/-- A send leaves the receiver of the control stream alone. -/
theorem send_receiver (s : Streams) : (s.send host sent).2.control.2 = s.control.2 := by
  unfold send
  rcases s.control.1.send host with ⟨error | event, sender⟩
  · dsimp only
    split <;> rfl
  · rfl

end Streams

end Bnl.Http3.Endpoint
