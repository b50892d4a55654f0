import Bnl.App.Client
import Bnl.Laws.HeaderBlock
import Bnl.Laws.Numbering
import Bnl.Laws.Remaining

/-!
# The loop of `client::send`

Each round takes a datagram from the socket's list, has ngtcp2 write a packet, or hands an HTTP/3 event on, and
of none of these there is an end of supply. But ngtcp2 says with 0 that it can write no packet now, and only
`write_pkt` takes that for an answer: `write_stream` makes a packet without bytes of it, with which the loop
goes round and round.

**The law** is `settles_iff`, for a library that does not go on making packets by itself (`Exhausts`) and a
socket that answers as it likes: that the loop ends, whatever the socket says, and that what it hands to the
socket are packets, exactly where it comes to no stream that starves. A stream starves where ngtcp2 answers 0
for it; the condition is on the library's answers at the states the loop comes to, and which those are is
defined by following the rounds.

That it ends is a measure in two parts (`next_progress`). A round that has ngtcp2 write a packet uses up some of
what the library has, which is well-founded by assumption; any other makes less of what is queued, the HTTP/3
events by `Remaining`, then the buffers of the QUIC connection and of the socket.

Two libraries are given: one whose window is full, with which the loop goes on for ever, and one whose window
closes, with which it settles.
-/

namespace Bnl.Quic

open Bnl.Base

variable {C : Type}

/-! ## ngtcp2 -/

namespace Transport

/-- A call of the library, no packet coming in. -/
inductive Call (transport : Transport C) : C → C → Prop where
  | openBidiStream (c : C) : Call transport c (transport.openBidiStream c).2
  | openUniStream (c : C) : Call transport c (transport.openUniStream c).2
  | writePkt (c : C) : Call transport c (transport.writePkt c).2
  | writeStream (c : C) (id : UInt64) (fin : Bool) (data : Buffer) :
    Call transport c (transport.writeStream c id fin data).2
  | handshakeSend (c : C) : Call transport c (transport.handshakeSend c).2

/-- A call that writes a packet. -/
inductive Writes (transport : Transport C) : C → C → Prop where
  | writePkt {c c' : C} {packet : Buffer} (h : transport.writePkt c = (.ok packet, c'))
    (hpacket : packet.empty = false) : Writes transport c c'
  | writeStream {c c' : C} {id : UInt64} {fin : Bool} {data packet : Buffer} {written : Option Nat}
    (h : transport.writeStream c id fin data = (.ok (packet, written), c')) (hpacket : packet.empty = false) :
    Writes transport c c'

/-- Some calls. -/
abbrev Calls (transport : Transport C) : C → C → Prop := Relation.ReflTransGen transport.Call

/-- Some calls, the last of which writes a packet. -/
abbrev Spends (transport : Transport C) : C → C → Prop := Loop.Spends transport.Call transport.Writes

/-- Without packets that come in only finitely many are written. -/
abbrev Exhausts (transport : Transport C) : Prop := Loop.Exhausts transport.Call transport.Writes

end Transport

/-! ## A stream -/

namespace Stream

variable {transport : Transport C} {c c' : C} {s s' : Stream} {packet : Buffer}

/-- What ngtcp2 answers when the stream is offered to it, if it is. -/
def offer (ngtcp2 : Ngtcp2 C) (c : C) (s : Stream) : Option (Answer (Buffer × Option Nat)) :=
  let answer (c : C) := (ngtcp2.writeStream c s.id (s.fin_ && s.buffers_.front == s.buffers_.back) s.buffers_.front).1
  if s.buffers_.empty then none
  else if s.opened_ then some (answer c)
  else
    match ngtcp2.open_ c s.id with
    | some (.ok (), c) => some (answer c)
    | _ => none

/-- The stream is offered to ngtcp2 while it can write no packet: it answers 0. -/
def starves (ngtcp2 : Ngtcp2 C) (c : C) (s : Stream) : Bool :=
  match s.offer ngtcp2 c with
  | some (.ok (packet, _)) => packet.empty
  | _ => false

/-- Nothing of the stream is written now, and nothing fails. -/
def unwritten (ngtcp2 : Ngtcp2 C) (c : C) (s : Stream) : Bool :=
  match s.offer ngtcp2 c with
  | some (.ok (packet, _)) => packet.empty
  | some .streamDataBlocked => true
  | some _ => false
  | none =>
    s.buffers_.empty ||
      match ngtcp2.open_ c s.id with
      | some (.error .streamIdBlocked, _) => true
      | _ => false

/-- What `send` makes of an answer. -/
def outcome : Answer (Buffer × Option Nat) → Except Error Buffer
  | .ok (packet, _) => .ok packet
  | .streamDataBlocked => .error .idle
  | _ => .error .ngtcp2

/-- A write answers what ngtcp2 does, or that it is idle. -/
theorem write_outcome (ngtcp2 : Ngtcp2 C) (c : C) (s : Stream) : ∃ s', s.write ngtcp2 c =
    (outcome (ngtcp2.writeStream c s.id (s.fin_ && s.buffers_.front == s.buffers_.back) s.buffers_.front).1, s',
      (ngtcp2.writeStream c s.id (s.fin_ && s.buffers_.front == s.buffers_.back) s.buffers_.front).2) := by
  unfold write Ngtcp2.write_stream
  rcases hw : ngtcp2.writeStream c s.id (s.fin_ && s.buffers_.front == s.buffers_.back) s.buffers_.front with
    ⟨⟨packet, written⟩ | _ | _ | _, c'⟩
  all_goals
    dsimp only
    rw [hw]
    exact ⟨_, rfl⟩

/-- Opening a stream is a call. -/
theorem call_openStream (transport : Transport C) (c : C) (id : UInt64) :
    transport.Call c (transport.openStream c id).2 := by
  unfold Ngtcp2.openStream
  split
  · exact .openBidiStream c
  · exact .openUniStream c

/-- A stream that is offered to ngtcp2 makes of the answer what `outcome` says; any other one fails, or has nothing
to send, or may not be opened now. -/
theorem send_offer (transport : Transport C) (c : C) (s : Stream) :
    (∃ c₁ s' fin data, transport.Calls c c₁ ∧
      s.offer transport.toNgtcp2 c = some (transport.writeStream c₁ s.id fin data).1 ∧
      s.send transport.toNgtcp2 c = some (outcome (transport.writeStream c₁ s.id fin data).1, s',
        (transport.writeStream c₁ s.id fin data).2)) ∨
    s.offer transport.toNgtcp2 c = none ∧ (s.unwritten transport.toNgtcp2 c = false ∧
        s.send transport.toNgtcp2 c = none ∨
      ∃ error s' c', transport.Calls c c' ∧ s.send transport.toNgtcp2 c = some (.error error, s', c') ∧
        (s.unwritten transport.toNgtcp2 c = true → error = .idle)) := by
  unfold unwritten offer send
  by_cases hempty : s.buffers_.empty = true
  · rw [if_pos hempty, if_pos hempty]
    exact .inr ⟨rfl, .inr ⟨.idle, s, c, .refl, rfl, fun _ => rfl⟩⟩
  rw [if_neg hempty, if_neg hempty]
  by_cases hopened : s.opened_ = true
  · rw [if_pos hopened, if_pos hopened]
    obtain ⟨s', hwrite⟩ := s.write_outcome transport.toNgtcp2 c
    exact .inl ⟨c, s', _, _, .refl, rfl, congrArg some hwrite⟩
  rw [if_neg hopened, if_neg hopened]
  have hcall := call_openStream transport c s.id
  unfold Ngtcp2.open_
  rcases ho : transport.openStream c s.id with ⟨quic_id | _ | _ | _, c₁⟩
  all_goals
    rw [ho] at hcall
    dsimp only
  · by_cases hid : quic_id = s.id
    · rw [if_pos hid]
      obtain ⟨s', hwrite⟩ := write_outcome transport.toNgtcp2 c₁ { s with opened_ := true }
      exact .inl ⟨c₁, s', _, _, .single hcall, rfl, congrArg some hwrite⟩
    · rw [if_neg hid, eq_false_of_ne_true hempty]
      exact .inr ⟨rfl, .inl ⟨rfl, rfl⟩⟩
  · exact .inr ⟨rfl, .inr ⟨.idle, s, c₁, .single hcall, rfl, fun _ => rfl⟩⟩
  all_goals
    rw [eq_false_of_ne_true hempty]
    refine .inr ⟨rfl, .inr ⟨.ngtcp2, s, c₁, .single hcall, rfl, fun h => ?_⟩⟩
    cases h

/-- A stream that sends nothing has made calls only. -/
theorem send_error {error : Error} (h : s.send transport.toNgtcp2 c = some (.error error, s', c')) :
    transport.Calls c c' := by
  rcases send_offer transport c s with ⟨c₁, s₁, fin, data, hcalls, -, hsend⟩ |
    ⟨-, ⟨-, hsend⟩ | ⟨error', s₁, c₁, hcalls, hsend, -⟩⟩
  · have hafter : c' = (transport.writeStream c₁ s.id fin data).2 :=
      congrArg (fun r : Except Error Buffer × Stream × C => r.2.2) (Option.some.inj (h.symm.trans hsend))
    rw [hafter]
    exact hcalls.tail (.writeStream c₁ s.id fin data)
  · cases h.symm.trans hsend
  · cases h.symm.trans hsend
    exact hcalls

/-- A packet without bytes comes from a stream that starves. -/
theorem send_ok (h : s.send transport.toNgtcp2 c = some (.ok packet, s', c')) :
    (packet.empty = true → s.starves transport.toNgtcp2 c = true) ∧
      (packet.empty = false → transport.Spends c c') := by
  rcases send_offer transport c s with ⟨c₁, s₁, fin, data, hcalls, hoffer, hsend⟩ |
    ⟨-, ⟨-, hsend⟩ | ⟨error', s₁, c₁, hcalls, hsend, -⟩⟩
  · unfold starves
    rcases hw : transport.writeStream c₁ s.id fin data with ⟨⟨packet', written⟩ | _ | _ | _, c₂⟩
    all_goals
      rw [hw] at hoffer hsend
      cases h.symm.trans hsend
    rw [hoffer]
    exact ⟨fun hpacket => hpacket, fun hpacket => ⟨c₁, hcalls, .writeStream hw hpacket⟩⟩
  · cases h.symm.trans hsend
  · cases h.symm.trans hsend

/-- A stream that starves sends a packet without bytes. -/
theorem send_starves (h : s.starves transport.toNgtcp2 c = true) :
    ∃ packet s' c', s.send transport.toNgtcp2 c = some (.ok packet, s', c') ∧ packet.empty = true := by
  unfold starves at h
  rcases send_offer transport c s with ⟨c₁, s₁, fin, data, -, hoffer, hsend⟩ | ⟨hoffer, -⟩
  · rw [hoffer] at h
    rcases hw : transport.writeStream c₁ s.id fin data with ⟨⟨packet, written⟩ | _ | _ | _, c₂⟩
    all_goals
      rw [hw] at h hsend
    · exact ⟨packet, s₁, c₂, hsend, h⟩
    all_goals cases h
  · rw [hoffer] at h
    cases h

/-- What is not written, and not for want of room in a packet, is idle. -/
theorem send_idle (h : s.unwritten transport.toNgtcp2 c = true) (hstarves : s.starves transport.toNgtcp2 c = false) :
    ∃ s' c', s.send transport.toNgtcp2 c = some (.error .idle, s', c') := by
  rcases send_offer transport c s with ⟨c₁, s₁, fin, data, -, hoffer, hsend⟩ |
    ⟨-, ⟨hassert, -⟩ | ⟨error, s₁, c₁, -, hsend, hidle⟩⟩
  · unfold unwritten at h
    unfold starves at hstarves
    rw [hoffer] at h hstarves
    rcases hw : transport.writeStream c₁ s.id fin data with ⟨⟨packet, written⟩ | _ | _ | _, c₂⟩
    all_goals
      rw [hw] at h hstarves hsend
    · cases h.symm.trans hstarves
    · cases h
    · exact ⟨s₁, c₂, hsend⟩
    · cases h
  · cases h.symm.trans hassert
  · rw [hidle h] at hsend
    exact ⟨s₁, c₁, hsend⟩

end Stream

/-! ## The connection -/

namespace Connection

variable {transport : Transport C} {entries : List (UInt64 × Stream)} {q q' : Connection} {c c' : C} {packet : Buffer}

/-- The connection comes to a stream that ngtcp2 can write no packet for. -/
def Starves (transport : Transport C) (q : Connection) (c : C) : Prop :=
  ∃ e ∈ comes transport q c, e.2.1.starves transport.toNgtcp2 e.2.2 = true

/-- ngtcp2 can write nothing now: it says so of its own packets and of each stream that is offered to it. -/
def Full (transport : Transport C) (q : Connection) (c : C) : Prop :=
  ∃ c₁ packet c₂, transport.handshakeSend c = (.ok (), c₁) ∧ transport.writePkt c₁ = (.ok packet, c₂) ∧
    packet.empty = true ∧ ∀ e ∈ comes transport q c, e.2.1.unwritten transport.toNgtcp2 e.2.2 = true

/-- `send` returns packets that are none, or says that it is idle. -/
structure Honest (transport : Transport C) (q : Connection) (c : C) : Prop where
  packet : ∀ {packet q' c'}, q.send transport c = some (.ok packet, q', c') → packet.empty = false
  full : Full transport q c → ∃ q' c', q.send transport c = some (.error .idle, q', c')

/-- A loop that sends nothing has made calls only. -/
theorem sendStreams_error {error : Error} (h : sendStreams transport entries q c = some (.error error, q', c')) :
    transport.Calls c c' := by
  induction entries generalizing q c with
  | nil =>
    cases h
    exact .refl
  | cons e entries ih =>
    obtain ⟨id, s⟩ := e
    unfold sendStreams at h
    rcases hs : s.send transport.toNgtcp2 c with _ | ⟨error' | packet, s', c₁⟩
    all_goals
      rw [hs] at h
      dsimp only at h
    · cases h
    · have hcalls := Stream.send_error hs
      split at h
      · exact hcalls.trans (ih h)
      · cases h
        exact hcalls
    · cases h

/-- A packet without bytes comes from a stream that starves, any other from the library. -/
theorem sendStreams_ok (h : sendStreams transport entries q c = some (.ok packet, q', c')) :
    (packet.empty = true → ∃ e ∈ reached transport entries c, e.2.1.starves transport.toNgtcp2 e.2.2 = true) ∧
      (packet.empty = false → transport.Spends c c') := by
  induction entries generalizing q c with
  | nil => cases h
  | cons e entries ih =>
    obtain ⟨id, s⟩ := e
    unfold sendStreams at h
    unfold reached
    rcases hs : s.send transport.toNgtcp2 c with _ | ⟨error | packet', s', c₁⟩
    all_goals
      rw [hs] at h
      dsimp only at h
    · cases h
    · split at h
      · next hidle =>
        cases hidle
        obtain ⟨hempty, hpacket⟩ := ih h
        refine ⟨fun hnone => ?_, fun hsome => (hpacket hsome).of_calls (Stream.send_error hs)⟩
        obtain ⟨e, he, hstarves⟩ := hempty hnone
        exact ⟨e, List.mem_cons_of_mem _ he, hstarves⟩
      · cases h
    · cases h
      obtain ⟨hempty, hpacket⟩ := Stream.send_ok hs
      exact ⟨fun hnone => ⟨_, List.mem_cons_self, hempty hnone⟩, hpacket⟩

/-- A stream that starves has the loop send such a packet. -/
theorem sendStreams_starves
    (h : ∃ e ∈ reached transport entries c, e.2.1.starves transport.toNgtcp2 e.2.2 = true) :
    ∃ packet q' c', sendStreams transport entries q c = some (.ok packet, q', c') ∧ packet.empty = true := by
  induction entries generalizing q c with
  | nil =>
    obtain ⟨e, he, -⟩ := h
    cases he
  | cons e entries ih =>
    obtain ⟨id, s⟩ := e
    obtain ⟨e, he, hstarves⟩ := h
    unfold reached at he
    unfold sendStreams
    rcases List.mem_cons.mp he with rfl | he
    · obtain ⟨packet, s', c₁, hs, hempty⟩ := Stream.send_starves hstarves
      dsimp only at hs
      rw [hs]
      exact ⟨packet, _, c₁, rfl, hempty⟩
    · rcases hs : s.send transport.toNgtcp2 c with _ | ⟨error | packet, s', c₁⟩
      all_goals
        rw [hs] at he
        dsimp only at he ⊢
      · cases he
      · by_cases hidle : error = .idle
        · subst hidle
          rw [if_pos rfl]
          exact ih ⟨e, he, hstarves⟩
        · split at he
          · next heq =>
            cases heq
            exact absurd rfl hidle
          · cases he
      · cases he

/-- A loop in which nothing is written and nothing starves is idle. -/
theorem sendStreams_idle
    (h : ∀ e ∈ reached transport entries c, e.2.1.unwritten transport.toNgtcp2 e.2.2 = true)
    (hstarves : ∀ e ∈ reached transport entries c, e.2.1.starves transport.toNgtcp2 e.2.2 = false) :
    ∃ q' c', sendStreams transport entries q c = some (.error .idle, q', c') := by
  induction entries generalizing q c with
  | nil => exact ⟨q, c, rfl⟩
  | cons e entries ih =>
    obtain ⟨id, s⟩ := e
    unfold reached at h hstarves
    obtain ⟨s', c₁, hs⟩ := Stream.send_idle (h _ List.mem_cons_self) (hstarves _ List.mem_cons_self)
    dsimp only at hs
    unfold sendStreams
    rw [hs] at h hstarves ⊢
    dsimp only at h hstarves ⊢
    rw [if_pos rfl]
    exact ih (fun e he => h e (List.mem_cons_of_mem _ he)) fun e he => hstarves e (List.mem_cons_of_mem _ he)

/-- **A call of `send`** fails or has nothing to send, returns a packet of ngtcp2's own, or comes to the streams. -/
theorem send_comes (transport : Transport C) (q : Connection) (c : C) : ∃ c₁, transport.Calls c c₁ ∧
    ((∃ error, q.send transport c = some (.error error, q, c₁) ∧ comes transport q c = [] ∧
        (Full transport q c → error = .idle)) ∨
      (∃ packet, q.send transport c = some (.ok packet, q, c₁) ∧ comes transport q c = [] ∧ packet.empty = false ∧
        transport.Spends c c₁ ∧ ¬ Full transport q c) ∨
      q.send transport c = sendStreams transport q.streams_.toList q c₁ ∧
        comes transport q c = reached transport q.streams_.toList c₁) := by
  have hhandshake : transport.Call c (transport.handshakeSend c).2 := .handshakeSend c
  unfold Full send comes
  rcases hh : transport.handshakeSend c with ⟨error | ⟨⟩, c₁⟩
  all_goals
    rw [hh] at hhandshake
    dsimp only
  · refine ⟨c₁, .single hhandshake, .inl ⟨error, rfl, rfl, ?_⟩⟩
    rintro ⟨c₂, packet, c₃, hok, -⟩
    cases hok
  have hpkt : transport.Call c₁ (transport.writePkt c₁).2 := .writePkt c₁
  unfold Ngtcp2.write_pkt
  rcases hw : transport.writePkt c₁ with ⟨packet | _ | _ | _, c₂⟩
  all_goals
    rw [hw] at hpkt
    dsimp only
  · have hcalls := (Relation.ReflTransGen.single hhandshake).tail hpkt
    refine ⟨c₂, hcalls, ?_⟩
    cases hempty : packet.empty with
    | false =>
      rw [if_neg Bool.false_ne_true]
      refine .inr (.inl ⟨packet, rfl, rfl, hempty, ⟨c₁, .single hhandshake, .writePkt hw hempty⟩, ?_⟩)
      rintro ⟨c₃, packet', c₄, hok, hok', hnone, -⟩
      cases hok
      cases hw.symm.trans hok'
      cases hempty.symm.trans hnone
    | true =>
      rw [if_pos rfl]
      dsimp only
      rw [if_neg (not_not.mpr rfl), if_neg (not_not.mpr rfl)]
      split
      · exact .inl ⟨_, rfl, rfl, fun _ => rfl⟩
      · exact .inr (.inr ⟨rfl, rfl⟩)
  all_goals
    refine ⟨c₂, (Relation.ReflTransGen.single hhandshake).tail hpkt, .inl ⟨.ngtcp2, rfl, rfl, ?_⟩⟩
    rintro ⟨c₃, packet, c₄, hok, hok', -⟩
    cases hok
    cases hw.symm.trans hok'

/-- A call that sends nothing has made calls only. -/
theorem send_error {error : Error} (h : q.send transport c = some (.error error, q', c')) : transport.Calls c c' := by
  obtain ⟨c₁, hcalls, ⟨error', hs, -⟩ | ⟨packet, hs, -⟩ | ⟨hs, -⟩⟩ := send_comes transport q c
  · cases h.symm.trans hs
    exact hcalls
  · cases h.symm.trans hs
  · exact hcalls.trans (sendStreams_error (hs.symm.trans h))

theorem send_ok (h : q.send transport c = some (.ok packet, q', c')) :
    (packet.empty = true → Starves transport q c) ∧ (packet.empty = false → transport.Spends c c') := by
  unfold Starves
  obtain ⟨c₁, hcalls, ⟨error', hs, -⟩ | ⟨packet', hs, -, hempty, hspends, -⟩ | ⟨hs, hcomes⟩⟩ := send_comes transport q c
  · cases h.symm.trans hs
  · cases h.symm.trans hs
    exact ⟨fun hnone => absurd (hempty.symm.trans hnone) Bool.false_ne_true, fun _ => hspends⟩
  · obtain ⟨hempty, hpacket⟩ := sendStreams_ok (hs.symm.trans h)
    rw [hcomes]
    exact ⟨hempty, fun hsome => (hpacket hsome).of_calls hcalls⟩

/-- **A call of `send` is honest exactly where no stream starves.** -/
theorem honest_iff : Honest transport q c ↔ ¬ Starves transport q c := by
  constructor
  · rintro hhonest ⟨e, he, hstarves⟩
    obtain ⟨c₁, -, ⟨error, -, hcomes, -⟩ | ⟨packet, -, hcomes, -⟩ | ⟨hs, hcomes⟩⟩ := send_comes transport q c
    · rw [hcomes] at he
      cases he
    · rw [hcomes] at he
      cases he
    · rw [hcomes] at he
      obtain ⟨packet, q', c', hpacket, hempty⟩ := sendStreams_starves (q := q) ⟨e, he, hstarves⟩
      exact absurd ((hhonest.packet (hs.trans hpacket)).symm.trans hempty) Bool.false_ne_true
  · intro hstarves
    refine ⟨fun {packet q' c'} h => ?_, fun hfull => ?_⟩
    · exact eq_false_of_ne_true fun hempty => hstarves ((send_ok h).1 hempty)
    · obtain ⟨c₁, -, ⟨error, hs, -, hidle⟩ | ⟨packet, -, -, -, -, hnot⟩ | ⟨hs, hcomes⟩⟩ := send_comes transport q c
      · rw [hidle hfull] at hs
        exact ⟨q, c₁, hs⟩
      · exact absurd hfull hnot
      · obtain ⟨-, -, -, -, -, -, hunwritten⟩ := hfull
        unfold Starves at hstarves
        rw [hcomes] at hunwritten hstarves
        rw [hs]
        exact sendStreams_idle hunwritten fun e he => eq_false_of_ne_true fun h => hstarves ⟨e, he, h⟩

end Connection

end Bnl.Quic

namespace Bnl.App.Client

open Bnl.Base Bnl.Quic

variable {C : Type} {transport : Transport C} {host : Host} {client client' : Client C}

/-! ## A round -/

/-- How many rounds the socket and the HTTP/3 connection are good for. -/
def measure (client : Client C) : Nat :=
  client.http3_.toStreams.remaining + client.socket_.send_buffer_.buffers.length

/-- A datagram that is taken is one less to send. -/
theorem length_consume_front {s : Buffers} (h : ¬ s.empty = true) :
    (s.consume s.front.size).buffers.length < s.buffers.length := by
  obtain ⟨buffers⟩ := s
  cases buffers with
  | nil => exact absurd rfl h
  | cons b bs =>
    -- what is left of the first buffer is empty, and discarded
    have hfirst : ∃ b', Buffers.consumeFrom (b :: bs) b.size = b' :: bs ∧ b'.empty = true := by
      unfold Buffers.consumeFrom
      by_cases hzero : b.size = 0
      · rw [if_pos hzero]
        exact ⟨b, rfl, beq_iff_eq.mpr hzero⟩
      · have hrest : Buffers.consumeFrom bs 0 = bs := by cases bs <;> rfl
        rw [if_neg hzero, Nat.min_self, Nat.sub_self, hrest]
        exact ⟨_, rfl, Buffer.empty_iff.mpr List.drop_length⟩
    obtain ⟨b', hconsume, hempty⟩ := hfirst
    unfold Buffers.consume Buffers.discard Buffers.front
    rw [List.headD_cons, hconsume, List.dropWhile_cons_of_pos hempty]
    exact Nat.lt_succ_of_le (List.dropWhile_sublist _).length_le

/-- An event that is handed on is one less. -/
theorem sendHttp3_progress (h : client.sendHttp3 host = some (.ok (), client')) :
    client'.ngtcp2 = client.ngtcp2 ∧ client'.measure < client.measure := by
  unfold sendHttp3 Http3.Endpoint.Client.Connection.send at h
  rcases hs : client.http3_.toStreams.send host Http3.Endpoint.Client.Connection.sent with ⟨error | event, streams⟩
  all_goals
    rw [hs] at h
    dsimp only at h
  · split at h <;> cases h
  · rcases ha : client.quic_.add event with _ | ⟨error | ⟨⟩, quic_⟩
    all_goals
      rw [ha] at h
      cases h
    exact ⟨rfl, Nat.add_lt_add_right (Http3.Endpoint.Streams.send_remaining hs) _⟩

/-- **A round** has ngtcp2 write a packet, or there is less to send then. -/
theorem next_progress (h : ¬ Quic.Connection.Starves transport client.quic_ client.ngtcp2)
    (hnext : Loop.Next (sendOnce transport host) client client') :
    transport.Spends client.ngtcp2 client'.ngtcp2 ∨
      transport.Calls client.ngtcp2 client'.ngtcp2 ∧ client'.measure < client.measure := by
  obtain ⟨transmit, hround⟩ := hnext
  unfold sendOnce Udp.send at hround
  by_cases hempty : client.socket_.send_buffer_.empty = true
  · rw [if_pos hempty] at hround
    dsimp only at hround
    rw [if_neg (not_not.mpr rfl)] at hround
    rcases hs : client.quic_.send transport client.ngtcp2 with _ | ⟨error | packet, quic_, ngtcp2⟩
    all_goals
      rw [hs] at hround
      dsimp only at hround
    · cases hround
    · split at hround
      · cases hround
      · obtain ⟨hngtcp2, hlt⟩ := sendHttp3_progress hround
        refine .inr ⟨?_, hlt⟩
        rw [hngtcp2]
        exact Quic.Connection.send_error hs
    · cases hround
      obtain ⟨hstarves, hspends⟩ := Quic.Connection.send_ok hs
      exact .inl (hspends (eq_false_of_ne_true fun hnone => h (hstarves hnone)))
  · rw [if_neg hempty] at hround
    cases transmit with
    | taken =>
      cases hround
      exact .inr ⟨.refl, Nat.add_lt_add_left (length_consume_front hempty) _⟩
    | again => cases hround
    | failed => cases hround

/-! ## The loop -/

/-- Some rounds of the loop, whatever the socket says. -/
abbrev Reaches (transport : Transport C) (host : Host) : Client C → Client C → Prop :=
  Relation.ReflTransGen (Loop.Next (sendOnce transport host))

/-- The loop ends, and wherever it comes `quic::client::connection::send` returns packets or says that it is idle. -/
structure Settles (transport : Transport C) (host : Host) (client : Client C) : Prop where
  honest : ∀ client', Reaches transport host client client' →
    Quic.Connection.Honest transport client'.quic_ client'.ngtcp2
  ends : ∀ transmits, ∃ n, client.send transport host transmits n ≠ none

/-- The loop ends where its rounds do, for each socket. -/
theorem ends_iff : Loop.Ends (sendOnce transport host) client ↔
    ∀ transmits, ∃ n, client.send transport host transmits n ≠ none := by
  refine forall_congr' fun transmits => exists_congr fun n => ?_
  unfold send
  rw [ne_eq, ne_eq, Option.map_eq_none_iff]

/-- **The loop settles exactly where it comes to no stream that starves.** -/
theorem settles_iff (h : transport.Exhausts) (host : Host) (client : Client C) :
    Settles transport host client ↔ ∀ client', Reaches transport host client client' →
      ¬ Quic.Connection.Starves transport client'.quic_ client'.ngtcp2 := by
  constructor
  · intro hsettles client' hreaches
    exact Quic.Connection.honest_iff.mp (hsettles.honest client' hreaches)
  · intro hstarves
    refine ⟨fun client' hreaches => Quic.Connection.honest_iff.mpr (hstarves client' hreaches), ends_iff.mp ?_⟩
    refine Loop.ends_of_acc (h.acc (I := Reaches transport host client) Client.ngtcp2 measure
      (fun client₁ client₂ hreaches hnext => ?_) .refl)
    exact ⟨hreaches.tail hnext, next_progress (hstarves client₁ hreaches) hnext⟩

/-! ## A full window -/

/-- An ngtcp2 whose window is full. -/
def full : Transport Unit where
  openBidiStream c := (.streamIdBlocked, c)
  openUniStream c := (.streamIdBlocked, c)
  writePkt c := (.ok {}, c)
  writeStream c _ _ _ := (.ok ({}, none), c)
  handshakeSend c := (.ok (), c)
  handshakeCompleted _ := true

/-- It never writes a packet, so it makes none for ever. -/
theorem exhausts_full : full.Exhausts := by
  have hnever (c c' : Unit) : ¬ full.Writes c c' := by
    intro hwrites
    cases hwrites with
    | writePkt h hpacket =>
      cases h
      cases hpacket
    | writeStream h hpacket =>
      cases h
      cases hpacket
  refine ⟨fun c => ⟨c, fun c' hspends => ?_⟩⟩
  obtain ⟨u, -, hwrites⟩ := hspends
  exact absurd hwrites (hnever u c')

/-- Nothing waits for the socket, and every stream is open and has something to send. -/
structure Hungry (client : Client Unit) : Prop where
  socket_ : client.socket_.send_buffer_.empty = true
  some_ : client.quic_.streams_.toList ≠ []
  streams_ : ∀ (k : UInt64) s, client.quic_.streams_[k]? = some s → s.opened_ = true ∧ s.buffers_.empty = false

/-- A stream that is open and has something to send stays so. -/
theorem send_full {s : Stream} (hopened : s.opened_ = true) (hempty : s.buffers_.empty = false) :
    ∃ s', s.send full.toNgtcp2 () = some (.ok {}, s', ()) ∧ s'.opened_ = true ∧ s'.buffers_.empty = false := by
  have hbytes : s.buffers_.bytes ≠ [] := fun hnil => by
    rw [Buffers.empty_iff.mpr hnil] at hempty
    cases hempty
  obtain ⟨-, hleft⟩ := Buffers.slice_bytes (Nat.zero_le _) hbytes
  refine ⟨{ s with
    buffers_ := (s.buffers_.slice 0).2, keepalive_ := s.keepalive_.push (s.buffers_.slice 0).1 }, ?_, hopened, ?_⟩
  · unfold Stream.send
    rw [hempty, if_neg Bool.false_ne_true, if_pos hopened]
    rfl
  · refine eq_false_of_ne_true fun hnone => hbytes ?_
    rw [List.drop_zero] at hleft
    exact hleft.symm.trans (Buffers.empty_iff.mp hnone)

/-- **A full window keeps the loop going**, with a packet without bytes in each round. -/
theorem Hungry.next {client : Client Unit} (h : Hungry client) (host : Host) (transmit : Transmit) :
    ∃ client', sendOnce full host transmit client = some (.ok (), client') ∧ Hungry client' := by
  obtain ⟨socket_, ⟨streams_⟩, http3_, ⟨⟩⟩ := client
  obtain ⟨hsocket, hsome, hstreams⟩ := h
  dsimp only at hsocket hsome hstreams
  cases hentries : streams_.toList with
  | nil => exact absurd hentries hsome
  | cons e entries =>
    obtain ⟨id, s⟩ := e
    have hs : streams_[id]? = some s := Entries.mem_toList.mp (hentries ▸ List.mem_cons_self)
    obtain ⟨hopened, hempty⟩ := hstreams id s hs
    obtain ⟨s', hsend, hopened', hempty'⟩ := send_full hopened hempty
    have hquic : Connection.send full ⟨streams_⟩ () = some (.ok {}, ⟨streams_.insert id s'⟩, ()) := by
      show Connection.sendStreams full streams_.toList ⟨streams_⟩ () = _
      rw [hentries]
      unfold Connection.sendStreams
      rw [hsend]
      rfl
    refine ⟨⟨socket_.add {}, ⟨streams_.insert id s'⟩, http3_, ()⟩, ?_, ?_, ?_, ?_⟩
    · unfold sendOnce Udp.send
      dsimp only
      rw [if_pos hsocket]
      dsimp only
      rw [if_neg (not_not.mpr rfl), hquic]
    · rw [Buffers.empty_iff] at hsocket ⊢
      show (socket_.send_buffer_.push {}).bytes = []
      rw [Buffers.push_bytes, hsocket]
      rfl
    · intro hnil
      have hself := Entries.mem_toList.mpr (Entries.getElem_insert_self (m := streams_) (i := id) s')
      rw [hnil] at hself
      cases hself
    · intro k t ht
      by_cases hk : k = id
      · subst hk
        cases (Entries.getElem_insert_self s').symm.trans ht
        exact ⟨hopened', hempty'⟩
      · exact hstreams k t ((Entries.getElem_insert_ne hk s').symm.trans ht)

/-- However many rounds there are, the loop goes on. -/
theorem Hungry.rounds {client : Client Unit} (h : Hungry client) (host : Host) (transmits : Nat → Transmit) (n : Nat) :
    Loop.rounds (sendOnce full host) transmits n client = none := by
  induction n generalizing client transmits with
  | zero => rfl
  | succ n ih =>
    obtain ⟨client', hround, hungry⟩ := h.next host (transmits 0)
    unfold Loop.rounds
    rw [hround]
    exact ih hungry fun k => transmits (k + 1)

/-- An open stream with a byte to send. -/
def stream : Stream := { buffers_ := ⟨[⟨[1]⟩]⟩, opened_ := true, id := 0 }

/-- The window is full and a stream has something to send: the loop does not end. -/
theorem settles_not : ¬ ∀ (transport : Transport Unit) (host : Host) (client : Client Unit), transport.Exhausts →
    Settles transport host client := by
  intro h
  have hungry : Hungry { quic_ := ⟨(∅ : Std.TreeMap UInt64 Stream).insert 0 stream⟩, ngtcp2 := () } := by
    refine ⟨rfl, fun hnil => ?_, fun k s hs => ?_⟩
    · have hself := Entries.mem_toList.mpr
        (Entries.getElem_insert_self (m := (∅ : Std.TreeMap UInt64 Stream)) (i := (0 : UInt64)) stream)
      dsimp only at hnil
      rw [hnil] at hself
      cases hself
    · by_cases hk : k = 0
      · subst hk
        cases (Entries.getElem_insert_self stream).symm.trans hs
        exact ⟨rfl, rfl⟩
      · cases Std.TreeMap.getElem?_emptyc.symm.trans ((Entries.getElem_insert_ne hk stream).symm.trans hs)
  obtain ⟨n, hn⟩ := (h full Http3.Qpack.xxHost _ exhausts_full).ends fun _ => .taken
  refine hn ?_
  unfold send
  rw [hungry.rounds]
  rfl

/-! ## A window that closes -/

/-- An ngtcp2 that may write some packets yet, and then says that the streams are blocked. -/
def window : Transport Nat where
  openBidiStream c := (.streamIdBlocked, c)
  openUniStream c := (.streamIdBlocked, c)
  writePkt c := (.ok {}, c)
  writeStream c _ _ data := if c = 0 then (.streamDataBlocked, c) else (.ok (⟨[1]⟩, some data.size), c - 1)
  handshakeSend c := (.ok (), c)
  handshakeCompleted _ := true

/-- A packet has bytes, and uses up some of the window. -/
theorem window_writeStream {c c' : Nat} {id : UInt64} {fin : Bool} {data packet : Buffer} {written : Option Nat}
    (h : window.writeStream c id fin data = (.ok (packet, written), c')) : packet.empty = false ∧ c' < c := by
  unfold window at h
  dsimp only at h
  split at h
  · cases h
  · next hc =>
    cases h
    exact ⟨rfl, Nat.pred_lt hc⟩

theorem exhausts_window : window.Exhausts := by
  have hcall {c c' : Nat} (h : window.Call c c') : c' ≤ c := by
    cases h with
    | openBidiStream => exact Nat.le_refl c
    | openUniStream => exact Nat.le_refl c
    | writePkt => exact Nat.le_refl c
    | handshakeSend => exact Nat.le_refl c
    | writeStream id fin data =>
      unfold window
      dsimp only
      split
      · exact Nat.le_refl c
      · exact Nat.sub_le c 1
  have hcalls {c c' : Nat} (h : window.Calls c c') : c' ≤ c := by
    induction h with
    | refl => exact Nat.le_refl c
    | tail _ h ih => exact Nat.le_trans (hcall h) ih
  have hwrites {c c' : Nat} (h : window.Writes c c') : c' < c := by
    cases h with
    | writePkt h hpacket =>
      cases h
      cases hpacket
    | writeStream h hpacket => exact (window_writeStream h).2
  refine Subrelation.wf (r := (· < ·)) (fun {c' c} hspends => ?_) Nat.lt_wfRel.wf
  obtain ⟨u, hu, hwrite⟩ := hspends
  exact Nat.lt_of_lt_of_le (hwrites hwrite) (hcalls hu)

theorem window_starves (c : Nat) (s : Stream) : s.starves window.toNgtcp2 c = false := by
  unfold Stream.starves
  rcases Stream.send_offer window c s with ⟨c₁, s₁, fin, data, -, hoffer, -⟩ | ⟨hoffer, -⟩
  · rw [hoffer]
    rcases hw : window.writeStream c₁ s.id fin data with ⟨⟨packet, written⟩ | _ | _ | _, c₂⟩
    · exact (window_writeStream hw).1
    all_goals rfl
  · rw [hoffer]

/-- A loop with a stream to send settles. -/
theorem settles_iff_window : Settles window Http3.Qpack.xxHost
    { quic_ := ⟨(∅ : Std.TreeMap UInt64 Stream).insert 0 stream⟩, ngtcp2 := 3 } := by
  refine (settles_iff exhausts_window _ _).mpr fun client' _ hstarves => ?_
  obtain ⟨e, -, he⟩ := hstarves
  rw [window_starves] at he
  cases he

end Bnl.App.Client
