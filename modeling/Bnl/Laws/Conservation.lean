import Bnl.Laws.Fin

/-!
# The bytes of a stream

What was added to a stream is what it has written, in order, and what it still queues; and of what it has
written it keeps all that is not acknowledged, in buffers cut where ngtcp2 stopped. A call that fails moves no
byte.

**The law** (`keeps_always`): this holds in every run of calls, with any answers of ngtcp2 and any sizes
acknowledged. An acknowledgement of more than is kept is refused and changes nothing.

The idea of the proof: the three lists of bytes, written, queued and kept, change together in one place only,
where a send slices the front of the queue off and keeps it (`Sent`). All else a send can do leaves them
(`Refused`), so each action is one or two equations between lists.

**What it does not establish.** That ngtcp2 sends what it was given, or that an acknowledgement is of the bytes
that were sent: `ack` says how many, and the stream believes it. When a stream writes at all is in `Fin`.
-/

namespace Bnl.Quic.Conservation

open Bnl.Base Bnl.Quic.Fin

/-- A stream, the bytes that were added to it, the calls it made and how many bytes were acknowledged. -/
structure World extends Fin.World where
  acked : Nat := 0
  deriving DecidableEq, Repr

/-- A call, with what it returns but for the packet; those that the stream asserts not to come after
`fin` do not come. -/
def call (w : World) : Action → Option (Except Error Unit × World)
  | .add buffer =>
    if w.stream.fin_ then some (.ok (), w)
    else (w.stream.add buffer).map fun stream =>
      (.ok (), { w with stream, added := w.added ++ buffer.bytes })
  | .fin =>
    if w.stream.fin_ then some (.ok (), w)
    else w.stream.fin.map fun stream => (.ok (), { w with stream })
  | .send answers =>
    (w.stream.send (answering w.stream.id answers) w.writes).map fun (r, stream, writes) =>
      (r.map fun _ => (), { w with stream, writes })
  | .ack size =>
    match w.stream.ack size with
    | (.error error, stream) => some (.error error, { w with stream })
    | (.ok (), stream) => some (.ok (), { w with stream, acked := w.acked + size })

/-- The state behind a call, whatever it returns. -/
def step (w : World) (a : Action) : Option World := (call w a).map Prod.snd

/-- No byte is lost or written twice, and what is kept is what was written and not acknowledged. -/
structure Conserved (w : World) : Prop where
  queued : w.written ++ w.stream.buffers_.bytes = w.added
  kept : w.stream.keepalive_.bytes = w.written.drop w.acked
  acked : w.acked ≤ w.written.length

/-- A call leaves the bytes conserved. An acknowledgement of more than is kept fails and changes nothing, and
a call that fails leaves both lists of buffers. -/
structure Keeps (w : World) (a : Action) (w' : World) : Prop where
  conserved : Conserved w'
  excess : ∀ size, a = .ack size → size > w.stream.keepalive_.size → call w a = some (.error .internal, w)
  failed : ∀ error, call w a = some (.error error, w') →
    w'.stream.buffers_ = w.stream.buffers_ ∧ w'.stream.keepalive_ = w.stream.keepalive_

/-! ## A call -/

variable {w w' : World}

/-- What a send that fails leaves. -/
structure Refused (w w' : World) : Prop where
  added : w'.added = w.added
  acked : w'.acked = w.acked
  written : w'.written = w.written
  buffers_ : w'.stream.buffers_ = w.stream.buffers_
  keepalive_ : w'.stream.keepalive_ = w.stream.keepalive_

/-- What a send does that has `n` bytes of the first buffer written. -/
structure Sent (w w' : World) (n : Nat) : Prop where
  le : n ≤ w.stream.buffers_.front.size
  added : w'.added = w.added
  acked : w'.acked = w.acked
  written : w'.written = w.written ++ w.stream.buffers_.front.bytes.take n
  buffers_ : w'.stream.buffers_ = (w.stream.buffers_.slice n).2
  keepalive_ : w'.stream.keepalive_ = w.stream.keepalive_.push (w.stream.buffers_.slice n).1

/-- A send that moves nothing leaves the bytes conserved. -/
theorem Refused.conserved (h : Refused w w') (hw : Conserved w) : Conserved w' := by
  refine ⟨?_, ?_, ?_⟩
  · rw [h.written, h.buffers_, h.added]
    exact hw.queued
  · rw [h.keepalive_, h.written, h.acked]
    exact hw.kept
  · rw [h.acked, h.written]
    exact hw.acked

/-- What is sliced off the queue is what was written of its first buffer. -/
theorem Sent.conserved {n : Nat} (h : Sent w w' n) (hne : w.stream.buffers_.bytes ≠ []) (hw : Conserved w) :
    Conserved w' := by
  have hfront := front_behind w.stream.buffers_
  have hle : n ≤ w.stream.buffers_.bytes.length := by
    rw [hfront, List.length_append]
    exact Nat.le_trans h.le (Nat.le_add_right _ _)
  obtain ⟨htake, hdrop⟩ := Buffers.slice_bytes hle hne
  have hsent : w.stream.buffers_.front.bytes.take n = w.stream.buffers_.bytes.take n := by
    rw [hfront, List.take_append_of_le_length h.le]
  refine ⟨?_, ?_, ?_⟩
  · rw [h.written, h.buffers_, h.added, hdrop, hsent, List.append_assoc, List.take_append_drop]
    exact hw.queued
  · rw [h.keepalive_, Buffers.push_bytes, htake, h.written, h.acked, hsent, hw.kept]
    rw [List.drop_append_of_le_length hw.acked]
  · rw [h.acked, h.written, List.length_append]
    exact Nat.le_trans hw.acked (Nat.le_add_right _ _)

/-- What one more call of ngtcp2 adds to what is written. -/
theorem written_append (w : World) (stream : Stream) (c : Write) :
    ({ w with stream, writes := w.writes ++ [c] } : World).written =
      w.written ++ c.offered.take (c.written.getD 0) := by
  unfold Fin.World.written
  rw [List.flatMap_append, List.flatMap_singleton]

/-- A write, of a stream that has just been opened or was open. -/
theorem write_cases (w : World) (s : Stream) (answers : Answers) (hb : s.buffers_ = w.stream.buffers_)
    (hk : s.keepalive_ = w.stream.keepalive_) :
    ∃ r stream writes, s.write (answering s.id answers) w.writes = (r, stream, writes) ∧
      ((∃ error, r = .error error ∧ Refused w { w with stream, writes }) ∨
        ∃ packet n, r = .ok packet ∧ Sent w { w with stream, writes } n) := by
  refine ⟨_, _, _, rfl, ?_⟩
  obtain ⟨opened, answer⟩ := answers
  have hfails (error : Error) (fin : Bool) : ∃ error', (.error error : Except Error Buffer) = .error error' ∧
      Refused w { w with stream := s, writes := w.writes ++ [⟨fin, s.buffers_.front.bytes, none⟩] } := by
    have hwritten := written_append w s ⟨fin, s.buffers_.front.bytes, none⟩
    exact ⟨error, rfl, rfl, rfl, hwritten.trans (List.append_nil _), hb, hk⟩
  cases answer with
  | ok a =>
    obtain ⟨packet, written⟩ := a
    refine .inr ⟨packet, (written.map (min · s.buffers_.front.size)).getD 0, rfl, ?_, rfl, rfl, ?_, ?_, ?_⟩
    · rw [hb]
      cases written with
      | none => exact Nat.zero_le _
      | some n => exact Nat.min_le_right _ _
    · rw [← hb]
      exact written_append w _ _
    · rw [← hb]
      rfl
    · rw [← hb, ← hk]
      rfl
  | streamIdBlocked => exact .inl (hfails _ _)
  | streamDataBlocked => exact .inl (hfails _ _)
  | error => exact .inl (hfails _ _)

/-- **What a send does**: it fails and moves nothing, or has a part of the first buffer written. -/
theorem send_cases (w : World) (answers : Answers) : ∃ r w', call w (.send answers) = some (r, w') ∧
    ((∃ error, r = .error error ∧ Refused w w') ∨
      r = .ok () ∧ w.stream.buffers_.bytes ≠ [] ∧ ∃ n, Sent w w' n) := by
  have hsend : call w (.send answers) =
      (w.stream.send (answering w.stream.id answers) w.writes).map fun (r, stream, writes) =>
        (r.map fun _ => (), { w with stream, writes }) := rfl
  rw [hsend]
  unfold Stream.send
  by_cases hempty : w.stream.buffers_.empty = true
  · rw [if_pos hempty]
    exact ⟨_, _, rfl, .inl ⟨_, rfl, rfl, rfl, rfl, rfl, rfl⟩⟩
  rw [if_neg hempty]
  have hne : w.stream.buffers_.bytes ≠ [] := fun h => hempty (Buffers.empty_iff.mpr h)
  -- a write, once the stream is open
  have hwrite (s : Stream) (hb : s.buffers_ = w.stream.buffers_) (hk : s.keepalive_ = w.stream.keepalive_)
      (hid : s.id = w.stream.id) : ∃ r w', (some (s.write (answering w.stream.id answers) w.writes)).map
        (fun (r, stream, writes) => (r.map fun _ => (), { w with stream, writes })) = some (r, w') ∧
      ((∃ error, r = .error error ∧ Refused w w') ∨
        r = .ok () ∧ w.stream.buffers_.bytes ≠ [] ∧ ∃ n, Sent w w' n) := by
    obtain ⟨r, stream, writes, hs, hcases⟩ := write_cases w s answers hb hk
    rw [← hid, hs]
    refine ⟨_, _, rfl, ?_⟩
    rcases hcases with ⟨error, rfl, hrefused⟩ | ⟨packet, n, rfl, hsent⟩
    · exact .inl ⟨error, rfl, hrefused⟩
    · exact .inr ⟨rfl, hne, n, hsent⟩
  by_cases hopened : w.stream.opened_ = true
  · rw [if_pos hopened]
    exact hwrite w.stream rfl rfl rfl
  · rw [if_neg hopened, open_answering]
    cases answers.opened with
    | ok _ => exact hwrite { w.stream with opened_ := true } rfl rfl rfl
    | streamIdBlocked => exact ⟨_, _, rfl, .inl ⟨_, rfl, rfl, rfl, rfl, rfl, rfl⟩⟩
    | streamDataBlocked => exact ⟨_, _, rfl, .inl ⟨_, rfl, rfl, rfl, rfl, rfl, rfl⟩⟩
    | error => exact ⟨_, _, rfl, .inl ⟨_, rfl, rfl, rfl, rfl, rfl, rfl⟩⟩

/-- A call that is answered is a step. -/
theorem step_of_call {a : Action} {r : Except Error Unit} (h : call w a = some (r, w')) :
    step w a = some w' := congrArg (Option.map Prod.snd) h

/-- A call that succeeds has only to conserve the bytes, unless it acknowledges too many. -/
theorem keeps_of_ok {a : Action} (h : call w a = some (.ok (), w')) (hw' : Conserved w')
    (hack : ∀ size, a = .ack size → ¬ size > w.stream.keepalive_.size) : Keeps w a w' := by
  refine ⟨hw', fun size ha hlarge => absurd hlarge (hack size ha), fun error herror => ?_⟩
  rw [h] at herror
  cases herror

/-- Each action keeps the bytes. -/
theorem step_keeps (hw : Conserved w) (a : Action) : ∃ w', step w a = some w' ∧ Keeps w a w' := by
  cases a with
  | add buffer =>
    by_cases hfin : w.stream.fin_ = true
    · have hcall : call w (.add buffer) = some (.ok (), w) := if_pos hfin
      exact ⟨w, step_of_call hcall, keeps_of_ok hcall hw (fun _ h => by cases h)⟩
    · have hcall : call w (.add buffer) = some (.ok (), { w with
          stream := { w.stream with buffers_ := w.stream.buffers_.push buffer }
          added := w.added ++ buffer.bytes }) := by
        unfold call Stream.add
        dsimp only
        rw [if_neg hfin, if_neg hfin]
        rfl
      refine ⟨_, step_of_call hcall, keeps_of_ok hcall ⟨?_, hw.kept, hw.acked⟩ (fun _ h => by cases h)⟩
      dsimp only
      rw [Buffers.push_bytes, ← hw.queued, List.append_assoc]
      rfl
  | fin =>
    by_cases hfin : w.stream.fin_ = true
    · have hcall : call w .fin = some (.ok (), w) := if_pos hfin
      exact ⟨w, step_of_call hcall, keeps_of_ok hcall hw (fun _ h => by cases h)⟩
    · have hcall : call w .fin = some (.ok (), { w with stream := { w.stream with fin_ := true } }) := by
        unfold call Stream.fin
        dsimp only
        rw [if_neg hfin, if_neg hfin]
        rfl
      exact ⟨_, step_of_call hcall, keeps_of_ok hcall ⟨hw.queued, hw.kept, hw.acked⟩ (fun _ h => by cases h)⟩
  | send answers =>
    obtain ⟨r, w', hcall, hcases⟩ := send_cases w answers
    refine ⟨w', step_of_call hcall, ?_⟩
    rcases hcases with ⟨error, rfl, hrefused⟩ | ⟨rfl, hne, n, hsent⟩
    · refine ⟨hrefused.conserved hw, fun _ h => ?_, fun _ _ => ⟨hrefused.buffers_, hrefused.keepalive_⟩⟩
      cases h
    · exact keeps_of_ok hcall (hsent.conserved hne hw) (fun _ h => by cases h)
  | ack size =>
    by_cases hlarge : size > w.stream.keepalive_.size
    · have hcall : call w (.ack size) = some (.error .internal, w) := by
        unfold call Stream.ack
        dsimp only
        rw [if_pos hlarge]
      refine ⟨w, step_of_call hcall, hw, fun n ha _ => ?_, fun _ _ => ⟨rfl, rfl⟩⟩
      cases ha
      exact hcall
    · have hcall : call w (.ack size) = some (.ok (), { w with
          stream := { w.stream with keepalive_ := w.stream.keepalive_.consume size }
          acked := w.acked + size }) := by
        unfold call Stream.ack
        dsimp only
        rw [if_neg hlarge]
      refine ⟨_, step_of_call hcall, keeps_of_ok hcall ⟨hw.queued, ?_, ?_⟩ fun n ha => ?_⟩
      · dsimp only
        rw [Buffers.consume_bytes, hw.kept, List.drop_drop]
        rfl
      · -- no more is acknowledged than is kept
        have hle := Nat.le_of_not_lt hlarge
        rw [Buffers.size_eq, hw.kept, List.length_drop] at hle
        have hacked := hw.acked
        show w.acked + size ≤ w.written.length
        omega
      · cases ha
        exact hlarge

/-! ## Runs -/

/-- A stream with nothing in it. -/
def start (id : UInt64) : World := { stream := { id } }

/-- **No byte is lost**: in every run of calls, whatever ngtcp2 answers, what was written and what is queued are
what was added, what is kept is what was written and not acknowledged, and a call that fails moves nothing. -/
theorem keeps_always (id : UInt64) (actions : List Action) :
    Conserved (start id) ∧ Run.Always step Keeps (start id) actions := by
  have hstart : Conserved (start id) := ⟨rfl, rfl, Nat.le_refl _⟩
  refine ⟨hstart, Run.always_of_step (fun w a hw => ?_) hstart⟩
  obtain ⟨w', hstep, hkeeps⟩ := step_keeps hw a
  exact ⟨w', hstep, hkeeps, hkeeps.conserved⟩

end Bnl.Quic.Conservation
