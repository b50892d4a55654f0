import Bnl.Library.Run
import Bnl.Quic.Stream

/-!
# The FIN of a stream

A stream hands FIN to ngtcp2 together with a buffer whose bytes are those of the last one queued. So FIN is sent
too early when an equal buffer is queued last, and is never sent when no byte is queued at the call of `fin`, or
none behind an earlier buffer. Otherwise it is sent with the last byte.

**The law** is `inTime_always_iff`, over any calls and any answers of ngtcp2. In time has two halves, since FIN
may fail both ways: it is not passed while bytes are queued, and once it was asked for and all bytes are written
it has been passed or the next send passes it. The condition is on the state before a call and the answer: `fin`
finds bytes queued, and a send that takes the whole of the first buffer finds it to be the only one or different
from the last.

**The invariant** is `Inv`: what is queued is what was added and not written, and FIN was passed exactly where
it was asked for and nothing is queued. It is kept by admitted steps and lost by any other, which is how the
condition comes to be exact (`step_inTime`). A send is reasoned about by what it writes (`Wrote`, `Kept`), not
by its code: `step_send_cases` is the one place where the source is unfolded.

Buffers are compared by their bytes here, as the source does. That the same run on buffers which share storage
is in time as well is `Keepalive`'s concern.
-/

namespace Bnl.Quic.Fin

open Bnl.Base

/-- A call of `ngtcp2_conn_write_stream`, and how much was written of what was offered. -/
structure Write where
  fin : Bool
  offered : List UInt8
  written : Option Nat
  deriving DecidableEq, Repr

/-- What ngtcp2 answers during a call of `send`. -/
structure Answers where
  opened : Answer Unit := .ok ()
  write : Answer (Buffer × Option Nat)
  deriving DecidableEq, Repr

/-- ngtcp2 opens no stream or takes nothing. -/
def Answers.blocked (answers : Answers) : Bool :=
  match answers.opened, answers.write with
  | .ok _, .ok _ => false
  | _, _ => true

/-- An ngtcp2 that gives these answers to the stream `id`, never writes more than was offered, and
remembers what was offered. -/
def answering (id : UInt64) (answers : Answers) : Ngtcp2 (List Write) where
  openBidiStream writes := (answers.opened.map fun _ => id, writes)
  openUniStream writes := (answers.opened.map fun _ => id, writes)
  writePkt writes := (.ok {}, writes)
  writeStream writes _ fin data :=
    match answers.write.map fun (packet, written) => (packet, written.map (min · data.size)) with
    | .ok (packet, written) => (.ok (packet, written), writes ++ [⟨fin, data.bytes, written⟩])
    | answer => (answer, writes ++ [⟨fin, data.bytes, none⟩])

/-- A stream, the bytes that were added to it and the calls it made. -/
structure World where
  stream : Stream
  added : List UInt8 := []
  writes : List Write := []
  deriving DecidableEq, Repr

namespace World

/-- They are what was written now. -/
def written (w : World) : List UInt8 := w.writes.flatMap fun c => c.offered.take (c.written.getD 0)

/-- FIN was passed, or it is passed now. -/
def transmitted (w : World) : Bool :=
  w.writes.any fun c => c.fin && c.written = some c.offered.length

end World

/-- What is done with a stream. -/
inductive Action where
  | add (buffer : Buffer)
  | fin
  | send (answers : Answers)
  | ack (size : Nat)
  deriving DecidableEq, Repr

/-- An action; the calls that the stream asserts not to come after `fin` do not come. -/
def step (w : World) : Action → Option World
  | .add buffer =>
    if w.stream.fin_ then some w
    else (w.stream.add buffer).map fun stream =>
      { w with stream, added := w.added ++ buffer.bytes }
  | .fin => if w.stream.fin_ then some w else w.stream.fin.map fun stream => { w with stream }
  | .send answers =>
    (w.stream.send (answering w.stream.id answers) w.writes).map fun (_, stream, writes) =>
      { w with stream, writes }
  | .ack size => some { w with stream := (w.stream.ack size).2 }

/-- FIN is not sent before the last byte, and a send that is not blocked leaves it sent. -/
structure InTime (w : World) : Prop where
  early : w.transmitted = true → w.written = w.added
  late : w.stream.fin_ = true → w.written = w.added → ∀ answers w', answers.blocked = false →
    step w (.send answers) = some w' → w'.transmitted = true

/-- The part of the first buffer that ngtcp2 writes, where it opens the stream and writes to it. -/
def World.takes (w : World) (answers : Answers) : Option Nat :=
  if w.stream.opened_ ∨ answers.opened = .ok () then
    match answers.write with
    | .ok (_, written) => written.map (min · w.stream.buffers_.front.size)
    | _ => none
  else none

/-- `fin` is called while bytes are queued. A send behind it that writes the whole of the first buffer
finds no other buffer queued, or else bytes queued behind it and a last buffer that differs. -/
def Admits (w : World) : Action → Prop
  | .fin => w.stream.fin_ = false → w.stream.buffers_.empty = false
  | .send answers => w.stream.fin_ = true → w.stream.buffers_.empty = false →
      w.takes answers = some w.stream.buffers_.front.size →
      w.stream.buffers_.buffers.length = 1 ∨
        w.stream.buffers_.pop.2.empty = false ∧ w.stream.buffers_.front ≠ w.stream.buffers_.back
  | _ => True

instance (w : World) (a : Action) : Decidable (Admits w a) := by
  cases a <;> unfold Admits <;> infer_instance

/-! ## A step -/

/-- What is queued is what was added and not written, and FIN is sent once that is nothing. -/
structure Inv (w : World) : Prop where
  queued : w.added = w.written ++ w.stream.buffers_.bytes
  sent : w.transmitted = true ↔ w.stream.fin_ = true ∧ w.stream.buffers_.bytes = []

variable {w w' : World}

/-- All was written where nothing is queued. -/
theorem written_iff (h : w.added = w.written ++ w.stream.buffers_.bytes) :
    w.written = w.added ↔ w.stream.buffers_.bytes = [] := by
  rw [h]
  exact ⟨fun heq => List.append_cancel_left (heq.symm.trans (List.append_nil _).symm),
    fun hempty => by rw [hempty, List.append_nil]⟩

/-- A send of a stream with nothing queued does nothing. -/
theorem step_send_empty (h : w.stream.buffers_.bytes = []) (answers : Answers) :
    step w (.send answers) = some w := by
  show (w.stream.send _ _).map _ = _
  unfold Stream.send
  rw [if_pos (Buffers.empty_iff.mpr h)]
  rfl

/-- The state in time, in terms of what is queued. -/
theorem inTime_iff (h : w.added = w.written ++ w.stream.buffers_.bytes) :
    InTime w ↔ (w.transmitted = true → w.stream.buffers_.bytes = []) ∧
      (w.stream.fin_ = true → w.stream.buffers_.bytes = [] → w.transmitted = true) := by
  constructor
  · intro ht
    refine ⟨fun hsent => (written_iff h).mp (ht.early hsent), fun hfin hempty => ?_⟩
    exact ht.late hfin ((written_iff h).mpr hempty) { write := .ok ({}, none) } w rfl
      (step_send_empty hempty _)
  · intro ⟨hearly, hlate⟩
    refine ⟨fun hsent => (written_iff h).mpr (hearly hsent), fun hfin hwritten answers w' _ hs => ?_⟩
    have hempty := (written_iff h).mp hwritten
    cases (step_send_empty hempty answers).symm.trans hs
    exact hlate hfin hempty

/-- The invariant is being in time. -/
theorem Inv.inTime (h : Inv w) : InTime w :=
  (inTime_iff h.queued).mpr ⟨fun hsent => (h.sent.mp hsent).2, fun hfin hempty =>
    h.sent.mpr ⟨hfin, hempty⟩⟩

/-- What a write makes of the stream: `n` bytes of the first buffer go. -/
structure Wrote (w w' : World) (n : Nat) : Prop where
  added : w'.added = w.added
  fin_ : w'.stream.fin_ = w.stream.fin_
  buffers_ : w'.stream.buffers_ = (w.stream.buffers_.slice n).2
  writes : w'.writes = w.writes ++ [⟨w.stream.fin_ && w.stream.buffers_.front == w.stream.buffers_.back,
    w.stream.buffers_.front.bytes, some n⟩]

/-- What a send that writes nothing makes of it. -/
structure Kept (w w' : World) : Prop where
  added : w'.added = w.added
  fin_ : w'.stream.fin_ = w.stream.fin_
  bytes : w'.stream.buffers_.bytes = w.stream.buffers_.bytes
  written : w'.written = w.written
  transmitted : w'.transmitted = w.transmitted

/-- A send that writes nothing keeps it. -/
theorem Kept.inv (h : Kept w w') (hi : Inv w) : Inv w' := by
  refine ⟨?_, ?_⟩
  · rw [h.added, h.written, h.bytes]
    exact hi.queued
  · rw [h.transmitted, h.fin_, h.bytes]
    exact hi.sent

/-- A call that wrote nothing counts for nothing. -/
theorem kept_of_none (fin : Bool) (offered : List UInt8) (hadded : w'.added = w.added)
    (hfin : w'.stream.fin_ = w.stream.fin_)
    (hbytes : w'.stream.buffers_.bytes = w.stream.buffers_.bytes)
    (hwrites : w'.writes = w.writes ∨ w'.writes = w.writes ++ [⟨fin, offered, none⟩]) : Kept w w' := by
  refine ⟨hadded, hfin, hbytes, ?_, ?_⟩
  · unfold World.written
    rcases hwrites with hwrites | hwrites
    · rw [hwrites]
    · rw [hwrites, List.flatMap_append]
      exact List.append_nil _
  · unfold World.transmitted
    rcases hwrites with hwrites | hwrites
    · rw [hwrites]
    · rw [hwrites, List.any_append]
      simp

/-- The world behind a write. -/
def wrote (w : World) (s : Stream) (answers : Answers) : World :=
  let r := s.write (answering s.id answers) w.writes
  { w with stream := r.2.1, writes := r.2.2 }

section Write

variable {s : Stream} {answers : Answers} (hbuffers : s.buffers_ = w.stream.buffers_)
  (hfin : s.fin_ = w.stream.fin_)

include hbuffers hfin

/-- A call that wrote something. -/
theorem wrote_some {packet : Buffer} {n : Nat} (h : answers.write = .ok (packet, some n)) :
    Wrote w (wrote w s answers) (min n w.stream.buffers_.front.size) := by
  obtain ⟨opened, write⟩ := answers
  obtain rfl : write = .ok (packet, some n) := h
  rw [← hbuffers]
  refine ⟨rfl, hfin, ?_, ?_⟩
  · rw [← hbuffers]
    rfl
  · rw [← hbuffers, ← hfin]
    rfl

/-- A call that wrote nothing. -/
theorem wrote_none (hne : w.stream.buffers_.bytes ≠ [])
    (h : ∀ packet n, answers.write ≠ .ok (packet, some n)) : Kept w (wrote w s answers) := by
  obtain ⟨opened, write⟩ := answers
  rw [← hbuffers] at hne
  have hcall (hb : (wrote w s ⟨opened, write⟩).stream.buffers_.bytes = s.buffers_.bytes)
      (hf : (wrote w s ⟨opened, write⟩).stream.fin_ = s.fin_)
      (hw : (wrote w s ⟨opened, write⟩).writes =
        w.writes ++ [⟨s.fin_ && s.buffers_.front == s.buffers_.back, s.buffers_.front.bytes, none⟩]) :
      Kept w (wrote w s ⟨opened, write⟩) :=
    kept_of_none _ _ rfl (hf.trans hfin) (hb.trans (congrArg Buffers.bytes hbuffers)) (.inr hw)
  rcases write with ⟨packet, _ | n⟩ | _ | _ | _
  · -- no STREAM frame: the slice of length 0 leaves the bytes
    exact hcall (Buffers.slice_bytes (Nat.zero_le _) hne).2 rfl rfl
  · exact absurd rfl (h packet n)
  · exact hcall rfl rfl rfl
  · exact hcall rfl rfl rfl
  · exact hcall rfl rfl rfl

end Write

/-- What `open` makes of an answer. -/
theorem open_answering {id : UInt64} {answers : Answers} {writes : List Write} :
    (answering id answers).open_ writes id =
      match answers.opened with
      | .ok _ => some (.ok (), writes)
      | .streamIdBlocked => some (.error .streamIdBlocked, writes)
      | _ => some (.error .ngtcp2, writes) := by
  have hopen : (answering id answers).openStream writes id =
      (answers.opened.map fun _ => id, writes) := by
    unfold Ngtcp2.openStream
    split <;> rfl
  unfold Ngtcp2.open_
  rw [hopen]
  rcases answers.opened with _ | _ | _ | _
  · exact if_pos rfl
  · rfl
  · rfl
  · rfl

/-- **What a send does**: it writes what ngtcp2 takes of the first buffer, or nothing. -/
theorem step_send_cases (hne : w.stream.buffers_.bytes ≠ []) (answers : Answers) :
    ∃ w', step w (.send answers) = some w' ∧
      ((∃ n, w.takes answers = some n ∧ Wrote w w' n) ∨ w.takes answers = none ∧ Kept w w') := by
  have hqueued : w.stream.buffers_.empty ≠ true := fun h => hne (Buffers.empty_iff.mp h)
  -- what a write comes to, once the stream is open
  have hwrite (s : Stream) (hb : s.buffers_ = w.stream.buffers_) (hf : s.fin_ = w.stream.fin_)
      (hopen : w.stream.opened_ = true ∨ answers.opened = .ok ()) :
      (∃ n, w.takes answers = some n ∧ Wrote w (wrote w s answers) n) ∨
        w.takes answers = none ∧ Kept w (wrote w s answers) := by
    unfold World.takes
    rw [if_pos hopen]
    rcases hw : answers.write with ⟨packet, _ | n⟩ | _ | _ | _
    case ok.some => exact .inl ⟨_, rfl, wrote_some hb hf hw⟩
    all_goals
      refine .inr ⟨rfl, wrote_none hb hf hne fun p n h => ?_⟩
      cases hw.symm.trans h
  have hsend : step w (.send answers) =
      (w.stream.send (answering w.stream.id answers) w.writes).map fun (_, stream, writes) =>
        { w with stream, writes } := rfl
  rw [hsend]
  unfold Stream.send
  rw [if_neg hqueued]
  by_cases hopened : w.stream.opened_ = true
  · rw [if_pos hopened]
    exact ⟨_, rfl, hwrite w.stream rfl rfl (.inl hopened)⟩
  · rw [if_neg hopened, open_answering]
    have hblocked (h : answers.opened ≠ .ok ()) : w.takes answers = none :=
      if_neg (not_or.mpr ⟨hopened, h⟩)
    rcases ho : answers.opened with _ | _ | _ | _
    · exact ⟨_, rfl, hwrite { w.stream with opened_ := true } rfl rfl (.inr ho)⟩
    all_goals
      refine ⟨_, rfl, .inr ⟨hblocked (by rw [ho]; nofun), ?_⟩⟩
      exact kept_of_none false [] rfl rfl rfl (.inl rfl)

/-- No more is written than was offered. -/
theorem takes_le {answers : Answers} {n : Nat} (h : w.takes answers = some n) :
    n ≤ w.stream.buffers_.front.size := by
  unfold World.takes at h
  split at h
  · split at h
    · obtain ⟨k, -, rfl⟩ := Option.map_eq_some_iff.mp h
      exact Nat.min_le_right _ _
    · cases h
  · cases h

/-- The first buffer and what is behind it. -/
theorem front_behind (s : Buffers) : s.bytes = s.front.bytes ++ s.pop.2.bytes := by
  rw [← s.pop_bytes]
  rcases s with ⟨_ | ⟨b, bs⟩⟩ <;> rfl

/-- Whether FIN goes with the first buffer is right in two cases only. -/
theorem alone_iff {s : Buffers} (hne : s.bytes ≠ []) :
    (s.front = s.back ↔ s.pop.2.bytes = []) ↔
      s.buffers.length = 1 ∨ s.pop.2.empty = false ∧ s.front ≠ s.back := by
  rcases s with ⟨_ | ⟨b, _ | ⟨b', bs⟩⟩⟩
  · exact absurd rfl hne
  · exact ⟨fun _ => .inl rfl, fun _ => ⟨fun _ => rfl, fun _ => rfl⟩⟩
  · have hlength : ¬ (b :: b' :: bs).length = 1 := by simp
    have hempty : (⟨b' :: bs⟩ : Buffers).empty = false ↔ (⟨b' :: bs⟩ : Buffers).bytes ≠ [] := by
      rw [← Bool.not_eq_true, Buffers.empty_iff]
    show (b = _ ↔ Buffers.bytes ⟨b' :: bs⟩ = []) ↔ _ ∨ Buffers.empty ⟨b' :: bs⟩ = false ∧ b ≠ _
    rw [or_iff_right hlength, hempty]
    refine ⟨fun h => ?_, fun ⟨hbehind, hdiffer⟩ =>
      ⟨fun heq => absurd heq hdiffer, fun hnone => absurd hnone hbehind⟩⟩
    -- were no byte behind the first buffer, the last one would be empty, and the first one not
    have hbehind : Buffers.bytes ⟨b' :: bs⟩ ≠ [] := by
      intro hnone
      have hlast : b = (b' :: bs).getLastD {} := h.mpr hnone
      have hmem : (b' :: bs).getLastD {} ∈ b' :: bs := by
        rw [List.getLastD_cons]
        exact List.getLastD_mem_cons
      have hb : b.bytes = [] := by
        rw [hlast]
        exact List.flatMap_eq_nil_iff.mp hnone _ hmem
      refine hne ?_
      show b.bytes ++ Buffers.bytes ⟨b' :: bs⟩ = []
      rw [hb, hnone]
      rfl
    exact ⟨hbehind, fun heq => hbehind (h.mp heq)⟩

namespace Wrote

variable {n : Nat}

/-- Those bytes are off the queue. -/
theorem bytes (h : Wrote w w' n) (hn : n ≤ w.stream.buffers_.front.size)
    (hne : w.stream.buffers_.bytes ≠ []) :
    w'.stream.buffers_.bytes = w.stream.buffers_.bytes.drop n := by
  rw [h.buffers_]
  refine (Buffers.slice_bytes (Nat.le_trans hn ?_) hne).2
  rw [front_behind, List.length_append]
  exact Nat.le_add_right _ _

theorem written (h : Wrote w w' n) :
    w'.written = w.written ++ w.stream.buffers_.front.bytes.take n := by
  unfold World.written
  rw [h.writes, List.flatMap_append]
  simp

theorem transmitted (h : Wrote w w' n) : w'.transmitted = true ↔ w.transmitted = true ∨
    (w.stream.fin_ = true ∧ w.stream.buffers_.front = w.stream.buffers_.back) ∧
      n = w.stream.buffers_.front.size := by
  unfold World.transmitted
  rw [h.writes, List.any_append, Bool.or_eq_true]
  simp [Buffer.size]

/-- Nothing is lost between the queue and what was written. -/
theorem queued (h : Wrote w w' n) (hn : n ≤ w.stream.buffers_.front.size)
    (hne : w.stream.buffers_.bytes ≠ []) (hi : Inv w) :
    w'.added = w'.written ++ w'.stream.buffers_.bytes := by
  rw [h.added, h.written, h.bytes hn hne, hi.queued, List.append_assoc]
  congr 1
  rw [front_behind w.stream.buffers_, List.drop_append_of_le_length hn, ← List.append_assoc,
    List.take_append_drop]

/-- The last byte goes with the whole of the first buffer, where none is queued behind it. -/
theorem drained (h : Wrote w w' n) (hn : n ≤ w.stream.buffers_.front.size)
    (hne : w.stream.buffers_.bytes ≠ []) : w'.stream.buffers_.bytes = [] ↔
      n = w.stream.buffers_.front.size ∧ w.stream.buffers_.pop.2.bytes = [] := by
  rw [h.bytes hn hne, front_behind w.stream.buffers_, List.drop_append_of_le_length hn,
    List.append_eq_nil_iff, List.drop_eq_nil_iff]
  exact and_congr_left' ⟨fun hle => Nat.le_antisymm hn hle, fun heq => heq ▸ Nat.le_refl _⟩

end Wrote

/-- A write is in time where it may be made, and keeps the invariant where it is. -/
theorem Wrote.inTime_iff {n : Nat} (h : Wrote w w' n) (hn : n ≤ w.stream.buffers_.front.size)
    (hne : w.stream.buffers_.bytes ≠ []) (hi : Inv w) :
    (InTime w' ↔ (w.stream.fin_ = true → n = w.stream.buffers_.front.size →
      w.stream.buffers_.buffers.length = 1 ∨
        w.stream.buffers_.pop.2.empty = false ∧ w.stream.buffers_.front ≠ w.stream.buffers_.back)) ∧
    (InTime w' → Inv w') := by
  have hunsent : w.transmitted ≠ true := fun hsent => hne (hi.sent.mp hsent).2
  have hsent : w'.transmitted = true ↔ (w.stream.fin_ = true ∧
      w.stream.buffers_.front = w.stream.buffers_.back) ∧ n = w.stream.buffers_.front.size :=
    h.transmitted.trans (or_iff_right hunsent)
  have hqueued := h.queued hn hne hi
  rw [Fin.inTime_iff hqueued, hsent, h.fin_, h.drained hn hne, ← alone_iff hne]
  refine ⟨⟨fun ⟨hearly, hlate⟩ hfin hwhole => ?_, fun hright => ⟨?_, ?_⟩⟩, fun ⟨hearly, hlate⟩ =>
    ⟨hqueued, ?_⟩⟩
  · exact ⟨fun heq => (hearly ⟨⟨hfin, heq⟩, hwhole⟩).2, fun hnone => (hlate hfin ⟨hwhole, hnone⟩).1.2⟩
  · exact fun ⟨⟨hfin, heq⟩, hwhole⟩ => ⟨hwhole, (hright hfin hwhole).mp heq⟩
  · exact fun hfin ⟨hwhole, hnone⟩ => ⟨⟨hfin, (hright hfin hwhole).mpr hnone⟩, hwhole⟩
  · rw [hsent, h.fin_, h.drained hn hne]
    exact ⟨fun hs => ⟨hs.1.1, hearly hs⟩, fun hs => hlate hs.1 hs.2⟩

/-- **The condition is exactly what a step needs**, and a step in time keeps the invariant. -/
theorem step_inTime (hi : Inv w) (a : Action) :
    (Admits w a ↔ ∃ w', step w a = some w' ∧ InTime w') ∧
      ∀ w', step w a = some w' → InTime w' → Inv w' := by
  -- a step that keeps the invariant whatever comes
  have hkeeps {w' : World} (hs : step w a = some w') (ha : Admits w a) (h : Inv w') :
      (Admits w a ↔ ∃ w', step w a = some w' ∧ InTime w') ∧
        ∀ w', step w a = some w' → InTime w' → Inv w' := by
    refine ⟨⟨fun _ => ⟨w', hs, h.inTime⟩, fun _ => ha⟩, fun w'' hs'' _ => ?_⟩
    cases hs.symm.trans hs''
    exact h
  cases a with
  | add buffer =>
    by_cases hfin : w.stream.fin_ = true
    · exact hkeeps (if_pos hfin) trivial hi
    · have hunsent : w.transmitted ≠ true := fun hsent => hfin (hi.sent.mp hsent).1
      have hadd : step w (.add buffer) = some { w with
          stream := { w.stream with buffers_ := w.stream.buffers_.push buffer }
          added := w.added ++ buffer.bytes } := by
        show (if w.stream.fin_ then _ else (w.stream.add buffer).map _) = _
        unfold Stream.add
        rw [if_neg hfin, if_neg hfin]
        rfl
      refine hkeeps hadd trivial ⟨?_, ⟨fun hsent => absurd hsent hunsent, fun hs => absurd hs.1 hfin⟩⟩
      show w.added ++ buffer.bytes = w.written ++ (w.stream.buffers_.push buffer).bytes
      rw [hi.queued, Buffers.push_bytes, List.append_assoc]
  | fin =>
    by_cases hfin : w.stream.fin_ = true
    · exact hkeeps (if_pos hfin) (fun hopen => nomatch hfin.symm.trans hopen) hi
    · have hstep : step w .fin = some { w with stream := { w.stream with fin_ := true } } := by
        show (if w.stream.fin_ then _ else w.stream.fin.map _) = _
        unfold Stream.fin
        rw [if_neg hfin, if_neg hfin]
        rfl
      have hunsent : w.transmitted ≠ true := fun hsent => hfin (hi.sent.mp hsent).1
      by_cases hempty : w.stream.buffers_.bytes = []
      · -- nothing is queued: FIN will not be sent
        have hlost : ¬ InTime { w with stream := { w.stream with fin_ := true } } := by
          intro ht
          exact hunsent (((inTime_iff (w := { w with stream := { w.stream with fin_ := true } })
            hi.queued).mp ht).2 rfl hempty)
        refine ⟨⟨fun hadmits => ?_, fun ⟨w', hs, ht⟩ => ?_⟩, fun w' hs ht => ?_⟩
        · exact nomatch (hadmits (eq_false_of_ne_true hfin)).symm.trans (Buffers.empty_iff.mpr hempty)
        · cases hstep.symm.trans hs
          exact absurd ht hlost
        · cases hstep.symm.trans hs
          exact absurd ht hlost
      · refine hkeeps hstep (fun _ => ?_) ⟨hi.queued, ?_⟩
        · exact eq_false_of_ne_true fun h => hempty (Buffers.empty_iff.mp h)
        · exact ⟨fun hsent => absurd hsent hunsent, fun hs => absurd hs.2 hempty⟩
  | ack size =>
    refine hkeeps rfl trivial ⟨?_, ?_⟩
    · have hbuffers : (w.stream.ack size).2.buffers_ = w.stream.buffers_ := by
        unfold Stream.ack
        split <;> rfl
      exact hi.queued.trans (by rw [hbuffers]; rfl)
    · have hsame : (w.stream.ack size).2.buffers_ = w.stream.buffers_ ∧
          (w.stream.ack size).2.fin_ = w.stream.fin_ := by
        unfold Stream.ack
        split <;> exact ⟨rfl, rfl⟩
      exact hi.sent.trans (by rw [hsame.1, hsame.2])
  | send answers =>
    by_cases hempty : w.stream.buffers_.bytes = []
    · refine hkeeps (step_send_empty hempty answers) (fun _ hqueued => ?_) hi
      exact nomatch hqueued.symm.trans (Buffers.empty_iff.mpr hempty)
    · obtain ⟨w', hs, ⟨n, htakes, hwrote⟩ | ⟨htakes, hkept⟩⟩ := step_send_cases hempty answers
      · obtain ⟨hiff, hinv⟩ := hwrote.inTime_iff (takes_le htakes) hempty hi
        have hqueued : w.stream.buffers_.empty = false :=
          eq_false_of_ne_true fun h => hempty (Buffers.empty_iff.mp h)
        refine ⟨⟨fun hadmits => ⟨w', hs, hiff.mpr fun hfin hwhole => ?_⟩, fun ⟨w'', hs'', ht⟩ => ?_⟩,
          fun w'' hs'' ht => ?_⟩
        · exact hadmits hfin hqueued (htakes.trans (congrArg some hwhole))
        · cases hs.symm.trans hs''
          exact fun hfin _ hwhole => hiff.mp ht hfin (Option.some.inj (htakes.symm.trans hwhole))
        · cases hs.symm.trans hs''
          exact hinv ht
      · refine hkeeps hs (fun _ _ hwhole => ?_) (hkept.inv hi)
        exact nomatch htakes.symm.trans hwhole

/-! ## Runs -/

/-- A new stream. -/
def start (id : UInt64) : World := { stream := { id } }

/-- It has neither bytes nor FIN. -/
theorem inv_start (id : UInt64) : Inv (start id) := ⟨rfl, ⟨nofun, nofun⟩⟩

/-- **FIN goes with the last byte in exactly those runs whose steps are admitted.** -/
theorem inTime_always_iff (id : UInt64) (actions : List Action) :
    Run.Always step (fun _ _ => InTime) (start id) actions ↔
      Run.Meets step Admits (start id) actions :=
  Run.always_iff (fun _ a hi => (step_inTime hi a).1) (fun _ a w' hi => (step_inTime hi a).2 w')
    (inv_start id)

/-- Two equal buffers, of which the first goes with FIN. -/
theorem inTime_not : ¬ ∀ (id : UInt64) (actions : List Action),
    Run.Always step (fun _ _ => InTime) (start id) actions := by
  intro h
  have hlast := (h 0 ([.add ⟨[1]⟩, .add ⟨[1]⟩, .fin] ++ [.send { write := .ok ({}, some 1) }])).last
    rfl rfl
  cases hlast.early rfl

end Bnl.Quic.Fin
