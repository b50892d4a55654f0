import Bnl.Laws.Keepalive
import Bnl.Laws.View

/-!
# Streams without the storage of their buffers

A stream whose buffers lie on a heap does what the stream of their bytes does: sends, additions and
acknowledgements keep the heap that of its buffers. So what holds of all runs where storage is left
out holds of all runs with it.

**The law** (`inTime_stored`): a run with storage ends in the bytes of the run without, on the calls the
stream sees. What the application does with its other buffers, also with those that share a block with
one that was added, is not seen at all. FIN is carried over as an instance.

The idea of the proof is in `Owns`: as long as each block counts the buffers that refer to it, no call
frees or overwrites a byte of another buffer, so each function can be compared with its twin alone.
-/

namespace Bnl.Quic.StoredStream

open Bnl.Base.Storage

variable {C : Type} {m : Heap} {s : StoredStream} {own : List Buffer}

/-- The heap is that of the stream's buffers and the application's own. -/
def Owns (m : Heap) (s : StoredStream) (own : List Buffer) : Prop :=
  Valid m (Buffers.live s.buffers_ ++ (Buffers.live s.keepalive_ ++ own))

namespace Owns

/-- The queue is empty with storage where it is without. -/
theorem empty (h : Owns m s own) : (s.view m).buffers_.empty = s.buffers_.empty := Buffers.empty_view h

/-- The heap is that of what is kept and of all other buffers. -/
theorem keepalive (h : Owns m s own) :
    Valid m (Buffers.live s.keepalive_ ++ (Buffers.live s.buffers_ ++ own)) :=
  h.perm (List.perm_append_comm_assoc _ _ _)

/-- **What is written is the same**, and so are what is left of it and what is kept. -/
theorem write (h : Owns m s own) (ngtcp2 : Ngtcp2 C) (c : C) :
    let r := s.write ngtcp2 c m
    (s.view m).write ngtcp2 c = (r.1, r.2.1.view r.2.2.1, r.2.2.2) := by
  unfold StoredStream.write Stream.write
  dsimp only [view]
  rcases ngtcp2.write_stream c s.id (s.buffers_.view m).front
    (s.fin_ && (s.buffers_.view m).front == (s.buffers_.view m).back) with ⟨error | ⟨packet, n⟩, c'⟩
  · rfl
  · obtain ⟨hslice, hvalid, hagree⟩ := Buffers.slice_view h n
    -- the slice is pushed beside what is left of the list
    have hbeside := hvalid.perm (List.Perm.cons _ (List.perm_append_comm_assoc _ _ _))
    obtain ⟨hpush, -, hagree'⟩ := Buffers.push_view hbeside
    have hkept := Buffers.view_congr fun b hb => hagree b (List.mem_append_left _ hb)
    have hleft := Buffers.view_congr fun b hb => hagree' b (List.mem_append_left _ hb)
    rw [hkept] at hpush
    dsimp only
    rw [← hslice, hleft, hpush]

/-- A send does the same. -/
theorem send (h : Owns m s own) (ngtcp2 : Ngtcp2 C) (c : C) :
    (s.view m).send ngtcp2 c = (s.send ngtcp2 c m).map (fun r => (r.1, r.2.1.view r.2.2.1, r.2.2.2)) := by
  unfold Stream.send StoredStream.send
  rw [h.empty]
  by_cases hempty : s.buffers_.empty = true
  · rw [if_pos hempty, if_pos hempty]
    rfl
  rw [if_neg hempty, if_neg hempty]
  have hfields : (s.view m).opened_ = s.opened_ ∧ (s.view m).id = s.id := ⟨rfl, rfl⟩
  rw [hfields.1, hfields.2]
  by_cases hopened : s.opened_ = true
  · rw [if_pos hopened, if_pos hopened, h.write ngtcp2 c]
    rfl
  rw [if_neg hopened, if_neg hopened]
  rcases ngtcp2.open_ c s.id with _ | ⟨error | ⟨⟩, c'⟩
  · rfl
  · rfl
  · have hopen : Owns m { s with opened_ := true } own := h
    exact congrArg some (hopen.write ngtcp2 c')

/-- A buffer that is added lies beside those of the stream. -/
theorem add {b : Buffer}
    (h : Valid m (b :: (Buffers.live s.buffers_ ++ (Buffers.live s.keepalive_ ++ own)))) :
    (s.view m).add ⟨b.bytes m⟩ = (s.add m b).map fun r => r.1.view r.2 := by
  unfold Stream.add StoredStream.add
  have hfin : (s.view m).fin_ = s.fin_ := rfl
  rw [hfin]
  by_cases hclosed : s.fin_ = true
  · rw [if_pos hclosed, if_pos hclosed]
    rfl
  · obtain ⟨hpush, -, hagree⟩ := Buffers.push_view h
    have hkept := Buffers.view_congr fun b hb => hagree b (List.mem_append_left _ hb)
    rw [if_neg hclosed, if_neg hclosed]
    unfold view
    simp only [Option.map_some, hpush, hkept]

/-- An acknowledgement does the same. -/
theorem ack (h : Owns m s own) (size : Nat) :
    let r := s.ack m size
    (s.view m).ack size = (r.1, r.2.1.view r.2.2) := by
  have hsize : (s.view m).keepalive_.size = s.keepalive_.size := Buffers.size_view h.keepalive
  unfold Stream.ack StoredStream.ack
  rw [hsize]
  by_cases hlarge : size > s.keepalive_.size
  · rw [if_pos hlarge, if_pos hlarge]
  · obtain ⟨hconsume, -, hagree⟩ := Buffers.consume_view h.keepalive size
    have hqueued := Buffers.view_congr fun b hb => hagree b (List.mem_append_left _ hb)
    rw [if_neg hlarge, if_neg hlarge]
    unfold view
    simp only [hconsume, hqueued]

end Owns

end Bnl.Quic.StoredStream

namespace Bnl.Quic.Keepalive

open Bnl.Base.Storage

variable {w w' : World}

/-- What the stream sees of an action. -/
def World.seen (w : World) : Action → Option Fin.Action
  | .add i => w.own[i]?.map fun b => .add ⟨b.bytes w.heap⟩
  | .fin => some .fin
  | .send answers => some (.send answers)
  | .ack size => some (.ack size)
  | _ => none

/-- What the application does for itself is not seen. -/
theorem Apart.view (ha : Apart w w') : w'.view = w.view := by
  have hagree {node : Node} (hnode : node ∈ w.stream.buffers_ ++ w.stream.keepalive_) :
      node.buffer.bytes w'.heap = node.buffer.bytes w.heap := Buffer.bytes_congr (ha.agree node hnode)
  unfold World.view StoredStream.view Buffers.view
  rw [ha.stream, ha.added, ha.writes,
    List.map_congr_left fun node hnode => congrArg Base.Buffer.mk (hagree (List.mem_append_left _ hnode)),
    List.map_congr_left fun node hnode => congrArg Base.Buffer.mk (hagree (List.mem_append_right _ hnode))]

/-- A step that is seen does what it does without storage. -/
theorem step_view (h : Sound w) {a : Action} {a' : Fin.Action} (ha : w.seen a = some a') :
    Fin.step w.view a' = (step w a).map World.view := by
  cases a with
  | construct bytes => cases ha
  | slice i size => cases ha
  | destroy i => cases ha
  | add i =>
    obtain ⟨b, hb, rfl⟩ := Option.map_eq_some_iff.mp ha
    have hadd := StoredStream.Owns.add (h.valid.perm (World.live_perm hb))
    unfold Fin.step step
    dsimp only
    rw [hb]
    have hfin : w.view.stream.fin_ = w.stream.fin_ := rfl
    have hadd : w.view.stream.add ⟨b.bytes w.heap⟩ = _ := hadd
    dsimp only
    rw [hfin, hadd]
    by_cases hclosed : w.stream.fin_ = true
    · rw [if_pos hclosed, if_pos hclosed]
      rfl
    · rw [if_neg hclosed, if_neg hclosed]
      cases hs : w.stream.add w.heap b <;> rfl
  | fin =>
    cases ha
    unfold Fin.step step
    have hfin : w.view.stream.fin_ = w.stream.fin_ := rfl
    dsimp only
    rw [hfin]
    unfold Stream.fin StoredStream.fin
    rw [hfin]
    by_cases hclosed : w.stream.fin_ = true
    · rw [if_pos hclosed, if_pos hclosed]
      rfl
    · rw [if_neg hclosed, if_neg hclosed, if_neg hclosed, if_neg hclosed]
      rfl
  | send answers =>
    cases ha
    have hsend := StoredStream.Owns.send h.valid (Fin.answering w.stream.id answers) w.writes
    unfold Fin.step step
    have hsend : w.view.stream.send (Fin.answering w.view.stream.id answers) w.view.writes = _ := hsend
    dsimp only
    rw [hsend]
    cases hs : w.stream.send (Fin.answering w.stream.id answers) w.writes w.heap <;> rfl
  | ack size =>
    cases ha
    have hack := StoredStream.Owns.ack h.valid size
    unfold Fin.step step
    have hack : w.view.stream.ack size = _ := hack
    dsimp only
    rw [hack]
    rcases hs : w.stream.ack w.heap size with ⟨error | ⟨⟩, stream, heap⟩ <;> rfl

/-- A step that is not seen is the application's own. -/
theorem step_unseen (h : Sound w) {a : Action} (ha : w.seen a = none) :
    ∃ w', step w a = some w' ∧ Apart w w' := by
  cases a with
  | construct bytes => exact step_construct h bytes
  | slice i size => exact step_slice h i size
  | destroy i => exact step_destroy h i
  | add i =>
    have hb : w.own[i]? = none := Option.map_eq_none_iff.mp ha
    refine ⟨w, ?_, .refl h⟩
    unfold step
    dsimp only
    rw [hb]
  | fin => cases ha
  | send answers => cases ha
  | ack size => cases ha

/-! ## Runs -/

/-- **A stream with storage refines the one without.** -/
theorem mapped_view : Run.Mapped step Fin.step World.seen Sound World.view where
  taken _ _ _ h ha := step_view h ha
  unseen w a h ha := by
    obtain ⟨w', hs, hown⟩ := step_unseen h ha
    rw [hs]
    exact congrArg some hown.view
  keep _ a _ h hs := step_sound h a hs

/-- **What a stream with storage does, and when its FIN goes in time.** A run ends in the bytes in which the
run of what is seen of it ends without storage; and FIN goes with the last byte in exactly those runs whose
steps are admitted there. -/
theorem inTime_stored (id : UInt64) (actions : List Action) :
    Run.after Fin.step (Fin.start id) (Run.trace step World.seen (start id) actions) =
      (Run.after step (start id) actions).map World.view ∧
    (Run.Always step (fun _ _ w => Fin.InTime w.view) (start id) actions ↔
      Run.Meets step (fun w a => ∀ a' ∈ w.seen a, Fin.Admits w.view a') (start id) actions) := by
  have hstart : Sound (start id) := sound_start id
  have halways : Run.Always Fin.step (fun _ _ => Fin.InTime) (Fin.start id)
      (Run.trace step World.seen (start id) actions) ↔ _ :=
    mapped_view.always_iff hstart (Fin.inv_start id).inTime
  have hmeets : Run.Meets Fin.step Fin.Admits (Fin.start id)
      (Run.trace step World.seen (start id) actions) ↔ _ := mapped_view.meets_iff hstart
  refine ⟨mapped_view.after hstart, halways.symm.trans (Iff.trans ?_ hmeets)⟩
  exact Run.always_iff (fun _ a hi => (Fin.step_inTime hi a).1) (fun _ a w' hi => (Fin.step_inTime hi a).2 w')
    (Fin.inv_start id)

end Bnl.Quic.Keepalive
