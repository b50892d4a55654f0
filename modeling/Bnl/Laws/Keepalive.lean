import Bnl.Laws.Fin
import Bnl.Laws.Storage
import Bnl.Quic.StoredStream
import Mathlib.Data.List.Perm.Basic

/-!
# What ngtcp2 remembers

ngtcp2 sends bytes again from where they lay when it wrote them, until they are acknowledged. A stream
keeps what was written for this, but a slice of at most 20 bytes is a copy: it keeps the bytes, not the
place they lay at. That place is lost with the last buffer that lies there.

The buffers that are added come from the application, which has others, and its buffers may be slices of
one block. What it keeps for itself may be destroyed at any moment, so it keeps nothing for ngtcp2.

**The law** (`kept_always_iff`): what ngtcp2 remembers stays where it lay in exactly those runs whose sends
and acknowledgements leave, of every block with bytes to remember, a buffer of `buffers_` or `keepalive_`,
and whose sends never write the whole of a buffer that keeps its bytes in itself. The idea of the proof:
a byte lies in a node or in a block; a node holds it as long as it is the first of `buffers_` (`Moved`), a
block as long as any buffer of the stream refers to it (`Valid` counts them).

**What it does not establish.** An address is never used twice, so a place that is lost is seen to be
lost; nothing is said of what a reader of such a place would find there. The bytes of a buffer are not
written to once it is constructed.
-/

namespace Bnl.Quic.Keepalive

open Bnl.Base.Storage Bnl.Quic.Fin

/-- Where a byte lies: in a node of a list of buffers, or in a block of the heap. -/
inductive Location where
  | node (address : Address) (offset : Nat)
  | block (address : Address) (offset : Nat)
  deriving DecidableEq, Repr

/-- The byte at an offset of the place of a buffer. -/
def location (node : Node) (offset : Nat) : Location :=
  match node.buffer.place with
  | .sso _ => .node node.address offset
  | .block r => .block r offset

/-- The bytes of a buffer, with their locations. -/
def locations (m : Heap) (node : Node) : List (Location × UInt8) :=
  (node.buffer.bytes m).mapIdx fun i v => (location node (node.buffer.begin_ + i), v)

/-- The buffer lies where the byte lies, and the byte is there. -/
def Holds (m : Heap) (node : Node) (e : Location × UInt8) : Prop :=
  ∃ i, e.1 = location node i ∧ (node.buffer.contents m)[i]? = some e.2

/-- A stream and its heap, the buffers of the application, and what ngtcp2 has written and not been
acknowledged. -/
structure World where
  heap : Heap := {}
  stream : StoredStream
  own : List Buffer := []
  added : List UInt8 := []
  writes : List Write := []
  remembered : List (Location × UInt8) := []

/-- What was written of the first buffer. -/
def World.told (w : World) (writes : List Write) : List (Location × UInt8) :=
  match w.stream.buffers_ with
  | [] => []
  | node :: _ =>
    (locations w.heap node).take ((writes.drop w.writes.length).map fun c => c.written.getD 0).sum

/-- What the application does with buffers of its own, by their place among them, and with the stream. -/
inductive Action where
  | construct (bytes : List UInt8)
  | slice (i size : Nat)
  | destroy (i : Nat)
  | add (i : Nat)
  | fin
  | send (answers : Answers)
  | ack (size : Nat)
  deriving DecidableEq, Repr

/-- An action; one on a buffer that is not there, a slice of more than there is and the calls that the stream
asserts not to come after `fin` do not come. -/
def step (w : World) : Action → Option World
  | .construct bytes =>
    let (b, heap) := Buffer.construct w.heap bytes
    some { w with heap, own := b :: w.own }
  | .slice i size =>
    match w.own[i]? with
    | none => some w
    | some b =>
      if size ≤ b.size then
        let (result, b, heap) := b.slice w.heap size
        some { w with heap, own := result :: b :: w.own.eraseIdx i }
      else some w
  | .destroy i =>
    match w.own[i]? with
    | none => some w
    | some b => some { w with heap := b.destroy w.heap, own := w.own.eraseIdx i }
  | .add i =>
    match w.own[i]? with
    | none => some w
    | some b =>
      if w.stream.fin_ then some w
      else (w.stream.add w.heap b).map fun (stream, heap) =>
        { w with heap, stream, own := w.own.eraseIdx i, added := w.added ++ b.bytes w.heap }
  | .fin => if w.stream.fin_ then some w else w.stream.fin.map fun stream => { w with stream }
  | .send answers =>
    (w.stream.send (answering w.stream.id answers) w.writes w.heap).map fun (_, stream, heap, writes) =>
      { w with heap, stream, writes, remembered := w.remembered ++ w.told writes }
  | .ack size =>
    match w.stream.ack w.heap size with
    | (.error _, stream, heap) => some { w with heap, stream }
    | (.ok (), stream, heap) =>
      some { w with heap, stream, remembered := w.remembered.drop size }

/-- The same world, but for where the buffers lie. -/
def World.view (w : World) : Fin.World where
  stream := w.stream.view w.heap
  added := w.added
  writes := w.writes

/-- Each byte that ngtcp2 remembers lies where it lay, in a buffer of the stream. -/
def Kept (w : World) : Prop :=
  ∀ e ∈ w.remembered, ∃ node ∈ w.stream.buffers_ ++ w.stream.keepalive_, Holds w.heap node e

/-- How many bytes a send slices off the first buffer, where it gets to write. -/
def World.slices (w : World) (answers : Answers) : Option Nat :=
  match w.stream.buffers_ with
  | [] => none
  | node :: _ =>
    if w.stream.buffers_.empty = false ∧ (w.stream.opened_ = true ∨ answers.opened = .ok ()) then
      match answers.write with
      | .ok (_, written) => some ((written.map (min · node.buffer.size)).getD 0)
      | _ => none
    else none

/-- Bytes of this block are among these. -/
def Awaited (r : Address) (es : List (Location × UInt8)) : Prop := ∃ e ∈ es, ∃ i, e.1 = .block r i

/-- A send that writes all that is left of the first buffer finds it in a block, if it has bytes. And each
block with bytes to remember, the first buffer's among them, has another slice in `keepalive_`, or a later
buffer in `buffers_` that is none of the empty ones right behind the first, or it is the first buffer's and
that one has more than 20 bytes left.

An acknowledgement leaves a buffer of each block of which bytes stay unacknowledged. -/
def Admits (w : World) : Action → Prop
  | .send answers => ∀ node ∈ w.stream.buffers_.head?, w.slices answers = some node.buffer.size →
      (0 < node.buffer.size → ∃ r, node.buffer.place = .block r) ∧
      ∀ r, Awaited r w.remembered ∨ 0 < node.buffer.size ∧ node.buffer.refers r = true →
        (Buffer.SSO_THRESHOLD < node.buffer.size ∧ node.buffer.refers r = true) ∨
        (∃ kept ∈ w.stream.keepalive_, kept.buffer.refers r = true) ∨
        ∃ later ∈ Buffers.kept w.stream.buffers_.tail, later.buffer.refers r = true
  | .ack size => size ≤ w.stream.keepalive_.size → ∀ r, Awaited r (w.remembered.drop size) →
        (∃ node ∈ w.stream.buffers_, node.buffer.refers r = true) ∨
          Buffers.endsBehind r w.stream.keepalive_ size = true
  | _ => True

/-! ## What holds in any case -/

/-- All buffers there are. -/
def World.live (w : World) : List Buffer :=
  Buffers.live w.stream.buffers_ ++ (Buffers.live w.stream.keepalive_ ++ w.own)

/-- The heap is that of the buffers; an empty one that is queued keeps nothing in itself, and what ngtcp2
remembers does not lie in the nodes of `keepalive_`. -/
structure Sound (w : World) : Prop where
  valid : Valid w.heap w.live
  addresses : ((w.stream.buffers_ ++ w.stream.keepalive_).map Node.address).Nodup
  next : ∀ node ∈ w.stream.buffers_ ++ w.stream.keepalive_, node.address < w.heap.next
  empty : ∀ node ∈ w.stream.buffers_, node.empty = true → ∀ bytes, node.buffer.place = .sso bytes → bytes = []
  filled : Buffers.Filled w.stream.keepalive_
  remembered : ∀ e ∈ w.remembered, ∀ a i, e.1 = .node a i →
    a < w.heap.next ∧ ∀ node ∈ w.stream.keepalive_, node.address ≠ a

variable {w w' : World} {m m' : Heap} {node node' : Node} {e : Location × UInt8} {r n : Nat}

/-- The buffers of the stream are among all buffers. -/
theorem World.mem_live {w : World} (h : node ∈ w.stream.buffers_ ++ w.stream.keepalive_) :
    node.buffer ∈ w.live := by
  unfold World.live
  rw [← List.append_assoc]
  refine List.mem_append_left _ ?_
  unfold Buffers.live
  rw [← List.map_append]
  exact List.mem_map_of_mem h

/-- A buffer at the same place holds the same. -/
theorem Holds.same (h : Holds m node e) (haddress : node'.address = node.address)
    (hplace : node'.buffer.place = node.buffer.place)
    (hcontents : node'.buffer.contents m' = node.buffer.contents m) : Holds m' node' e := by
  obtain ⟨i, hloc, hv⟩ := h
  refine ⟨i, hloc.trans ?_, by rw [hcontents]; exact hv⟩
  unfold location
  rw [haddress, hplace]

/-- A buffer in the same block holds the same. -/
theorem Holds.block (h : Holds m node e) (hr : node.buffer.place = .block r)
    (hr' : node'.buffer.place = .block r)
    (hcontents : node'.buffer.contents m' = node.buffer.contents m) : Holds m' node' e := by
  obtain ⟨i, hloc, hv⟩ := h
  refine ⟨i, hloc.trans ?_, by rw [hcontents]; exact hv⟩
  unfold location
  rw [hr, hr']

/-- An empty place holds nothing. -/
theorem not_holds_nil (h : node.buffer.place = .sso []) : ¬ Holds m node e := by
  rintro ⟨i, -, hv⟩
  unfold Buffer.contents at hv
  rw [h] at hv
  cases hv

/-- A byte that lies in a node lies in the one whose buffer has its bytes in itself. -/
theorem location_node {a i j : Nat} (h : location node j = .node a i) :
    node.address = a ∧ ∃ bytes, node.buffer.place = .sso bytes := by
  unfold location at h
  split at h
  · next bytes hp =>
    cases h
    exact ⟨rfl, bytes, hp⟩
  · cases h

/-- A byte that lies in a block lies in that of its buffer. -/
theorem location_block {i j : Nat} (h : location node j = .block r i) : node.buffer.place = .block r := by
  unfold location at h
  split at h
  · cases h
  · next r' hp =>
    cases h
    exact hp

/-- What holds a byte of a block refers to the block. -/
theorem Holds.refers {i : Nat} (h : Holds m node e) (he : e.1 = .block r i) : node.buffer.refers r = true := by
  obtain ⟨j, hj, -⟩ := h
  exact Buffer.refers_iff.mpr (location_block (hj.symm.trans he))

/-- What is written lies where its buffer lies. -/
theorem holds_of_locations (he : e ∈ locations m node) : Holds m node e := by
  obtain ⟨i, hi, rfl⟩ := List.mem_mapIdx.mp he
  exact ⟨node.buffer.begin_ + i, rfl, Buffer.getElem_contents (List.getElem?_eq_getElem hi)⟩

/-- A buffer of the application's own comes first. -/
theorem perm_own (queued kept own : List Buffer) (b : Buffer) :
    (queued ++ (kept ++ b :: own)).Perm (b :: (queued ++ (kept ++ own))) :=
  (List.Perm.append_left queued List.perm_middle).trans List.perm_middle

/-- All buffers are one of the application's and the others. -/
theorem World.live_perm {b : Buffer} {i : Nat} (hb : w.own[i]? = some b) :
    w.live.Perm (b :: (Buffers.live w.stream.buffers_ ++ (Buffers.live w.stream.keepalive_ ++ w.own.eraseIdx i))) := by
  obtain ⟨hi, rfl⟩ := List.getElem?_eq_some_iff.mp hb
  have hown := (List.getElem_cons_eraseIdx_perm hi).symm
  exact ((hown.append_left _).append_left _).trans (perm_own _ _ _ _)

/-! ## What the application does for itself -/

/-- The buffers of the stream stay where they are. -/
structure Aside (w w' : World) : Prop where
  valid : Valid w'.heap w'.live
  next : w.heap.next ≤ w'.heap.next
  buffers_ : w'.stream.buffers_ = w.stream.buffers_
  keepalive_ : w'.stream.keepalive_ = w.stream.keepalive_
  remembered : w'.remembered = w.remembered
  agree : ∀ node ∈ w.stream.buffers_ ++ w.stream.keepalive_,
    node.buffer.contents w'.heap = node.buffer.contents w.heap

namespace Aside

/-- What the application does for itself keeps all sound. -/
theorem sound (ha : Aside w w') (h : Sound w) : Sound w' := by
  refine ⟨ha.valid, ?_, fun node hnode => ?_, ?_, ?_, fun e he a i hloc => ?_⟩
  · rw [ha.buffers_, ha.keepalive_]
    exact h.addresses
  · rw [ha.buffers_, ha.keepalive_] at hnode
    exact Nat.lt_of_lt_of_le (h.next node hnode) ha.next
  · rw [ha.buffers_]
    exact h.empty
  · rw [ha.keepalive_]
    exact h.filled
  · rw [ha.remembered] at he
    obtain ⟨hlt, hkeep⟩ := h.remembered e he a i hloc
    rw [ha.keepalive_]
    exact ⟨Nat.lt_of_lt_of_le hlt ha.next, hkeep⟩

/-- It frees nothing that is remembered. -/
theorem kept (ha : Aside w w') (hk : Kept w) : Kept w' := by
  intro e he
  rw [ha.remembered] at he
  obtain ⟨node, hnode, hholds⟩ := hk e he
  refine ⟨node, ?_, hholds.same rfl rfl (ha.agree node hnode)⟩
  rw [ha.buffers_, ha.keepalive_]
  exact hnode

end Aside

/-- Only the heap and the application's own buffers change. -/
structure Apart (w w' : World) : Prop extends Aside w w' where
  stream : w'.stream = w.stream
  added : w'.added = w.added
  writes : w'.writes = w.writes

theorem Apart.refl (h : Sound w) : Apart w w :=
  ⟨⟨h.valid, Nat.le_refl _, rfl, rfl, rfl, fun _ _ => rfl⟩, rfl, rfl, rfl⟩

/-- The application constructs a buffer. -/
theorem step_construct (h : Sound w) (bytes : List UInt8) :
    ∃ w', step w (.construct bytes) = some w' ∧ Apart w w' := by
  obtain ⟨hvalid, hagree, -, hnext, -⟩ := h.valid.construct bytes
  refine ⟨_, rfl, ⟨hvalid.perm (perm_own _ _ _ _).symm, hnext, rfl, rfl, rfl, fun node hnode => ?_⟩, rfl, rfl, rfl⟩
  exact hagree _ (World.mem_live hnode)

/-- The application slices one of its buffers, or has none there. -/
theorem step_slice (h : Sound w) (i size : Nat) : ∃ w', step w (.slice i size) = some w' ∧ Apart w w' := by
  unfold step
  dsimp only
  cases hb : w.own[i]? with
  | none => exact ⟨w, rfl, .refl h⟩
  | some b =>
    dsimp only
    by_cases hsize : size ≤ b.size
    · rw [if_pos hsize]
      have hperm := World.live_perm hb
      obtain ⟨hvalid, hagree, -, -, hnext, -⟩ := (h.valid.perm hperm).slice hsize
      refine ⟨_, rfl, ⟨hvalid.perm ?_, hnext, rfl, rfl, rfl, fun node hnode => ?_⟩, rfl, rfl, rfl⟩
      · exact ((perm_own _ _ _ _).trans ((perm_own _ _ _ _).cons _)).symm
      · exact hagree _ (hperm.mem_iff.mp (World.mem_live hnode))
    · rw [if_neg hsize]
      exact ⟨w, rfl, .refl h⟩

/-- The application destroys one of its buffers, or has none there. -/
theorem step_destroy (h : Sound w) (i : Nat) : ∃ w', step w (.destroy i) = some w' ∧ Apart w w' := by
  unfold step
  dsimp only
  cases hb : w.own[i]? with
  | none => exact ⟨w, rfl, .refl h⟩
  | some b =>
    obtain ⟨hvalid, hagree, hnext⟩ := (h.valid.perm (World.live_perm hb)).destroy
    refine ⟨_, rfl, ⟨hvalid, Nat.le_of_eq hnext.symm, rfl, rfl, rfl, fun node hnode => hagree _ ?_⟩, rfl, rfl, rfl⟩
    unfold Buffers.live
    rw [← List.append_assoc, ← List.map_append]
    exact List.mem_append_left _ (List.mem_map_of_mem hnode)

/-! ## A send -/

/-- `n` bytes of the first buffer are sliced off and kept. -/
structure Sliced (w w' : World) (node : Node) (rest : Buffers) (n : Nat) : Prop where
  buffers_ : w'.stream.buffers_ = (Buffers.discard (node.buffer.slice w.heap n).2.2
    (⟨node.address, (node.buffer.slice w.heap n).2.1⟩ :: rest)).1
  keepalive_ : w'.stream.keepalive_ = (w.stream.keepalive_.push (Buffers.discard
    (node.buffer.slice w.heap n).2.2 (⟨node.address, (node.buffer.slice w.heap n).2.1⟩ :: rest)).2
    (node.buffer.slice w.heap n).1).1
  heap : w'.heap = (w.stream.keepalive_.push (Buffers.discard (node.buffer.slice w.heap n).2.2
    (⟨node.address, (node.buffer.slice w.heap n).2.1⟩ :: rest)).2 (node.buffer.slice w.heap n).1).2
  own : w'.own = w.own
  remembered : w'.remembered = w.remembered ++ (locations w.heap node).take n

/-- Nothing happens to the buffers. -/
structure Unmoved (w w' : World) : Prop where
  heap : w'.heap = w.heap
  buffers_ : w'.stream.buffers_ = w.stream.buffers_
  keepalive_ : w'.stream.keepalive_ = w.stream.keepalive_
  own : w'.own = w.own
  remembered : w'.remembered = w.remembered

/-- A send that leaves the buffers does what the application might have done. -/
theorem Unmoved.aside (hu : Unmoved w w') (h : Sound w) : Aside w w' := by
  refine ⟨?_, Nat.le_of_eq (congrArg Heap.next hu.heap).symm, hu.buffers_, hu.keepalive_, hu.remembered,
    fun node _ => by rw [hu.heap]⟩
  unfold World.live
  rw [hu.heap, hu.buffers_, hu.keepalive_, hu.own]
  exact h.valid

/-- The world behind a write. -/
def wrote (w : World) (s : StoredStream) (answers : Answers) : World :=
  let r := s.write (answering s.id answers) w.writes w.heap
  { w with
    heap := r.2.2.1
    stream := r.2.1
    writes := r.2.2.2
    remembered := w.remembered ++ w.told r.2.2.2 }

/-- What a send slices off where the stream is open. -/
theorem slices_of_open {rest : Buffers} {answers : Answers} (hs : w.stream.buffers_ = node :: rest)
    (hne : ¬ w.stream.buffers_.empty = true) (hopen : w.stream.opened_ = true ∨ answers.opened = .ok ()) :
    w.slices answers = match answers.write with
      | .ok (_, written) => some ((written.map (min · node.buffer.size)).getD 0)
      | _ => none := by
  unfold World.slices
  rw [hs] at hne ⊢
  exact if_pos ⟨Bool.eq_false_iff.mpr hne, hopen⟩

/-- A write slices off what ngtcp2 takes, or does nothing. -/
theorem wrote_cases {rest : Buffers} (hs : w.stream.buffers_ = node :: rest)
    (hne : ¬ w.stream.buffers_.empty = true)
    (hsize : (node.buffer.bytes w.heap).length = node.buffer.size) {s : StoredStream} (answers : Answers)
    (hbuffers : s.buffers_ = w.stream.buffers_) (hkeepalive : s.keepalive_ = w.stream.keepalive_)
    (hopen : w.stream.opened_ = true ∨ answers.opened = .ok ()) :
    w.slices answers = none ∧ Unmoved w (wrote w s answers) ∨
      ∃ n, n ≤ node.buffer.size ∧ w.slices answers = some n ∧ Sliced w (wrote w s answers) node rest n := by
  have hfront : (s.buffers_.view w.heap).front.size = node.buffer.size := by
    rw [hbuffers, hs]
    exact hsize
  -- what is written of the buffer is sliced off it
  have hsliced (packet : Base.Buffer) (written : Option Nat)
      (hw : answers.write = .ok (packet, written)) :
      Sliced w (wrote w s answers) node rest ((written.map (min · node.buffer.size)).getD 0) := by
    obtain ⟨opened, write⟩ := answers
    obtain rfl : write = .ok (packet, written) := hw
    have hn : (written.map (min · node.buffer.size)).getD 0 ≤ node.buffer.size := by
      rcases written with _ | k
      · exact Nat.zero_le _
      · exact Nat.min_le_right _ _
    have hslice := Buffers.slice_cons (m := w.heap) hn (hs ▸ Buffers.kept_ne hne)
    rw [← hs, ← hbuffers] at hslice
    have hwrite : s.write (answering s.id ⟨opened, .ok (packet, written)⟩) w.writes w.heap =
        let sliced := s.buffers_.slice w.heap ((written.map (min · node.buffer.size)).getD 0)
        let pushed := s.keepalive_.push sliced.2.2 sliced.1
        (.ok packet, { s with buffers_ := sliced.2.1, keepalive_ := pushed.1 }, pushed.2,
          w.writes ++ [⟨s.fin_ && (s.buffers_.view w.heap).front == (s.buffers_.view w.heap).back,
            (s.buffers_.view w.heap).front.bytes, written.map (min · node.buffer.size)⟩]) := by
      rw [← hfront]
      rfl
    unfold wrote
    rw [hwrite]
    refine ⟨?_, ?_, ?_, rfl, ?_⟩
    · dsimp only
      rw [hslice]
    · dsimp only
      rw [hslice, hkeepalive]
    · dsimp only
      rw [hslice, hkeepalive]
    · dsimp only
      unfold World.told
      rw [hs]
      simp
  rw [slices_of_open hs hne hopen]
  rcases hw : answers.write with ⟨packet, written⟩ | _ | _ | _
  · refine .inr ⟨_, ?_, rfl, hsliced packet written hw⟩
    rcases written with _ | k
    · exact Nat.zero_le _
    · exact Nat.min_le_right _ _
  all_goals
    obtain ⟨opened, write⟩ := answers
    cases hw
    refine .inl ⟨rfl, rfl, hbuffers, hkeepalive, rfl, ?_⟩
    show w.remembered ++ w.told (w.writes ++ [_]) = w.remembered
    unfold World.told
    rw [hs]
    simp

/-- **What a send does**: it slices off what ngtcp2 takes of the first buffer, or nothing happens to the
buffers. -/
theorem step_send_cases (h : Sound w) (answers : Answers) : ∃ w', step w (.send answers) = some w' ∧
    (w.slices answers = none ∧ Unmoved w w' ∨
      ∃ node rest n, w.stream.buffers_ = node :: rest ∧ n ≤ node.buffer.size ∧ w.slices answers = some n ∧
        Sliced w w' node rest n) := by
  have hsend : step w (.send answers) =
      (w.stream.send (answering w.stream.id answers) w.writes w.heap).map
        fun (_, stream, heap, writes) =>
          { w with heap, stream, writes, remembered := w.remembered ++ w.told writes } := rfl
  have htold : w.told w.writes = [] := by
    unfold World.told
    split
    · rfl
    · simp
  rw [hsend]
  unfold StoredStream.send
  by_cases hempty : w.stream.buffers_.empty = true
  · have hnone : w.slices answers = none := by
      unfold World.slices
      split
      · rfl
      · exact if_neg fun hopen => absurd hempty (Bool.eq_false_iff.mp hopen.1)
    rw [if_pos hempty]
    refine ⟨_, rfl, .inl ⟨hnone, rfl, rfl, rfl, rfl, ?_⟩⟩
    dsimp only
    rw [htold, List.append_nil]
  rw [if_neg hempty]
  obtain ⟨node, rest, hs⟩ : ∃ node rest, w.stream.buffers_ = node :: rest := by
    rcases hs : w.stream.buffers_ with _ | ⟨node, rest⟩
    · rw [hs] at hempty
      exact absurd rfl hempty
    · exact ⟨node, rest, rfl⟩
  have hsize : (node.buffer.bytes w.heap).length = node.buffer.size :=
    h.valid.length_bytes (World.mem_live (List.mem_append_left _ (by rw [hs]; exact List.mem_cons_self)))
  have hwrite (s : StoredStream) (hb : s.buffers_ = w.stream.buffers_)
      (hk : s.keepalive_ = w.stream.keepalive_)
      (hopen : w.stream.opened_ = true ∨ answers.opened = .ok ()) :
      w.slices answers = none ∧ Unmoved w (wrote w s answers) ∨
        ∃ node rest n, w.stream.buffers_ = node :: rest ∧ n ≤ node.buffer.size ∧
          w.slices answers = some n ∧ Sliced w (wrote w s answers) node rest n := by
    rcases wrote_cases hs hempty hsize answers hb hk hopen with hnone | ⟨n, hn, hslices, hsl⟩
    · exact .inl hnone
    · exact .inr ⟨node, rest, n, hs, hn, hslices, hsl⟩
  by_cases hopened : w.stream.opened_ = true
  · rw [if_pos hopened]
    exact ⟨_, rfl, hwrite w.stream rfl rfl (.inl hopened)⟩
  · rw [if_neg hopened, open_answering]
    have hblocked (hne : answers.opened ≠ .ok ()) : w.slices answers = none := by
      unfold World.slices
      rw [hs]
      exact if_neg fun hopen => (not_or.mpr ⟨hopened, hne⟩) hopen.2
    rcases ho : answers.opened with _ | _ | _ | _
    · exact ⟨_, rfl, hwrite { w.stream with opened_ := true } rfl rfl (.inr ho)⟩
    all_goals
      refine ⟨_, rfl, .inl ⟨hblocked (by rw [ho]; nofun), rfl, rfl, rfl, rfl, ?_⟩⟩
      dsimp only
      rw [htold, List.append_nil]

/-- What a slice leaves: the list behind it, and a buffer that is a copy, or long and lies where the
first one lies. -/
structure Moved (w w' : World) (node : Node) (rest : Buffers) (n : Nat) (new : Node) : Prop where
  valid : Valid w'.heap w'.live
  buffers_ : w'.stream.buffers_ =
    Buffers.kept (⟨node.address, node.buffer.consume n⟩ :: rest)
  keepalive_ : w'.stream.keepalive_ = w.stream.keepalive_ ++ [new]
  next : w.heap.next ≤ new.address ∧ new.address < w'.heap.next
  place : n ≤ Buffer.SSO_THRESHOLD ∧ (∃ bytes, new.buffer.place = .sso bytes) ∨
    Buffer.SSO_THRESHOLD < n ∧ new.buffer.place = node.buffer.place
  size : new.buffer.size = n
  agree : ∀ node ∈ w'.stream.buffers_ ++ w'.stream.keepalive_,
    node.buffer.contents w'.heap = node.buffer.contents w.heap

/-- Slicing the front off the queue moves it to what is kept. -/
theorem Sliced.moved {rest : Buffers} (hsl : Sliced w w' node rest n) (h : Sound w)
    (hs : w.stream.buffers_ = node :: rest) (hn : n ≤ node.buffer.size) :
    ∃ new, Moved w w' node rest n new := by
  have hvalid : Valid w.heap
      (node.buffer :: (Buffers.live rest ++ (Buffers.live w.stream.keepalive_ ++ w.own))) := by
    have hvalid := h.valid
    unfold World.live at hvalid
    rw [hs] at hvalid
    exact hvalid
  obtain ⟨hslice, hagree, hbytes, hrest, hnext, hplace⟩ := hvalid.slice hn
  rcases hr : node.buffer.slice w.heap n with ⟨result, b, m₁⟩
  obtain ⟨hbuffers, hkeepalive, hheap, hown, -⟩ := hsl
  rw [hr] at hslice hagree hbytes hrest hnext hplace hbuffers hkeepalive hheap
  dsimp only at hslice hagree hbytes hrest hnext hplace hbuffers hkeepalive hheap
  -- the slice is one more buffer while the list is discarded
  have hordered : Valid m₁ (Buffers.live (⟨node.address, b⟩ :: rest) ++
      (result :: (Buffers.live w.stream.keepalive_ ++ w.own))) := by
    refine hslice.perm (List.Perm.symm ?_)
    exact List.perm_middle
  obtain ⟨hkept, hdiscard, hagree', hnext'⟩ := Buffers.discard_valid hordered
  rcases hd : Buffers.discard m₁ (⟨node.address, b⟩ :: rest) with ⟨s', m₂⟩
  rw [hd] at hkept hdiscard hagree' hnext' hbuffers hkeepalive hheap
  dsimp only at hkept hdiscard hagree' hnext' hbuffers hkeepalive hheap
  obtain ⟨hmove, hmoved⟩ := Valid.move (hdiscard.perm List.perm_middle)
  unfold Buffers.push at hkeepalive hheap
  dsimp only at hkeepalive hheap
  have hlive : w'.live = Buffers.live s' ++
      (Buffers.live w.stream.keepalive_ ++ result.move m₂ :: w.own) := by
    unfold World.live Buffers.live
    rw [hbuffers, hkeepalive, hown, List.map_append, List.append_assoc]
    rfl
  have hvalid' : Valid w'.heap w'.live := by
    rw [hheap, hlive]
    exact hmove.next.perm (perm_own _ _ _ _).symm
  have hnew : result.move m₂ ∈ w'.live := by
    rw [hlive]
    exact List.mem_append_right _ (List.mem_append_right _ List.mem_cons_self)
  -- where the first buffer and its slice lie, the bytes are the same all along
  have hfirst : b.contents m₁ = node.buffer.contents w.heap := by
    rw [hrest]
    exact hagree node.buffer List.mem_cons_self
  have hresult : result.bytes m₂ = result.bytes m₁ :=
    Buffer.bytes_congr (hagree' _ (List.mem_append_right _ List.mem_cons_self))
  refine ⟨⟨m₂.next, result.move m₂⟩, hvalid', ?_, hkeepalive, ?_, ?_, ?_, fun node' hnode' => ?_⟩
  · rw [hbuffers, hkept, hrest]
  · rw [hheap, hnext']
    exact ⟨hnext, Nat.lt_succ_self _⟩
  · unfold Buffer.move
    rcases hplace with ⟨hshort, bytes, hsso⟩ | ⟨hlong, r, hr, hsame⟩
    · rw [hsso]
      exact .inl ⟨hshort, _, rfl⟩
    · rw [hsame]
      exact .inr ⟨hlong, hsame.trans hr.symm⟩
  · have hlength := hvalid'.length_bytes hnew
    rw [hheap] at hlength
    refine hlength.symm.trans ?_
    have hsame : (result.move m₂).bytes { m₂ with next := m₂.next + 1 } = (result.move m₂).bytes m₂ := rfl
    rw [hsame, hmoved, hresult, hbytes, List.length_take,
      hvalid.length_bytes List.mem_cons_self, Nat.min_eq_left hn]
  · rw [hbuffers, hkeepalive] at hnode'
    rw [hheap]
    show node'.buffer.contents m₂ = node'.buffer.contents w.heap
    rcases List.mem_append.mp hnode' with hnode' | hnode'
    · -- a queued buffer
      refine (hagree' _ (List.mem_append_left _ (List.mem_map_of_mem hnode'))).trans ?_
      rw [hkept] at hnode'
      rcases List.mem_cons.mp (Buffers.mem_of_kept hnode') with rfl | hnode'
      · refine hfirst.trans ?_
        rw [hrest]
        rfl
      · exact hagree _ (List.mem_cons_of_mem _ (List.mem_append_left _ (List.mem_map_of_mem hnode')))
    · rcases List.mem_append.mp hnode' with hnode' | hnode'
      · -- a kept buffer
        have hmem : node'.buffer ∈ Buffers.live w.stream.keepalive_ ++ w.own :=
          List.mem_append_left _ (List.mem_map_of_mem hnode')
        refine (hagree' _ (List.mem_append_right _ (List.mem_cons_of_mem _ hmem))).trans ?_
        exact hagree _ (List.mem_cons_of_mem _ (List.mem_append_right _ hmem))
      · -- the slice
        obtain rfl := List.mem_singleton.mp hnode'
        show (result.move m₂).contents m₂ = (result.move m₂).contents w.heap
        unfold Buffer.move
        match hp : result.place with
        | .sso bytes => rfl
        | .block r =>
          rcases hplace with ⟨-, bytes, hsso⟩ | ⟨-, r', hr, hsame⟩
          · exact nomatch hp.symm.trans hsso
          · have hown : result.contents m₂ = result.contents m₁ :=
              hagree' _ (List.mem_append_right _ List.mem_cons_self)
            refine hown.trans ?_
            have hboth : result.place = node.buffer.place := hsame.trans hr.symm
            rw [Buffer.contents_place hboth, hagree _ List.mem_cons_self, Buffer.contents_place hboth]

/-- What is kept of a list behind its first buffer, or of that. -/
theorem mem_kept_cons {s : Buffers} (h : node' ∈ Buffers.kept (node :: s)) :
    node' ∈ s ∨ node' = node ∧ ¬ node.empty = true := by
  by_cases hempty : node.empty = true
  · rw [Buffers.kept_cons hempty] at h
    exact .inl (Buffers.mem_of_kept h)
  · rw [Buffers.kept_cons_of_not hempty] at h
    exact (List.mem_cons.mp h).symm.imp_right fun heq => ⟨heq, hempty⟩

/-- A buffer that is consumed whole is empty, and only then. -/
theorem empty_consume {a : Address} (hle : n ≤ node.buffer.size) :
    Node.empty ⟨a, node.buffer.consume n⟩ = true ↔ n = node.buffer.size := by
  unfold Node.empty Buffer.empty
  rw [beq_iff_eq]
  show node.buffer.end_ - (node.buffer.begin_ + n) = 0 ↔ n = node.buffer.end_ - node.buffer.begin_
  unfold Buffer.size at hle
  omega

namespace Moved

variable {rest : Buffers} {new : Node}

/-- What is queued was queued behind the front, or is what is left of it. -/
theorem mem_buffers (hm : Moved w w' node rest n new) (h : node' ∈ w'.stream.buffers_) :
    node' ∈ rest ∨ node' = ⟨node.address, node.buffer.consume n⟩ ∧ ¬ node'.empty = true := by
  rw [hm.buffers_] at h
  exact (mem_kept_cons h).imp_right fun ⟨heq, hempty⟩ => ⟨heq, heq ▸ hempty⟩

/-- What is kept was kept, or is the slice. -/
theorem mem_keepalive (hm : Moved w w' node rest n new) :
    node' ∈ w'.stream.keepalive_ ↔ node' ∈ w.stream.keepalive_ ∨ node' = new := by
  rw [hm.keepalive_, List.mem_append, List.mem_singleton]

/-- The slice refers to the block of the first buffer, if it is long. -/
theorem refers_new (hm : Moved w w' node rest n new) : new.buffer.refers r = true ↔
    Buffer.SSO_THRESHOLD < n ∧ node.buffer.refers r = true := by
  rcases hm.place with ⟨hshort, bytes, hsso⟩ | ⟨hlong, hsame⟩
  · refine ⟨fun hr => ?_, fun ⟨hlong, _⟩ => ?_⟩
    · exact nomatch hsso.symm.trans (Buffer.refers_iff.mp hr)
    · exact absurd hlong (Nat.not_lt.mpr hshort)
  · rw [Buffer.refers_iff, Buffer.refers_iff, hsame]
    exact ⟨fun hr => ⟨hlong, hr⟩, And.right⟩

/-- A write keeps all sound. -/
theorem sound (hm : Moved w w' node rest n new)
    (hremembered : w'.remembered = w.remembered ++ (locations w.heap node).take n) (h : Sound w)
    (hs : w.stream.buffers_ = node :: rest) : Sound w' := by
  have hnodup := h.addresses
  have hnext := h.next
  rw [hs] at hnodup hnext
  -- the addresses that were there, in part
  have hsub : ((w'.stream.buffers_ ++ w.stream.keepalive_).map Node.address).Sublist
      ((node :: rest ++ w.stream.keepalive_).map Node.address) := by
    rw [hm.buffers_]
    have hkept : (Buffers.kept (⟨node.address, node.buffer.consume n⟩ :: rest)).Sublist
        (⟨node.address, node.buffer.consume n⟩ :: rest) := List.dropWhile_sublist _
    exact (hkept.append (List.Sublist.refl w.stream.keepalive_)).map Node.address
  have hold (node' : Node) (hnode' : node' ∈ w'.stream.buffers_ ++ w.stream.keepalive_) :
      node'.address < w.heap.next := by
    obtain ⟨node'', hnode'', heq⟩ := List.mem_map.mp (hsub.mem (List.mem_map_of_mem hnode'))
    exact heq ▸ hnext node'' hnode''
  have hlater : w.heap.next < w'.heap.next := Nat.lt_of_le_of_lt hm.next.1 hm.next.2
  have hnewAddress (a : Nat) (ha : a < w.heap.next) : new.address ≠ a :=
    Nat.ne_of_gt (Nat.lt_of_lt_of_le ha hm.next.1)
  refine ⟨hm.valid, ?_, fun node' hnode' => ?_, fun node' hnode' hempty => ?_,
    fun node' hnode' r hr => ?_, fun e he a i hloc => ?_⟩
  · rw [hm.keepalive_, ← List.append_assoc, List.map_append]
    refine List.nodup_append.mpr ⟨hnodup.sublist hsub, List.pairwise_singleton _ _, fun a ha b hb => ?_⟩
    obtain rfl : b = new.address := List.mem_singleton.mp hb
    obtain ⟨node', hnode', rfl⟩ := List.mem_map.mp ha
    exact (hnewAddress _ (hold node' hnode')).symm
  · rw [hm.keepalive_, ← List.append_assoc] at hnode'
    rcases List.mem_append.mp hnode' with hnode' | hnode'
    · exact Nat.lt_trans (hold node' hnode') hlater
    · exact List.mem_singleton.mp hnode' ▸ hm.next.2
  · rcases hm.mem_buffers hnode' with hrest | ⟨-, hne⟩
    · exact h.empty node' (by rw [hs]; exact List.mem_cons_of_mem _ hrest) hempty
    · exact absurd hempty hne
  · rcases hm.mem_keepalive.mp hnode' with hkeep | rfl
    · exact h.filled node' hkeep r hr
    · rw [hm.size]
      exact Nat.lt_of_le_of_lt (Nat.zero_le _) (hm.refers_new.mp hr).1
  · obtain ⟨ha, hkeep⟩ : a < w.heap.next ∧ ∀ node ∈ w.stream.keepalive_, node.address ≠ a := by
      rw [hremembered] at he
      rcases List.mem_append.mp he with he | he
      · exact h.remembered e he a i hloc
      · obtain ⟨j, hj, -⟩ := holds_of_locations (List.mem_of_mem_take he)
        obtain ⟨rfl, -⟩ := location_node (hj.symm.trans hloc)
        refine ⟨hnext node List.mem_cons_self, fun node' hnode' heq => ?_⟩
        refine (List.nodup_cons.mp hnodup).1 ?_
        rw [← heq]
        exact List.mem_map_of_mem (List.mem_append_right _ hnode')
    refine ⟨Nat.lt_trans ha hlater, fun node' hnode' => ?_⟩
    rcases hm.mem_keepalive.mp hnode' with hnode' | rfl
    · exact hkeep node' hnode'
    · exact hnewAddress a ha

/-- The blocks that have a buffer left when all of the first one is written. -/
theorem refers_iff (hm : Moved w w' node rest n new) (hn : n = node.buffer.size) :
    (∃ left ∈ w'.stream.buffers_ ++ w'.stream.keepalive_, left.buffer.refers r = true) ↔
      (Buffer.SSO_THRESHOLD < n ∧ node.buffer.refers r = true) ∨
      (∃ kept ∈ w.stream.keepalive_, kept.buffer.refers r = true) ∨
      ∃ later ∈ Buffers.kept rest, later.buffer.refers r = true := by
  have hbuffers : w'.stream.buffers_ = Buffers.kept rest := by
    rw [hm.buffers_, Buffers.kept_cons ((empty_consume (Nat.le_of_eq hn)).mpr hn)]
  rw [hbuffers, ← hm.refers_new]
  constructor
  · rintro ⟨left, hleft, hr⟩
    rcases List.mem_append.mp hleft with hleft | hleft
    · exact .inr (.inr ⟨left, hleft, hr⟩)
    · rcases hm.mem_keepalive.mp hleft with hleft | rfl
      · exact .inr (.inl ⟨left, hleft, hr⟩)
      · exact .inl hr
  · rintro (hr | ⟨kept, hkept, hr⟩ | ⟨later, hlater, hr⟩)
    · exact ⟨new, List.mem_append_right _ (hm.mem_keepalive.mpr (.inr rfl)), hr⟩
    · exact ⟨kept, List.mem_append_right _ (hm.mem_keepalive.mpr (.inl hkept)), hr⟩
    · exact ⟨later, List.mem_append_left _ hlater, hr⟩

/-- What is written of a buffer that lies in a block are bytes of the block. -/
theorem told_awaited (hlength : (node.buffer.bytes w.heap).length = node.buffer.size)
    (hle : n ≤ node.buffer.size) (hpos : 0 < n) :
    ∃ e ∈ (locations w.heap node).take n, ∃ i, e.1 = location node i := by
  have hlocations : 0 < ((locations w.heap node).take n).length := by
    unfold locations
    rw [List.length_take, List.length_mapIdx, hlength, Nat.min_eq_left hle]
    exact hpos
  obtain ⟨e, he⟩ := List.exists_mem_of_length_pos hlocations
  obtain ⟨i, hi, -⟩ := holds_of_locations (List.mem_of_mem_take he)
  exact ⟨e, he, i, hi⟩

/-- **A write keeps what is remembered** unless it takes the last that lies where it lay. -/
theorem kept_iff (hm : Moved w w' node rest n new)
    (hremembered : w'.remembered = w.remembered ++ (locations w.heap node).take n) (h : Sound w)
    (hk : Kept w) (hs : w.stream.buffers_ = node :: rest) (hle : n ≤ node.buffer.size) :
    Kept w' ↔ (n = node.buffer.size → (0 < n → ∃ r, node.buffer.place = .block r) ∧
      ∀ r, Awaited r w.remembered ∨ 0 < n ∧ node.buffer.refers r = true →
        (Buffer.SSO_THRESHOLD < n ∧ node.buffer.refers r = true) ∨
        (∃ kept ∈ w.stream.keepalive_, kept.buffer.refers r = true) ∨
        ∃ later ∈ Buffers.kept rest, later.buffer.refers r = true) := by
  have hmem : node ∈ w.stream.buffers_ ++ w.stream.keepalive_ :=
    List.mem_append_left _ (hs ▸ List.mem_cons_self)
  have hlength := h.valid.length_bytes (World.mem_live hmem)
  constructor
  · intro hkept hn
    refine ⟨fun hpos => ?_, fun r hr => (hm.refers_iff hn).mp ?_⟩
    · -- the node of the buffer is gone, and was its own storage
      obtain ⟨e, he, i, hi⟩ := told_awaited hlength hle hpos
      rcases hplace : node.buffer.place with bytes | r
      · obtain ⟨owner, howner, j, hj, -⟩ := hkept e (by rw [hremembered]; exact List.mem_append_right _ he)
        have hown : e.1 = .node node.address i := by
          rw [hi]
          unfold location
          rw [hplace]
        obtain ⟨haddress, -⟩ := location_node (hj.symm.trans hown)
        have hnodup := h.addresses
        rw [hs] at hnodup
        have hgone (howner : owner ∈ rest ++ w.stream.keepalive_) : False :=
          (List.nodup_cons.mp hnodup).1 (haddress ▸ List.mem_map_of_mem howner)
        rcases List.mem_append.mp howner with howner | howner
        · rcases hm.mem_buffers howner with hrest | ⟨rfl, hne⟩
          · exact (hgone (List.mem_append_left _ hrest)).elim
          · exact absurd ((empty_consume hle).mpr hn) hne
        · rcases hm.mem_keepalive.mp howner with howner | rfl
          · exact (hgone (List.mem_append_right _ howner)).elim
          · exact absurd (haddress ▸ h.next node hmem) (Nat.not_lt.mpr hm.next.1)
      · exact ⟨r, rfl⟩
    · -- a byte of the block is held by a buffer of the block
      obtain ⟨e, he, i, hi⟩ : ∃ e ∈ w'.remembered, ∃ i, e.1 = .block r i := by
        rw [hremembered]
        rcases hr with ⟨e, he, hi⟩ | ⟨hpos, hr⟩
        · exact ⟨e, List.mem_append_left _ he, hi⟩
        · obtain ⟨e, he, i, hi⟩ := told_awaited hlength hle hpos
          refine ⟨e, List.mem_append_right _ he, i, hi.trans ?_⟩
          unfold location
          rw [Buffer.refers_iff.mp hr]
      obtain ⟨owner, howner, hholds⟩ := hkept e he
      exact ⟨owner, howner, hholds.refers hi⟩
  · intro hcond e he
    -- each byte, old or new, was held in the world before
    obtain ⟨owner, howner, hholds⟩ : ∃ owner ∈ w.stream.buffers_ ++ w.stream.keepalive_,
        Holds w.heap owner e := by
      rw [hremembered] at he
      rcases List.mem_append.mp he with he | he
      · exact hk e he
      · exact ⟨node, hmem, holds_of_locations (List.mem_of_mem_take he)⟩
    -- a buffer that is left holds what it held
    have hstill {left : Node} (haddress : left.address = owner.address)
        (hplace : left.buffer.place = owner.buffer.place)
        (hleft : left ∈ w'.stream.buffers_ ++ w'.stream.keepalive_) :
        ∃ node ∈ w'.stream.buffers_ ++ w'.stream.keepalive_, Holds w'.heap node e :=
      ⟨left, hleft, hholds.same haddress hplace ((hm.agree left hleft).trans (Buffer.contents_place hplace))⟩
    have hkeep (howner : owner ∈ w.stream.keepalive_) : owner ∈ w'.stream.buffers_ ++ w'.stream.keepalive_ :=
      List.mem_append_right _ (hm.mem_keepalive.mpr (.inl howner))
    by_cases hn : n = node.buffer.size
    · obtain ⟨hblock, hleft⟩ := hcond hn
      rcases hplace : owner.buffer.place with bytes | r
      · -- a buffer that keeps its bytes in itself is not the first one, and stays
        rcases List.mem_append.mp howner with hqueued | hkept
        · have hbytes : 0 < owner.buffer.size := by
            refine Nat.pos_of_ne_zero fun hzero => ?_
            have hnil := h.empty owner hqueued (beq_iff_eq.mpr hzero) bytes hplace
            exact not_holds_nil (hnil ▸ hplace) hholds
          rw [hs] at hqueued
          rcases List.mem_cons.mp hqueued with rfl | hqueued
          · obtain ⟨r, hr⟩ := hblock (hn ▸ hbytes)
            exact nomatch hplace.symm.trans hr
          · refine hstill rfl rfl (List.mem_append_left _ ?_)
            rw [hm.buffers_]
            exact Buffers.mem_kept (List.mem_cons_of_mem _ hqueued) hbytes
        · exact hstill rfl rfl (hkeep hkept)
      · -- another buffer of the block will do
        have hr := Buffer.refers_iff.mpr hplace
        obtain ⟨i, hi, hv⟩ := hholds
        have hloc : e.1 = .block r i := by
          rw [hi]
          unfold location
          rw [hplace]
        have hawaited : Awaited r w.remembered ∨ 0 < n ∧ node.buffer.refers r = true := by
          rw [hremembered] at he
          rcases List.mem_append.mp he with he | he
          · exact .inl ⟨e, he, i, hloc⟩
          · refine .inr ⟨?_, (holds_of_locations (List.mem_of_mem_take he)).refers hloc⟩
            refine Nat.pos_of_ne_zero fun hzero => ?_
            rw [hzero] at he
            cases he
        obtain ⟨left, hmem', hrefers⟩ := (hm.refers_iff hn).mpr (hleft r hawaited)
        have hplace' := Buffer.refers_iff.mp hrefers
        exact ⟨left, hmem', Holds.block ⟨i, hi, hv⟩ hplace hplace'
          ((hm.agree left hmem').trans (Buffer.contents_place (hplace'.trans hplace.symm)))⟩
    · -- the first buffer stays, a little further on, and all others with it
      have hnonempty : ¬ Node.empty ⟨node.address, node.buffer.consume n⟩ = true :=
        fun hempty => hn ((empty_consume hle).mp hempty)
      have hbuffers := hm.buffers_
      rw [Buffers.kept_cons_of_not hnonempty] at hbuffers
      rcases List.mem_append.mp howner with hqueued | hkept
      · rw [hs] at hqueued
        rcases List.mem_cons.mp hqueued with rfl | hqueued
        · obtain ⟨left, hleft⟩ : ∃ left : Node, left = ⟨owner.address, owner.buffer.consume n⟩ := ⟨_, rfl⟩
          rw [← hleft] at hbuffers
          have haddress : left.address = owner.address := by rw [hleft]
          have hplace : left.buffer.place = owner.buffer.place := by
            rw [hleft]
            rfl
          refine hstill haddress hplace (List.mem_append_left _ ?_)
          rw [hbuffers]
          exact List.mem_cons_self
        · refine hstill rfl rfl (List.mem_append_left _ ?_)
          rw [hbuffers]
          exact List.mem_cons_of_mem _ hqueued
      · exact hstill rfl rfl (hkeep hkept)

end Moved

/-! ## An acknowledgement -/

/-- What an acknowledgement leaves of `keepalive_`. -/
structure Acked (w w' : World) (size : Nat) : Prop where
  valid : Valid w'.heap w'.live
  next : w'.heap.next = w.heap.next
  buffers_ : w'.stream.buffers_ = w.stream.buffers_
  keepalive_ : w'.stream.keepalive_ = Buffers.kept (Buffers.consumeFrom w.stream.keepalive_ size)
  remembered : w'.remembered = w.remembered.drop size
  agree : ∀ node ∈ w'.stream.buffers_ ++ w'.stream.keepalive_,
    node.buffer.contents w'.heap = node.buffer.contents w.heap

/-- An acknowledgement is refused, or consumes what is kept. -/
theorem step_ack_cases (h : Sound w) (size : Nat) : ∃ w', step w (.ack size) = some w' ∧
    (size > w.stream.keepalive_.size ∧ w' = w ∨ size ≤ w.stream.keepalive_.size ∧ Acked w w' size) := by
  have hstep : step w (.ack size) = match w.stream.ack w.heap size with
      | (.error _, stream, heap) => some { w with heap, stream }
      | (.ok (), stream, heap) =>
        some { w with heap, stream, remembered := w.remembered.drop size } := rfl
  rw [hstep]
  unfold StoredStream.ack
  by_cases hlarge : size > w.stream.keepalive_.size
  · rw [if_pos hlarge]
    exact ⟨w, rfl, .inl ⟨hlarge, rfl⟩⟩
  rw [if_neg hlarge]
  have hconsumed := Buffers.consumeFrom_valid (n := size) (h.valid.perm (List.perm_append_comm_assoc _ _ _))
  obtain ⟨hkept, hvalid, hagree, hnext⟩ := Buffers.discard_valid hconsumed
  unfold Buffers.consume
  rcases hd : Buffers.discard w.heap (Buffers.consumeFrom w.stream.keepalive_ size) with ⟨s, m⟩
  rw [hd] at hkept hvalid hagree hnext
  refine ⟨_, rfl, .inr ⟨Nat.le_of_not_lt hlarge, hvalid.perm (List.perm_append_comm_assoc _ _ _), hnext, rfl, hkept,
    rfl, fun node hnode => hagree _ ?_⟩⟩
  rcases List.mem_append.mp hnode with hnode | hnode
  · exact List.mem_append_right _ (List.mem_append_left _ (List.mem_map_of_mem hnode))
  · exact List.mem_append_left _ (List.mem_map_of_mem hnode)

namespace Acked

variable {size : Nat}

/-- An acknowledgement keeps all sound. -/
theorem sound (ha : Acked w w' size) (h : Sound w) : Sound w' := by
  have horigin (node' : Node) (hnode' : node' ∈ w'.stream.keepalive_) :
      ∃ node ∈ w.stream.keepalive_, node'.address = node.address := by
    rw [ha.keepalive_] at hnode'
    obtain ⟨node, hnode, haddress, -⟩ := Buffers.place_of_consumeFrom (Buffers.mem_of_kept hnode')
    exact ⟨node, hnode, haddress⟩
  refine ⟨ha.valid, ?_, fun node' hnode' => ?_, ?_, ?_, fun e he a i hloc => ?_⟩
  · refine h.addresses.sublist ?_
    rw [ha.buffers_, ha.keepalive_, List.map_append, List.map_append,
      ← Buffers.consumeFrom_addresses w.stream.keepalive_ size]
    have hkept : (Buffers.kept (Buffers.consumeFrom w.stream.keepalive_ size)).Sublist
        (Buffers.consumeFrom w.stream.keepalive_ size) := List.dropWhile_sublist _
    exact (List.Sublist.refl _).append (hkept.map Node.address)
  · rw [ha.next]
    rcases List.mem_append.mp hnode' with hnode' | hnode'
    · exact h.next node' (List.mem_append_left _ (ha.buffers_ ▸ hnode'))
    · obtain ⟨node, hnode, haddress⟩ := horigin node' hnode'
      exact haddress ▸ h.next node (List.mem_append_right _ hnode)
  · rw [ha.buffers_]
    exact h.empty
  · rw [ha.keepalive_]
    exact Buffers.filled_consume h.filled
  · rw [ha.remembered] at he
    obtain ⟨hlt, hkeep⟩ := h.remembered e (List.mem_of_mem_drop he) a i hloc
    refine ⟨ha.next.symm ▸ hlt, fun node' hnode' => ?_⟩
    obtain ⟨node, hnode, haddress⟩ := horigin node' hnode'
    exact haddress ▸ hkeep node hnode

/-- **An acknowledgement keeps what is remembered** unless it takes the last buffer of a block. -/
theorem kept_iff (ha : Acked w w' size) (h : Sound w) (hk : Kept w) :
    Kept w' ↔ ∀ r, Awaited r (w.remembered.drop size) →
      (∃ node ∈ w.stream.buffers_, node.buffer.refers r = true) ∨
        Buffers.endsBehind r w.stream.keepalive_ size = true := by
  have hends (r : Nat) : (∃ node ∈ w'.stream.keepalive_, node.buffer.refers r = true) ↔
      Buffers.endsBehind r w.stream.keepalive_ size = true := by
    rw [ha.keepalive_]
    exact Buffers.kept_consume_iff h.filled
  constructor
  · rintro hkept r ⟨e, he, i, hloc⟩
    obtain ⟨owner, howner, hholds⟩ := hkept e (by rw [ha.remembered]; exact he)
    have hrefers := hholds.refers hloc
    rcases List.mem_append.mp howner with howner | howner
    · exact .inl ⟨owner, ha.buffers_ ▸ howner, hrefers⟩
    · exact .inr ((hends r).mp ⟨owner, howner, hrefers⟩)
  · intro hcond e he
    rw [ha.remembered] at he
    obtain ⟨owner, howner, hholds⟩ := hk e (List.mem_of_mem_drop he)
    rcases List.mem_append.mp howner with howner | howner
    · have hmem : owner ∈ w'.stream.buffers_ ++ w'.stream.keepalive_ :=
        List.mem_append_left _ (ha.buffers_ ▸ howner)
      exact ⟨owner, hmem, hholds.same rfl rfl (ha.agree owner hmem)⟩
    · obtain ⟨i, hi, hv⟩ := hholds
      rcases hplace : owner.buffer.place with bytes | r
      · -- what is remembered does not lie in a node of `keepalive_`
        have hloc : e.1 = .node owner.address i := by
          rw [hi]
          unfold location
          rw [hplace]
        exact absurd rfl ((h.remembered e (List.mem_of_mem_drop he) _ i hloc).2 owner howner)
      · have hloc : e.1 = .block r i := by
          rw [hi]
          unfold location
          rw [hplace]
        -- a buffer of the block is left
        obtain ⟨node, hmem, hrefers⟩ :
            ∃ node ∈ w'.stream.buffers_ ++ w'.stream.keepalive_, node.buffer.refers r = true := by
          rcases hcond r ⟨e, he, i, hloc⟩ with ⟨node, hnode, hrefers⟩ | hbehind
          · exact ⟨node, List.mem_append_left _ (ha.buffers_.symm ▸ hnode), hrefers⟩
          · obtain ⟨node, hnode, hrefers⟩ := (hends r).mpr hbehind
            exact ⟨node, List.mem_append_right _ hnode, hrefers⟩
        have hplace' := Buffer.refers_iff.mp hrefers
        exact ⟨node, hmem, Holds.block ⟨i, hi, hv⟩ hplace hplace'
          ((ha.agree node hmem).trans (Buffer.contents_place (hplace'.trans hplace.symm)))⟩

end Acked

/-! ## The other calls -/

/-- What is added lies behind the others, wherever it lies. -/
theorem step_add (h : Sound w) (i : Nat) :
    ∃ w', step w (.add i) = some w' ∧ Sound w' ∧ (Kept w → Kept w') := by
  have hstep : step w (.add i) = match w.own[i]? with
      | none => some w
      | some b =>
        if w.stream.fin_ then some w
        else (w.stream.add w.heap b).map fun (stream, heap) =>
          { w with heap, stream, own := w.own.eraseIdx i, added := w.added ++ b.bytes w.heap } := rfl
  rw [hstep]
  cases hb : w.own[i]? with
  | none => exact ⟨w, rfl, h, id⟩
  | some b =>
    dsimp only
    by_cases hfin : w.stream.fin_ = true
    · exact ⟨w, if_pos hfin, h, id⟩
    obtain ⟨hmove, hmoved⟩ := (h.valid.perm (World.live_perm hb)).move
    have hsize := hmove.length_bytes List.mem_cons_self
    unfold StoredStream.add Buffers.push
    rw [if_neg hfin, if_neg hfin]
    refine ⟨_, rfl, ⟨?_, ?_, fun node hnode => ?_, fun node hnode hempty bytes hplace => ?_, h.filled,
      fun e he a j hloc => ?_⟩, fun hk e he => ?_⟩
    · refine hmove.next.perm ?_
      unfold World.live Buffers.live
      rw [List.map_append, List.append_assoc]
      exact List.perm_middle.symm
    · rw [List.append_assoc, List.map_append]
      rw [List.map_append]
      have hmiddle : (w.stream.buffers_.map Node.address ++
          (w.heap.next :: w.stream.keepalive_.map Node.address)).Perm
          (w.heap.next :: (w.stream.buffers_.map Node.address ++ w.stream.keepalive_.map Node.address)) :=
        List.perm_middle
      refine hmiddle.nodup_iff.mpr ?_
      rw [← List.map_append]
      refine List.nodup_cons.mpr ⟨fun hmem => ?_, h.addresses⟩
      obtain ⟨node, hnode, haddress⟩ := List.mem_map.mp hmem
      exact Nat.ne_of_lt (h.next node hnode) haddress
    · rcases List.mem_append.mp hnode with hnode | hnode
      · rcases List.mem_append.mp hnode with hnode | hnode
        · exact Nat.lt_succ_of_lt (h.next node (List.mem_append_left _ hnode))
        · obtain rfl := List.mem_singleton.mp hnode
          exact Nat.lt_succ_self _
      · exact Nat.lt_succ_of_lt (h.next node (List.mem_append_right _ hnode))
    · rcases List.mem_append.mp hnode with hnode | hnode
      · exact h.empty node hnode hempty bytes hplace
      · -- what is moved keeps no more in itself than its bytes
        obtain rfl := List.mem_singleton.mp hnode
        have hplace : (b.move w.heap).place = .sso bytes := hplace
        have hzero : (b.move w.heap).size = 0 := beq_iff_eq.mp hempty
        rw [hzero, hmoved] at hsize
        unfold Buffer.move at hplace
        split at hplace
        · cases hplace
          exact List.length_eq_zero_iff.mp hsize
        · next r hr => exact nomatch hr.symm.trans hplace
    · obtain ⟨hlt, hkeep⟩ := h.remembered e he a j hloc
      exact ⟨Nat.lt_succ_of_lt hlt, hkeep⟩
    · obtain ⟨owner, howner, hholds⟩ := hk e he
      refine ⟨owner, ?_, hholds.same rfl rfl rfl⟩
      rcases List.mem_append.mp howner with howner | howner
      · exact List.mem_append_left _ (List.mem_append_left _ howner)
      · exact List.mem_append_right _ howner

theorem step_fin (h : Sound w) : ∃ w', step w .fin = some w' ∧ Aside w w' := by
  have hsame {s : StoredStream} (hs : s = w.stream ∨ s = { w.stream with fin_ := true }) :
      Aside w { w with stream := s } := by
    rcases hs with rfl | rfl
    · exact ⟨h.valid, Nat.le_refl _, rfl, rfl, rfl, fun _ _ => rfl⟩
    · exact ⟨h.valid, Nat.le_refl _, rfl, rfl, rfl, fun _ _ => rfl⟩
  by_cases hfin : w.stream.fin_ = true
  · exact ⟨w, if_pos hfin, hsame (.inl rfl)⟩
  · have hstep : step w .fin = some { w with stream := { w.stream with fin_ := true } } := by
      show (if w.stream.fin_ then _ else w.stream.fin.map _) = _
      unfold StoredStream.fin
      rw [if_neg hfin, if_neg hfin]
      rfl
    exact ⟨_, hstep, hsame (.inr rfl)⟩

/-- **What a step is**: it leaves the buffers of the stream where they are, adds one, slices off the first or
acknowledges some. -/
theorem step_cases (h : Sound w) (a : Action) : ∃ w', step w a = some w' ∧ Sound w' ∧
    (Kept w → (Admits w a ↔ Kept w')) := by
  -- a step that leaves the buffers where they are needs nothing
  have haside {w' : World} (hadmits : Admits w a) (hs : step w a = some w') (hw : Aside w w') :
      ∃ w', step w a = some w' ∧ Sound w' ∧ (Kept w → (Admits w a ↔ Kept w')) :=
    ⟨w', hs, hw.sound h, fun hk => ⟨fun _ => hw.kept hk, fun _ => hadmits⟩⟩
  cases a with
  | construct bytes =>
    obtain ⟨w', hs, hown⟩ := step_construct h bytes
    exact haside trivial hs hown.toAside
  | slice i size =>
    obtain ⟨w', hs, hown⟩ := step_slice h i size
    exact haside trivial hs hown.toAside
  | destroy i =>
    obtain ⟨w', hs, hown⟩ := step_destroy h i
    exact haside trivial hs hown.toAside
  | fin =>
    obtain ⟨w', hs, hfin⟩ := step_fin h
    exact haside trivial hs hfin
  | add i =>
    obtain ⟨w', hs, hsound, hkeep⟩ := step_add h i
    exact ⟨w', hs, hsound, fun hk => ⟨fun _ => hkeep hk, fun _ => trivial⟩⟩
  | ack size =>
    obtain ⟨w', hs, ⟨hlarge, rfl⟩ | ⟨hle, hacked⟩⟩ := step_ack_cases h size
    · exact ⟨w', hs, h, fun hk => ⟨fun _ => hk, fun _ hle => absurd hle (Nat.not_le.mpr hlarge)⟩⟩
    · refine ⟨w', hs, hacked.sound h, fun hk => Iff.trans ?_ (hacked.kept_iff h hk).symm⟩
      exact ⟨fun ha => ha hle, fun hcond _ => hcond⟩
  | send answers =>
    obtain ⟨w', hs, ⟨hnone, hunmoved⟩ | ⟨node, rest, n, hbuffers, hle, hslices, hsliced⟩⟩ :=
      step_send_cases h answers
    · exact haside (fun node _ hall => nomatch hnone.symm.trans hall) hs (hunmoved.aside h)
    · obtain ⟨new, hmoved⟩ := hsliced.moved h hbuffers hle
      refine ⟨w', hs, hmoved.sound hsliced.remembered h hbuffers, fun hk =>
        Iff.trans ?_ (hmoved.kept_iff hsliced.remembered h hk hbuffers hle).symm⟩
      unfold Admits
      dsimp only
      rw [hbuffers, hslices]
      constructor
      · rintro ha rfl
        exact ha node rfl rfl
      · intro hcond node' hnode' hall
        cases hnode'
        cases hall
        exact hcond rfl

/-- A step keeps the heap sound, also one that loses what is remembered. -/
theorem step_sound (h : Sound w) (a : Action) (hs : step w a = some w') : Sound w' := by
  obtain ⟨w'', hs'', hsound, -⟩ := step_cases h a
  cases hs.symm.trans hs''
  exact hsound

/-- **The condition is exactly what a step needs.** -/
theorem step_kept (h : Sound w) (hk : Kept w) (a : Action) :
    Admits w a ↔ ∃ w', step w a = some w' ∧ Kept w' := by
  obtain ⟨w', hs, -, hiff⟩ := step_cases h a
  refine (hiff hk).trans ⟨fun hk' => ⟨w', hs, hk'⟩, fun ⟨w'', hs'', hk''⟩ => ?_⟩
  cases hs.symm.trans hs''
  exact hk''

/-! ## Runs -/

/-- A stream with nothing in it, and an application without buffers. -/
def start (id : UInt64) : World := { stream := { id } }

theorem sound_start (id : UInt64) : Sound (start id) := by
  have hvalid : Valid (start id).heap [] := ⟨nofun, nofun, fun _ => rfl, nofun, fun _ _ => rfl⟩
  exact ⟨hvalid, List.nodup_nil, nofun, nofun, nofun, nofun⟩

/-- **What ngtcp2 remembers stays where it lay in exactly those runs whose steps are admitted**, whatever
buffers the application has added and whatever it does with the others. -/
theorem kept_always_iff (id : UInt64) (actions : List Action) :
    Run.Always step (fun _ _ => Kept) (start id) actions ↔
      Run.Meets step Admits (start id) actions :=
  Run.always_iff (I := fun w => Sound w ∧ Kept w) (fun _ a hi => step_kept hi.1 hi.2 a)
    (fun _ a _ hi hs hk => ⟨step_sound hi.1 a hs, hk⟩) ⟨sound_start id, nofun⟩

/-- A short buffer that is written whole is copied to `keepalive_` and lost. -/
theorem kept_not : ¬ ∀ (id : UInt64) (actions : List Action),
    Run.Always step (fun _ _ => Kept) (start id) actions := by
  intro h
  have hlast := (h 0 ([.construct [1], .add 0] ++ [.send { write := .ok ({}, some 1) }])).last rfl rfl
  obtain ⟨node, hnode, i, hloc, -⟩ := hlast (.node 0 0, 1) List.mem_cons_self
  obtain rfl := List.mem_singleton.mp hnode
  cases hloc

end Bnl.Quic.Keepalive
