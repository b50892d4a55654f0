import Bnl.Base.Storage

/-!
# Laws of storage

A heap whose blocks count the buffers that refer to them (`Valid`) frees a block with the last of those buffers,
and never before. So what the functions of a buffer do to the bytes is what they do where storage is left out,
and the bytes of all other buffers stay where they are.

The idea of the proof: `Valid` is about a heap and the list of all buffers there are. A function that takes a
buffer and returns others is right if the list with the one may be replaced by the list with the others, while
the heaps agree on the rest (`Agree`). Lists of buffers are then handled one node at a time; `View` goes on with
them.

**What it does not establish.** A count is a natural number here; at 2^32 buffers of one block the code's would
wrap (`Ownership` asks for fewer). Nothing is said of a buffer that is used after it was destroyed.
-/

namespace Bnl.Base.Storage

/-! ## A heap and its buffers -/

/-- The buffers lie within their places, and each block counts those that refer to it. -/
structure Valid (m : Heap) (bs : List Buffer) : Prop where
  range : ∀ b ∈ bs, b.begin_ ≤ b.end_ ∧ b.end_ ≤ (b.contents m).length
  short : ∀ b ∈ bs, ∀ bytes, b.place = .sso bytes → bytes.length ≤ Buffer.SSO_THRESHOLD
  count : ∀ r, ((m.blocks r).map Block.rc).getD 0 = bs.countP (Buffer.refers r)
  live : ∀ r block, m.blocks r = some block → block.rc ≠ 0
  fresh : ∀ r, m.next ≤ r → m.blocks r = none

/-- What lies under the buffers is the same in both heaps. -/
def Agree (m m' : Heap) (bs : List Buffer) : Prop := ∀ b ∈ bs, b.contents m' = b.contents m

variable {m m' : Heap} {b b' : Buffer} {bs : List Buffer} {r n : Nat}

namespace Agree

/-- A heap agrees with itself. -/
theorem refl (m : Heap) (bs : List Buffer) : Agree m m bs := fun _ _ => rfl

end Agree

/-- A buffer refers to a block if it lies there. -/
theorem Buffer.refers_iff : b.refers r = true ↔ b.place = .block r := decide_eq_true_iff

/-- The bytes of a buffer are those of what it lies in. -/
theorem Buffer.bytes_congr (h : b.contents m' = b.contents m) : b.bytes m' = b.bytes m := by
  unfold bytes
  rw [h]

/-- Where a buffer begins in its block does not change what the block has. -/
theorem Buffer.contents_place (h : b.place = b'.place) : b.contents m = b'.contents m := by
  unfold contents
  rw [h]

/-- A byte of the buffer is one of its place. -/
theorem Buffer.getElem_contents {i : Nat} {v : UInt8} (h : (b.bytes m)[i]? = some v) :
    (b.contents m)[b.begin_ + i]? = some v := by
  unfold bytes at h
  rw [List.getElem?_drop, List.getElem?_take] at h
  split at h
  · exact h
  · cases h

/-- A block that is referred to may change its count. -/
theorem Buffer.contents_update {left : Option Block}
    (h : b.refers r = true → left.map Block.bytes = (m.blocks r).map Block.bytes) :
    b.contents { m with blocks := Function.update m.blocks r left } = b.contents m := by
  obtain ⟨place, begin_, end_⟩ := b
  cases place with
  | sso bytes => rfl
  | block r' =>
    unfold contents
    dsimp only
    by_cases hr : r' = r
    · subst hr
      rw [Function.update_self, h (refers_iff.mpr rfl)]
    · rw [Function.update_of_ne hr]

namespace Valid

/-- It does not matter in which order the buffers are. -/
theorem perm (h : Valid m bs) {bs' : List Buffer} (hperm : bs.Perm bs') : Valid m bs' :=
  ⟨fun b hb => h.range b (hperm.mem_iff.mpr hb), fun b hb => h.short b (hperm.mem_iff.mpr hb),
    fun r => (h.count r).trans (hperm.countP_eq _), h.live, h.fresh⟩

/-- A block that is referred to is allocated, and counts its buffers. -/
theorem block (h : Valid m bs) (hb : b ∈ bs) (hr : b.place = .block r) :
    ∃ block, m.blocks r = some block ∧ block.rc = bs.countP (Buffer.refers r) := by
  have hcount := h.count r
  match hblock : m.blocks r with
  | none =>
    rw [hblock] at hcount
    have hpos : 0 < bs.countP (Buffer.refers r) :=
      List.countP_pos_iff.mpr ⟨b, hb, Buffer.refers_iff.mpr hr⟩
    exact absurd hcount (Nat.ne_of_lt hpos)
  | some block =>
    rw [hblock] at hcount
    exact ⟨block, rfl, hcount⟩

/-- A buffer has as many bytes as it says. -/
theorem length_bytes (h : Valid m bs) (hb : b ∈ bs) : (b.bytes m).length = b.size := by
  obtain ⟨-, hend⟩ := h.range b hb
  unfold Buffer.bytes Buffer.size
  rw [List.length_drop, List.length_take, Nat.min_eq_left hend]

/-- **A block is freed with the last buffer that refers to it, and never before.** -/
theorem destroy (h : Valid m (b :: bs)) :
    Valid (b.destroy m) bs ∧ Agree m (b.destroy m) bs ∧ (b.destroy m).next = m.next := by
  unfold Buffer.destroy
  match hplace : b.place with
  | .sso bytes =>
    refine ⟨⟨fun b' hb' => h.range b' (List.mem_cons_of_mem _ hb'),
      fun b' hb' => h.short b' (List.mem_cons_of_mem _ hb'), fun r => ?_, h.live, h.fresh⟩,
      .refl m bs, rfl⟩
    have hnot : ¬ b.refers r = true := fun hr => nomatch hplace.symm.trans (Buffer.refers_iff.mp hr)
    exact (h.count r).trans (List.countP_cons_of_neg hnot)
  | .block r =>
    obtain ⟨block, hblock, hrc⟩ := h.block List.mem_cons_self hplace
    rw [List.countP_cons_of_pos (Buffer.refers_iff.mpr hplace)] at hrc
    dsimp only
    rw [hblock]
    dsimp only
    have hleft : block.rc - 1 = bs.countP (Buffer.refers r) := by rw [hrc, Nat.add_sub_cancel]
    have hagree : Agree m { m with blocks := Function.update m.blocks r block.release } bs := by
      refine fun b' hb' => Buffer.contents_update fun hr => ?_
      have hpos : 0 < bs.countP (Buffer.refers r) := List.countP_pos_iff.mpr ⟨b', hb', hr⟩
      unfold Block.release
      rw [if_neg (by omega), hblock]
      rfl
    refine ⟨⟨fun b' hb' => ?_, fun b' hb' => h.short b' (List.mem_cons_of_mem _ hb'), fun r' => ?_,
      fun r' block' hblock' => ?_, fun r' hr' => ?_⟩, hagree, rfl⟩
    · rw [hagree b' hb']
      exact h.range b' (List.mem_cons_of_mem _ hb')
    · dsimp only
      by_cases hr : r' = r
      · subst hr
        rw [Function.update_self, ← hleft]
        unfold Block.release
        split
        · next hzero => exact hzero.symm
        · rfl
      · rw [Function.update_of_ne hr, h.count r', List.countP_cons_of_neg]
        intro hrefers
        have := Buffer.refers_iff.mp hrefers
        rw [hplace] at this
        exact hr (Place.block.inj this).symm
    · dsimp only at hblock'
      by_cases hr : r' = r
      · subst hr
        rw [Function.update_self] at hblock'
        unfold Block.release at hblock'
        split at hblock'
        · cases hblock'
        · next hne =>
          cases hblock'
          exact hne
      · rw [Function.update_of_ne hr] at hblock'
        exact h.live r' block' hblock'
    · have hne : r' ≠ r := by
        rintro rfl
        exact nomatch (h.fresh r' hr').symm.trans hblock
      exact (Function.update_of_ne hne _ _).trans (h.fresh r' hr')

/-- The same buffers, one of them further on. -/
theorem consume (h : Valid m (b :: bs)) (hn : n ≤ b.size) : Valid m (b.consume n :: bs) := by
  refine ⟨fun b' hb' => ?_, fun b' hb' => ?_, fun r => ?_, h.live, h.fresh⟩
  · rcases List.mem_cons.mp hb' with rfl | hb'
    · obtain ⟨hbegin, hend⟩ := h.range b List.mem_cons_self
      refine ⟨?_, hend⟩
      unfold Buffer.consume Buffer.size at *
      dsimp only
      omega
    · exact h.range b' (List.mem_cons_of_mem _ hb')
  · rcases List.mem_cons.mp hb' with rfl | hb'
    · exact h.short b List.mem_cons_self
    · exact h.short b' (List.mem_cons_of_mem _ hb')
  · rw [h.count r]
    rfl

/-- A buffer that keeps its bytes in itself is no one else's matter. -/
theorem cons_sso (h : Valid m bs) {bytes : List UInt8} (hplace : b.place = .sso bytes)
    (hbytes : bytes.length ≤ Buffer.SSO_THRESHOLD) (hrange : b.begin_ ≤ b.end_ ∧ b.end_ ≤ bytes.length) :
    Valid m (b :: bs) := by
  refine ⟨fun b' hb' => ?_, fun b' hb' bytes' hbytes' => ?_, fun r => ?_, h.live, h.fresh⟩
  · rcases List.mem_cons.mp hb' with rfl | hb'
    · unfold Buffer.contents
      rw [hplace]
      exact hrange
    · exact h.range b' hb'
  · rcases List.mem_cons.mp hb' with rfl | hb'
    · cases hplace.symm.trans hbytes'
      exact hbytes
    · exact h.short b' hb' bytes' hbytes'
  · rw [h.count r, List.countP_cons_of_neg]
    exact fun hr => nomatch hplace.symm.trans (Buffer.refers_iff.mp hr)

/-- Another buffer of a block. -/
theorem cons_block (h : Valid m (b :: bs)) (hplace : b.place = .block r) {block : Block}
    (hblock : m.blocks r = some block) (hplace' : b'.place = .block r)
    (hrange : b'.begin_ ≤ b'.end_ ∧ b'.end_ ≤ b.end_) :
    let m' := { m with blocks := Function.update m.blocks r (some { block with rc := block.rc + 1 }) }
    Valid m' (b' :: b :: bs) ∧ Agree m m' (b :: bs) := by
  intro m'
  have hagree (b'' : Buffer) : b''.contents m' = b''.contents m :=
    Buffer.contents_update fun _ => by rw [hblock]; rfl
  refine ⟨⟨fun b'' hb'' => ?_, fun b'' hb'' bytes hbytes => ?_, fun r' => ?_, fun r' block' hblock' => ?_,
    fun r' hr' => ?_⟩, fun b'' _ => hagree b''⟩
  · rw [hagree]
    rcases List.mem_cons.mp hb'' with rfl | hb''
    · refine ⟨hrange.1, Nat.le_trans hrange.2 ?_⟩
      have hsame : b''.contents m = b.contents m := by
        unfold Buffer.contents
        rw [hplace, hplace']
      rw [hsame]
      exact (h.range b List.mem_cons_self).2
    · exact h.range b'' hb''
  · rcases List.mem_cons.mp hb'' with rfl | hb''
    · cases hplace'.symm.trans hbytes
    · exact h.short b'' hb'' bytes hbytes
  · by_cases hr : r' = r
    · subst hr
      have hcount := h.count r'
      rw [hblock] at hcount
      rw [List.countP_cons_of_pos (Buffer.refers_iff.mpr hplace')]
      show ((Function.update m.blocks r' _ r').map Block.rc).getD 0 = _
      rw [Function.update_self]
      exact congrArg Nat.succ hcount
    · rw [List.countP_cons_of_neg fun hrefers => hr (Place.block.inj
        ((Buffer.refers_iff.mp hrefers).symm.trans hplace'))]
      show ((Function.update m.blocks r _ r').map Block.rc).getD 0 = _
      rw [Function.update_of_ne hr]
      exact h.count r'
  · by_cases hr : r' = r
    · subst hr
      have hblock' : Function.update m.blocks r' _ r' = some block' := hblock'
      rw [Function.update_self] at hblock'
      cases hblock'
      exact Nat.succ_ne_zero _
    · exact h.live r' block' ((Function.update_of_ne hr _ _).symm.trans hblock')
  · have hne : r' ≠ r := by
      rintro rfl
      exact nomatch (h.fresh r' hr').symm.trans hblock
    exact (Function.update_of_ne hne _ _).trans (h.fresh r' hr')

/-- A block that is allocated for a buffer. -/
theorem construct (h : Valid m bs) (bytes : List UInt8) :
    let r := Buffer.construct m bytes
    Valid r.2 (r.1 :: bs) ∧ Agree m r.2 bs ∧ r.1.bytes r.2 = bytes ∧ m.next ≤ r.2.next ∧
      ∀ a, r.1.place = .block a → ∀ b ∈ bs, ¬ b.refers a = true := by
  unfold Buffer.construct Buffer.sso
  split
  · next hshort =>
    refine ⟨h.cons_sso rfl (of_decide_eq_true hshort) ⟨Nat.zero_le _, Nat.le_refl _⟩, .refl m bs, ?_,
      Nat.le_refl _, nofun⟩
    show (bytes.take bytes.length).drop 0 = bytes
    rw [List.take_length, List.drop_zero]
  · have hnone := h.fresh m.next (Nat.le_refl _)
    have hunused {b : Buffer} (hb : b ∈ bs) : ¬ b.refers m.next = true := by
      intro hr
      obtain ⟨block, hblock, -⟩ := h.block hb (Buffer.refers_iff.mp hr)
      exact nomatch hnone.symm.trans hblock
    have hagree : Agree m
        { m with blocks := Function.update m.blocks m.next (some ⟨1, bytes⟩) } bs :=
      fun b hb => Buffer.contents_update fun hr => absurd hr (hunused hb)
    have hcontents : Buffer.contents
        { blocks := Function.update m.blocks m.next (some ⟨1, bytes⟩), next := m.next + 1 }
        { place := .block m.next, end_ := bytes.length } = bytes := by
      unfold Buffer.contents
      dsimp only
      rw [Function.update_self]
      rfl
    refine ⟨⟨fun b hb => ?_, fun b hb bytes' hbytes' => ?_, fun r => ?_, fun r block hblock => ?_,
      fun r hr => ?_⟩, hagree, ?_, Nat.le_succ _, fun a ha b hb => ?_⟩
    · rcases List.mem_cons.mp hb with rfl | hb
      · rw [hcontents]
        exact ⟨Nat.zero_le _, Nat.le_refl _⟩
      · exact (hagree b hb).symm ▸ h.range b hb
    · rcases List.mem_cons.mp hb with rfl | hb
      · cases hbytes'
      · exact h.short b hb bytes' hbytes'
    · dsimp only
      by_cases hr : r = m.next
      · subst hr
        have hzero : bs.countP (Buffer.refers m.next) = 0 :=
          List.countP_eq_zero.mpr fun b hb => hunused hb
        rw [Function.update_self, List.countP_cons_of_pos (Buffer.refers_iff.mpr rfl), hzero]
        rfl
      · rw [Function.update_of_ne hr, List.countP_cons_of_neg fun hrefers => hr (Place.block.inj
          (Buffer.refers_iff.mp hrefers)).symm]
        exact h.count r
    · dsimp only at hblock
      by_cases hr : r = m.next
      · subst hr
        rw [Function.update_self] at hblock
        cases hblock
        exact Nat.one_ne_zero
      · rw [Function.update_of_ne hr] at hblock
        exact h.live r block hblock
    · have hlt : m.next < r := hr
      exact (Function.update_of_ne (Nat.ne_of_gt hlt) _ _).trans (h.fresh r (Nat.le_of_lt hlt))
    · unfold Buffer.bytes
      rw [hcontents, List.take_length, List.drop_zero]
    · cases ha
      exact hunused hb

/-- **A slice is the next bytes**, and all buffers stay where they are. -/
theorem slice (h : Valid m (b :: bs)) (hn : n ≤ b.size) :
    let r := b.slice m n
    Valid r.2.2 (r.1 :: r.2.1 :: bs) ∧ Agree m r.2.2 (b :: bs) ∧ r.1.bytes r.2.2 = (b.bytes m).take n ∧
      r.2.1 = b.consume n ∧ m.next ≤ r.2.2.next ∧
      (n ≤ Buffer.SSO_THRESHOLD ∧ (∃ bytes, r.1.place = .sso bytes) ∨
        Buffer.SSO_THRESHOLD < n ∧ ∃ a, b.place = .block a ∧ r.1.place = .block a) := by
  unfold Buffer.slice
  split
  · next hzero =>
    subst hzero
    refine ⟨h.cons_sso rfl (Nat.zero_le _) ⟨Nat.le_refl _, Nat.le_refl _⟩, .refl _ _, ?_, rfl,
      Nat.le_refl _, .inl ⟨Nat.zero_le _, _, rfl⟩⟩
    rw [List.take_zero]
    rfl
  have hbytes := h.length_bytes List.mem_cons_self
  split
  · next hshort =>
    -- a copy, which is as short as the slice
    have hlength : ((b.bytes m).take n).length = n := by
      rw [List.length_take, hbytes, Nat.min_eq_left hn]
    have hsso : Buffer.construct m ((b.bytes m).take n) =
        ({ place := .sso ((b.bytes m).take n), end_ := ((b.bytes m).take n).length }, m) := by
      unfold Buffer.construct
      rw [hlength, if_pos hshort]
    obtain ⟨hvalid, -, hcopy, -⟩ := (h.consume hn).construct ((b.bytes m).take n)
    rw [hsso] at hvalid hcopy ⊢
    exact ⟨hvalid, .refl _ _, hcopy, rfl, Nat.le_refl _, .inl ⟨of_decide_eq_true hshort, _, rfl⟩⟩
  · next hlong =>
    have hlt : Buffer.SSO_THRESHOLD < n := Nat.lt_of_not_le fun hle => hlong (decide_eq_true hle)
    obtain ⟨hbegin, hend⟩ := h.range b List.mem_cons_self
    match hplace : b.place with
    | .sso bytes =>
      -- a buffer that keeps its bytes in itself is too short
      have hshort := h.short b List.mem_cons_self bytes hplace
      unfold Buffer.contents at hend
      rw [hplace] at hend
      have hsize : b.size ≤ bytes.length := Nat.le_trans (Nat.sub_le _ _) hend
      exact absurd (Nat.lt_of_lt_of_le hlt (Nat.le_trans hn (Nat.le_trans hsize hshort)))
        (Nat.lt_irrefl _)
    | .block r =>
      obtain ⟨block, hblock, -⟩ := h.block List.mem_cons_self hplace
      have hle : b.begin_ + n ≤ b.end_ := by
        unfold Buffer.size at hn
        omega
      obtain ⟨hvalid, hagree⟩ := (h.consume hn).cons_block hplace hblock
        (rfl : Buffer.place ⟨.block r, b.begin_, b.begin_ + n⟩ = .block r)
        ⟨Nat.le_add_right _ _, hle⟩
      have hcontents := hagree (b.consume n) List.mem_cons_self
      unfold Buffer.share
      rw [hplace]
      dsimp only
      rw [hblock]
      refine ⟨hvalid, fun b' hb' => ?_, ?_, rfl, Nat.le_refl _, .inr ⟨hlt, r, rfl, rfl⟩⟩
      · rcases List.mem_cons.mp hb' with rfl | hb'
        · exact hcontents
        · exact hagree b' (List.mem_cons_of_mem _ hb')
      · have hsame : Buffer.contents _ ⟨.block r, b.begin_, b.begin_ + n⟩ = b.contents m :=
          Eq.trans (by unfold Buffer.contents Buffer.consume; rw [hplace]) hcontents
        unfold Buffer.bytes
        rw [hsame, List.drop_take, List.drop_take, List.take_take, Nat.add_sub_cancel_left,
          show min n (b.end_ - b.begin_) = n from Nat.min_eq_left hn]

/-- A buffer that is moved keeps its bytes. -/
theorem move (h : Valid m (b :: bs)) :
    Valid m (b.move m :: bs) ∧ (b.move m).bytes m = b.bytes m := by
  have hbytes := h.length_bytes List.mem_cons_self
  unfold Buffer.move
  match hplace : b.place with
  | .block r => exact ⟨h, rfl⟩
  | .sso bytes =>
    have hrest : Valid m bs := by
      have hdestroy := h.destroy.1
      unfold Buffer.destroy at hdestroy
      rw [hplace] at hdestroy
      exact hdestroy
    have hshort : (b.bytes m).length ≤ Buffer.SSO_THRESHOLD := by
      refine Nat.le_trans ?_ (h.short b List.mem_cons_self bytes hplace)
      unfold Buffer.bytes Buffer.contents
      rw [hplace, List.length_drop, List.length_take]
      exact Nat.le_trans (Nat.sub_le _ _) (Nat.min_le_right _ _)
    refine ⟨hrest.cons_sso rfl hshort ⟨Nat.zero_le _, Nat.le_of_eq hbytes.symm⟩, ?_⟩
    show ((b.bytes m).take b.size).drop 0 = b.bytes m
    rw [← hbytes, List.take_length, List.drop_zero]

/-- An address that is taken. -/
theorem next (h : Valid m bs) : Valid { m with next := m.next + 1 } bs :=
  ⟨h.range, h.short, h.count, h.live, fun r hr => h.fresh r (Nat.le_of_lt hr)⟩

end Valid

/-! ## Lists of buffers -/

namespace Buffers

/-- The buffers of a list. -/
def live (s : Buffers) : List Buffer := s.map Node.buffer

/-- The list behind the empty buffers at its front. -/
def kept (s : Buffers) : Buffers := s.dropWhile Node.empty

variable {s : Buffers} {node : Node}

/-- An empty node in front is dropped. -/
theorem kept_cons (h : node.empty = true) : kept (node :: s) = kept s := by
  unfold kept
  rw [List.dropWhile_cons_of_pos h]

/-- A node with bytes is not. -/
theorem kept_cons_of_not (h : ¬ node.empty = true) : kept (node :: s) = node :: s := by
  unfold kept
  rw [List.dropWhile_cons_of_neg h]

/-- What is kept was there. -/
theorem mem_of_kept (h : node ∈ kept s) : node ∈ s := (List.dropWhile_sublist _).mem h

/-- What `discard` destroys is nothing that is left. -/
theorem discard_valid (h : Valid m (live s ++ bs)) :
    let r := discard m s
    r.1 = kept s ∧ Valid r.2 (live r.1 ++ bs) ∧ Agree m r.2 (live r.1 ++ bs) ∧ r.2.next = m.next := by
  induction s generalizing m with
  | nil => exact ⟨rfl, h, .refl _ _, rfl⟩
  | cons node s ih =>
    unfold discard
    by_cases hempty : node.empty = true
    · rw [if_pos hempty, kept_cons hempty]
      obtain ⟨hvalid, hagree, hnext⟩ := Valid.destroy h
      obtain ⟨hkept, hvalid', hagree', hnext'⟩ := ih hvalid
      refine ⟨hkept, hvalid', fun b hb => ?_, hnext'.trans hnext⟩
      refine (hagree' b hb).trans (hagree b ?_)
      rcases List.mem_append.mp hb with hb | hb
      · rw [hkept] at hb
        obtain ⟨node', hnode', rfl⟩ := List.mem_map.mp hb
        exact List.mem_append_left _ (List.mem_map_of_mem (mem_of_kept hnode'))
      · exact List.mem_append_right _ hb
    · rw [if_neg hempty, kept_cons_of_not hempty]
      exact ⟨rfl, h, .refl _ _, rfl⟩

/-- The slice of a list is the slice of its first buffer, where that is long enough. -/
theorem slice_cons (hn : n ≤ node.buffer.size) (hne : kept (node :: s) ≠ []) :
    slice m (node :: s) n =
      let r := node.buffer.slice m n
      let r' := discard r.2.2 (⟨node.address, r.2.1⟩ :: s)
      (r.1, r') := by
  by_cases hempty : node.empty = true
  · -- nothing is sliced off, and the empty buffers are discarded
    obtain rfl : n = 0 := Nat.le_zero.mp (Nat.le_trans hn (Nat.le_of_eq (beq_iff_eq.mp hempty)))
    have hsplit : (node :: s).takeWhile Node.empty ++ kept (node :: s) =
        node :: s := List.takeWhile_append_dropWhile
    unfold slice
    match hkept : kept (node :: s) with
    | [] => exact absurd hkept hne
    | node' :: rest =>
      rw [hkept] at hsplit
      rw [show (node :: s).dropWhile Node.empty = node' :: rest from hkept]
      have hfind : findEnd (node' :: rest) 0 = ([], node' :: rest, 0) := if_neg (Nat.not_lt_zero _)
      rw [hfind]
      show (({} : Buffer), discard m (_ ++ node' :: rest)) = ({}, discard m (node :: s))
      rw [hsplit]
  · unfold slice
    rw [show (node :: s).dropWhile Node.empty = node :: s from
      kept_cons_of_not hempty]
    have hfind : findEnd (node :: s) n = ([], node :: s, n) := if_neg (Nat.not_lt.mpr hn)
    rw [hfind, List.takeWhile_cons_of_neg hempty]
    rfl

/-! ### Consuming -/

theorem consumeFrom_zero (s : Buffers) : consumeFrom s 0 = s := by
  cases s with
  | nil => rfl
  | cons node s => exact if_pos rfl

/-- Consuming takes from the first node what is there, and the rest from those behind it. -/
theorem consumeFrom_cons (hn : n ≠ 0) : consumeFrom (node :: s) n =
    { node with buffer := node.buffer.consume (min n node.buffer.size) } ::
      consumeFrom s (n - min n node.buffer.size) := if_neg hn

/-- Consuming leaves every buffer in its place, shorter. -/
theorem consumeFrom_valid (h : Valid m (live s ++ bs)) : Valid m (live (consumeFrom s n) ++ bs) := by
  induction s generalizing n bs with
  | nil => exact h
  | cons node s ih =>
    by_cases hn : n = 0
    · rw [hn, consumeFrom_zero]
      exact h
    · rw [consumeFrom_cons hn]
      have hhead : Valid m (node.buffer.consume (min n node.buffer.size) :: (live s ++ bs)) :=
        Valid.consume h (Nat.min_le_right _ _)
      exact (ih (hhead.perm List.perm_middle.symm)).perm List.perm_middle

/-- What is consumed stays where it is. -/
theorem place_of_consumeFrom {node' : Node} (h : node' ∈ consumeFrom s n) :
    ∃ node ∈ s, node'.address = node.address ∧ node'.buffer.place = node.buffer.place := by
  induction s generalizing n with
  | nil => cases h
  | cons node s ih =>
    by_cases hn : n = 0
    · rw [hn, consumeFrom_zero] at h
      exact ⟨node', h, rfl, rfl⟩
    · rw [consumeFrom_cons hn] at h
      rcases List.mem_cons.mp h with rfl | h
      · exact ⟨node, List.mem_cons_self, rfl, rfl⟩
      · obtain ⟨node, hnode, hplace⟩ := ih h
        exact ⟨node, List.mem_cons_of_mem _ hnode, hplace⟩

theorem consumeFrom_addresses (s : Buffers) (n : Nat) :
    (consumeFrom s n).map Node.address = s.map Node.address := by
  induction s generalizing n with
  | nil => rfl
  | cons node s ih =>
    by_cases hn : n = 0
    · rw [hn, consumeFrom_zero]
    · rw [consumeFrom_cons hn, List.map_cons, List.map_cons, ih]

/-- A buffer of the block ends behind the first `n` bytes of the list. -/
def endsBehind (r : Address) : Buffers → Nat → Bool
  | [], _ => false
  | node :: s, n =>
    node.buffer.refers r && n < node.buffer.size || endsBehind r s (n - node.buffer.size)

/-- The buffers that refer to a block have bytes. -/
def Filled (s : Buffers) : Prop := ∀ node ∈ s, ∀ r, node.buffer.refers r = true → 0 < node.buffer.size

/-- A node with bytes is kept. -/
theorem mem_kept (h : node ∈ s) (hsize : 0 < node.buffer.size) : node ∈ kept s := by
  have hempty : ¬ node.empty = true := fun hempty => Nat.ne_of_gt hsize (beq_iff_eq.mp hempty)
  induction s with
  | nil => cases h
  | cons node' s ih =>
    by_cases hempty' : node'.empty = true
    · rw [kept_cons hempty']
      rcases List.mem_cons.mp h with rfl | h
      · exact absurd hempty' hempty
      · exact ih h
    · rw [kept_cons_of_not hempty']
      exact h

/-- A list that has bytes has a buffer that is kept. -/
theorem kept_ne (h : ¬ s.empty = true) : kept s ≠ [] := by
  intro hkept
  refine h (beq_iff_eq.mpr ?_)
  clear h
  induction s with
  | nil => rfl
  | cons node s ih =>
    by_cases hempty : node.empty = true
    · rw [kept_cons hempty] at hkept
      have hzero : node.buffer.size = 0 := beq_iff_eq.mp hempty
      show node.buffer.size + size s = 0
      rw [hzero, ih hkept]
    · rw [kept_cons_of_not hempty] at hkept
      cases hkept

/-- Where nothing is acknowledged, any buffer of the block ends behind it. -/
theorem endsBehind_zero_iff (h : Filled s) :
    endsBehind r s 0 = true ↔ ∃ node ∈ s, node.buffer.refers r = true := by
  induction s with
  | nil => exact ⟨nofun, nofun⟩
  | cons node s ih =>
    have hrest := ih fun node' hnode' => h node' (List.mem_cons_of_mem _ hnode')
    unfold endsBehind
    rw [Nat.zero_sub, Bool.or_eq_true, Bool.and_eq_true, decide_eq_true_iff, hrest,
      List.exists_mem_cons_iff]
    refine or_congr ⟨And.left, fun hr => ⟨hr, h node List.mem_cons_self r hr⟩⟩ Iff.rfl

/-- **A block is kept past an acknowledgement** where one of its buffers ends behind it. -/
theorem kept_consume_iff (h : Filled s) : (∃ node ∈ kept (consumeFrom s n), node.buffer.refers r = true) ↔
    endsBehind r s n = true := by
  have hzero {s : Buffers} (h : Filled s) : (∃ node ∈ kept s, node.buffer.refers r = true) ↔
      endsBehind r s 0 = true := by
    rw [endsBehind_zero_iff h]
    exact ⟨fun ⟨node, hnode, hr⟩ => ⟨node, mem_of_kept hnode, hr⟩,
      fun ⟨node, hnode, hr⟩ => ⟨node, mem_kept hnode (h node hnode r hr), hr⟩⟩
  induction s generalizing n with
  | nil => exact ⟨nofun, nofun⟩
  | cons node s ih =>
    have hrest : Filled s := fun node' hnode' => h node' (List.mem_cons_of_mem _ hnode')
    by_cases hn : n = 0
    · rw [hn, consumeFrom_zero]
      exact hzero h
    rw [consumeFrom_cons hn]
    unfold endsBehind
    rcases Nat.lt_or_ge n node.buffer.size with hlt | hge
    · -- the buffer is consumed in part
      rw [Nat.min_eq_left (Nat.le_of_lt hlt), Nat.sub_self, consumeFrom_zero, kept_cons_of_not,
        List.exists_mem_cons_iff, Nat.sub_eq_zero_of_le (Nat.le_of_lt hlt), Bool.or_eq_true, Bool.and_eq_true,
        decide_eq_true_iff, endsBehind_zero_iff hrest]
      · exact or_congr ⟨fun hr => ⟨hr, hlt⟩, And.left⟩ Iff.rfl
      · intro hempty
        have hsize : (node.buffer.consume n).size = 0 := beq_iff_eq.mp hempty
        unfold Buffer.consume Buffer.size at hsize
        unfold Buffer.size at hlt
        dsimp only at hsize
        omega
    · -- the buffer goes
      rw [Nat.min_eq_right hge, kept_cons, Bool.or_eq_true, Bool.and_eq_true, decide_eq_true_iff]
      · refine (ih hrest).trans ?_
        exact ⟨.inr, fun h => h.resolve_left fun hr => Nat.not_lt.mpr hge hr.2⟩
      · refine beq_iff_eq.mpr ?_
        show node.buffer.end_ - (node.buffer.begin_ + (node.buffer.end_ - node.buffer.begin_)) = 0
        omega

/-- Behind the empty nodes in front there are none. -/
theorem filled_consume (h : Filled s) : Filled (kept (consumeFrom s n)) := by
  induction s generalizing n with
  | nil => exact nofun
  | cons node s ih =>
    have hrest : Filled s := fun node' hnode' => h node' (List.mem_cons_of_mem _ hnode')
    by_cases hn : n = 0
    · rw [hn, consumeFrom_zero]
      exact fun node' hnode' => h node' (mem_of_kept hnode')
    rw [consumeFrom_cons hn]
    rcases Nat.lt_or_ge n node.buffer.size with hlt | hge
    · rw [Nat.min_eq_left (Nat.le_of_lt hlt), Nat.sub_self, consumeFrom_zero]
      intro node' hnode' r hr
      rcases List.mem_cons.mp (mem_of_kept hnode') with rfl | hnode'
      · unfold Buffer.consume Buffer.size
        unfold Buffer.size at hlt
        dsimp only
        omega
      · exact hrest node' hnode' r hr
    · rw [Nat.min_eq_right hge, kept_cons]
      · exact ih hrest
      · refine beq_iff_eq.mpr ?_
        show node.buffer.end_ - (node.buffer.begin_ + (node.buffer.end_ - node.buffer.begin_)) = 0
        omega

end Buffers

end Bnl.Base.Storage
