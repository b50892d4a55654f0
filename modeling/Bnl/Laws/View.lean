import Bnl.Laws.Storage

/-!
# Buffers without their storage

What the functions of `base::buffers` do to a list whose buffers lie on a heap is, seen as bytes, what they do
to the list of those bytes; and the heap is still that of its buffers.

**The law** of each function has this form: on a heap that is valid for the buffers of the list and some others
`bs`, the view of what the function leaves is what the function of `Base.Buffers` leaves of the view, and the
heap it leaves is valid for what is then there and the same `bs`. The others are whoever else holds buffers of
the same blocks, so that the laws of two lists may follow one another on one heap.

Most of it is that each function reads sizes only, which the view keeps; `slice_view` takes the two ways a slice
is made apart, a share of the first buffer's block and a copy of several. Nothing is said of which blocks are
freed: that is the subject of `Storage`.
-/

namespace Bnl.Base.Storage

variable {m m' : Heap} {bs : List Buffer} {n : Nat}

namespace Buffers

variable {s s' : Buffers} {node : Node}

/-! ## One buffer -/

/-- A buffer of a valid list covers as many bytes as its size says. -/
theorem size_bytes (h : Valid m bs) {b : Buffer} (hb : b ∈ bs) : (⟨b.bytes m⟩ : Base.Buffer).size = b.size :=
  h.length_bytes hb

/-- It is empty where it covers none. -/
theorem empty_bytes (h : Valid m (node.buffer :: bs)) :
    (⟨node.buffer.bytes m⟩ : Base.Buffer).empty = node.empty := by
  unfold Base.Buffer.empty Node.empty Buffer.empty
  rw [size_bytes h List.mem_cons_self]

theorem consume_bytes (b : Buffer) (m : Heap) (n : Nat) : (b.consume n).bytes m = (b.bytes m).drop n := by
  unfold Buffer.bytes Buffer.consume
  rw [List.drop_drop]
  rfl

/-! ## Lists -/

@[simp] theorem view_nil (m : Heap) : view m [] = {} := rfl

/-- The view goes buffer by buffer. -/
@[simp] theorem view_cons (m : Heap) (node : Node) (s : Buffers) :
    view m (node :: s) = ⟨⟨node.buffer.bytes m⟩ :: (view m s).buffers⟩ := rfl

/-- The view of two lists, one behind the other. -/
@[simp] theorem view_append (m : Heap) (s s' : Buffers) :
    view m (s ++ s') = ⟨(view m s).buffers ++ (view m s').buffers⟩ := by
  simp only [view, List.map_append]

/-- The buffers of two lists. -/
@[simp] theorem live_append (s s' : Buffers) : live (s ++ s') = live s ++ live s' := List.map_append

/-- A heap that agrees on the blocks of the list shows the same bytes. -/
theorem view_congr (h : Agree m m' (live s)) : view m' s = view m s := by
  unfold view
  congr 1
  apply List.map_congr_left
  intro node hnode
  rw [Buffer.bytes_congr (h node.buffer (List.mem_map_of_mem hnode))]

/-- The first buffer is one more beside the others. -/
theorem valid_tail (h : Valid m (live (node :: s) ++ bs)) : Valid m (live s ++ (node.buffer :: bs)) :=
  h.perm List.perm_middle.symm

/-- The view has the size of the list. -/
theorem size_view (h : Valid m (live s ++ bs)) : (view m s).size = size s := by
  induction s generalizing bs with
  | nil => rfl
  | cons node s ih =>
    have hnode := size_bytes h (b := node.buffer) List.mem_cons_self
    have hrest := ih (valid_tail h)
    unfold Base.Buffers.size size at hrest ⊢
    simp only [view_cons, List.map_cons, List.sum_cons, hnode, hrest]

/-- The view is empty where the list is. -/
theorem empty_view (h : Valid m (live s ++ bs)) : (view m s).empty = empty s := by
  unfold Base.Buffers.empty empty
  rw [size_view h]

/-- Leaving out the empty buffers in front is discarding them. -/
theorem view_kept (h : Valid m (live s ++ bs)) : view m (kept s) = (view m s).discard := by
  unfold Base.Buffers.discard
  induction s generalizing bs with
  | nil => rfl
  | cons node s ih =>
    have hempty := empty_bytes h
    by_cases hnode : node.empty = true
    · rw [kept_cons hnode, ih (valid_tail h)]
      simp only [view_cons, List.dropWhile_cons, hempty, hnode, if_true]
    · rw [kept_cons_of_not hnode]
      simp only [view_cons, List.dropWhile_cons, hempty, hnode, if_false, Bool.false_eq_true]

/-- The empty buffers in front are those in front of the view. -/
theorem view_takeWhile (h : Valid m (live s ++ bs)) :
    (view m s).buffers.takeWhile Base.Buffer.empty = (view m (s.takeWhile Node.empty)).buffers := by
  induction s generalizing bs with
  | nil => rfl
  | cons node s ih =>
    have hempty := empty_bytes h
    have hrest := ih (valid_tail h)
    by_cases hnode : node.empty = true
    · simp only [view_cons, List.takeWhile_cons, hempty, hnode, if_true, hrest]
    · simp only [view_cons, List.takeWhile_cons, hempty, hnode, if_false, Bool.false_eq_true, view_nil]

/-! ## The functions -/

/-- **`discard`**, which destroys the empty buffers in front. -/
theorem discard_view (h : Valid m (live s ++ bs)) :
    let r := discard m s
    view r.2 r.1 = (view m s).discard ∧ Valid r.2 (live r.1 ++ bs) ∧ Agree m r.2 bs := by
  obtain ⟨hkept, hvalid, hagree, -⟩ := discard_valid h
  refine ⟨?_, hvalid, fun b hb => hagree b (List.mem_append_right _ hb)⟩
  have hlist : Agree m (discard m s).2 (live (discard m s).1) := by
    intro b hb
    exact hagree b (List.mem_append_left _ hb)
  rw [view_congr hlist, hkept, view_kept h]

/-- The loop of `consume`, which destroys nothing. -/
theorem consumeFrom_view (h : Valid m (live s ++ bs)) (n : Nat) :
    (view m (consumeFrom s n)).buffers = Base.Buffers.consumeFrom (view m s).buffers n := by
  induction s generalizing bs n with
  | nil => rfl
  | cons node s ih =>
    have hsize := size_bytes h (b := node.buffer) List.mem_cons_self
    by_cases hn : n = 0
    · rw [hn, consumeFrom_zero]
      simp only [view_cons, Base.Buffers.consumeFrom, if_true]
    · rw [consumeFrom_cons hn]
      simp only [view_cons, Base.Buffers.consumeFrom, hn, if_false, Base.Buffer.consume, hsize,
        consume_bytes, ih (valid_tail h)]

/-- **`consume`**: the loop, and then `discard`. -/
theorem consume_view (h : Valid m (live s ++ bs)) (n : Nat) :
    let r := consume m s n
    view r.2 r.1 = (view m s).consume n ∧ Valid r.2 (live r.1 ++ bs) ∧ Agree m r.2 bs := by
  obtain ⟨hview, hrest⟩ := discard_view (consumeFrom_valid (n := n) h)
  refine ⟨hview.trans ?_, hrest⟩
  unfold Base.Buffers.consume
  rw [← consumeFrom_view h n]

/-- **`push`**: the buffer that was beside the list is in it. -/
theorem push_view {b : Buffer} (h : Valid m (b :: (live s ++ bs))) :
    let r := push m s b
    view r.2 r.1 = (view m s).push ⟨b.bytes m⟩ ∧ Valid r.2 (live r.1 ++ bs) ∧ Agree m r.2 bs := by
  obtain ⟨hvalid, hbytes⟩ := h.move
  refine ⟨?_, ?_, fun b hb => rfl⟩
  · have hsame : ((b.move m).bytes { m with next := m.next + 1 }) = b.bytes m := hbytes
    have hlist : view { m with next := m.next + 1 } s = view m s := view_congr fun b hb => rfl
    unfold push Base.Buffers.push
    simp only [view_append, hlist, view_cons, hsame, view_nil]
  · have hlive : live (push m s b).1 = live s ++ [b.move m] := live_append s _
    rw [hlive, List.append_assoc]
    exact hvalid.next.perm List.perm_middle.symm

/-- The search for the end of a slice goes by sizes alone. -/
theorem findEnd_view (h : Valid m (live s ++ bs)) (n : Nat) :
    Base.Buffers.findEnd (view m s).buffers n = ((view m (findEnd s n).1).buffers,
      (view m (findEnd s n).2.1).buffers, (findEnd s n).2.2) := by
  induction s generalizing bs n with
  | nil => rfl
  | cons node s ih =>
    have hsize := size_bytes h (b := node.buffer) List.mem_cons_self
    by_cases hn : n > node.buffer.size
    · simp only [view_cons, Base.Buffers.findEnd, findEnd, hsize, hn, if_true, ih (valid_tail h)]
    · simp only [view_cons, Base.Buffers.findEnd, findEnd, hsize, hn, if_false, view_nil]

/-- Where the search stops, no more is left than the buffer has. -/
theorem findEnd_le {before rest : Buffers} {left : Nat} (h : findEnd s n = (before, node :: rest, left)) :
    s = before ++ node :: rest ∧ left ≤ node.buffer.size := by
  induction s generalizing n before with
  | nil => cases h
  | cons first s ih =>
    unfold findEnd at h
    by_cases hn : n > first.buffer.size
    · rw [if_pos hn] at h
      match hfind : findEnd s (n - first.buffer.size) with
      | (before', rest', left') =>
        rw [hfind] at h
        cases h
        obtain ⟨hs, hle⟩ := ih hfind
        exact ⟨congrArg (first :: ·) hs, hle⟩
    · rw [if_neg hn] at h
      cases h
      exact ⟨rfl, Nat.not_lt.mp hn⟩

/-- A buffer of the list, beside all others. -/
theorem perm_beside (lead : Buffers) (node : Node) (rest : Buffers) (bs : List Buffer) :
    (live (lead ++ node :: rest) ++ bs).Perm (node.buffer :: (live lead ++ (live rest ++ bs))) := by
  rw [live_append, List.append_assoc]
  exact List.perm_middle

/-- A slice of the first buffer that has bytes. -/
theorem slice_first_view {lead rest : Buffers} (h : Valid m (live (lead ++ node :: rest) ++ bs))
    (hn : n ≤ node.buffer.size) :
    let sliced := node.buffer.slice m n
    let r := discard sliced.2.2 (lead ++ ⟨node.address, sliced.2.1⟩ :: rest)
    let expected := Base.Buffer.slice ⟨node.buffer.bytes m⟩ n
    ⟨sliced.1.bytes r.2⟩ = expected.1 ∧
      view r.2 r.1 = Base.Buffers.discard ⟨(view m lead).buffers ++ expected.2 :: (view m rest).buffers⟩ ∧
        Valid r.2 (sliced.1 :: (live r.1 ++ bs)) ∧ Agree m r.2 bs := by
  obtain ⟨hslice, hagree, hbytes, hrest, -⟩ := (h.perm (perm_beside lead node rest bs)).slice hn
  intro sliced r expected
  -- the slice is one more buffer beside the list
  have hvalid : Valid sliced.2.2 (live (lead ++ ⟨node.address, sliced.2.1⟩ :: rest) ++ (sliced.1 :: bs)) := by
    have hback := (perm_beside lead ⟨node.address, sliced.2.1⟩ rest bs).symm
    exact hslice.perm ((hback.cons _).trans List.perm_middle.symm)
  obtain ⟨hview, hvalid', hagree'⟩ := discard_view hvalid
  have hlead : view sliced.2.2 lead = view m lead := by
    refine view_congr fun b hb => hagree b ?_
    exact List.mem_cons_of_mem _ (List.mem_append_left _ hb)
  have hlater : view sliced.2.2 rest = view m rest := by
    refine view_congr fun b hb => hagree b ?_
    exact List.mem_cons_of_mem _ (List.mem_append_right _ (List.mem_append_left _ hb))
  have hleft : sliced.2.1.bytes sliced.2.2 = (node.buffer.bytes m).drop n := by
    have hplace : (node.buffer.consume n).bytes sliced.2.2 = (node.buffer.consume n).bytes m :=
      Buffer.bytes_congr (hagree node.buffer List.mem_cons_self)
    rw [hrest, hplace, consume_bytes]
  refine ⟨?_, hview.trans ?_, hvalid'.perm List.perm_middle, ?_⟩
  · have hresult : sliced.1.bytes r.2 = sliced.1.bytes sliced.2.2 :=
      Buffer.bytes_congr (hagree' _ List.mem_cons_self)
    rw [hresult, hbytes, ← Base.Buffer.slice_fst_bytes]
  · rw [view_append, view_cons, hlead, hlater, hleft, ← Base.Buffer.slice_snd_bytes]
  · intro b hb
    refine (hagree' b (List.mem_cons_of_mem _ hb)).trans (hagree b ?_)
    exact List.mem_cons_of_mem _ (List.mem_append_right _ (List.mem_append_right _ hb))

/-- A slice of several buffers, which is a copy. -/
theorem slice_concat_view (before : Buffers) (last : Buffer) (h : Valid m (live s ++ bs)) (left : Nat) :
    let copied := concat m before last left
    let r := consume copied.2 s copied.1.size
    let expected := Base.Buffers.concat (view m before).buffers ⟨last.bytes m⟩ left
    ⟨copied.1.bytes r.2⟩ = expected ∧ view r.2 r.1 = (view m s).consume expected.size ∧
      Valid r.2 (copied.1 :: (live r.1 ++ bs)) ∧ Agree m r.2 bs := by
  have hexpected : before.flatMap (fun node => node.buffer.bytes m) ++ (last.bytes m).take left =
      (Base.Buffers.concat (view m before).buffers ⟨last.bytes m⟩ left).bytes := by
    unfold Base.Buffers.concat view
    rw [List.flatMap_map]
  intro copied r expected
  obtain ⟨hvalid, hagree, hbytes, -⟩ := h.construct
    (before.flatMap (fun node => node.buffer.bytes m) ++ (last.bytes m).take left)
  change Valid copied.2 (copied.1 :: (live s ++ bs)) at hvalid
  have hcopied : copied.1.bytes copied.2 = expected.bytes := hbytes.trans hexpected
  have hsize : copied.1.size = expected.size := by
    rw [← hvalid.length_bytes List.mem_cons_self, hcopied]
    rfl
  have hlist : view copied.2 s = view m s := view_congr fun b hb => hagree b (List.mem_append_left _ hb)
  obtain ⟨hview, hvalid', hagree'⟩ := consume_view (hvalid.perm List.perm_middle.symm) copied.1.size
  refine ⟨?_, hview.trans ?_, hvalid'.perm List.perm_middle, ?_⟩
  · have hresult : copied.1.bytes r.2 = copied.1.bytes copied.2 :=
      Buffer.bytes_congr (hagree' _ List.mem_cons_self)
    rw [hresult, hcopied]
  · exact (congrArg₂ Base.Buffers.consume hlist hsize)
  · intro b hb
    exact (hagree' b (List.mem_cons_of_mem _ hb)).trans (hagree b (List.mem_append_right _ hb))

/-- **`slice`**: the bytes that are taken off, and the list that is left. What is taken off is one more buffer
beside it. -/
theorem slice_view (h : Valid m (live s ++ bs)) (n : Nat) :
    let r := slice m s n
    ((⟨r.1.bytes r.2.2⟩, view r.2.2 r.2.1) : Base.Buffer × Base.Buffers) = (view m s).slice n ∧
      Valid r.2.2 (r.1 :: (live r.2.1 ++ bs)) ∧ Agree m r.2.2 bs := by
  have hsplit : s.takeWhile Node.empty ++ kept s = s := List.takeWhile_append_dropWhile
  have hkept : Valid m (live (kept s) ++ (live (s.takeWhile Node.empty) ++ bs)) := by
    refine h.perm ?_
    rw [← List.append_assoc]
    refine List.Perm.append_right bs ?_
    conv => lhs; rw [← hsplit, live_append]
    exact List.perm_append_comm
  have hdrop : (view m s).buffers.dropWhile Base.Buffer.empty = (view m (kept s)).buffers :=
    (congrArg Base.Buffers.buffers (view_kept h)).symm
  have hlead := view_takeWhile h
  have hend := findEnd_view hkept n
  rw [← hdrop] at hend
  rcases hfind : findEnd (kept s) n with ⟨before, rest, left⟩
  rw [hfind] at hend
  cases rest with
  | nil =>
    -- no buffer holds the end of the slice
    have hslice : slice m s n = ({}, s, m) := by
      unfold slice
      rw [show s.dropWhile Node.empty = kept s from rfl, hfind]
      cases before <;> rfl
    have hexpected : (view m s).slice n = ({}, view m s) := by
      unfold Base.Buffers.slice
      rw [hend]
      cases before <;> rfl
    rw [hslice, hexpected]
    exact ⟨rfl, h.cons_sso rfl (Nat.zero_le _) ⟨Nat.le_refl _, Nat.le_refl _⟩, .refl _ _⟩
  | cons node rest =>
    obtain ⟨hs, hle⟩ := findEnd_le hfind
    cases before with
    | nil =>
      have hfirst : Valid m (live (s.takeWhile Node.empty ++ node :: rest) ++ bs) := by
        rw [List.nil_append] at hs
        rw [← hs, hsplit]
        exact h
      have hslice : slice m s n =
          let sliced := node.buffer.slice m left
          (sliced.1, discard sliced.2.2 (s.takeWhile Node.empty ++ ⟨node.address, sliced.2.1⟩ :: rest)) := by
        unfold slice
        rw [show s.dropWhile Node.empty = kept s from rfl, hfind]
      have hexpected : (view m s).slice n =
          let sliced := Base.Buffer.slice ⟨node.buffer.bytes m⟩ left
          (sliced.1, Base.Buffers.discard
            ⟨(view m (s.takeWhile Node.empty)).buffers ++ sliced.2 :: (view m rest).buffers⟩) := by
        unfold Base.Buffers.slice
        rw [hend, hlead]
        rfl
      obtain ⟨hresult, hview, hrest⟩ := slice_first_view hfirst hle
      rw [hslice, hexpected]
      exact ⟨Prod.ext hresult hview, hrest⟩
    | cons first before =>
      have hslice : slice m s n =
          let copied := concat m (first :: before) node.buffer left
          (copied.1, consume copied.2 s copied.1.size) := by
        unfold slice
        rw [show s.dropWhile Node.empty = kept s from rfl, hfind]
      have hexpected : (view m s).slice n =
          let copied := Base.Buffers.concat (view m (first :: before)).buffers ⟨node.buffer.bytes m⟩ left
          (copied, (view m s).consume copied.size) := by
        unfold Base.Buffers.slice
        rw [hend]
        rfl
      obtain ⟨hresult, hview, hrest⟩ := slice_concat_view (first :: before) node.buffer h left
      rw [hslice, hexpected]
      exact ⟨Prod.ext hresult hview, hrest⟩

end Buffers

end Bnl.Base.Storage
