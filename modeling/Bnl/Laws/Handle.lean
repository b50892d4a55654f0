import Bnl.Endpoint.Handle
import Bnl.Library.Links
import Bnl.Library.Run

/-!
# Laws of `sender::handle`

The pointers of a heap are links between handles and senders, and every special member does to them one of the
things links go through: a handle joins a sender, a handle or a sender takes over the link of another, either
goes away. Two of these need that the taker has no link yet, which the members do not see to; where programs do,
a handle and a sender point to each other or not at all (`linked_iff`).

**The law** is `linked_iff`, over all programs that construct, move, assign and destroy senders and handles at
any addresses. In step means more than that the two pointers agree: a pointer is to an object that lives. The
condition is on the heap before a step, and says that a sender to which a handle is made has none, and that what
is assigned to is linked to nothing else.

`Links` in the library has the two maps, what happens to them and when they stay consistent. Here each member is
shown to be one of its operations (`constructSender_links` and those after it), and which condition of the
operation the member does not meet by itself (`admits_iff`). The source is unfolded in the first of these only.

Nothing is said of a program that uses an object it has destroyed; there is no such step.
-/

namespace Bnl.Http3.Endpoint.Handle

open Function

/-! ## The pointers of a heap -/

namespace Heap

/-- The pointers of the handles and of the senders that are alive. -/
def links (m : Heap) : Links Address Address where
  fore h := (m.handles h).bind HandleObject.sender_
  back s := (m.senders s).bind SenderObject.handle_

variable {m : Heap} {h s : Address}

/-- The link of a handle is its pointer. -/
theorem fore_eq {object : HandleObject} (hh : m.handles h = some object) :
    m.links.fore h = object.sender_ := by
  show (m.handles h).bind _ = _
  rw [hh]
  rfl

/-- The link of a sender is its pointer. -/
theorem back_eq {object : SenderObject} (hs : m.senders s = some object) :
    m.links.back s = object.handle_ := by
  show (m.senders s).bind _ = _
  rw [hs]
  rfl

/-- A handle that points to a sender lives. -/
theorem alive_of_fore (hto : m.links.fore h = some s) : ∃ object, m.handles h = some object := by
  obtain ⟨object, hobject, -⟩ := Option.bind_eq_some_iff.mp hto
  exact ⟨object, hobject⟩

/-- A sender that points to a handle lives. -/
theorem alive_of_back (hto : m.links.back s = some h) : ∃ object, m.senders s = some object := by
  obtain ⟨object, hobject, -⟩ := Option.bind_eq_some_iff.mp hto
  exact ⟨object, hobject⟩

/-- The pointers of handles are in the handles. -/
theorem fore_congr {m' : Heap} (hhandles : m'.handles = m.handles) :
    m'.links.fore = m.links.fore := by
  unfold links
  rw [hhandles]

/-- The pointers of senders are in the senders. -/
theorem back_congr {m' : Heap} (hsenders : m'.senders = m.senders) :
    m'.links.back = m.links.back := by
  unfold links
  rw [hsenders]

/-- A handle given another value. -/
theorem fore_update (object : Option HandleObject) :
    (links { m with handles := update m.handles h object }).fore =
      update m.links.fore h (object.bind HandleObject.sender_) := by
  funext x
  show (update m.handles h object x).bind _ = _
  by_cases hx : x = h
  · rw [hx, update_self, update_self]
  · rw [update_of_ne hx, update_of_ne hx]
    rfl

/-- A sender given another value. -/
theorem back_update (object : Option SenderObject) :
    (links { m with senders := update m.senders s object }).back =
      update m.links.back s (object.bind SenderObject.handle_) := by
  funext x
  show (update m.senders s object x).bind _ = _
  by_cases hx : x = s
  · rw [hx, update_self, update_self]
  · rw [update_of_ne hx, update_of_ne hx]
    rfl

/-- `setSenderOf` reaches a handle that lives. -/
theorem setSenderOf_links (o : Option Address) (p : Option Address)
    (halive : ∀ x, o = some x → ∃ object, m.handles x = some object) :
    ∃ m', m.setSenderOf o p = some m' ∧ m'.senders = m.senders ∧
      m'.links.fore = m.links.flip.answer o p := by
  cases o with
  | none => exact ⟨m, rfl, rfl, rfl⟩
  | some x =>
    obtain ⟨object, hobject⟩ := halive x rfl
    unfold setSenderOf setSender
    dsimp only
    rw [hobject]
    exact ⟨_, rfl, rfl, fore_update _⟩

/-- `setHandleOf` reaches a sender that lives. -/
theorem setHandleOf_links (o : Option Address) (p : Option Address)
    (halive : ∀ x, o = some x → ∃ object, m.senders x = some object) :
    ∃ m', m.setHandleOf o p = some m' ∧ m'.handles = m.handles ∧
      m'.links.back = m.links.answer o p := by
  cases o with
  | none => exact ⟨m, rfl, rfl, rfl⟩
  | some x =>
    obtain ⟨object, hobject⟩ := halive x rfl
    unfold setHandleOf setHandle
    dsimp only
    rw [hobject]
    exact ⟨_, rfl, rfl, back_update _⟩

end Heap

/-! ## What the special members do to the links -/

section Members

variable {m : Heap} (hm : m.links.Consistent)

include hm

/-- A handle that is moved hands its link over. -/
theorem moveAssign_links {h other : Address} {object : HandleObject} (hne : other ≠ h)
    (hobject : m.handles other = some object) :
    ∃ m', moveAssign m h other = some m' ∧ m'.links = m.links.take h other := by
  have hto := Heap.fore_eq hobject
  have hfore : (Heap.links { m with
      handles := update (update m.handles h (some object)) other (some {}) }).fore =
        update (update m.links.fore h object.sender_) other none :=
    (Heap.fore_update (m := { m with handles := update m.handles h (some object) }) _).trans
      (congrArg (update · other _) (Heap.fore_update _))
  obtain ⟨m', hset, hhandles, hback⟩ := Heap.setHandleOf_links
    (m := { m with handles := update (update m.handles h (some object)) other (some {}) })
    object.sender_ (some h)
    fun x hx => Heap.alive_of_back ((hm other x).mp (hto.trans hx))
  refine ⟨m', ?_, ?_⟩
  · unfold moveAssign
    rw [if_neg hne, hobject]
    exact hset
  · rw [← hto] at hback hfore
    exact Links.ext ((Heap.fore_congr hhandles).trans hfore) hback

/-- A sender that is moved hands its link over. -/
theorem take_links {s other : Address} {object : SenderObject}
    (hobject : m.senders other = some object) :
    ∃ m', Sender.take m s other = some m' ∧ m'.links = (m.links.flip.take s other).flip := by
  have hto := Heap.back_eq hobject
  have hback : (Heap.links { m with
      senders := update (update m.senders s (some object)) other
        (some { object with sender := movedFrom object.sender }) }).back =
        update (update m.links.back s object.handle_) other object.handle_ :=
    (Heap.back_update (m := { m with senders := update m.senders s (some object) }) _).trans
      (congrArg (update · other _) (Heap.back_update _))
  obtain ⟨m₁, hset, hsenders, hfore⟩ := Heap.setSenderOf_links
    (m := { m with
      senders := update (update m.senders s (some object)) other
        (some { object with sender := movedFrom object.sender }) })
    object.handle_ (some s)
    fun x hx => Heap.alive_of_fore ((hm x other).mpr (hto.trans hx))
  have hother : m₁.senders other = some { object with sender := movedFrom object.sender } := by
    rw [hsenders]
    exact update_self ..
  have hlast : m₁.setHandle other none = some { m₁ with
      senders := update m₁.senders other
        (some { sender := movedFrom object.sender }) } := by
    unfold Heap.setHandle
    rw [hother]
  refine ⟨_, Eq.trans ?_ hlast, ?_⟩
  · unfold Sender.take
    rw [hobject]
    show (Heap.setSenderOf _ object.handle_ (some s) >>= _) = _
    rw [hset]
    rfl
  · refine Links.ext ?_ ?_
    · rw [← hto] at hfore
      exact hfore
    · rw [Heap.back_update, Heap.back_congr hsenders, hback, ← hto]
      exact update_idem ..

/-- A handle that is destroyed goes away from its sender. -/
theorem destroy_links {h : Address} {object : HandleObject} (hobject : m.handles h = some object) :
    ∃ m', destroy m h = some m' ∧ m'.links = m.links.drop h := by
  have hto := Heap.fore_eq hobject
  obtain ⟨m₁, hset, hhandles, hback⟩ := Heap.setHandleOf_links (m := m) object.sender_ none
    fun x hx => Heap.alive_of_back ((hm h x).mp (hto.trans hx))
  refine ⟨{ m₁ with handles := update m₁.handles h none }, ?_, ?_⟩
  · unfold destroy
    rw [hobject]
    show (m.setHandleOf object.sender_ none >>= _) = _
    rw [hset]
    rfl
  · rw [← hto] at hback
    refine Links.ext ?_ hback
    rw [Heap.fore_update, Heap.fore_congr hhandles]
    rfl

/-- A sender that is destroyed goes away from its handle. -/
theorem destroySender_links {s : Address} {object : SenderObject}
    (hobject : m.senders s = some object) :
    ∃ m', Sender.destroy m s = some m' ∧ m'.links = (m.links.flip.drop s).flip := by
  have hto := Heap.back_eq hobject
  obtain ⟨m₁, hset, hsenders, hfore⟩ := Heap.setSenderOf_links (m := m) object.handle_ none
    fun x hx => Heap.alive_of_fore ((hm x s).mpr (hto.trans hx))
  refine ⟨{ m₁ with senders := update m₁.senders s none }, ?_, ?_⟩
  · unfold Sender.destroy
    rw [hobject]
    show (m.setSenderOf object.handle_ none >>= _) = _
    rw [hset]
    rfl
  · rw [← hto] at hfore
    refine Links.ext hfore ?_
    rw [Heap.back_update, Heap.back_congr hsenders]
    rfl

omit hm in
/-- A handle made for a sender joins it. -/
theorem construct_links {h s : Address} {object : SenderObject}
    (hobject : m.senders s = some object) :
    ∃ m', construct m h s = some m' ∧ m'.links = m.links.join h s := by
  have hjoin : ({ m with
      handles := update m.handles h (some { id := object.sender.id, sender_ := some s }) } :
        Heap).setHandle s (some h) =
      some {
        handles := update m.handles h (some { id := object.sender.id, sender_ := some s })
        senders := update m.senders s (some { object with handle_ := some h }) } := by
    unfold Heap.setHandle
    dsimp only
    rw [hobject]
  refine ⟨_, Eq.trans ?_ hjoin, ?_⟩
  · unfold construct
    rw [hobject]
    rfl
  · exact Links.ext (Heap.fore_update _) (Heap.back_update _)

omit hm in
/-- An object made where none lived, with a null pointer, leaves the links. -/
theorem default_links {h : Address} (hdead : m.handles h = none) :
    (default m h).links = m.links := by
  have hnull : m.links.fore h = none := by
    show (m.handles h).bind _ = none
    rw [hdead]
    rfl
  refine Links.ext ((Heap.fore_update _).trans ?_) rfl
  exact (congrArg (update m.links.fore h) hnull.symm).trans (update_eq_self ..)

omit hm in
/-- A new sender has no link. -/
theorem constructSender_links {s : Address} (id : UInt64) (hdead : m.senders s = none) :
    (Sender.construct m s id).links = m.links := by
  have hnull : m.links.back s = none := by
    show (m.senders s).bind _ = none
    rw [hdead]
    rfl
  refine Links.ext rfl ((Heap.back_update _).trans ?_)
  exact (congrArg (update m.links.back s) hnull.symm).trans (update_eq_self ..)

end Members

/-! ## Programs -/

/-- When an action does no harm: a sender is given a handle, and is moved over, only while it has
none; a handle is moved over only while it has no sender. -/
def Admits (m : Heap) (a : Action) : Prop :=
  a.wellFormed m = true →
    match a with
    | .assignSender s other => other = s ∨ m.links.back s = none
    | .handle _ s => m.links.back s = none
    | .assignHandle h other => other = h ∨ m.links.fore h = none
    | _ => True

instance (m : Heap) : ∀ a, Decidable (Admits m a)
  | .assignSender s other => inferInstanceAs (Decidable (_ → other = s ∨ m.links.back s = none))
  | .handle _ s => inferInstanceAs (Decidable (_ → m.links.back s = none))
  | .assignHandle h other => inferInstanceAs (Decidable (_ → other = h ∨ m.links.fore h = none))
  | .sender _ _ => isTrue fun _ => trivial
  | .moveSender _ _ => isTrue fun _ => trivial
  | .destroySender _ => isTrue fun _ => trivial
  | .emptyHandle _ => isTrue fun _ => trivial
  | .moveHandle _ _ => isTrue fun _ => trivial
  | .destroyHandle _ => isTrue fun _ => trivial

/-- What is to hold of every step: behind it a handle points to a sender exactly when the sender
lives and points back, and no handle has lost its sender because another sender or another handle
went away. -/
structure Linked (m : Heap) (a : Action) (m' : Heap) : Prop where
  paired : ∀ h s, m'.links.fore h = some s ↔ m'.links.back s = some h
  kept : ∀ {h s}, m.links.fore h = some s →
    ((∃ s', s' ≠ s ∧ a = .destroySender s') ∨ ∃ h', h' ≠ h ∧ a = .destroyHandle h') →
      m'.links.fore h = some s

section Steps

variable {m m' : Heap} {a : Action}

/-- A well-formed action runs its member. -/
theorem step_eq (h : a.wellFormed m = true) : step m a = a.apply m := if_pos h

/-- What a condition is to be for a step that is taken. -/
theorem linked_step {Q : Prop} (hstep : step m a = some m') (hQ : m'.links.Consistent ↔ Q)
    (hkept : ∀ {h s}, m.links.fore h = some s →
      ((∃ s', s' ≠ s ∧ a = .destroySender s') ∨ ∃ h', h' ≠ h ∧ a = .destroyHandle h') →
        m'.links.fore h = some s) :
    Q ↔ ∃ m', step m a = some m' ∧ Linked m a m' := by
  constructor
  · intro h
    exact ⟨m', hstep, hQ.mpr h, hkept⟩
  · rintro ⟨m'', hstep', hlinked⟩
    obtain rfl := Option.some.inj (hstep.symm.trans hstep')
    exact hQ.mp hlinked.paired

/-- Where nothing lives, nothing points. -/
theorem fore_dead {h : Address} (hdead : m.handles h = none) : m.links.fore h = none := by
  show (m.handles h).bind _ = none
  rw [hdead]
  rfl

/-- Where no sender lives, none has a link. -/
theorem back_dead {s : Address} (hdead : m.senders s = none) : m.links.back s = none := by
  show (m.senders s).bind _ = none
  rw [hdead]
  rfl

/-- Most actions take nothing away. -/
theorem not_away {P : Prop} {h s : Address} (hsender : ∀ s', a ≠ .destroySender s')
    (hhandle : ∀ h', a ≠ .destroyHandle h')
    (haway : (∃ s', s' ≠ s ∧ a = .destroySender s') ∨ ∃ h', h' ≠ h ∧ a = .destroyHandle h') : P := by
  rcases haway with ⟨s', -, heq⟩ | ⟨h', -, heq⟩
  · exact absurd heq (hsender s')
  · exact absurd heq (hhandle h')

/-- **Exactly the admitted steps leave the pointers in step.** -/
theorem admits_iff (hm : m.links.Consistent) :
    Admits m a ↔ ∃ m', step m a = some m' ∧ Linked m a m' := by
  have hnone (h : a.wellFormed m = true → False) :
      Admits m a ↔ ∃ m', step m a = some m' ∧ Linked m a m' := by
    have hstep : step m a = some m := if_neg h
    exact linked_step hstep (iff_of_true hm fun hw => (h hw).elim) fun hto _ => hto
  have hsome {Q : Prop} {m' : Heap} (hw : a.wellFormed m = true) (happly : a.apply m = some m')
      (hQ : m'.links.Consistent ↔ Q) (hadmits : Admits m a ↔ Q)
      (hkept : ∀ {h s}, m.links.fore h = some s →
        ((∃ s', s' ≠ s ∧ a = .destroySender s') ∨ ∃ h', h' ≠ h ∧ a = .destroyHandle h') →
          m'.links.fore h = some s) :
      Admits m a ↔ ∃ m', step m a = some m' ∧ Linked m a m' :=
    hadmits.trans (linked_step ((step_eq hw).trans happly) hQ hkept)
  by_cases hw : a.wellFormed m = true
  · have htrivial {P : Prop} (hP : P) : (a.wellFormed m = true → P) ↔ True :=
      iff_true_intro fun _ => hP
    cases a with
    | sender s id =>
      have hlinks := constructSender_links id (Option.isNone_iff_eq_none.mp hw)
      refine hsome hw rfl (hlinks ▸ iff_true_intro hm) (htrivial trivial) ?_
      exact fun _ => not_away nofun nofun
    | emptyHandle h =>
      have hlinks := default_links (Option.isNone_iff_eq_none.mp hw)
      refine hsome hw rfl (hlinks ▸ iff_true_intro hm) (htrivial trivial) ?_
      exact fun _ => not_away nofun nofun
    | moveSender s other =>
      obtain ⟨hdead, halive⟩ := Bool.and_eq_true_iff.mp hw
      obtain ⟨object, hobject⟩ := Option.isSome_iff_exists.mp halive
      have hdead := Option.isNone_iff_eq_none.mp hdead
      have hne : other ≠ s := by
        rintro rfl
        exact nomatch hdead.symm.trans hobject
      obtain ⟨m', hmove, hlinks⟩ := take_links (s := s) hm hobject
      refine hsome hw hmove (Q := True) ?_ (htrivial trivial) ?_
      · rw [hlinks, Links.flip_consistent, Links.take_consistent hm.flip hne]
        exact iff_true_intro (back_dead hdead)
      · exact fun _ => not_away nofun nofun
    | assignSender s other =>
      obtain ⟨-, halive⟩ := Bool.and_eq_true_iff.mp hw
      obtain ⟨object, hobject⟩ := Option.isSome_iff_exists.mp halive
      have hadmits : Admits m (.assignSender s other) ↔ (other = s ∨ m.links.back s = none) :=
        ⟨fun h => h hw, fun h _ => h⟩
      by_cases hself : other = s
      · refine hsome hw (if_pos hself) (iff_of_true hm (.inl hself)) hadmits ?_
        exact fun _ => not_away nofun nofun
      · obtain ⟨m', hmove, hlinks⟩ := take_links (s := s) hm hobject
        refine hsome hw ((if_neg hself).trans hmove) ?_ hadmits ?_
        · rw [hlinks, Links.flip_consistent, Links.take_consistent hm.flip hself]
          exact (or_iff_right hself).symm
        · exact fun _ => not_away nofun nofun
    | destroySender s =>
      obtain ⟨object, hobject⟩ := Option.isSome_iff_exists.mp hw
      obtain ⟨m', hdestroy, hlinks⟩ := destroySender_links hm hobject
      refine hsome hw hdestroy (Q := True) ?_ (htrivial trivial) ?_
      · rw [hlinks, Links.flip_consistent]
        exact iff_true_intro (Links.drop_consistent hm.flip s)
      · rintro h s' hto (⟨s'', hne, heq⟩ | ⟨_, -, heq⟩)
        · cases heq
          rw [hlinks]
          show m.links.flip.answer (m.links.back s) none h = _
          rw [Links.answer_apply, if_neg]
          · exact hto
          · intro hback
            exact hne (Option.some.inj (((hm h s).mpr hback).symm.trans hto))
        · cases heq
    | handle h s =>
      obtain ⟨hdead, halive⟩ := Bool.and_eq_true_iff.mp hw
      obtain ⟨object, hobject⟩ := Option.isSome_iff_exists.mp halive
      obtain ⟨m', hconstruct, hlinks⟩ := construct_links (h := h) hobject
      have hadmits : Admits m (.handle h s) ↔ m.links.back s = none :=
        ⟨fun h => h hw, fun h _ => h⟩
      refine hsome hw hconstruct ?_ hadmits ?_
      · rw [hlinks]
        exact Links.join_consistent hm (fore_dead (Option.isNone_iff_eq_none.mp hdead))
      · exact fun _ => not_away nofun nofun
    | moveHandle h other =>
      obtain ⟨hdead, halive⟩ := Bool.and_eq_true_iff.mp hw
      obtain ⟨object, hobject⟩ := Option.isSome_iff_exists.mp halive
      have hdead := Option.isNone_iff_eq_none.mp hdead
      have hne : other ≠ h := by
        rintro rfl
        exact nomatch hdead.symm.trans hobject
      have hdefault := default_links hdead
      have hother : (default m h).handles other = some object :=
        (update_of_ne hne _ _).trans hobject
      obtain ⟨m', hmove, hlinks⟩ := moveAssign_links (hdefault ▸ hm) hne hother
      refine hsome hw hmove (Q := True) ?_ (htrivial trivial) ?_
      · rw [hlinks, hdefault, Links.take_consistent hm hne]
        exact iff_true_intro (fore_dead hdead)
      · exact fun _ => not_away nofun nofun
    | assignHandle h other =>
      obtain ⟨-, halive⟩ := Bool.and_eq_true_iff.mp hw
      obtain ⟨object, hobject⟩ := Option.isSome_iff_exists.mp halive
      have hadmits : Admits m (.assignHandle h other) ↔ (other = h ∨ m.links.fore h = none) :=
        ⟨fun h => h hw, fun h _ => h⟩
      by_cases hself : other = h
      · refine hsome hw (if_pos hself) (iff_of_true hm (.inl hself)) hadmits ?_
        exact fun _ => not_away nofun nofun
      · obtain ⟨m', hmove, hlinks⟩ := moveAssign_links hm hself hobject
        refine hsome hw hmove ?_ hadmits ?_
        · rw [hlinks, Links.take_consistent hm hself]
          exact (or_iff_right hself).symm
        · exact fun _ => not_away nofun nofun
    | destroyHandle h =>
      obtain ⟨object, hobject⟩ := Option.isSome_iff_exists.mp hw
      obtain ⟨m', hdestroy, hlinks⟩ := destroy_links hm hobject
      refine hsome hw hdestroy (Q := True) ?_ (htrivial trivial) ?_
      · rw [hlinks]
        exact iff_true_intro (Links.drop_consistent hm h)
      · rintro h' s hto (⟨_, -, heq⟩ | ⟨h'', hne, heq⟩)
        · cases heq
        · cases heq
          rw [hlinks]
          exact (update_of_ne hne.symm _ _).trans hto
  · exact hnone hw

end Steps

/-- On an empty heap all pointers are in step. -/
theorem empty_consistent : Heap.empty.links.Consistent := fun _ _ => ⟨nofun, nofun⟩

/-- **Handles and senders stay in step in exactly those programs whose steps are admitted.** -/
theorem linked_iff (actions : List Action) :
    Run.Always step Linked Heap.empty actions ↔ Run.Meets step Admits Heap.empty actions :=
  Run.always_iff (fun _ _ hm => admits_iff hm) (fun _ _ _ _ _ hlinked => hlinked.paired)
    empty_consistent

/-- Two handles asked for one sender. -/
theorem linked_not : ¬ ∀ actions : List Action, Run.Always step Linked Heap.empty actions := by
  intro h
  have hlinked := (h ([.sender 0 0, .handle 0 0] ++ [.handle 1 0])).last rfl rfl
  have hback := (hlinked.paired 0 0).mp rfl
  exact nomatch (Option.some.inj hback)

end Bnl.Http3.Endpoint.Handle
