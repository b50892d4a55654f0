import Bnl.Laws.Object

/-!
# Buffers as strings of bytes

In any run of the operations each block counts the buffers that refer to it and goes with the last of them, the
buffers of one block have parts of it that are apart, and every buffer is a string of bytes of its own: no
operation changes another one's.

**The law** (`owned_always`): in every run of constructors, moves, assignments, slices, `consume` and
destructors, on objects that live and with no more bytes taken than there are, all of this holds in every state,
and each operation does to the strings what its name says (`Does`). A buffer that is moved onto itself is left
as it is, not emptied (`moveAssign_self_not`).

The idea of the proof: `Sound` is kept by each operation (`step_does`), which `Object` has shown for all but
`slice`. A slice that shares counts one more and splits the part its buffer had; a short slice is a copy that
goes through a temporary object, so it is put together from four operations that are right.

**What it does not establish.** A block with 2^32 slices would wrap its count; `Allowed` keeps below. Two
threads that touch one block are not modelled: the count of the code is not atomic.
-/

namespace Bnl.Base.Objects

open Function (update update_self update_of_ne)

variable {s s' : Store} {a this other result temporary : Nat} {b o : Object}

/-! ## `slice` -/

/-- Where an object lives no other may come to lie. -/
theorem Vacant.ne (h : Vacant s a) (hb : s.objects other = some b) : other ≠ a := by
  intro heq
  rw [heq, h.objects] at hb
  cases hb

/-- Two objects, in either order. -/
theorem put_comm (s : Store) (b o : Object) (h : a ≠ other) :
    (s.put a b).put other o = (s.put other o).put a b := by
  unfold Store.put
  dsimp only
  rw [Function.update_comm h]

/-- Where no object is, none goes. -/
theorem erase_of_none (h : s.objects a = none) : s.erase a = s := by
  unfold Store.erase
  rw [← h, Function.update_eq_self]

/-- What is assigned from `buffer(rc, begin, end)`, and what the slice is of it. -/
def Object.shared (r begin_ end_ : Nat) (sso_ : Memory) : Object := Object.setRc ⟨begin_, end_, sso_⟩ r

/-- The buffer that is assigned from refers to the block. -/
theorem Object.rc_shared {r : Nat} (h : r < 2 ^ 64) (begin_ end_ : Nat) (sso_ : Memory) :
    (Object.shared r begin_ end_ sso_).rc = r := Object.rc_setRc _ h

/-- An object that has the first `n` bytes of another one lies in the block too. -/
theorem Within.front {block : Block} {n : Nat} (h : Within block b) (hn : n ≤ b.size) (hrc : o.rc = b.rc)
    (hbegin : o.begin_ = b.begin_) (hend : o.end_ = b.begin_ + n) : Within block o := by
  have hle := h.le
  have hhi := h.hi
  unfold Object.size at hn
  refine ⟨?_, ?_, ?_⟩
  · rw [hrc, hbegin]
    exact h.lo
  · rw [hbegin, hend]
    exact Nat.le_add_right _ _
  · rw [hrc, hend]
    omega

/-- The front of a buffer that has a share. -/
def Object.front (b : Object) (n : Nat) (sso_ sso_' : Memory) : Object :=
  Object.taken { sso_ } (Object.shared b.rc b.begin_ (b.begin_ + n) sso_')

/-- A temporary object that was moved from and goes leaves what it was moved to. -/
theorem moved_erase (s : Store) (c d : Object) (h : temporary ≠ result) (hnone : s.objects temporary = none) :
    ((((s.put temporary b).put result c).put temporary d).erase temporary) = s.put result c := by
  rw [erase_put, put_comm s b c h, erase_put]
  exact erase_of_none ((objects_put_of_ne s c h).trans hnone)

/-- **A slice that shares**: the block counts one more, and the two objects have its parts. -/
theorem slice_long {block : Block} {n : Nat} (h : Sound s) (hvacant : Vacant s result)
    (hvacant' : Vacant s temporary) (hne : temporary ≠ result) (hb : s.objects this = some b)
    (hblock : s.blocks b.rc = some block) (hwithin : Within block b) (hn : n ≤ b.size)
    (hlong : Storage.Buffer.SSO_THRESHOLD < n) (storage sso_ sso_' : Memory) :
    s.slice result temporary this n storage sso_ sso_' =
      some (((s.putBlock b.rc { block with rc := block.rc + 1 }).put result (b.front n sso_ sso_')).put this
        (b.rest n)) := by
  have hresult := hvacant.ne hb
  have hzero : n ≠ 0 := Nat.ne_of_gt (Nat.zero_lt_of_lt hlong)
  have hshort : ¬ Storage.Buffer.sso n = true := fun hsso => Nat.not_le.mpr hlong (of_decide_eq_true hsso)
  have hroom := h.laid.room b.rc block hblock
  unfold sizeofCount at hroom
  let shared := Object.shared b.rc b.begin_ (b.begin_ + n) sso_'
  have hrc : shared.rc = b.rc := Object.rc_shared (by omega) _ _ sso_'
  -- the new share, before it is moved
  let X := s.putBlock b.rc { block with rc := block.rc + 1 }
  have hshare : (s.default result sso_).share temporary b.rc b.begin_ (b.begin_ + n) sso_' =
      some ((X.put result { sso_ }).put temporary shared) := by
    unfold Store.share
    dsimp only
    rw [show Object.setRc { begin_ := b.begin_, end_ := b.begin_ + n, sso_ := sso_' } b.rc = shared from rfl, hrc]
    rw [show (s.default result sso_).blocks b.rc = some block from hblock]
    rfl
  have hsso' : shared.sso temporary = false :=
    (hwithin.front hn hrc rfl rfl).sso hvacant'.free ((congrArg s.blocks hrc).trans hblock)
  have hmove : ((X.put result { sso_ }).put temporary shared).moveAssign result temporary =
      some (((X.put temporary shared).put result (b.front n sso_ sso_')).put temporary shared.moved) := by
    have hempty : ((X.put result { sso_ }).put temporary shared).objects result = some { sso_ } :=
      (objects_put_of_ne _ _ (Ne.symm hne)).trans (objects_put_self ..)
    have hstays := destroy_local hempty (Local.sso (.inl ⟨rfl, rfl⟩))
    rw [moveAssign_eq hne hstays hempty (objects_put_self ..), hsso', put_comm X _ _ (Ne.symm hne), put_put]
    rfl
  have hdestruct : (((X.put temporary shared).put result (b.front n sso_ sso_')).put temporary shared.moved).destructor
      temporary = some (X.put result (b.front n sso_ sso_')) := by
    unfold Store.destructor
    rw [destroy_local (objects_put_self ..) (shared.local_moved temporary).sso]
    exact congrArg some (moved_erase X _ _ hne hvacant'.objects)
  unfold Store.slice
  rw [hb]
  dsimp only [Bind.bind, Option.bind]
  rw [if_pos hn, if_neg hzero, if_neg hshort, hshare]
  dsimp only
  rw [hmove]
  dsimp only
  rw [hdestruct]
  dsimp only
  unfold Store.consume
  rw [show (X.put result (b.front n sso_ sso_')).objects this = some b from
    (objects_put_of_ne X _ hresult).trans hb]
  exact if_pos hn

theorem Object.rc_front {n : Nat} {sso_ sso_' : Memory} (h : b.rc < 2 ^ 64) : (b.front n sso_ sso_').rc = b.rc := by
  have hrc := Object.rc_shared h b.begin_ (b.begin_ + n) sso_'
  unfold Object.front
  rw [Object.rc_taken _ (lt_of_eq_of_lt hrc h), hrc]

theorem Object.size_front (b : Object) (n : Nat) (sso_ sso_' : Memory) : (b.front n sso_ sso_').size = n :=
  Nat.add_sub_cancel_left ..

/-- One more than a count that does not wrap. -/
theorem succ_count {rc : UInt32} (h : rc.toNat + 1 < 2 ^ 32) : (rc + 1).toNat = rc.toNat + 1 := by
  have hone : (1 : UInt32).toNat = 1 := rfl
  rw [UInt32.toNat_add, hone, Nat.mod_eq_of_lt h]

section Long

variable {block : Block} {n : Nat} (h : Sound s) (hvacant : Vacant s result) (hne : result ≠ this)
  (hb : s.objects this = some b) (hblock : s.blocks b.rc = some block) (hwithin : Within block b)
  (hn : n ≤ b.size) (sso_ sso_' : Memory)

/-- The store behind a slice that shares. -/
def Store.split (s : Store) (result this : Nat) (b : Object) (block : Block) (n : Nat) (sso_ sso_' : Memory) : Store :=
  ((s.putBlock b.rc { block with rc := block.rc + 1 }).put result (b.front n sso_ sso_')).put this (b.rest n)

include h hvacant hne hb hblock hwithin hn

/-- What a slice takes and what it leaves; the others have what they had. -/
theorem Sound.split (hcount : block.rc.toNat + 1 < 2 ^ 32) :
    Sound (s.split result this b block n sso_ sso_') ∧
      (s.split result this b block n sso_ sso_').bytes result = (s.bytes this).map (List.take n) ∧
      (s.split result this b block n sso_ sso_').bytes this = (s.bytes this).map (List.drop n) ∧
      ∀ x, x ≠ result → x ≠ this → (s.split result this b block n sso_ sso_').bytes x = s.bytes x := by
  have hfree := h.laid.free this b hb
  have hsso := hwithin.sso hfree hblock
  have hroom := h.laid.room b.rc block hblock
  unfold sizeofCount at hroom
  have hrc : (b.front n sso_ sso_').rc = b.rc := Object.rc_front (by omega)
  have hrcr : (b.rest n).rc = b.rc := rfl
  have hsize := hn
  unfold Object.size at hsize
  have hle := hwithin.le
  have hlo := hwithin.lo
  let block' : Block := { block with rc := block.rc + 1 }
  have hwithin' := hwithin.recount (block.rc + 1)
  have hfront : Within block' (b.front n sso_ sso_') := hwithin'.front hn hrc rfl rfl
  have hrest : Within block' (b.rest n) := hwithin'.rest hn
  have hself : (s.putBlock b.rc block').blocks b.rc = some block' := blocks_putBlock_self ..
  have hselff : (s.putBlock b.rc block').blocks (b.front n sso_ sso_').rc = some block' := by rw [hrc, hself]
  have hselfr : (s.putBlock b.rc block').blocks (b.rest n).rc = some block' := by rw [hrcr, hself]
  have hfree' := hfree.recount hblock (block.rc + 1)
  have hvacant' := hvacant.free.recount hblock (block.rc + 1)
  have hssof := hfront.sso hvacant' hselff
  have hssor := hrest.sso hfree' hselfr
  have hblocks {r : Nat} (hr : (s.putBlock b.rc block').blocks r = some block') :
      (s.split result this b block n sso_ sso_').blocks r = some block' := by
    unfold Store.split
    rw [blocks_put, blocks_put]
    exact hr
  have hputf : (s.split result this b block n sso_ sso_').objects result = some (b.front n sso_ sso_') :=
    (objects_put_of_ne _ _ hne).trans (objects_put_self ..)
  have hputr : (s.split result this b block n sso_ sso_').objects this = some (b.rest n) := objects_put_self ..
  refine ⟨⟨?_, ?_⟩, ?_, ?_, fun x hx hx' => ?_⟩
  · have hheld := (held_of_objects hb).trans (Object.share_shared hsso)
    have hsplit := h.ledger.split hne hheld (held_of_none hvacant.objects) (count_of_blocks hblock)
      (Nat.le_add_right b.begin_ n) (show b.begin_ + n ≤ b.end_ by omega)
    unfold Store.split
    rw [ledger_put, ledger_put, ledger_putBlock, Object.share_shared hssof, Object.share_shared hssor, hrc, hrcr,
      succ_count hcount, Ledger.hold_comm hne]
    exact hsplit
  · have hlaid := (h.laid.recount hblock (block.rc + 1)).put hvacant' (.inr ⟨block', hselff, hfront⟩)
    refine hlaid.put hfree' (.inr ⟨block', ?_, hrest⟩)
    rw [blocks_put]
    exact hselfr
  · rw [bytes_shared hputf hssof (hblocks hselff), bytes_shared hb hsso hblock, Option.map_some,
      Memory.take_load, Object.size_front, hrc, Nat.min_eq_left hn]
    rfl
  · have hoffset : (b.rest n).begin_ - (b.rc + sizeofCount) = b.begin_ - (b.rc + sizeofCount) + n := by
      show b.begin_ + n - (b.rc + sizeofCount) = _
      omega
    rw [bytes_shared hputr hssor (hblocks hselfr), bytes_shared hb hsso hblock, Option.map_some, Memory.drop_load,
      Object.size_rest, hrcr, hoffset]
  · unfold Store.split
    rw [bytes_put_of_ne _ _ hx', bytes_put_of_ne _ _ hx]
    exact bytes_recount hblock _ x

end Long

/-- What two objects hold where no other one changes. -/
theorem bytes_eq_update {v v' : Option (List UInt8)} (hv : s'.bytes a = v) (hv' : s'.bytes other = v')
    (hrest : ∀ x, x ≠ a → x ≠ other → s'.bytes x = s.bytes x) :
    s'.bytes = update (update s.bytes a v) other v' := by
  funext x
  by_cases hother : x = other
  · subst hother
    rw [update_self, hv']
  · rw [update_of_ne hother]
    by_cases ha : x = a
    · subst ha
      rw [update_self, hv]
    · rw [update_of_ne ha]
      exact hrest x ha hother

/-- Where no object is there are no bytes. -/
theorem bytes_of_none (h : s.objects a = none) : s.bytes a = none := by
  unfold Store.bytes
  rw [h]
  rfl

/-- Where there are bytes there is an object. -/
theorem objects_of_bytes {bs : List UInt8} (h : s.bytes a = some bs) : ∃ b, s.objects a = some b := by
  cases hb : s.objects a with
  | none =>
    rw [bytes_of_none hb] at h
    cases h
  | some b => exact ⟨b, rfl⟩

/-- A slice that copies: what is copied lies at another place first. -/
theorem Sound.slice_short {bs : List UInt8} {n : Nat} (h : Sound s) (hnone : s.objects temporary = none)
    (hfree : Free s temporary) (hne : temporary ≠ result) (hthis : this ≠ temporary) (hresult : this ≠ result)
    (hb : s.objects this = some b) (ho : s.objects result = some o) (hbytes : s.bytes this = some bs)
    (hn : n ≤ b.size) (hshort : n ≤ Storage.Buffer.SSO_THRESHOLD) (storage sso_ : Memory) :
    ∃ s₁ s₂ s₃ s₄, s.constructData temporary (bs.take n) 0 storage sso_ = some s₁ ∧
      s₁.moveAssign result temporary = some s₂ ∧ s₂.destructor temporary = some s₃ ∧ s₃.consume this n = some s₄ ∧
      Sound s₄ ∧ s₄.bytes result = some (bs.take n) ∧ s₄.bytes this = some (bs.drop n) ∧
      ∀ x, x ≠ result → x ≠ this → s₄.bytes x = s.bytes x := by
  have hfits : (bs.take n).length ≤ Storage.Buffer.SSO_THRESHOLD :=
    Nat.le_trans (List.length_take_le n bs) hshort
  obtain ⟨s₁, hs₁, hsound₁, hcopy, hothers₁, hobjects₁⟩ := h.constructData ⟨hnone, hfree⟩ (bs.take n) 0
    (fun hlong => absurd hfits (Nat.not_le.mpr hlong)) storage sso_
  obtain ⟨c, hc⟩ := objects_of_bytes hcopy
  obtain ⟨s₂, hs₂, hsound₂, hmoved⟩ := hsound₁.moveAssign hne ((hobjects₁ result (Ne.symm hne)).trans ho) hc
  obtain ⟨d, hd⟩ := Option.ne_none_iff_exists'.mp hmoved.lives.2
  obtain ⟨s₃, hs₃, hsound₃, hgone, hbeside⟩ := hsound₂.destructor hd
  have hb₃ : s₃.objects this = some b := by
    rw [hbeside.objects this hthis, hmoved.objects this hresult hthis, hobjects₁ this hthis]
    exact hb
  obtain ⟨hconsume, hsound₄, hleft⟩ := hsound₃.consume hb₃ hn
  refine ⟨s₁, s₂, s₃, _, hs₁, hs₂, hs₃, hconsume, hsound₄, ?_, ?_, fun x hx hx' => ?_⟩
  · rw [bytes_put_of_ne _ _ (Ne.symm hresult), hbeside.bytes result (Ne.symm hne), hmoved.taken]
    exact hcopy
  · rw [hleft, hbeside.bytes this hthis, hmoved.bytes this hresult hthis, hothers₁ this hthis, hbytes]
    rfl
  · rw [bytes_put_of_ne _ _ hx']
    by_cases hxt : x = temporary
    · rw [hxt, bytes_of_none hgone, bytes_of_none hnone]
    · rw [hbeside.bytes x hxt, hmoved.bytes x hx hxt, hothers₁ x hxt]

/-- **A slice is a buffer of its own**, with the first bytes of another one, which has those behind them. -/
theorem Sound.slice {n : Nat} (h : Sound s) (hvacant : Vacant s result) (hvacant' : Vacant s temporary)
    (hne : temporary ≠ result) (hb : s.objects this = some b) (hn : n ≤ b.size)
    (hcount : Storage.Buffer.SSO_THRESHOLD < n → ∀ block, s.blocks b.rc = some block → block.rc.toNat + 1 < 2 ^ 32)
    (storage sso_ sso_' : Memory) : ∃ s', s.slice result temporary this n storage sso_ sso_' = some s' ∧ Sound s' ∧
      s'.bytes = update (update s.bytes result ((s.bytes this).map (List.take n))) this
        ((s.bytes this).map (List.drop n)) := by
  obtain ⟨bs, hbytes, -⟩ := h.laid.bytes hb
  have hresult := hvacant.ne hb
  have htemporary := hvacant'.ne hb
  by_cases hlong : Storage.Buffer.SSO_THRESHOLD < n
  · rcases h.laid.form this b hb with hlocal | ⟨block, hblock, hwithin⟩
    · exact absurd (Nat.le_trans hn hlocal.size_le) (Nat.not_le.mpr hlong)
    · obtain ⟨hsound, htaken, hleft, hothers⟩ := h.split hvacant (Ne.symm hresult) hb hblock hwithin hn sso_ sso_'
        (hcount hlong block hblock)
      exact ⟨_, slice_long h hvacant hvacant' hne hb hblock hwithin hn hlong storage sso_ sso_', hsound,
        bytes_eq_update htaken hleft hothers⟩
  -- an empty buffer comes first
  have hempty : Local result { sso_ } := .inl ⟨rfl, rfl⟩
  have hdefault := h.put_local (held_of_none hvacant.objects) hvacant.free hempty
  have hput := objects_put_self s result { sso_ }
  have hthis : (s.put result { sso_ }).objects this = some b := (objects_put_of_ne s _ hresult).trans hb
  have hbytes' : (s.put result { sso_ }).bytes this = some bs := (bytes_put_of_ne s _ hresult).trans hbytes
  unfold Store.slice
  rw [hb, hbytes]
  dsimp only [Bind.bind, Option.bind]
  rw [if_pos hn]
  unfold Store.default
  by_cases hzero : n = 0
  · rw [if_pos hzero]
    refine ⟨_, rfl, hdefault, bytes_eq_update ?_ ?_ fun x hx _ => bytes_put_of_ne s _ hx⟩
    · rw [bytes_local hput hempty.sso, hzero]
      rfl
    · rw [hbytes', hzero]
      rfl
  · have hshort : Storage.Buffer.sso n = true := decide_eq_true (Nat.le_of_not_lt hlong)
    obtain ⟨s₁, s₂, s₃, s₄, hs₁, hs₂, hs₃, hs₄, hsound, htaken, hleft, hothers⟩ :=
      hdefault.slice_short ((objects_put_of_ne s _ hne).trans hvacant'.objects) hvacant'.free hne htemporary hresult
        hthis hput hbytes' hn (Nat.le_of_not_lt hlong) storage sso_'
    rw [if_neg hzero, if_pos hshort, hbytes']
    dsimp only
    rw [hs₁]
    dsimp only
    rw [hs₂]
    dsimp only
    rw [hs₃]
    dsimp only
    refine ⟨s₄, hs₄, hsound, bytes_eq_update htaken hleft fun x hx hx' => ?_⟩
    rw [hothers x hx hx', bytes_put_of_ne s _ hx]

/-! ## Runs -/

/-- An operation, with the places and the storage that the environment chooses for it. -/
inductive Action where
  | default (this : Nat) (sso_ : Memory)
  | construct (this size location : Nat) (storage sso_ : Memory)
  | constructData (this : Nat) (data : List UInt8) (location : Nat) (storage sso_ : Memory)
  | moveConstruct (this other : Nat) (sso_ : Memory)
  | moveAssign (this other : Nat)
  | consume (this size : Nat)
  | slice (result temporary this size : Nat) (storage sso_ sso_' : Memory)
  | destructor (this : Nat)

/-- An operation, as its name says. -/
def step (s : Store) : Action → Option Store
  | .default this sso_ => some (s.default this sso_)
  | .construct this size location storage sso_ => some (s.construct this size location storage sso_)
  | .constructData this data location storage sso_ => s.constructData this data location storage sso_
  | .moveConstruct this other sso_ => s.moveConstruct this other sso_
  | .moveAssign this other => s.moveAssign this other
  | .consume this size => s.consume this size
  | .slice result temporary this size storage sso_ sso_' => s.slice result temporary this size storage sso_ sso_'
  | .destructor this => s.destructor this

/-- The buffers that refer to a block. -/
def owners (s : Store) (r : Nat) : Set Nat := {a | ∃ b, s.objects a = some b ∧ b.sso a = false ∧ b.rc = r}

/-- Operations are on objects that live and take no more than there is. What is new lies apart from what is there,
and a block has fewer than 2³² slices. -/
def Allowed (s : Store) : Action → Prop
  | .default this _ => Vacant s this
  | .construct this size location _ _ =>
    Vacant s this ∧ (Storage.Buffer.SSO_THRESHOLD < size → Room s this location size)
  | .constructData this data location _ _ =>
    Vacant s this ∧ (Storage.Buffer.SSO_THRESHOLD < data.length → Room s this location data.length)
  | .moveConstruct this other _ => Vacant s this ∧ s.objects other ≠ none
  | .moveAssign this other => s.objects this ≠ none ∧ s.objects other ≠ none
  | .consume this size => ∃ b, s.objects this = some b ∧ size ≤ b.size
  | .slice result temporary this size _ _ _ =>
    Vacant s result ∧ Vacant s temporary ∧ temporary ≠ result ∧ ∃ b, s.objects this = some b ∧ size ≤ b.size ∧
      (Storage.Buffer.SSO_THRESHOLD < size → (owners s b.rc).ncard + 1 < 2 ^ 32)
  | .destructor this => s.objects this ≠ none

/-- Who owns what. -/
structure Owned (s : Store) : Prop where
  /-- The comparison of addresses tells where the bytes of an object lie. -/
  form : ∀ a b, s.objects a = some b →
    if b.sso a then Local a b else ∃ block, s.blocks b.rc = some block ∧ Within block b
  size : ∀ a b, s.objects a = some b → ∃ bs, s.bytes a = some bs ∧ bs.length = b.size
  counted : ∀ r block, s.blocks r = some block → (owners s r).Finite ∧ block.rc.toNat = (owners s r).ncard
  freed : ∀ r, s.blocks r = none ↔ owners s r = ∅
  apart : ∀ a a' b b', a ≠ a' → s.objects a = some b → s.objects a' = some b' → b.sso a = false → b'.sso a' = false →
    b.rc = b'.rc → b.end_ ≤ b'.begin_ ∨ b'.end_ ≤ b.begin_

/-- What an operation does, each object being a string of bytes. -/
def Does (s : Store) (action : Action) (s' : Store) : Prop :=
  match action with
  | .default this _ => s'.bytes = update s.bytes this (some [])
  | .construct this size _ _ _ => ∃ bs, bs.length = size ∧ s'.bytes = update s.bytes this (some bs)
  | .constructData this data _ _ _ => s'.bytes = update s.bytes this (some data)
  | .moveConstruct this other _ => s'.bytes = update (update s.bytes this (s.bytes other)) other (some [])
  | .moveAssign this other =>
    if other = this then s' = s else s'.bytes = update (update s.bytes this (s.bytes other)) other (some [])
  | .consume this size => s'.bytes = update s.bytes this ((s.bytes this).map (List.drop size))
  | .slice result _ this size _ _ _ =>
    s'.bytes = update (update s.bytes result ((s.bytes this).map (List.take size))) this
      ((s.bytes this).map (List.drop size))
  | .destructor this => s'.bytes = update s.bytes this none

/-- The owners of a block are those who hold a share of it. -/
theorem owners_eq (s : Store) (r : Nat) : owners s r = (ledger s).holders r := by
  ext a
  constructor
  · rintro ⟨b, hb, hsso, hr⟩
    exact ⟨_, (held_of_objects hb).trans (Object.share_shared hsso), hr⟩
  · rintro ⟨share, hshare, hr⟩
    cases hb : s.objects a with
    | none =>
      rw [held_of_none hb] at hshare
      cases hshare
    | some b =>
      rw [held_of_objects hb] at hshare
      cases hsso : b.sso a with
      | true =>
        rw [Object.share_local hsso] at hshare
        cases hshare
      | false =>
        rw [Object.share_shared hsso] at hshare
        cases hshare
        exact ⟨b, hb, hsso, hr⟩

/-- The count of a block is the number of its owners. -/
theorem Sound.count {r : Nat} {block : Block} (h : Sound s) (hblock : s.blocks r = some block) :
    block.rc.toNat = (owners s r).ncard := by
  have hcount := h.ledger.count r
  rw [count_of_blocks hblock] at hcount
  rw [owners_eq]
  exact hcount

/-- What the invariant says about the objects. -/
theorem Sound.owned (h : Sound s) : Owned s := by
  refine ⟨fun a b hb => ?_, fun a b hb => h.laid.bytes hb, fun r block hblock => ⟨?_, h.count hblock⟩, fun r => ?_,
    fun a a' b b' hne hb hb' hsso hsso' hr => ?_⟩
  · cases hsso : b.sso a with
    | true => exact h.laid.local_of_sso hb hsso
    | false =>
      obtain ⟨block, hblock, hwithin, -⟩ := h.block hb hsso
      exact ⟨block, hblock, hwithin⟩
  · rw [owners_eq]
    exact h.ledger.finite r
  · rw [owners_eq, ← h.ledger.count_eq_none_iff]
    exact Option.map_eq_none_iff.symm
  · exact h.ledger.apart a a' _ _ hne ((held_of_objects hb).trans (Object.share_shared hsso))
      ((held_of_objects hb').trans (Object.share_shared hsso')) hr

/-- What one object holds where no other one changes. -/
theorem bytes_eq_update_self {v : Option (List UInt8)} (hv : s'.bytes a = v)
    (hrest : ∀ x, x ≠ a → s'.bytes x = s.bytes x) :
    s'.bytes = update s.bytes a v := by
  funext x
  by_cases ha : x = a
  · subst ha
    rw [update_self, hv]
  · rw [update_of_ne ha]
    exact hrest x ha

/-- The default constructor makes an empty string. -/
theorem Sound.default (h : Sound s) (hvacant : Vacant s this) (sso_ : Memory) :
    Sound (s.default this sso_) ∧ (s.default this sso_).bytes = update s.bytes this (some []) := by
  have hempty : Local this { sso_ } := .inl ⟨rfl, rfl⟩
  refine ⟨h.put_local (held_of_none hvacant.objects) hvacant.free hempty,
    bytes_eq_update_self (bytes_local (objects_put_self ..) hempty.sso) fun x hx => bytes_put_of_ne s _ hx⟩

/-- A move takes the bytes of another buffer, which has none then. -/
theorem Moved.bytes_eq (h : Moved s s' this other) :
    s'.bytes = update (update s.bytes this (s.bytes other)) other (some []) :=
  bytes_eq_update h.taken h.left h.bytes

/-- **Each operation** keeps the ledger and does to the strings what it should. -/
theorem step_does {action : Action} (h : Sound s) (hallowed : Allowed s action) :
    ∃ s', step s action = some s' ∧ Does s action s' ∧ Sound s' := by
  cases action with
  | default this sso_ =>
    obtain ⟨hsound, hbytes⟩ := h.default hallowed sso_
    exact ⟨_, rfl, hbytes, hsound⟩
  | construct this size location storage sso_ =>
    obtain ⟨hsound, ⟨bs, hbytes, hlength⟩, hothers⟩ := h.construct hallowed.1 hallowed.2 storage sso_
    exact ⟨_, rfl, ⟨bs, hlength, bytes_eq_update_self hbytes hothers⟩, hsound⟩
  | constructData this data location storage sso_ =>
    obtain ⟨s', hs', hsound, hbytes, hothers, -⟩ := h.constructData hallowed.1 data location hallowed.2 storage sso_
    exact ⟨s', hs', bytes_eq_update_self hbytes hothers, hsound⟩
  | moveConstruct this other sso_ =>
    obtain ⟨hvacant, hother⟩ := hallowed
    obtain ⟨o, ho⟩ := Option.ne_none_iff_exists'.mp hother
    obtain ⟨hsound, hbytes⟩ := h.default hvacant sso_
    have hne := hvacant.ne ho
    have ho' : (s.default this sso_).objects other = some o := (objects_put_of_ne s _ hne).trans ho
    obtain ⟨s', hs', hsound', hmoved⟩ := hsound.moveAssign hne (objects_put_self ..) ho'
    refine ⟨s', hs', ?_, hsound'⟩
    have hmoves := hmoved.bytes_eq
    rw [hbytes, Function.update_idem, update_of_ne hne] at hmoves
    exact hmoves
  | moveAssign this other =>
    obtain ⟨hthis, hother⟩ := hallowed
    obtain ⟨b, hb⟩ := Option.ne_none_iff_exists'.mp hthis
    obtain ⟨o, ho⟩ := Option.ne_none_iff_exists'.mp hother
    by_cases hne : other = this
    · refine ⟨s, if_neg (not_not.mpr hne), ?_, h⟩
      unfold Does
      exact (if_pos hne).mpr rfl
    · obtain ⟨s', hs', hsound, hmoved⟩ := h.moveAssign hne hb ho
      refine ⟨s', hs', ?_, hsound⟩
      unfold Does
      exact (if_neg hne).mpr hmoved.bytes_eq
  | consume this size =>
    obtain ⟨b, hb, hsize⟩ := hallowed
    obtain ⟨hconsume, hsound, hbytes⟩ := h.consume hb hsize
    exact ⟨_, hconsume, bytes_eq_update_self hbytes fun x hx => bytes_put_of_ne s _ hx, hsound⟩
  | slice result temporary this size storage sso_ sso_' =>
    obtain ⟨hvacant, hvacant', hne, b, hb, hsize, hfew⟩ := hallowed
    obtain ⟨s', hs', hsound, hbytes⟩ := h.slice hvacant hvacant' hne hb hsize (fun hlong block hblock => by
      rw [h.count hblock]
      exact hfew hlong) storage sso_ sso_'
    exact ⟨s', hs', hbytes, hsound⟩
  | destructor this =>
    obtain ⟨b, hb⟩ := Option.ne_none_iff_exists'.mp hallowed
    obtain ⟨s', hs', hsound, hgone, hbeside⟩ := h.destructor hb
    exact ⟨s', hs', bytes_eq_update_self (bytes_of_none hgone) hbeside.bytes, hsound⟩

/-- Nothing lives yet. -/
theorem sound_empty : Sound {} := by
  have hnone (r : Nat) : (Objects.ledger {}).holders r = ∅ := by
    ext a
    refine iff_of_false ?_ id
    rintro ⟨share, hshare, -⟩
    cases hshare
  constructor
  · refine ⟨fun r => ?_, fun r => ?_, fun r hr => ?_, fun a a' share share' _ hshare => ?_⟩
    · rw [hnone]
      exact Set.finite_empty
    · rw [hnone, Set.ncard_empty]
      rfl
    · cases hr
    · cases hshare
  · constructor
    · intro r block hr
      cases hr
    · intro a b hb
      cases hb
    · intro a b hb
      cases hb

/-- **Who owns what**: in any run each block counts its buffers, goes with the last of them and is theirs in parts
that are apart, and every buffer is a string of bytes. -/
theorem owned_always (actions : List Action) (h : Run.Meets step Allowed {} actions) :
    Owned {} ∧ Run.Always step (fun s action s' => Does s action s' ∧ Owned s') {} actions := by
  refine ⟨sound_empty.owned, Run.always_of_meets (I := Sound) (fun s action hsound hallowed => ?_) sound_empty h⟩
  obtain ⟨s', hs', hdoes, hsound'⟩ := step_does hsound hallowed
  exact ⟨s', hs', ⟨hdoes, hsound'.owned⟩, hsound'⟩

/-- A block of thirty bytes, its slice and the end of the buffer that was sliced. -/
def sliced : List Action :=
  [.construct 4096 30 8192 Memory.zero Memory.zero, .slice 16384 20480 4096 21 Memory.zero Memory.zero Memory.zero,
    .destructor 4096]

/-- Where nothing lives any place is vacant. -/
theorem vacant_empty (a : Nat) : Vacant {} a := by
  refine ⟨rfl, fun r block hr => ?_⟩
  cases hr

/-- There is room for a block of thirty bytes. -/
theorem room_empty : Room {} 4096 8192 30 := by
  refine ⟨rfl, by decide, fun a ha => ?_⟩
  rcases ha with hlives | rfl
  · exact absurd rfl hlives
  · exact .inl (by decide)

/-- The buffer of thirty bytes is there, and whatever lies behind its block is vacant. -/
theorem constructed : ∃ s b, step {} (.construct 4096 30 8192 Memory.zero Memory.zero) = some s ∧ Sound s ∧
    s.objects 4096 = some b ∧ b.size = 30 ∧ s.blocks b.rc = some ⟨1, 30, Memory.zero⟩ ∧
    ∀ a, 16384 ≤ a → Vacant s a := by
  have hlong : Storage.Buffer.SSO_THRESHOLD < 30 := by decide
  have hroom := room_empty
  obtain ⟨hsound, -⟩ := sound_empty.put_long (vacant_empty 4096) hroom Memory.zero Memory.zero
  refine ⟨_, .long 8192 30 Memory.zero, congrArg some (construct_long {} 4096 Memory.zero Memory.zero hlong hroom.room),
    hsound, objects_put_self .., Nat.add_sub_cancel_left .., ?_, fun a ha => ⟨?_, fun r block hr => ?_⟩⟩
  · rw [blocks_put, Object.rc_long hroom.room, blocks_putBlock_self]
  · exact objects_put_of_ne _ _ (by omega)
  · rw [blocks_put] at hr
    by_cases heq : r = 8192
    · subst heq
      rw [blocks_putBlock_self] at hr
      cases hr
      exact .inr (Nat.le_trans (by decide) ha)
    · rw [blocks_putBlock_of_ne _ _ heq] at hr
      cases hr

theorem sliced_meets : Run.Meets step Allowed {} sliced := by
  obtain ⟨s, b, hs, hsound, hb, hsize, hblock, hvacant⟩ := constructed
  have hallowed : Allowed s (.slice 16384 20480 4096 21 Memory.zero Memory.zero Memory.zero) := by
    refine ⟨hvacant 16384 (Nat.le_refl _), hvacant 20480 (by decide), by decide, b, hb, ?_, fun _ => ?_⟩
    · rw [hsize]
      decide
    · rw [← hsound.count hblock]
      decide
  obtain ⟨s', hs', hslice, -⟩ := step_does hsound hallowed
  have hlives : s'.objects 4096 ≠ none := by
    intro hnone
    have hbytes := congrFun hslice 4096
    obtain ⟨bs, hbs, -⟩ := hsound.laid.bytes hb
    rw [update_self, bytes_of_none hnone, hbs] at hbytes
    cases hbytes
  refine (Run.meets_cons hs).mpr ⟨⟨vacant_empty 4096, fun _ => room_empty⟩, ?_⟩
  refine (Run.meets_cons hs').mpr ⟨hallowed, hlives, ?_⟩
  cases step s' (.destructor 4096) with
  | none => exact trivial
  | some s'' => exact trivial

/-- The block of thirty bytes stays until the slice goes. -/
theorem owned_always_sliced : Owned {} ∧ Run.Always step (fun s action s' => Does s action s' ∧ Owned s') {} sliced :=
  owned_always sliced sliced_meets

/-- A buffer that is moved onto itself keeps its bytes. -/
theorem moveAssign_self_not : ∃ actions, Run.Meets step Allowed {} actions ∧
    ¬ Run.Always step (fun _ action s' => ∀ this other, action = .moveAssign this other → s'.bytes other = some [])
      {} actions := by
  have hshort : ¬ Storage.Buffer.SSO_THRESHOLD < [(1 : UInt8)].length := by decide
  obtain ⟨s, hs, -, hbytes, -⟩ := sound_empty.constructData (vacant_empty 4096) [1] 0
    (fun hlong => absurd hlong hshort) Memory.zero Memory.zero
  obtain ⟨b, hb⟩ := objects_of_bytes hbytes
  have hlives : s.objects 4096 ≠ none := fun hnone => Option.some_ne_none b (hb.symm.trans hnone)
  have hself : step s (.moveAssign 4096 4096) = some s := by
    unfold step Store.moveAssign
    exact if_neg (not_not.mpr rfl)
  refine ⟨[.constructData 4096 [1] 0 Memory.zero Memory.zero, .moveAssign 4096 4096], ?_, fun halways => ?_⟩
  · refine (Run.meets_cons hs).mpr ⟨⟨vacant_empty 4096, fun hlong => absurd hlong hshort⟩, ?_⟩
    exact (Run.meets_cons hself).mpr ⟨⟨hlives, hlives⟩, trivial⟩
  · obtain ⟨-, hmove⟩ := (Run.always_cons hs).mp halways
    have hempty := ((Run.always_cons hself).mp hmove).1 4096 4096 rfl
    rw [hbytes] at hempty
    cases hempty

end Bnl.Base.Objects
