import Bnl.Base.Object
import Bnl.Library.Ledger
import Bnl.Library.Run

/-!
# Who owns a block

An object whose `begin_` lies within itself has its bytes there. Any other has a share of a block, and the
blocks count the objects that have one: so the comparison of addresses tells the two apart, a block is freed
with the last of its objects, and no two objects have the same bytes.

The invariant (`Sound`) has two halves. `Laid` is about addresses: objects and blocks lie apart, and the
pointers of an object are into itself or into its block. `ledger` is about shares: who has which part of which
block, with the counts. The ledger is that of `Library/Ledger`, where shares are taken, split and given back
with no addresses at all.

The idea of the proof: an operation on the store is one on the ledger (`ledger_put`, `ledger_erase`,
`ledger_putBlock`, `ledger_free`), and the ledger's law says that it stays sound. What remains for each function
of `buffer` is where things lie, and that the bytes of no other object are touched (`Beside`).

**What it does not establish.** Where `new` puts a block is chosen by the environment; that it does not fail is
taken for granted. Sizes at which a block would not fit behind its address are left out (`Room`).
-/

namespace Bnl.Base.Objects

open Function (update update_self update_of_ne)

variable {s s' : Store} {a this other : Nat} {b o : Object}

/-! ## Pointers -/

/-- The count that was set is read back, where an address fits. -/
theorem Object.rc_setRc (b : Object) {r : Nat} (h : r < 2 ^ 64) : (b.setRc r).rc = r := by
  unfold rc setRc
  have hload := Memory.load_store b.sso_ 0 (Bytes.toBytes 8 r)
  rw [Bytes.length_toBytes] at hload
  rw [hload, Bytes.ofBytes_toBytes]
  exact Nat.mod_eq_of_lt h

theorem Object.sso_iff : b.sso a = true ↔
    b.begin_ = 0 ∨ ssoOf a ≤ b.begin_ ∧ b.begin_ ≤ ssoOf a + Storage.Buffer.SSO_THRESHOLD := decide_eq_true_iff

/-- The bytes lie in the object itself, or there are none. -/
def Local (a : Nat) (b : Object) : Prop :=
  b.begin_ = 0 ∧ b.end_ = 0 ∨
    ssoOf a ≤ b.begin_ ∧ b.begin_ ≤ b.end_ ∧ b.end_ ≤ ssoOf a + Storage.Buffer.SSO_THRESHOLD

/-- An object with its bytes in itself says so. -/
theorem Local.sso (h : Local a b) : b.sso a = true := by
  rw [Object.sso_iff]
  rcases h with ⟨hnull, -⟩ | ⟨hlo, hle, hhi⟩
  · exact .inl hnull
  · exact .inr ⟨hlo, Nat.le_trans hle hhi⟩

/-- The bytes lie in this block. -/
structure Within (block : Block) (b : Object) : Prop where
  lo : b.rc + sizeofCount ≤ b.begin_
  le : b.begin_ ≤ b.end_
  hi : b.end_ ≤ b.rc + sizeofCount + block.size

/-- No block lies where the object lies. -/
def Free (s : Store) (a : Nat) : Prop :=
  ∀ r block, s.blocks r = some block → a + sizeofBuffer ≤ r ∨ r + sizeofCount + block.size ≤ a

/-- A pointer into a block is none into an object that lies apart from it. -/
theorem Within.sso {block : Block} (h : Within block b) (hfree : Free s a) (hb : s.blocks b.rc = some block) :
    b.sso a = false := by
  rw [Bool.eq_false_iff, ne_eq, Object.sso_iff]
  have happart := hfree b.rc block hb
  have hlo := h.lo
  have hle := h.le
  have hhi := h.hi
  unfold ssoOf Storage.Buffer.SSO_THRESHOLD
  unfold sizeofBuffer sizeofCount at happart
  unfold sizeofCount at hlo hhi
  omega

/-! ## The invariant -/

/-- What an object has of the blocks. -/
def Object.share (a : Nat) (b : Object) : Option (Share Nat) :=
  if b.sso a then none else some ⟨b.rc, b.begin_, b.end_⟩

/-- The shares of the objects, and the counts of the blocks. -/
def ledger (s : Store) : Ledger Nat Nat where
  held a := (s.objects a).bind (Object.share a)
  count r := (s.blocks r).map fun block => block.rc.toNat

/-- Blocks and objects lie apart, and each object has its bytes in itself or in a block. -/
structure Laid (s : Store) : Prop where
  room : ∀ r block, s.blocks r = some block → r + sizeofCount + block.size ≤ 2 ^ 64
  free : ∀ a b, s.objects a = some b → Free s a
  form : ∀ a b, s.objects a = some b → Local a b ∨ ∃ block, s.blocks b.rc = some block ∧ Within block b

/-- The invariant of a store. -/
structure Sound (s : Store) : Prop where
  ledger : (ledger s).Sound
  laid : Laid s

/-- An object with its bytes in itself has no share. -/
theorem Object.share_local (h : b.sso a = true) : b.share a = none := if_pos h

/-- Any other has a part of its block. -/
theorem Object.share_shared (h : b.sso a = false) : b.share a = some ⟨b.rc, b.begin_, b.end_⟩ :=
  if_neg (Bool.eq_false_iff.mp h)

/-- What an object holds in the ledger. -/
theorem held_of_objects (h : s.objects a = some b) : (ledger s).held a = b.share a := by
  unfold ledger
  dsimp only
  rw [h]
  rfl

/-- Where no object is, nothing is held. -/
theorem held_of_none (h : s.objects a = none) : (ledger s).held a = none := by
  unfold ledger
  dsimp only
  rw [h]
  rfl

/-- What a block counts in the ledger. -/
theorem count_of_blocks {r : Nat} {block : Block} (h : s.blocks r = some block) :
    (ledger s).count r = some block.rc.toNat := by
  unfold ledger
  dsimp only
  rw [h]
  rfl

/-- An object that is put holds its share. -/
theorem ledger_put (s : Store) (a : Nat) (b : Object) : ledger (s.put a b) = (ledger s).hold a (b.share a) := by
  unfold ledger Ledger.hold Store.put
  dsimp only
  congr 1
  funext x
  exact Function.apply_update (fun x (o : Option Object) => o.bind (Object.share x)) s.objects a (some b) x

/-- One that is erased holds nothing. -/
theorem ledger_erase (s : Store) (a : Nat) : ledger (s.erase a) = (ledger s).hold a none := by
  unfold ledger Ledger.hold Store.erase
  dsimp only
  congr 1
  funext x
  exact Function.apply_update (fun x (o : Option Object) => o.bind (Object.share x)) s.objects a none x

/-- A block that is put counts anew. -/
theorem ledger_putBlock (s : Store) (r : Nat) (block : Block) :
    ledger (s.putBlock r block) = (ledger s).recount r (some block.rc.toNat) := by
  unfold ledger Ledger.recount Store.putBlock
  dsimp only
  congr 1
  funext x
  exact Function.apply_update (fun _ => Option.map fun block : Block => block.rc.toNat) s.blocks r (some block) x

/-- One that is freed counts no more. -/
theorem ledger_free (s : Store) (r : Nat) : ledger (s.free r) = (ledger s).recount r none := by
  unfold ledger Ledger.recount Store.free
  dsimp only
  congr 1
  funext x
  exact Function.apply_update (fun _ => Option.map fun block : Block => block.rc.toNat) s.blocks r none x

namespace Laid

/-- An object may be put where no block lies, with its bytes in itself or in a block. -/
theorem put (h : Laid s) (hfree : Free s a)
    (hform : Local a b ∨ ∃ block, s.blocks b.rc = some block ∧ Within block b) : Laid (s.put a b) := by
  refine ⟨h.room, fun x o hx => ?_, fun x o hx => ?_⟩
  · by_cases hxa : x = a
    · subst hxa
      exact hfree
    · exact h.free x o ((update_of_ne hxa ..).symm.trans hx)
  · by_cases hxa : x = a
    · subst hxa
      cases (update_self ..).symm.trans hx
      exact hform
    · exact h.form x o ((update_of_ne hxa ..).symm.trans hx)

/-- An object may always go. -/
theorem erase (h : Laid s) (a : Nat) : Laid (s.erase a) := by
  have hlives {x : Nat} {o : Object} (hx : (s.erase a).objects x = some o) : s.objects x = some o := by
    by_cases hxa : x = a
    · subst hxa
      cases (update_self ..).symm.trans hx
    · exact (update_of_ne hxa ..).symm.trans hx
  exact ⟨h.room, fun x o hx => h.free x o (hlives hx), fun x o hx => h.form x o (hlives hx)⟩

/-- A block that is there, or a new one that lies apart from the objects. -/
theorem putBlock {r : Nat} {block : Block} (h : Laid s) (hroom : r + sizeofCount + block.size ≤ 2 ^ 64)
    (hfree : ∀ a b, s.objects a = some b → a + sizeofBuffer ≤ r ∨ r + sizeofCount + block.size ≤ a)
    (hsize : ∀ old, s.blocks r = some old → old.size = block.size) : Laid (s.putBlock r block) := by
  have hother {r' : Nat} (hr : r' ≠ r) : (s.putBlock r block).blocks r' = s.blocks r' := update_of_ne hr ..
  have hself : (s.putBlock r block).blocks r = some block := update_self ..
  refine ⟨fun r' block' hr' => ?_, fun x o hx r' block' hr' => ?_, fun x o hx => ?_⟩
  · by_cases hr : r' = r
    · subst hr
      cases hself.symm.trans hr'
      exact hroom
    · exact h.room r' block' ((hother hr).symm.trans hr')
  · by_cases hr : r' = r
    · subst hr
      cases hself.symm.trans hr'
      exact hfree x o hx
    · exact h.free x o hx r' block' ((hother hr).symm.trans hr')
  · refine (h.form x o hx).imp_right fun ⟨block', hr', hwithin⟩ => ?_
    by_cases hr : o.rc = r
    · subst hr
      have hsame := hsize block' hr'
      exact ⟨block, hself, hwithin.lo, hwithin.le, hsame ▸ hwithin.hi⟩
    · exact ⟨block', (hother hr).trans hr', hwithin⟩

/-- A block of which no object has a share. -/
theorem free_ {r : Nat} (h : Laid s) (hnone : ∀ a b, s.objects a = some b → b.sso a = false → b.rc ≠ r) :
    Laid (s.free r) := by
  have hother {r' : Nat} (hr : r' ≠ r) : (s.free r).blocks r' = s.blocks r' := update_of_ne hr ..
  have hlives {r' : Nat} {block : Block} (hr' : (s.free r).blocks r' = some block) : s.blocks r' = some block := by
    by_cases hr : r' = r
    · subst hr
      cases (update_self ..).symm.trans hr'
    · exact (hother hr).symm.trans hr'
  refine ⟨fun r' block hr' => h.room r' block (hlives hr'),
    fun x o hx r' block hr' => h.free x o hx r' block (hlives hr'), fun x o hx => ?_⟩
  rcases h.form x o hx with hlocal | ⟨block, hr', hwithin⟩
  · exact .inl hlocal
  · have hne := hnone x o hx (hwithin.sso (h.free x o hx) hr')
    exact .inr ⟨block, (hother hne).trans hr', hwithin⟩

end Laid

/-! ## What the objects hold -/

/-- An object keeps its bytes where neither it nor the bytes of its block are written to. -/
theorem bytes_congr {x : Nat} (hobject : s'.objects x = s.objects x)
    (hblock : ∀ o, s.objects x = some o → o.sso x = false →
      (s'.blocks o.rc).map Block.bytes = (s.blocks o.rc).map Block.bytes) : s'.bytes x = s.bytes x := by
  unfold Store.bytes
  rw [hobject]
  cases hx : s.objects x with
  | none => rfl
  | some o =>
    dsimp only [Bind.bind, Option.bind]
    cases hsso : o.sso x with
    | true => rfl
    | false =>
      have hsame := hblock o hx hsso
      cases hs : s.blocks o.rc with
      | none =>
        rw [hs] at hsame
        rw [Option.map_eq_none_iff.mp hsame]
      | some block =>
        rw [hs] at hsame
        obtain ⟨block', hs', hbytes⟩ := Option.map_eq_some_iff.mp hsame
        rw [hs', if_neg (by decide), if_neg (by decide)]
        dsimp only
        rw [hbytes]

/-- The bytes of an object that has them in itself. -/
theorem bytes_local (hb : s.objects a = some b) (h : b.sso a = true) :
    s.bytes a = some (b.sso_.load (b.begin_ - ssoOf a) b.size) := by
  unfold Store.bytes
  rw [hb]
  exact if_pos h

/-- The bytes of an object that has a share. -/
theorem bytes_shared {block : Block} (hb : s.objects a = some b) (h : b.sso a = false)
    (hblock : s.blocks b.rc = some block) :
    s.bytes a = some (block.bytes.load (b.begin_ - (b.rc + sizeofCount)) b.size) := by
  unfold Store.bytes
  rw [hb]
  dsimp only [Bind.bind, Option.bind]
  rw [h, hblock]
  rfl

/-- An object of a sound store has bytes. -/
theorem Laid.bytes (h : Laid s) (hb : s.objects a = some b) : ∃ bs, s.bytes a = some bs ∧ bs.length = b.size := by
  rcases h.form a b hb with hlocal | ⟨block, hblock, hwithin⟩
  · exact ⟨_, bytes_local hb hlocal.sso, Memory.length_load ..⟩
  · exact ⟨_, bytes_shared hb (hwithin.sso (h.free a b hb) hblock) hblock, Memory.length_load ..⟩

/-- The object that was put. -/
@[simp] theorem objects_put_self (s : Store) (a : Nat) (b : Object) : (s.put a b).objects a = some b :=
  update_self ..

theorem objects_put_of_ne {x : Nat} (s : Store) (b : Object) (h : x ≠ a) : (s.put a b).objects x = s.objects x :=
  update_of_ne h ..

/-- The object that was erased. -/
@[simp] theorem objects_erase_self (s : Store) (a : Nat) : (s.erase a).objects a = none := update_self ..

theorem objects_erase_of_ne {x : Nat} (s : Store) (h : x ≠ a) : (s.erase a).objects x = s.objects x :=
  update_of_ne h ..

/-- The block that was put. -/
@[simp] theorem blocks_putBlock_self (s : Store) (r : Nat) (block : Block) :
    (s.putBlock r block).blocks r = some block := update_self ..

theorem blocks_putBlock_of_ne {r r' : Nat} (s : Store) (block : Block) (h : r' ≠ r) :
    (s.putBlock r block).blocks r' = s.blocks r' := update_of_ne h ..

/-- An object that is put changes no block. -/
theorem blocks_put (s : Store) (a : Nat) (b : Object) : (s.put a b).blocks = s.blocks := rfl

/-- The block that was freed. -/
@[simp] theorem blocks_free_self (s : Store) (r : Nat) : (s.free r).blocks r = none := update_self ..

theorem blocks_free_of_ne {r r' : Nat} (s : Store) (h : r' ≠ r) : (s.free r).blocks r' = s.blocks r' :=
  update_of_ne h ..

/-- The bytes beside an object that is put. -/
theorem bytes_put_of_ne {x : Nat} (s : Store) (b : Object) (h : x ≠ a) : (s.put a b).bytes x = s.bytes x :=
  bytes_congr (objects_put_of_ne s b h) fun _ _ _ => rfl

/-- The bytes beside an object that is erased. -/
theorem bytes_erase_of_ne {x : Nat} (s : Store) (h : x ≠ a) : (s.erase a).bytes x = s.bytes x :=
  bytes_congr (objects_erase_of_ne s h) fun _ _ _ => rfl

/-! ## `destroy` -/

/-- All but one object are as they were, and no block has come where there was none. -/
structure Beside (s s' : Store) (a : Nat) : Prop where
  objects : ∀ x, x ≠ a → s'.objects x = s.objects x
  bytes : ∀ x, x ≠ a → s'.bytes x = s.bytes x
  free : ∀ x, Free s x → Free s' x

/-- One less than a count that is not zero, which is zero for one. -/
theorem pred_count {rc : UInt32} (h : rc.toNat ≠ 0) :
    (rc - 1).toNat = rc.toNat - 1 ∧ (rc - 1 = 0 ↔ rc.toNat - 1 = 0) := by
  have hle : (1 : UInt32) ≤ rc := UInt32.le_iff_toNat_le.mpr (Nat.pos_of_ne_zero h)
  have hpred : (rc - 1).toNat = rc.toNat - 1 := UInt32.toNat_sub_of_le rc 1 hle
  refine ⟨hpred, ?_⟩
  rw [← hpred]
  exact ⟨fun heq => by rw [heq]; rfl, fun heq => UInt32.toNat.inj heq⟩

/-- What was put and erased is not there. -/
theorem erase_put (s : Store) (a : Nat) (b : Object) : (s.put a b).erase a = s.erase a := by
  unfold Store.put Store.erase
  dsimp only
  rw [Function.update_idem]

/-- What was erased and put is there. -/
theorem put_erase (s : Store) (a : Nat) (b : Object) : (s.erase a).put a b = s.put a b := by
  unfold Store.put Store.erase
  dsimp only
  rw [Function.update_idem]

/-- What was put last is there. -/
theorem put_put (s : Store) (a : Nat) (b c : Object) : (s.put a b).put a c = s.put a c := by
  unfold Store.put
  dsimp only
  rw [Function.update_idem]

theorem putBlock_putBlock (s : Store) (r : Nat) (block block' : Block) :
    (s.putBlock r block).putBlock r block' = s.putBlock r block' := by
  unfold Store.putBlock
  dsimp only
  rw [Function.update_idem]

/-- A block and an object, in either order. -/
theorem putBlock_put (s : Store) (a r : Nat) (b : Object) (block : Block) :
    (s.put a b).putBlock r block = (s.putBlock r block).put a b := rfl

/-- What an object shares is counted. -/
theorem Sound.block (h : Sound s) (hb : s.objects a = some b) (hsso : b.sso a = false) :
    ∃ block, s.blocks b.rc = some block ∧ Within block b ∧ block.rc.toNat ≠ 0 := by
  rcases h.laid.form a b hb with hlocal | ⟨block, hblock, hwithin⟩
  · rw [hlocal.sso] at hsso
    cases hsso
  · refine ⟨block, hblock, hwithin, fun hzero => h.ledger.live b.rc ?_⟩
    unfold Objects.ledger
    dsimp only
    rw [hblock, Option.map_some, hzero]

/-! Another count in a block changes nothing else. -/

/-- How many share the block says nothing about where they lie. -/
theorem Within.recount {block : Block} (h : Within block b) (rc : UInt32) : Within { block with rc } b :=
  ⟨h.lo, h.le, h.hi⟩

theorem Free.recount {r : Nat} {block : Block} (h : Free s a) (hblock : s.blocks r = some block) (rc : UInt32) :
    Free (s.putBlock r { block with rc }) a := by
  intro r' block' hr'
  by_cases hr : r' = r
  · subst hr
    cases (blocks_putBlock_self ..).symm.trans hr'
    exact h r' block hblock
  · exact h r' block' ((blocks_putBlock_of_ne s _ hr).symm.trans hr')

theorem Laid.recount {r : Nat} {block : Block} (h : Laid s) (hblock : s.blocks r = some block) (rc : UInt32) :
    Laid (s.putBlock r { block with rc }) := by
  refine h.putBlock (h.room r block hblock) (fun x o hx => h.free x o hx r block hblock) fun old hold => ?_
  cases hblock.symm.trans hold
  rfl

theorem bytes_recount {r : Nat} {block : Block} (hblock : s.blocks r = some block) (rc : UInt32) (x : Nat) :
    (s.putBlock r { block with rc }).bytes x = s.bytes x := by
  refine bytes_congr rfl fun o _ _ => ?_
  by_cases hr : o.rc = r
  · rw [hr, blocks_putBlock_self, hblock]
    rfl
  · rw [blocks_putBlock_of_ne s _ hr]

section Release

variable {block : Block} (h : Sound s) (hb : s.objects a = some b) (hsso : b.sso a = false)
  (hblock : s.blocks b.rc = some block)

include h hb hsso hblock

/-- The share of the object leaves the ledger. -/
theorem release_ledger : (((Objects.ledger s).hold a none).recount b.rc
    (if block.rc.toNat - 1 = 0 then none else some (block.rc.toNat - 1))).Sound := by
  have hheld : (Objects.ledger s).held a = some ⟨b.rc, b.begin_, b.end_⟩ :=
    (held_of_objects hb).trans (Object.share_shared hsso)
  exact h.ledger.release hheld (count_of_blocks hblock)

/-- A last object's block is freed. -/
theorem free_sound (hlast : block.rc.toNat = 1) :
    Sound ((s.free b.rc).erase a) ∧ Beside s (s.free b.rc) a := by
  have hheld : (Objects.ledger s).held a = some ⟨b.rc, b.begin_, b.end_⟩ :=
    (held_of_objects hb).trans (Object.share_shared hsso)
  have hcount := count_of_blocks hblock
  have hrelease := release_ledger h hb hsso hblock
  rw [hlast, if_pos (Nat.sub_self 1)] at hrelease
  rw [hlast] at hcount
  -- nobody else has a share of the block
  have halone {x : Nat} {o : Object} (hx : s.objects x = some o) (ho : o.sso x = false) (hne : x ≠ a) :
      o.rc ≠ b.rc := by
    intro hrc
    have hother := (held_of_objects hx).trans (Object.share_shared ho)
    exact hne (h.ledger.eq_of_count_one hheld hother hrc hcount)
  refine ⟨⟨?_, ?_⟩, fun x _ => rfl, fun x hx => ?_, fun x hfree r block' hr => ?_⟩
  · rw [ledger_erase, ledger_free, Ledger.hold_recount]
    exact hrelease
  · refine Laid.free_ (h.laid.erase a) fun x o hx ho => ?_
    by_cases hxa : x = a
    · subst hxa
      cases (update_self ..).symm.trans hx
    · exact halone ((update_of_ne hxa ..).symm.trans hx) ho hxa
  · refine bytes_congr rfl fun o ho hsso' => ?_
    rw [blocks_free_of_ne s (halone ho hsso' hx)]
  · by_cases hrc : r = b.rc
    · rw [hrc, blocks_free_self] at hr
      cases hr
    · rw [blocks_free_of_ne s hrc] at hr
      exact hfree r block' hr

/-- A block that has other objects counts one less. -/
theorem count_sound (hmore : block.rc.toNat - 1 ≠ 0) {rc : UInt32} (hrc : rc.toNat = block.rc.toNat - 1) :
    Sound ((s.putBlock b.rc { block with rc }).erase a) ∧ Beside s (s.putBlock b.rc { block with rc }) a := by
  have hrelease := release_ledger h hb hsso hblock
  rw [if_neg hmore] at hrelease
  refine ⟨⟨?_, (h.laid.recount hblock rc).erase a⟩, fun x _ => rfl, fun x _ => bytes_recount hblock rc x,
    fun x hfree => hfree.recount hblock rc⟩
  rw [ledger_erase, ledger_putBlock]
  dsimp only
  rw [hrc]
  exact hrelease

end Release

/-- There is nothing to give back for an object with its bytes in itself. -/
theorem destroy_local (hb : s.objects a = some b) (h : b.sso a = true) : s.destroy a = some s := by
  unfold Store.destroy
  rw [hb]
  exact if_pos h

/-- **The share of an object goes**, and the block with it where it was the last. -/
theorem Sound.destroy (h : Sound s) (hb : s.objects a = some b) : ∃ s' b', s.destroy a = some s' ∧
    s'.objects a = some b' ∧ Sound (s'.erase a) ∧ Beside s s' a := by
  unfold Store.destroy
  rw [hb]
  dsimp only [Bind.bind, Option.bind]
  cases hsso : b.sso a with
  | true =>
    refine ⟨s, b, rfl, hb, ⟨?_, h.laid.erase a⟩, fun _ _ => rfl, fun _ _ => rfl, fun _ hfree => hfree⟩
    have hnone : (Objects.ledger s).held a = none :=
      (held_of_objects hb).trans (Object.share_local hsso)
    rw [ledger_erase, Ledger.hold_none hnone]
    exact h.ledger
  | false =>
    obtain ⟨block, hblock, -, hlive⟩ := h.block hb hsso
    obtain ⟨hpred, hzero⟩ := pred_count hlive
    rw [if_neg (by decide), hblock]
    dsimp only
    by_cases hlast : block.rc - 1 = 0
    · rw [if_pos hlast]
      have hone : block.rc.toNat = 1 := by
        have := hzero.mp hlast
        omega
      obtain ⟨hsound, hbeside⟩ := free_sound h hb hsso hblock hone
      refine ⟨_, _, rfl, objects_put_self .., ?_, fun x hx => objects_put_of_ne _ _ hx, fun x hx => ?_, hbeside.free⟩
      · rw [erase_put]
        exact hsound
      · rw [bytes_put_of_ne _ _ hx]
        exact hbeside.bytes x hx
    · rw [if_neg hlast]
      obtain ⟨hsound, hbeside⟩ := count_sound h hb hsso hblock (fun heq => hlast (hzero.mpr heq)) hpred
      exact ⟨_, b, rfl, hb, hsound, hbeside⟩

/-! ## Moves -/

/-- All but these objects are as they were, and no block has come where there was none. -/
structure Moved (s s' : Store) (this other : Nat) : Prop where
  taken : s'.bytes this = s.bytes other
  left : s'.bytes other = some []
  objects : ∀ x, x ≠ this → x ≠ other → s'.objects x = s.objects x
  lives : s'.objects this ≠ none ∧ s'.objects other ≠ none
  bytes : ∀ x, x ≠ this → x ≠ other → s'.bytes x = s.bytes x
  free : ∀ x, Free s x → Free s' x

/-- What the comparison of addresses says is so. -/
theorem Laid.local_of_sso (h : Laid s) (hb : s.objects a = some b) (hsso : b.sso a = true) : Local a b := by
  rcases h.form a b hb with hlocal | ⟨block, hblock, hwithin⟩
  · exact hlocal
  · rw [hwithin.sso (h.free a b hb) hblock] at hsso
    cases hsso

/-- An object has room for so many bytes. -/
theorem Local.size_le (h : Local a b) : b.size ≤ Storage.Buffer.SSO_THRESHOLD := by
  unfold Object.size
  rcases h with ⟨-, hend⟩ | ⟨hlo, -, hhi⟩
  · rw [hend, Nat.zero_sub]
    exact Nat.zero_le _
  · omega

/-- What is left of a buffer that was moved from. -/
def Object.moved (o : Object) : Object := { o.setRc 0 with begin_ := 0, end_ := 0 }

/-- A buffer that was moved from has no bytes. -/
theorem Object.local_moved (o : Object) (a : Nat) : Local a o.moved := .inl ⟨rfl, rfl⟩

/-- It is the empty string. -/
theorem bytes_moved (h : s.objects a = some o.moved) : s.bytes a = some [] :=
  bytes_local h (o.local_moved a).sso

/-- An object that has no share may be put where there was none. -/
theorem Sound.put_local (h : Sound s) (hheld : (Objects.ledger s).held a = none) (hfree : Free s a) (hb : Local a b) :
    Sound (s.put a b) := by
  refine ⟨?_, h.laid.put hfree (.inl hb)⟩
  rw [ledger_put, Object.share_local hb.sso, Ledger.hold_none hheld]
  exact h.ledger

/-- What a buffer is that took the bytes of another one, or its share. -/
def Object.copied (b : Object) (this other : Nat) (o : Object) : Object :=
  { b with
    begin_ := ssoOf this
    end_ := ssoOf this + o.size
    sso_ := b.sso_.store 0 (o.sso_.load (o.begin_ - ssoOf other) o.size) }

/-- A buffer that took the share of another one. -/
def Object.taken (b : Object) (o : Object) : Object := { b.setRc o.rc with begin_ := o.begin_, end_ := o.end_ }

theorem Object.local_copied (b : Object) (this : Nat) (h : Local other o) : Local this (b.copied this other o) :=
  .inr ⟨Nat.le_refl _, Nat.le_add_right _ _, Nat.add_le_add_left h.size_le _⟩

theorem Object.size_copied (b : Object) (this other : Nat) (o : Object) : (b.copied this other o).size = o.size :=
  Nat.add_sub_cancel_left ..

@[simp] theorem Object.begin_taken (b o : Object) : (b.taken o).begin_ = o.begin_ := rfl

@[simp] theorem Object.end_taken (b o : Object) : (b.taken o).end_ = o.end_ := rfl

theorem Object.rc_taken (b : Object) (h : o.rc < 2 ^ 64) : (b.taken o).rc = o.rc := by
  have hsame : (b.taken o).sso_ = (b.setRc o.rc).sso_ := rfl
  unfold Object.rc at h ⊢
  rw [hsame]
  exact b.rc_setRc h

/-- A copy has the bytes of the other buffer. -/
theorem bytes_copied (ho : Local other o) (hs : s.objects this = some (b.copied this other o)) :
    s.bytes this = some (o.sso_.load (o.begin_ - ssoOf other) o.size) := by
  have hload := Memory.load_store b.sso_ 0 (o.sso_.load (o.begin_ - ssoOf other) o.size)
  rw [Memory.length_load] at hload
  rw [bytes_local hs (Object.local_copied b this ho).sso, b.size_copied, ← hload]
  unfold Object.copied
  dsimp only
  rw [Nat.sub_self, hload]

/-- What a move assignment leaves, in one equation. -/
theorem moveAssign_eq {t : Store} (hne : other ≠ this) (h : s.destroy this = some t) (hb : t.objects this = some b)
    (ho : t.objects other = some o) : s.moveAssign this other =
      some ((t.put this (if o.sso other then b.copied this other o else b.taken o)).put other o.moved) := by
  unfold Store.moveAssign
  rw [if_pos hne, h]
  dsimp only [Bind.bind, Option.bind]
  rw [hb, ho]
  rfl

section Move

variable (h : Sound s) (hne : other ≠ this) (hthis : s.objects this = none) (hfree : Free s this)
  (ho : s.objects other = some o)

include h hne hthis hfree ho

/-- A move of bytes that an object has in itself. -/
theorem Sound.move_local (hsso : o.sso other = true) (hb : Local this b) :
    Sound ((s.put this b).put other o.moved) := by
  have hstays : (s.put this b).objects other = some o := (objects_put_of_ne s b hne).trans ho
  refine (h.put_local (held_of_none hthis) hfree hb).put_local ?_ (h.laid.free other o ho) (o.local_moved other)
  rw [held_of_objects hstays]
  exact Object.share_local hsso

/-- The share of an object is another one's. -/
theorem Sound.move_share (hsso : o.sso other = false) (b : Object) :
    Sound ((s.put this (b.taken o)).put other o.moved) ∧
      ((s.put this (b.taken o)).put other o.moved).bytes this = s.bytes other := by
  obtain ⟨block, hblock, hwithin, -⟩ := h.block ho hsso
  have hroom := h.laid.room o.rc block hblock
  unfold sizeofCount at hroom
  have hrc : (b.taken o).rc = o.rc := Object.rc_taken b (by omega)
  have hblock' : s.blocks (b.taken o).rc = some block := by rw [hrc, hblock]
  have hwithin' : Within block (b.taken o) := by
    refine ⟨?_, hwithin.le, ?_⟩
    · rw [hrc, Object.begin_taken]
      exact hwithin.lo
    · rw [hrc, Object.end_taken]
      exact hwithin.hi
  have hsso' := hwithin'.sso hfree hblock'
  have hshare : (b.taken o).share this = some ⟨o.rc, o.begin_, o.end_⟩ := by
    rw [Object.share_shared hsso', hrc, Object.begin_taken, Object.end_taken]
  have hheld := (held_of_objects ho).trans (Object.share_shared hsso)
  refine ⟨⟨?_, ?_⟩, ?_⟩
  · rw [ledger_put, ledger_put, Object.share_local (o.local_moved other).sso, hshare,
      Ledger.hold_comm (Ne.symm hne)]
    exact h.ledger.transfer (Ne.symm hne) hheld (held_of_none hthis)
  · exact (h.laid.put hfree (.inr ⟨block, hblock', hwithin'⟩)).put (h.laid.free other o ho) (.inl (o.local_moved other))
  · have hput : ((s.put this (b.taken o)).put other o.moved).objects this = some (b.taken o) :=
      (objects_put_of_ne _ _ (Ne.symm hne)).trans (objects_put_self ..)
    rw [bytes_shared hput hsso' hblock', bytes_shared ho hsso hblock, hrc, Object.begin_taken]
    unfold Object.size
    rw [Object.begin_taken, Object.end_taken]

end Move

/-- **What is moved**: the bytes of a buffer that has them in itself are copied, a share is handed on. -/
theorem Sound.moveAssign (h : Sound s) (hne : other ≠ this) (hb : s.objects this = some b)
    (ho : s.objects other = some o) : ∃ s', s.moveAssign this other = some s' ∧ Sound s' ∧ Moved s s' this other := by
  obtain ⟨t, b', hdestroy, hb', hsound, hbeside⟩ := h.destroy hb
  have ho' : t.objects other = some o := (hbeside.objects other hne).trans ho
  have hfree : Free t this := hbeside.free this (h.laid.free this b hb)
  -- the object is put where none has been since its share went
  have hthis : (t.erase this).objects this = none := objects_erase_self ..
  have hother : (t.erase this).objects other = some o := (objects_erase_of_ne t hne).trans ho'
  have hresult : s.moveAssign this other = some (((t.erase this).put this
      (if o.sso other then b'.copied this other o else b'.taken o)).put other o.moved) := by
    rw [put_erase]
    exact moveAssign_eq hne hdestroy hb' ho'
  -- what all the others have is the same in any case
  have hrest (c : Object) (hc : (((t.erase this).put this c).put other o.moved).bytes this = t.bytes other) :
      Moved s (((t.erase this).put this c).put other o.moved) this other := by
    rw [put_erase] at hc ⊢
    refine ⟨hc.trans (hbeside.bytes other hne), bytes_moved (objects_put_self ..), fun x hx hx' => ?_, ⟨?_, ?_⟩,
      fun x hx hx' => ?_, fun x hx => hbeside.free x hx⟩
    · rw [objects_put_of_ne _ _ hx', objects_put_of_ne _ _ hx]
      exact hbeside.objects x hx
    · rw [objects_put_of_ne _ _ (Ne.symm hne), objects_put_self]
      exact Option.some_ne_none c
    · rw [objects_put_self]
      exact Option.some_ne_none o.moved
    · rw [bytes_put_of_ne _ _ hx', bytes_put_of_ne _ _ hx]
      exact hbeside.bytes x hx
  rw [hresult]
  cases hsso : o.sso other with
  | true =>
    have hlocal := h.laid.local_of_sso ho hsso
    refine ⟨_, rfl, hsound.move_local hne hthis hfree hother hsso (Object.local_copied b' this hlocal), hrest _ ?_⟩
    rw [bytes_local ho' hsso]
    refine bytes_copied (b := b') hlocal ?_
    exact (objects_put_of_ne _ _ (Ne.symm hne)).trans (objects_put_self ..)
  | false =>
    obtain ⟨hmoved, hbytes⟩ := hsound.move_share hne hthis hfree hother hsso b'
    refine ⟨_, rfl, hmoved, hrest _ (hbytes.trans (bytes_erase_of_ne t hne))⟩

/-! ## The other operations -/

/-- An object that goes takes its share along. -/
theorem Sound.destructor (h : Sound s) (hb : s.objects a = some b) : ∃ s', s.destructor a = some s' ∧ Sound s' ∧
    s'.objects a = none ∧ Beside s s' a := by
  obtain ⟨t, b', hdestroy, -, hsound, hbeside⟩ := h.destroy hb
  unfold Store.destructor
  rw [hdestroy]
  refine ⟨_, rfl, hsound, objects_erase_self .., fun x hx => ?_, fun x hx => ?_, hbeside.free⟩
  · rw [objects_erase_of_ne t hx]
    exact hbeside.objects x hx
  · rw [bytes_erase_of_ne t hx]
    exact hbeside.bytes x hx

/-- A buffer of which the first bytes are gone. -/
def Object.rest (b : Object) (n : Nat) : Object := { b with begin_ := b.begin_ + n }

/-- What is left of bytes in an object lies there. -/
theorem Local.rest {n : Nat} (h : Local a b) (hn : n ≤ b.size) : Local a (b.rest n) := by
  unfold Object.size at hn
  rcases h with ⟨hbegin, hend⟩ | ⟨hlo, hle, hhi⟩
  · refine .inl ⟨?_, hend⟩
    show b.begin_ + n = 0
    omega
  · refine .inr ⟨Nat.le_trans hlo (Nat.le_add_right _ _), ?_, hhi⟩
    show b.begin_ + n ≤ b.end_
    omega

/-- What is left of bytes in a block lies there. -/
theorem Within.rest {block : Block} {n : Nat} (h : Within block b) (hn : n ≤ b.size) : Within block (b.rest n) := by
  unfold Object.size at hn
  have hle := h.le
  refine ⟨Nat.le_trans h.lo (Nat.le_add_right _ _), ?_, h.hi⟩
  show b.begin_ + n ≤ b.end_
  omega

/-- It is shorter by what is gone. -/
theorem Object.size_rest (b : Object) (n : Nat) : (b.rest n).size = b.size - n := by
  unfold size rest
  dsimp only
  omega

/-- **The bytes behind those consumed** are left. -/
theorem Sound.consume {n : Nat} (h : Sound s) (hb : s.objects this = some b) (hn : n ≤ b.size) :
    s.consume this n = some (s.put this (b.rest n)) ∧ Sound (s.put this (b.rest n)) ∧
      (s.put this (b.rest n)).bytes this = (s.bytes this).map (List.drop n) := by
  have hconsume : s.consume this n = some (s.put this (b.rest n)) := by
    unfold Store.consume
    rw [hb]
    exact if_pos hn
  have hput := objects_put_self s this (b.rest n)
  refine ⟨hconsume, ?_⟩
  rcases h.laid.form this b hb with hlocal | ⟨block, hblock, hwithin⟩
  · have hheld : (Objects.ledger s).held this = none :=
      (held_of_objects hb).trans (Object.share_local hlocal.sso)
    refine ⟨h.put_local hheld (h.laid.free this b hb) (hlocal.rest hn), ?_⟩
    rw [bytes_local hput (hlocal.rest hn).sso, bytes_local hb hlocal.sso, Option.map_some, Memory.drop_load,
      Object.size_rest]
    -- without bytes nothing is consumed
    rcases hlocal with ⟨hbegin, hend⟩ | ⟨hlo, -, -⟩
    · have hzero : b.size = 0 := by
        unfold Object.size
        rw [hend, Nat.zero_sub]
      rw [hzero, Nat.zero_sub]
      rfl
    · have hoffset : (b.rest n).begin_ - ssoOf this = b.begin_ - ssoOf this + n := by
        show b.begin_ + n - ssoOf this = _
        omega
      rw [hoffset]
      rfl
  · have hfree := h.laid.free this b hb
    have hsso := hwithin.sso hfree hblock
    have hsso' := (hwithin.rest hn).sso hfree hblock
    have hheld := (held_of_objects hb).trans (Object.share_shared hsso)
    refine ⟨⟨?_, h.laid.put hfree (.inr ⟨block, hblock, hwithin.rest hn⟩)⟩, ?_⟩
    · rw [ledger_put, Object.share_shared hsso']
      exact h.ledger.narrow hheld (Nat.le_add_right _ n) (Nat.le_refl _)
    · have hoffset : (b.rest n).begin_ - (b.rc + sizeofCount) = b.begin_ - (b.rc + sizeofCount) + n := by
        have hlo := hwithin.lo
        show b.begin_ + n - (b.rc + sizeofCount) = _
        omega
      rw [bytes_shared hput hsso' hblock, bytes_shared hb hsso hblock, Option.map_some, Memory.drop_load,
        Object.size_rest, show (b.rest n).rc = b.rc from rfl, hoffset]

/-! ## New objects -/

/-- Where an object may come to lie. -/
structure Vacant (s : Store) (a : Nat) : Prop where
  objects : s.objects a = none
  free : Free s a

/-- Where a block may come to lie. -/
structure Room (s : Store) (this r size : Nat) : Prop where
  blocks : s.blocks r = none
  room : r + sizeofCount + size ≤ 2 ^ 64
  free : ∀ a, s.objects a ≠ none ∨ a = this → a + sizeofBuffer ≤ r ∨ r + sizeofCount + size ≤ a

/-- A new buffer, with its bytes in itself or in a block. -/
def Object.short (this size : Nat) (sso_ : Memory) : Object := ⟨ssoOf this, ssoOf this + size, sso_⟩

/-- A new buffer with its bytes in a block. -/
def Object.long (r size : Nat) (sso_ : Memory) : Object :=
  Object.setRc ⟨r + sizeofCount, r + sizeofCount + size, sso_⟩ r

theorem Object.local_short {size : Nat} (this : Nat) (h : size ≤ Storage.Buffer.SSO_THRESHOLD) (sso_ : Memory) :
    Local this (Object.short this size sso_) :=
  .inr ⟨Nat.le_refl _, Nat.le_add_right _ _, Nat.add_le_add_left h _⟩

theorem Object.size_short (this size : Nat) (sso_ : Memory) : (Object.short this size sso_).size = size :=
  Nat.add_sub_cancel_left ..

theorem Object.rc_long {r size : Nat} (h : r + sizeofCount + size ≤ 2 ^ 64) (sso_ : Memory) :
    (Object.long r size sso_).rc = r := by
  unfold sizeofCount at h
  exact Object.rc_setRc _ (by omega)

theorem Object.begin_long (r size : Nat) (sso_ : Memory) :
    (Object.long r size sso_).begin_ = r + sizeofCount := rfl

theorem Object.sso_long {r size : Nat} (sso_ : Memory)
    (h : this + sizeofBuffer ≤ r ∨ r + sizeofCount + size ≤ this) : (Object.long r size sso_).sso this = false := by
  rw [Bool.eq_false_iff, ne_eq, Object.sso_iff, Object.begin_long]
  unfold sizeofBuffer sizeofCount at h
  unfold ssoOf Storage.Buffer.SSO_THRESHOLD sizeofCount
  omega

/-- What the constructor leaves of a short buffer. -/
theorem construct_short {size : Nat} (s : Store) (this location : Nat) (storage sso_ : Memory)
    (h : size ≤ Storage.Buffer.SSO_THRESHOLD) : s.construct this size location storage sso_ =
      s.put this (.short this size (sso_.store 0 (Bytes.toBytes 8 0))) := if_pos (decide_eq_true h)

/-- What it leaves of a long one, with a count of one. -/
theorem construct_long {size location : Nat} (s : Store) (this : Nat) (storage sso_ : Memory)
    (h : Storage.Buffer.SSO_THRESHOLD < size) (hroom : location + sizeofCount + size ≤ 2 ^ 64) :
    s.construct this size location storage sso_ =
      (s.putBlock location ⟨1, size, storage⟩).put this (.long location size sso_) := by
  have hrc : (Object.setRc { sso_ } location).rc = location := by
    unfold sizeofCount at hroom
    exact Object.rc_setRc _ (by omega)
  have hlong : ¬ Storage.Buffer.sso size = true := fun hshort => Nat.not_le.mpr h (of_decide_eq_true hshort)
  unfold Store.construct
  rw [if_neg hlong]
  dsimp only
  rw [hrc]
  rfl

/-- A buffer in itself. -/
theorem Sound.put_short {size : Nat} (h : Sound s) (hvacant : Vacant s this)
    (hsize : size ≤ Storage.Buffer.SSO_THRESHOLD) (sso_ : Memory) :
    Sound (s.put this (.short this size sso_)) ∧
      (s.put this (.short this size sso_)).bytes this = some (sso_.load 0 size) := by
  have hlocal := Object.local_short this hsize sso_
  refine ⟨h.put_local (held_of_none hvacant.objects) hvacant.free hlocal, ?_⟩
  rw [bytes_local (objects_put_self ..) hlocal.sso, Object.size_short]
  unfold Object.short
  dsimp only
  rw [Nat.sub_self]

/-- **A buffer with a block of its own.** -/
theorem Sound.put_long {size r : Nat} (h : Sound s) (hvacant : Vacant s this) (hroom : Room s this r size)
    (bytes sso_ : Memory) :
    let s' := (s.putBlock r ⟨1, size, bytes⟩).put this (.long r size sso_)
    Sound s' ∧ s'.bytes this = some (bytes.load 0 size) ∧ ∀ x, x ≠ this → s'.bytes x = s.bytes x := by
  intro s'
  have hrc := Object.rc_long hroom.room sso_
  have hblock : (s.putBlock r ⟨1, size, bytes⟩).blocks (Object.long r size sso_).rc = some ⟨1, size, bytes⟩ := by
    rw [hrc, blocks_putBlock_self]
  have hwithin : Within ⟨1, size, bytes⟩ (Object.long r size sso_) := by
    refine ⟨?_, Nat.le_add_right _ _, ?_⟩
    · rw [hrc]
      exact Nat.le_refl _
    · rw [hrc]
      exact Nat.le_refl _
  have hfree : Free (s.putBlock r ⟨1, size, bytes⟩) this := by
    intro r' block' hr'
    by_cases hr : r' = r
    · subst hr
      rw [blocks_putBlock_self] at hr'
      cases hr'
      exact hroom.free this (.inr rfl)
    · rw [blocks_putBlock_of_ne _ _ hr] at hr'
      exact hvacant.free r' block' hr'
  have hlaid : Laid (s.putBlock r ⟨1, size, bytes⟩) := by
    refine h.laid.putBlock hroom.room (fun x o hx => ?_) fun old hold => ?_
    · exact hroom.free x (.inl fun hnone => Option.some_ne_none o (hx.symm.trans hnone))
    · cases hroom.blocks.symm.trans hold
  have hsso := Object.sso_long sso_ (hroom.free this (.inr rfl))
  have hblocks : s'.blocks = (s.putBlock r ⟨1, size, bytes⟩).blocks := blocks_put ..
  have hself : s'.blocks (Object.long r size sso_).rc = some ⟨1, size, bytes⟩ := by rw [hblocks, hblock]
  have hput : s'.objects this = some (Object.long r size sso_) := objects_put_self ..
  refine ⟨⟨?_, hlaid.put hfree (.inr ⟨_, hblock, hwithin⟩)⟩, ?_, fun x hx => ?_⟩
  · have hcount : (Objects.ledger s).count r = none := by
      unfold Objects.ledger
      dsimp only
      rw [hroom.blocks]
      rfl
    have hshare : (Object.long r size sso_).share this = some ⟨r, r + sizeofCount, r + sizeofCount + size⟩ := by
      rw [Object.share_shared hsso, hrc]
      rfl
    have hacquire := h.ledger.acquire (s := ⟨r, r + sizeofCount, r + sizeofCount + size⟩)
      (held_of_none hvacant.objects) hcount
    rw [ledger_put, ledger_putBlock, hshare]
    exact hacquire
  · rw [bytes_shared hput hsso hself, hrc]
    show some (bytes.load (r + sizeofCount - (r + sizeofCount)) (r + sizeofCount + size - (r + sizeofCount))) = _
    rw [Nat.sub_self, Nat.add_sub_cancel_left]
  · refine bytes_congr (objects_put_of_ne _ _ hx) fun o ho hsso' => ?_
    obtain ⟨block, hblock', -⟩ := h.block ho hsso'
    have hne : o.rc ≠ r := by
      intro heq
      rw [heq, hroom.blocks] at hblock'
      cases hblock'
    rw [hblocks, blocks_putBlock_of_ne s _ hne]

/-- A new buffer of this size. -/
theorem Sound.construct {size location : Nat} (h : Sound s) (hvacant : Vacant s this)
    (hroom : Storage.Buffer.SSO_THRESHOLD < size → Room s this location size) (storage sso_ : Memory) :
    let s' := s.construct this size location storage sso_
    Sound s' ∧ (∃ bs, s'.bytes this = some bs ∧ bs.length = size) ∧ ∀ x, x ≠ this → s'.bytes x = s.bytes x := by
  intro s'
  by_cases hshort : size ≤ Storage.Buffer.SSO_THRESHOLD
  · have hconstruct : s' = _ := construct_short s this location storage sso_ hshort
    obtain ⟨hsound, hbytes⟩ := h.put_short hvacant hshort (sso_.store 0 (Bytes.toBytes 8 0))
    rw [hconstruct]
    exact ⟨hsound, ⟨_, hbytes, Memory.length_load ..⟩, fun x hx => bytes_put_of_ne s _ hx⟩
  · have hlong := Nat.lt_of_not_le hshort
    have hconstruct : s' = _ := construct_long s this storage sso_ hlong (hroom hlong).room
    obtain ⟨hsound, hbytes, hothers⟩ := h.put_long hvacant (hroom hlong) storage sso_
    rw [hconstruct]
    exact ⟨hsound, ⟨_, hbytes, Memory.length_load ..⟩, hothers⟩

/-- Bytes written to a buffer that has them in itself. -/
theorem write_local {o : Object} {data : List UInt8} (ho : s.objects this = some o) (h : o.sso this = true) :
    s.write this data =
      some (s.put this { o with sso_ := o.sso_.store (o.begin_ - ssoOf this) data }) := by
  unfold Store.write
  rw [ho]
  exact if_pos h

/-- Bytes written to a buffer that has a share. -/
theorem write_shared {o : Object} {block : Block} {data : List UInt8} (ho : s.objects this = some o)
    (h : o.sso this = false) (hblock : s.blocks o.rc = some block) :
    s.write this data = some (s.putBlock o.rc
      { block with bytes := block.bytes.store (o.begin_ - (o.rc + sizeofCount)) data }) := by
  have hshared : ¬ o.sso this = true := ne_true_of_eq_false h
  unfold Store.write
  rw [ho]
  dsimp only [Bind.bind, Option.bind]
  rw [if_neg hshared, hblock]
  rfl

/-- Bytes written to a short buffer that is new. -/
theorem write_short {data : List UInt8} (s : Store) (this : Nat) (sso_ : Memory)
    (h : data.length ≤ Storage.Buffer.SSO_THRESHOLD) :
    (s.put this (.short this data.length sso_)).write this data =
      some (s.put this (.short this data.length (sso_.store 0 data))) := by
  have hbegin : (Object.short this data.length sso_).begin_ - ssoOf this = 0 := Nat.sub_self _
  rw [write_local (objects_put_self ..) (Object.local_short this h sso_).sso, put_put, hbegin]
  unfold Object.short
  dsimp only

/-- Bytes written to a long buffer that is new. -/
theorem write_long {data : List UInt8} {r : Nat} (s : Store) (storage sso_ : Memory)
    (h : Room s this r data.length) :
    ((s.putBlock r ⟨1, data.length, storage⟩).put this (.long r data.length sso_)).write this data =
      some ((s.putBlock r ⟨1, data.length, storage.store 0 data⟩).put this (.long r data.length sso_)) := by
  have hsso := Object.sso_long sso_ (h.free this (.inr rfl))
  have hrc := Object.rc_long h.room sso_
  have hblock : ((s.putBlock r ⟨1, data.length, storage⟩).put this
      (.long r data.length sso_)).blocks (Object.long r data.length sso_).rc = some ⟨1, data.length, storage⟩ := by
    rw [hrc]
    exact blocks_putBlock_self ..
  rw [write_shared (objects_put_self ..) hsso hblock, hrc, putBlock_put, putBlock_putBlock, Object.begin_long,
    Nat.sub_self]

/-- A new buffer with these bytes. -/
theorem Sound.constructData (h : Sound s) (hvacant : Vacant s this) (data : List UInt8) (location : Nat)
    (hroom : Storage.Buffer.SSO_THRESHOLD < data.length → Room s this location data.length) (storage sso_ : Memory) :
    ∃ s', s.constructData this data location storage sso_ = some s' ∧ Sound s' ∧ s'.bytes this = some data ∧
      (∀ x, x ≠ this → s'.bytes x = s.bytes x) ∧ ∀ x, x ≠ this → s'.objects x = s.objects x := by
  unfold Store.constructData
  by_cases hshort : data.length ≤ Storage.Buffer.SSO_THRESHOLD
  · let m := (sso_.store 0 (Bytes.toBytes 8 0)).store 0 data
    obtain ⟨hsound, hbytes⟩ := h.put_short hvacant hshort m
    rw [construct_short s this location storage sso_ hshort, write_short s this _ hshort]
    refine ⟨_, rfl, hsound, ?_, fun x hx => bytes_put_of_ne s _ hx, fun x hx => objects_put_of_ne s _ hx⟩
    rw [hbytes, Memory.load_store]
  · have hlong := Nat.lt_of_not_le hshort
    obtain ⟨hsound, hbytes, hothers⟩ := h.put_long hvacant (hroom hlong) (storage.store 0 data) sso_
    rw [construct_long s this storage sso_ hlong (hroom hlong).room, write_long s storage sso_ (hroom hlong)]
    refine ⟨_, rfl, hsound, ?_, hothers, fun x hx => objects_put_of_ne _ _ hx⟩
    rw [hbytes, Memory.load_store]

end Bnl.Base.Objects
