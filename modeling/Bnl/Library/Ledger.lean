import Mathlib.Data.Set.Card

/-!
# Shares of counted resources

A resource is held in shares: each holder has a range of it, the ranges are apart, and the resource counts its
holders. A new resource has one holder. A holder may part with the front of its range, hand the whole of it on,
have less of it or let go of it; the resource goes with the last holder.

**The law** is the invariant `Sound` with its five rules (`acquire`, `split`, `narrow`, `transfer`, `release`):
each change keeps it, so every resource exists exactly as long as somebody holds of it
(`Sound.count_eq_none_iff`), is released once, and no two holders ever see the same part.

The idea of the proofs: holders are a set, and a change of what one holder has changes that set at this one
holder alone (`holders_hold_none`, `holders_hold_some`, `holders_hold_of_ne`). Counting is then cardinality of a
set with one member more or less.

**What it does not establish.** The ledger says who holds what, not what is in it; nothing here is about bytes.
A holder that acts on a resource it does not hold is not modelled.
-/

/-- A range of a resource, from `lo` up to `hi`; an empty range is still a share, and is counted. -/
structure Share (R : Type) where
  resource : R
  lo : Nat
  hi : Nat

/-- Who holds what, and the counts of the resources that exist. The count is a value of its own, as in a program
that keeps it beside the resource; that it is the number of holders is what `Sound` says. -/
structure Ledger (K R : Type) where
  held : K → Option (Share R)
  count : R → Option Nat

namespace Ledger

variable {K R : Type} {l : Ledger K R} {k k' : K} {r : R} {s s' : Share R}

/-- The holders of a resource. -/
def holders (l : Ledger K R) (r : R) : Set K := {k | ∃ s, l.held k = some s ∧ s.resource = r}

/-- No two holders hold the same part. -/
def Apart (l : Ledger K R) : Prop :=
  ∀ k k' s s', k ≠ k' → l.held k = some s → l.held k' = some s' → s.resource = s'.resource →
    s.hi ≤ s'.lo ∨ s'.hi ≤ s.lo

/-- Each resource counts its holders and has one, and what they hold is apart. A resource that nobody holds has
no count, not a count of zero. -/
structure Sound (l : Ledger K R) : Prop where
  finite : ∀ r, (l.holders r).Finite
  count : ∀ r, (l.count r).getD 0 = (l.holders r).ncard
  live : ∀ r, l.count r ≠ some 0
  apart : l.Apart

/-- **A resource exists exactly as long as it is held.** -/
theorem Sound.count_eq_none_iff (h : l.Sound) : l.count r = none ↔ l.holders r = ∅ := by
  have hcount := h.count r
  constructor
  · intro hnone
    rw [hnone] at hcount
    exact (Set.ncard_eq_zero (h.finite r)).mp hcount.symm
  · intro hempty
    rw [hempty, Set.ncard_empty] at hcount
    cases hn : l.count r with
    | none => rfl
    | some n =>
      rw [hn] at hcount
      obtain rfl : n = 0 := hcount
      exact absurd hn (h.live r)

/-- The last holder is alone. -/
theorem Sound.eq_of_count_one (h : l.Sound) (hk : l.held k = some s) (hk' : l.held k' = some s')
    (hr : s'.resource = s.resource) (hn : l.count s.resource = some 1) : k' = k := by
  have hcount := h.count s.resource
  rw [hn] at hcount
  obtain ⟨x, hx⟩ := Set.ncard_eq_one.mp hcount.symm
  have hmem : k ∈ l.holders s.resource := ⟨s, hk, rfl⟩
  have hmem' : k' ∈ l.holders s.resource := ⟨s', hk', hr⟩
  rw [hx] at hmem hmem'
  exact (Set.mem_singleton_iff.mp hmem').trans (Set.mem_singleton_iff.mp hmem).symm

/-- Who holds nothing holds nothing of any resource. -/
theorem diff_of_held_none (hk : l.held k = none) (r : R) : l.holders r \ {k} = l.holders r := by
  refine Set.sdiff_singleton_eq_self ?_
  rintro ⟨s, hs, -⟩
  rw [hk] at hs
  cases hs

/-- Who holds of one resource holds nothing of another. -/
theorem diff_of_held_other (hk : l.held k = some s) (hr : s.resource ≠ r) : l.holders r \ {k} = l.holders r := by
  refine Set.sdiff_singleton_eq_self ?_
  rintro ⟨s', hs', hr'⟩
  rw [hk] at hs'
  cases hs'
  exact hr hr'

/-! ## Changes -/

section Hold

variable [DecidableEq K]

/-- Somebody comes to hold a share, or none. -/
def hold (l : Ledger K R) (k : K) (share : Option (Share R)) : Ledger K R :=
  { l with held := Function.update l.held k share }

/-- The change is seen by the one it is about. -/
@[simp] theorem held_hold_self (l : Ledger K R) (k : K) (share : Option (Share R)) :
    (l.hold k share).held k = share := Function.update_self ..

/-- The change is not seen by anybody else. -/
theorem held_hold_of_ne {share : Option (Share R)} (h : k' ≠ k) : (l.hold k share).held k' = l.held k' :=
  Function.update_of_ne h ..

/-- Changes of two holders may come in either order. -/
theorem hold_comm (h : k ≠ k') (share share' : Option (Share R)) :
    (l.hold k share).hold k' share' = (l.hold k' share').hold k share := by
  unfold hold
  dsimp only
  rw [Function.update_comm h]

/-- Who holds nothing may hold nothing. -/
theorem hold_none (hk : l.held k = none) : l.hold k none = l := by
  unfold hold
  rw [← hk, Function.update_eq_self]

/-- Who lets go is no holder of any resource any more. -/
theorem holders_hold_none (l : Ledger K R) (k : K) (r : R) :
    (l.hold k none).holders r = l.holders r \ {k} := by
  ext x
  by_cases h : x = k
  · subst h
    refine iff_of_false ?_ fun hmem => hmem.2 rfl
    rintro ⟨s, hs, -⟩
    rw [held_hold_self] at hs
    cases hs
  · constructor
    · rintro ⟨s, hs, hr⟩
      exact ⟨⟨s, (held_hold_of_ne h).symm.trans hs, hr⟩, h⟩
    · rintro ⟨⟨s, hs, hr⟩, -⟩
      exact ⟨s, (held_hold_of_ne h).trans hs, hr⟩

/-- Who comes to hold of a resource is one of its holders. -/
theorem holders_hold_some (l : Ledger K R) (k : K) (s : Share R) :
    (l.hold k (some s)).holders s.resource = insert k (l.holders s.resource) := by
  ext x
  by_cases h : x = k
  · subst h
    exact iff_of_true ⟨s, held_hold_self l x (some s), rfl⟩ (Set.mem_insert x _)
  · constructor
    · rintro ⟨s', hs', hr⟩
      exact Set.mem_insert_of_mem k ⟨s', (held_hold_of_ne h).symm.trans hs', hr⟩
    · intro hmem
      obtain ⟨s', hs', hr⟩ := hmem.resolve_left h
      exact ⟨s', (held_hold_of_ne h).trans hs', hr⟩

/-- Who comes to hold of a resource is no holder of another, also where it was one. -/
theorem holders_hold_of_ne (h : s.resource ≠ r) : (l.hold k (some s)).holders r = l.holders r \ {k} := by
  rw [← holders_hold_none]
  ext x
  by_cases hx : x = k
  · subst hx
    refine iff_of_false ?_ ?_
    · rintro ⟨s', hs', hr⟩
      rw [held_hold_self] at hs'
      cases hs'
      exact h hr
    · rintro ⟨s', hs', -⟩
      rw [held_hold_self] at hs'
      cases hs'
  · constructor
    · rintro ⟨s', hs', hr⟩
      exact ⟨s', (held_hold_of_ne hx).trans ((held_hold_of_ne hx).symm.trans hs'), hr⟩
    · rintro ⟨s', hs', hr⟩
      exact ⟨s', (held_hold_of_ne hx).trans ((held_hold_of_ne hx).symm.trans hs'), hr⟩

/-- A share is held apart from the others that are held. -/
theorem Apart.hold (h : l.Apart) {share : Option (Share R)}
    (hshare : ∀ s, share = some s → ∀ x t, x ≠ k → l.held x = some t → s.resource = t.resource →
      s.hi ≤ t.lo ∨ t.hi ≤ s.lo) : (l.hold k share).Apart := by
  intro x x' t t' hne hx hx' hr
  by_cases hxk : x = k
  · subst hxk
    rw [held_hold_self] at hx
    rw [held_hold_of_ne (Ne.symm hne)] at hx'
    exact hshare t hx x' t' (Ne.symm hne) hx' hr
  · rw [held_hold_of_ne hxk] at hx
    by_cases hxk' : x' = k
    · subst hxk'
      rw [held_hold_self] at hx'
      exact (hshare t' hx' x t hxk hx hr.symm).symm
    · rw [held_hold_of_ne hxk'] at hx'
      exact h x x' t t' hne hx hx' hr

end Hold

section Recount

variable [DecidableEq R]

/-- Another count of a resource, or none where there is no such resource any more. -/
def recount (l : Ledger K R) (r : R) (count : Option Nat) : Ledger K R :=
  { l with count := Function.update l.count r count }

@[simp] theorem count_recount_self (l : Ledger K R) (r : R) (count : Option Nat) :
    (l.recount r count).count r = count := Function.update_self ..

/-- A count says nothing of other resources. -/
theorem count_recount_of_ne {r' : R} {count : Option Nat} (h : r' ≠ r) :
    (l.recount r count).count r' = l.count r' := Function.update_of_ne h ..

/-- Who holds what and how many do so are told apart. -/
theorem hold_recount [DecidableEq K] (l : Ledger K R) (k : K) (r : R) (share : Option (Share R))
    (count : Option Nat) : (l.recount r count).hold k share = (l.hold k share).recount r count := rfl

end Recount

/-! ## Changes that keep the ledger sound -/

namespace Sound

variable [DecidableEq K] [DecidableEq R] {n : Nat}

/-- A resource that nobody held: its count is one, and its share meets no other. -/
theorem acquire (h : l.Sound) (hk : l.held k = none) (hr : l.count s.resource = none) :
    ((l.hold k (some s)).recount s.resource (some 1)).Sound := by
  have hempty := h.count_eq_none_iff.mp hr
  refine ⟨fun r => ?_, fun r => ?_, fun r => ?_, h.apart.hold fun s' hs' x t _ hx heq => ?_⟩
  · show ((l.hold k (some s)).holders r).Finite
    by_cases hres : s.resource = r
    · subst hres
      rw [holders_hold_some]
      exact (h.finite _).insert k
    · rw [holders_hold_of_ne hres]
      exact (h.finite r).subset Set.sdiff_subset
  · show _ = ((l.hold k (some s)).holders r).ncard
    by_cases hres : s.resource = r
    · subst hres
      rw [count_recount_self, holders_hold_some, hempty, insert_empty_eq, Set.ncard_singleton]
      rfl
    · rw [count_recount_of_ne (Ne.symm hres), holders_hold_of_ne hres, diff_of_held_none hk]
      exact h.count r
  · by_cases hres : s.resource = r
    · subst hres
      rw [count_recount_self]
      exact fun heq => Nat.one_ne_zero (Option.some.inj heq)
    · rw [count_recount_of_ne (Ne.symm hres)]
      exact h.live r
  · -- nobody else has a share of it
    cases hs'
    have hmem : x ∈ l.holders s.resource := ⟨t, hx, heq.symm⟩
    rw [hempty] at hmem
    exact hmem.elim

/-- A holder parts with the front of its share. Both parts lie in the old range, so they are apart from all
others, and from each other at `mid`. -/
theorem split (h : l.Sound) (hne : k' ≠ k) (hk : l.held k = some s) (hk' : l.held k' = none)
    (hn : l.count s.resource = some n) {mid : Nat} (hlo : s.lo ≤ mid) (hhi : mid ≤ s.hi) :
    (((l.hold k (some { s with lo := mid })).hold k' (some { s with hi := mid })).recount
      s.resource (some (n + 1))).Sound := by
  have hsame : k ∈ l.holders s.resource := ⟨s, hk, rfl⟩
  have habsent : k' ∉ l.holders s.resource := by
    rintro ⟨t, ht, -⟩
    rw [hk'] at ht
    cases ht
  have hcount := h.count s.resource
  rw [hn] at hcount
  have hholders : ((l.hold k (some { s with lo := mid })).hold k' (some { s with hi := mid })).holders s.resource =
      insert k' (l.holders s.resource) := by
    rw [show s.resource = ({ s with hi := mid } : Share R).resource from rfl, holders_hold_some]
    rw [show ({ s with hi := mid } : Share R).resource = ({ s with lo := mid } : Share R).resource from rfl,
      holders_hold_some, Set.insert_eq_of_mem hsame]
  have hothers {r : R} (hres : s.resource ≠ r) :
      ((l.hold k (some { s with lo := mid })).hold k' (some { s with hi := mid })).holders r = l.holders r := by
    rw [holders_hold_of_ne (show ({ s with hi := mid } : Share R).resource ≠ r from hres),
      holders_hold_of_ne (show ({ s with lo := mid } : Share R).resource ≠ r from hres), diff_of_held_other hk hres,
      diff_of_held_none hk']
  refine ⟨fun r => ?_, fun r => ?_, fun r => ?_, ?_⟩
  · show (((l.hold k _).hold k' _).holders r).Finite
    by_cases hres : s.resource = r
    · subst hres
      rw [hholders]
      exact (h.finite _).insert k'
    · rw [hothers hres]
      exact h.finite r
  · show _ = (((l.hold k _).hold k' _).holders r).ncard
    by_cases hres : s.resource = r
    · subst hres
      rw [count_recount_self, hholders, Set.ncard_insert_of_notMem habsent (h.finite _), ← hcount]
      rfl
    · rw [count_recount_of_ne (Ne.symm hres), hothers hres]
      exact h.count r
  · by_cases hres : s.resource = r
    · subst hres
      rw [count_recount_self]
      exact fun heq => Nat.succ_ne_zero n (Option.some.inj heq)
    · rw [count_recount_of_ne (Ne.symm hres)]
      exact h.live r
  · have hback : (l.hold k (some { s with lo := mid })).Apart := by
      refine h.apart.hold fun s' hs' x t hx ht heq => ?_
      cases hs'
      have hapart := h.apart k x s t (Ne.symm hx) hk ht heq
      dsimp only
      omega
    refine hback.hold fun s' hs' x t hx ht heq => ?_
    cases hs'
    by_cases hxk : x = k
    · subst hxk
      rw [held_hold_self] at ht
      cases ht
      exact .inl (Nat.le_refl mid)
    · rw [held_hold_of_ne hxk] at ht
      have hapart := h.apart k x s t (Ne.symm hxk) hk ht heq
      dsimp only
      omega

/-- A holder has less of its share. The count stays, also where nothing is left of the range. -/
theorem narrow (h : l.Sound) (hk : l.held k = some s) {lo hi : Nat} (hlo : s.lo ≤ lo) (hhi : hi ≤ s.hi) :
    (l.hold k (some { s with lo, hi })).Sound := by
  have hholders (r : R) : (l.hold k (some { s with lo, hi })).holders r = l.holders r := by
    by_cases hres : s.resource = r
    · subst hres
      rw [show s.resource = ({ s with lo, hi } : Share R).resource from rfl, holders_hold_some]
      exact Set.insert_eq_of_mem ⟨s, hk, rfl⟩
    · rw [holders_hold_of_ne (show ({ s with lo, hi } : Share R).resource ≠ r from hres), diff_of_held_other hk hres]
  refine ⟨fun r => ?_, fun r => ?_, h.live, h.apart.hold fun s' hs' x t hx ht heq => ?_⟩
  · rw [hholders]
    exact h.finite r
  · rw [hholders]
    exact h.count r
  · cases hs'
    have hapart := h.apart k x s t (Ne.symm hx) hk ht heq
    dsimp only
    omega

/-- A holder hands its share on, to somebody who held none. No count is touched. -/
theorem transfer (h : l.Sound) (hne : k' ≠ k) (hk : l.held k = some s) (hk' : l.held k' = none) :
    ((l.hold k none).hold k' (some s)).Sound := by
  have habsent : k' ∉ l.holders s.resource := by
    rintro ⟨t, ht, -⟩
    rw [hk'] at ht
    cases ht
  have hholders : ((l.hold k none).hold k' (some s)).holders s.resource = insert k' (l.holders s.resource \ {k}) := by
    rw [holders_hold_some, holders_hold_none]
  have hothers {r : R} (hres : s.resource ≠ r) : ((l.hold k none).hold k' (some s)).holders r = l.holders r := by
    rw [holders_hold_of_ne hres, holders_hold_none, diff_of_held_other hk hres, diff_of_held_none hk']
  refine ⟨fun r => ?_, fun r => ?_, h.live, ?_⟩
  · by_cases hres : s.resource = r
    · subst hres
      rw [hholders]
      exact ((h.finite _).subset Set.sdiff_subset).insert k'
    · rw [hothers hres]
      exact h.finite r
  · by_cases hres : s.resource = r
    · subst hres
      rw [hholders, Set.ncard_exchange habsent ⟨s, hk, rfl⟩]
      exact h.count _
    · rw [hothers hres]
      exact h.count r
  · have hwithout : (l.hold k none).Apart := h.apart.hold fun s' hs' => by cases hs'
    refine hwithout.hold fun s' hs' x t hx ht heq => ?_
    cases hs'
    by_cases hxk : x = k
    · subst hxk
      rw [held_hold_self] at ht
      cases ht
    · rw [held_hold_of_ne hxk] at ht
      exact h.apart k x s t (Ne.symm hxk) hk ht heq

/-- A holder lets go of its share; the resource goes with the last one. -/
theorem release (h : l.Sound) (hk : l.held k = some s) (hn : l.count s.resource = some n) :
    ((l.hold k none).recount s.resource (if n - 1 = 0 then none else some (n - 1))).Sound := by
  have hmem : k ∈ l.holders s.resource := ⟨s, hk, rfl⟩
  have hcount := h.count s.resource
  rw [hn] at hcount
  have hcount : n = (l.holders s.resource).ncard := hcount
  refine ⟨fun r => ?_, fun r => ?_, fun r => ?_, ?_⟩
  · show ((l.hold k none).holders r).Finite
    rw [holders_hold_none]
    exact (h.finite r).subset Set.sdiff_subset
  · show _ = ((l.hold k none).holders r).ncard
    rw [holders_hold_none]
    by_cases hres : s.resource = r
    · subst hres
      rw [count_recount_self, Set.ncard_sdiff_singleton_of_mem hmem, ← hcount]
      split
      · next hzero => exact hzero.symm
      · rfl
    · rw [count_recount_of_ne (Ne.symm hres), diff_of_held_other hk hres]
      exact h.count r
  · by_cases hres : s.resource = r
    · subst hres
      rw [count_recount_self]
      split
      · exact fun heq => by cases heq
      · next hne => exact fun heq => hne (Option.some.inj heq)
    · rw [count_recount_of_ne (Ne.symm hres)]
      exact h.live r
  · have hwithout : (l.hold k none).Apart := h.apart.hold fun s' hs' => by cases hs'
    exact hwithout

end Sound

end Ledger
