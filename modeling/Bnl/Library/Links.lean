import Mathlib.Data.PEquiv
import Mathlib.Logic.Function.Basic

/-!
# Objects that point to each other

Two families of objects; an object of either may point to one of the other. The links are `Consistent` where
every pointer is answered: then they are a partial bijection (`Consistent.toPEquiv`), no two objects point to
one, and nothing points to an object that is gone.

**The law**: the three things that happen to such objects (one joins another, takes a link over, goes away) keep
the links consistent exactly under the condition that each states (`join_consistent`, `take_consistent`), and
going away needs none (`drop_consistent`). They are defined on one side, and serve the other side through
`flip`.

The conditions are about the object that gets the link, which must point nowhere before: a link that is
overwritten leaves its other end pointing to an object that does not answer.
-/

/-- The pointers of both families. That a pointer is answered is not built in, as it is not in a program of raw
pointers. -/
@[ext] structure Links (H S : Type) where
  fore : H → Option S
  back : S → Option H

namespace Links

open Function

variable {H S : Type}

/-- The links seen from the other side. -/
def flip (L : Links H S) : Links S H := ⟨L.back, L.fore⟩

/-- Every pointer is answered. -/
def Consistent (L : Links H S) : Prop := ∀ h s, L.fore h = some s ↔ L.back s = some h

/-- Consistent links are a partial bijection. -/
def Consistent.toPEquiv {L : Links H S} (hL : L.Consistent) : H ≃. S where
  toFun := L.fore
  invFun := L.back
  inv h s := (hL h s).symm

theorem Consistent.flip {L : Links H S} (hL : L.Consistent) : L.flip.Consistent :=
  fun s h => (hL h s).symm

/-- The two sides are alike. -/
theorem flip_consistent {L : Links H S} : L.flip.Consistent ↔ L.Consistent :=
  ⟨Consistent.flip, Consistent.flip⟩

/-- No two objects point to one. -/
theorem Consistent.inj {L : Links H S} (hL : L.Consistent) {h h' : H} {s : S}
    (hto : L.fore h = some s) (hto' : L.fore h' = some s) : h = h' := hL.toPEquiv.inj hto hto'

variable [DecidableEq H] [DecidableEq S]

/-- The object `s` points back to `h?`, if there is such an object; the others keep their pointers. -/
def answer (L : Links H S) (s : Option S) (h : Option H) : S → Option H :=
  match s with
  | none => L.back
  | some s => update L.back s h

/-- `h` joins `s`: both point to each other, whatever they pointed to before. -/
def join (L : Links H S) (h : H) (s : S) : Links H S :=
  ⟨update L.fore h (some s), update L.back s (some h)⟩

/-- `h` takes over what `g` points to, `g` points nowhere then, and the other end hears of it. -/
def take (L : Links H S) (h g : H) : Links H S :=
  ⟨update (update L.fore h (L.fore g)) g none, L.answer (L.fore g) (some h)⟩

/-- `h` goes away, and what it points to hears of it. -/
def drop (L : Links H S) (h : H) : Links H S := ⟨update L.fore h none, L.answer (L.fore h) none⟩

variable {L : Links H S}

omit [DecidableEq H] in
/-- Where the answer changes, object by object. -/
theorem answer_apply (s : Option S) (h : Option H) (x : S) :
    L.answer s h x = if s = some x then h else L.back x := by
  cases s with
  | none => rfl
  | some s =>
    show update L.back s h x = _
    rw [update_apply]
    by_cases hx : x = s
    · rw [if_pos hx, if_pos (congrArg some hx.symm)]
    · rw [if_neg hx, if_neg fun heq => hx (Option.some.inj heq).symm]

/-- Joining is for those that point nowhere: where the first does, the second has to. -/
theorem join_consistent (hL : L.Consistent) {h : H} {s : S} (hto : L.fore h = none) :
    (L.join h s).Consistent ↔ L.back s = none := by
  constructor
  · intro hjoin
    by_contra hback
    obtain ⟨g, hg⟩ := Option.ne_none_iff_exists'.mp hback
    have hgs := (hL g s).mpr hg
    have hne : g ≠ h := by
      rintro rfl
      exact nomatch hto.symm.trans hgs
    -- `g` still points to `s`, which points back to `h`
    have hstill : (L.join h s).fore g = some s := (update_of_ne hne _ _).trans hgs
    have hnow : (L.join h s).back s = some h := update_self ..
    exact hne (Option.some.inj (((hjoin g s).mp hstill).symm.trans hnow))
  · intro hback x y
    unfold join
    dsimp only
    rw [update_apply, update_apply]
    by_cases hx : x = h <;> by_cases hy : y = s
    · simp [hx, hy]
    · rw [if_pos hx, if_neg hy]
      subst hx
      refine ⟨fun heq => absurd (Option.some.inj heq).symm hy, fun heq => ?_⟩
      exact nomatch hto.symm.trans ((hL x y).mpr heq)
    · rw [if_neg hx, if_pos hy]
      subst hy
      refine ⟨fun heq => ?_, fun heq => absurd (Option.some.inj heq).symm hx⟩
      exact nomatch hback.symm.trans ((hL x y).mp heq)
    · rw [if_neg hx, if_neg hy]
      exact hL x y

/-- A link is for those to take over that point nowhere. Taking over from oneself is left out by `hne`. -/
theorem take_consistent (hL : L.Consistent) {h g : H} (hne : g ≠ h) :
    (L.take h g).Consistent ↔ L.fore h = none := by
  constructor
  · intro htake
    by_contra hto
    obtain ⟨s, hs⟩ := Option.ne_none_iff_exists'.mp hto
    have hback := (hL h s).mp hs
    have hother : L.fore g ≠ some s := fun heq => hne (hL.inj heq hs)
    -- `s` still points back to `h`, which points where `g` did
    have hstill : (L.take h g).back s = some h := by
      show L.answer (L.fore g) (some h) s = _
      rw [answer_apply, if_neg hother, hback]
    have hnow : (L.take h g).fore h = L.fore g := by
      show update (update L.fore h (L.fore g)) g none h = _
      rw [update_of_ne hne.symm, update_self]
    exact hother (hnow.symm.trans ((htake h s).mpr hstill))
  · intro hto x y
    show update (update L.fore h (L.fore g)) g none x = some y ↔ L.answer (L.fore g) (some h) y = some x
    rw [update_apply, update_apply, answer_apply]
    by_cases hg : L.fore g = some y
    · rw [if_pos hg]
      by_cases hxg : x = g
      · rw [if_pos hxg]
        exact ⟨nofun, fun heq => absurd ((Option.some.inj heq).trans hxg).symm hne⟩
      · rw [if_neg hxg]
        by_cases hxh : x = h
        · rw [if_pos hxh, hg, hxh]
          exact ⟨fun _ => rfl, fun _ => rfl⟩
        · rw [if_neg hxh]
          refine ⟨fun heq => absurd (hL.inj heq hg) hxg, fun heq => ?_⟩
          exact absurd (Option.some.inj heq).symm hxh
    · rw [if_neg hg]
      by_cases hxg : x = g
      · rw [if_pos hxg]
        exact ⟨nofun, fun heq => absurd (hxg ▸ (hL x y).mpr heq) hg⟩
      · rw [if_neg hxg]
        by_cases hxh : x = h
        · rw [if_pos hxh]
          subst hxh
          refine ⟨fun heq => absurd heq hg, fun heq => ?_⟩
          exact nomatch hto.symm.trans ((hL x y).mpr heq)
        · rw [if_neg hxh]
          exact hL x y

/-- Going away needs nothing. -/
theorem drop_consistent (hL : L.Consistent) (h : H) : (L.drop h).Consistent := by
  intro x y
  show update L.fore h none x = some y ↔ L.answer (L.fore h) none y = some x
  rw [update_apply, answer_apply]
  by_cases hy : L.fore h = some y
  · rw [if_pos hy]
    by_cases hx : x = h
    · rw [if_pos hx]
      exact ⟨nofun, nofun⟩
    · rw [if_neg hx]
      exact ⟨fun heq => absurd (hL.inj heq hy) hx, nofun⟩
  · rw [if_neg hy]
    by_cases hx : x = h
    · rw [if_pos hx]
      exact ⟨nofun, fun heq => absurd (hx ▸ (hL x y).mpr heq) hy⟩
    · rw [if_neg hx]
      exact hL x y

end Links
