import Mathlib.Order.Defs.Unbundled
import Mathlib.Order.RelClasses

/-!
# Functions that change a state and may fail

`ExceptT ε (StateM σ)` keeps what was done before a failure: the error comes with the state it was found in.
This is how a function of C++ behaves that has changed members before it returns an error, and no rollback is
modelled.

`bind_ok` and `bind_error` run such a function a step at a time. `Leads` is what it does to the state whatever
comes of it: a preorder that every step respects is respected by the whole (`Leads.pure`, `Leads.bind`), so a
property that is to survive failures is proved once for each step and for no path.
-/

namespace Fallible

variable {ε σ α β : Type}

/-- A first part that succeeds: the second goes on from the state that it left. -/
theorem bind_ok {x : ExceptT ε (StateM σ) α} {f : α → ExceptT ε (StateM σ) β} {s s' : σ} {a : α}
    (h : x s = (.ok a, s')) : (x >>= f) s = f a s' := by
  show (ExceptT.bindCont f (x s).1 : StateM σ (Except ε β)) (x s).2 = _
  rw [h]
  rfl

/-- A first part that fails: nothing of the second happens, and what the first did stays. -/
theorem bind_error {x : ExceptT ε (StateM σ) α} {f : α → ExceptT ε (StateM σ) β} {s s' : σ} {e : ε}
    (h : x s = (.error e, s')) : (x >>= f) s = (.error e, s') := by
  show (ExceptT.bindCont f (x s).1 : StateM σ (Except ε β)) (x s).2 = _
  rw [h]
  rfl

/-- Whatever comes of the function, it leads to a state that `R` relates to the first. Results are not spoken
of, so the failures need no case of their own. -/
def Leads (R : σ → σ → Prop) (x : ExceptT ε (StateM σ) α) : Prop := ∀ s, R s (x s).2

/-- A value changes nothing, which a reflexive relation allows. -/
theorem Leads.pure {R : σ → σ → Prop} [Std.Refl R] (a : α) : Leads R (Pure.pure a : ExceptT ε (StateM σ) α) :=
  fun s => Std.Refl.refl s

/-- One step behind another, which a transitive relation puts together. The second is asked for whatever the
first answers. -/
theorem Leads.bind {R : σ → σ → Prop} [IsTrans σ R] {x : ExceptT ε (StateM σ) α}
    {f : α → ExceptT ε (StateM σ) β} (hx : Leads R x) (hf : ∀ a, Leads R (f a)) : Leads R (x >>= f) := by
  intro s
  have hs := hx s
  match h : x s with
  | (.ok a, s') =>
    rw [bind_ok h]
    rw [h] at hs
    exact IsTrans.trans _ _ _ hs (hf a s')
  | (.error e, s') =>
    rw [bind_error h]
    rw [h] at hs
    exact hs

end Fallible
