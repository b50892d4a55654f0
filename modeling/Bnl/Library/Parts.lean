import Mathlib.Data.List.Basic

/-!
# Systems made of parts

A system takes events one after another and answers each. Every event has a key, and what the system holds can
be looked at key by key. `Separate` says that the key is all an event is about: the answer and the part under
the key depend on that part alone, and the other parts stay.

**The law** (`Separate.observed_filter`): what is seen under a key is what would be seen if the events of the
other keys had never come. Two runs whose events agree key by key cannot be told apart at any key
(`Separate.observed_eq`), so the order in which the streams of a connection are interleaved is not observable on
any of them.

The proof is an induction on the events that keeps two states whose parts under the key are equal: an event
under the key moves both by `own`, one under another key moves only the first, by `frame`.
-/

namespace Parts

variable {S E K V O : Type}

/-- The state after some events, whatever was answered. -/
def after (step : S → E → O × S) (s : S) (es : List E) : S :=
  es.foldl (fun s e => (step s e).2) s

/-- What every step keeps, a run keeps. -/
theorem after_invariant {step : S → E → O × S} {P : S → Prop}
    (hstep : ∀ s e, P s → P (step s e).2) {s : S} (hs : P s) (es : List E) : P (after step s es) := by
  induction es generalizing s with
  | nil => exact hs
  | cons e es ih => exact ih (hstep s e hs)

/-- The answers to the events under the key `k`, in their order. -/
def observed [DecidableEq K] (step : S → E → O × S) (key : E → K) (k : K) : S → List E → List O
  | _, [] => []
  | s, e :: es =>
    if key e = k then (step s e).1 :: observed step key k (step s e).2 es
    else observed step key k (step s e).2 es

/-- An event is about the part under its key, and about nothing else. The two states of `own` may differ in
every other part. -/
structure Separate (step : S → E → O × S) (key : E → K) (view : S → K → V) : Prop where
  own : ∀ {s t e}, view s (key e) = view t (key e) →
    (step s e).1 = (step t e).1 ∧ view (step s e).2 (key e) = view (step t e).2 (key e)
  frame : ∀ {s e k}, k ≠ key e → view (step s e).2 k = view s k

variable [DecidableEq K] {step : S → E → O × S} {key : E → K} {view : S → K → V}

/-- An event under the key is answered before the later ones. -/
theorem observed_own {s : S} {e : E} (es : List E) :
    observed step key (key e) s (e :: es) =
      (step s e).1 :: observed step key (key e) (step s e).2 es := if_pos rfl

/-- An event under another key is not seen, but may have changed the state. -/
theorem observed_other {s : S} {e : E} {k : K} (h : key e ≠ k) (es : List E) :
    observed step key k s (e :: es) = observed step key k (step s e).2 es := if_neg h

/-- **The events of the other keys might as well not have come.** The answers under the key are the same, and so
is the part there. -/
theorem Separate.observed_filter (H : Separate step key view) {s t : S} {k : K}
    (h : view s k = view t k) (es : List E) :
    observed step key k s es = observed step key k t (es.filter (key · = k)) ∧
      view (after step s es) k = view (after step t (es.filter (key · = k))) k := by
  induction es generalizing s t with
  | nil => exact ⟨rfl, h⟩
  | cons e es ih =>
    by_cases hk : key e = k
    · subst hk
      obtain ⟨hanswer, hview⟩ := H.own h
      obtain ⟨hrest, hafter⟩ := ih hview
      rw [List.filter_cons_of_pos (by simp)]
      rw [observed_own, observed_own, hanswer]
      exact ⟨congrArg _ hrest, hafter⟩
    · have hview := (H.frame (s := s) (e := e) (Ne.symm hk)).trans h
      rw [List.filter_cons_of_neg (by simpa using hk)]
      rw [observed_other hk]
      exact ih hview

/-- **Runs that agree key by key cannot be told apart.** -/
theorem Separate.observed_eq (H : Separate step key view) {k : K} {es es' : List E}
    (h : es.filter (key · = k) = es'.filter (key · = k)) (s : S) :
    observed step key k s es = observed step key k s es' ∧
      view (after step s es) k = view (after step s es') k := by
  obtain ⟨ho, hv⟩ := H.observed_filter (Eq.refl (view s k)) es
  obtain ⟨ho', hv'⟩ := H.observed_filter (Eq.refl (view s k)) es'
  rw [h] at ho hv
  exact ⟨ho.trans ho'.symm, hv.trans hv'.symm⟩

end Parts
