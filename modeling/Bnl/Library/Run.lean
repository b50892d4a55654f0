import Mathlib.Data.List.Basic

/-!
# Runs whose steps meet a condition

A program takes one action after another; a step that cannot be taken, as where an assertion fails, ends it
abruptly. `Always` is what is to hold of every step of a run, that it is taken included; `Meets` is a condition
that is asked of every step in the state that it comes in.

**The laws.** Where a step from a good state under the condition is as it should be and leads to a good state,
so is every step of a run that meets the condition (`always_of_meets`). Where the condition is exactly what a
step from a good state needs, it is exactly what a run needs (`always_iff`): this is how "the program does what
it should in exactly these runs" is proved, from one lemma about a step. The condition is on the state in front
of the step, so it can be asked of a run without looking at what the step does.

The second half is about two programs. `Mapped` says that the steps of one are steps of the other seen through a
map, in the states of an invariant, and that some are not seen at all. Then a run ends where what is seen of it
ends (`Mapped.after`), and properties and conditions carry over in both directions (`Mapped.always_iff`,
`Mapped.meets_iff`): what was proved of the simpler program is known of the other.

**What it does not establish.** A run is a list, so nothing is said of fairness or of what happens at last; a
program that does nothing has no steps to go wrong.
-/

namespace Run

variable {S A : Type} (step : S → A → Option S)

/-- The state after some actions; none where one of them could not be taken. -/
def after : S → List A → Option S
  | s, [] => some s
  | s, a :: as =>
    match step s a with
    | none => none
    | some s' => after s' as

/-- Every step of the run is taken, and is as `T` says. -/
def Always (T : S → A → S → Prop) : S → List A → Prop
  | _, [] => True
  | s, a :: as =>
    match step s a with
    | none => False
    | some s' => T s a s' ∧ Always T s' as

/-- Every action of the run comes in a state in which `P` admits it. Behind a step that is not taken nothing is
asked. -/
def Meets (P : S → A → Prop) : S → List A → Prop
  | _, [] => True
  | s, a :: as =>
    P s a ∧
      match step s a with
      | none => True
      | some s' => Meets P s' as

instance Meets.decidable {P : S → A → Prop} [∀ s a, Decidable (P s a)] :
    ∀ s as, Decidable (Meets step P s as)
  | _, [] => isTrue trivial
  | s, a :: as =>
    have : Decidable (match step s a with | none => True | some s' => Meets step P s' as) :=
      match step s a with
      | none => isTrue trivial
      | some s' => Meets.decidable s' as
    inferInstanceAs (Decidable (_ ∧ _))

variable {step} {P : S → A → Prop} {T : S → A → S → Prop} {s s' : S} {a : A} {as : List A}

/-- One step, and the rest of the run. -/
theorem always_cons (h : step s a = some s') :
    Always step T s (a :: as) ↔ T s a s' ∧ Always step T s' as := by
  rw [Always, h]

/-- One condition, and those of the rest. -/
theorem meets_cons (h : step s a = some s') :
    Meets step P s (a :: as) ↔ P s a ∧ Meets step P s' as := by
  rw [Meets, h]

/-- A run that is always taken does not end abruptly. -/
theorem Always.after_ne (h : Always step T s as) : after step s as ≠ none := by
  induction as generalizing s with
  | nil => nofun
  | cons a as ih =>
    unfold Always at h
    unfold after
    cases hs : step s a with
    | none =>
      rw [hs] at h
      exact h.elim
    | some s' =>
      rw [hs] at h
      exact ih h.2

/-- The last step of a run is as it should be. -/
theorem Always.last (h : Always step T s (as ++ [a])) (hs : after step s as = some s')
    {s'' : S} (ha : step s' a = some s'') : T s' a s'' := by
  induction as generalizing s with
  | nil =>
    cases hs
    exact ((always_cons ha).mp h).1
  | cons b as ih =>
    unfold after at hs
    cases hb : step s b with
    | none =>
      rw [hb] at hs
      cases hs
    | some t =>
      rw [hb] at hs
      exact ih ((always_cons hb).mp h).2 hs

/-- A run in two parts. -/
theorem after_append {bs : List A} (h : after step s as = some s') :
    after step s (as ++ bs) = after step s' bs := by
  induction as generalizing s with
  | nil =>
    cases h
    rfl
  | cons a as ih =>
    unfold after at h
    rw [List.cons_append, after]
    cases ha : step s a with
    | none =>
      rw [ha] at h
      cases h
    | some t =>
      rw [ha] at h
      exact ih h

/-- The steps behind a state that a run goes through. -/
theorem Always.append_right {bs : List A} (h : Always step T s (as ++ bs))
    (hs : after step s as = some s') : Always step T s' bs := by
  induction as generalizing s with
  | nil =>
    cases hs
    exact h
  | cons a as ih =>
    unfold after at hs
    cases ha : step s a with
    | none =>
      rw [ha] at hs
      cases hs
    | some t =>
      rw [ha] at hs
      exact ih ((always_cons ha).mp h).2 hs

/-- What the steps of a run keep holds where it ends. The invariant may use what is known of the steps. -/
theorem Always.invariant {I : S → Prop} (h : Always step T s as)
    (hstep : ∀ s a s', I s → step s a = some s' → T s a s' → I s') (hs : I s)
    (hs' : after step s as = some s') : I s' := by
  induction as generalizing s with
  | nil =>
    cases hs'
    exact hs
  | cons a as ih =>
    unfold after at hs'
    cases ha : step s a with
    | none =>
      rw [ha] at hs'
      cases hs'
    | some t =>
      rw [ha] at hs'
      obtain ⟨ht, hrest⟩ := (always_cons ha).mp h
      exact ih hrest (hstep s a t hs ha ht) hs'

/-- The first steps of a run. -/
theorem Always.append_left {bs : List A} (h : Always step T s (as ++ bs)) : Always step T s as := by
  induction as generalizing s with
  | nil => exact trivial
  | cons a as ih =>
    rw [List.cons_append] at h
    unfold Always at h ⊢
    cases ha : step s a with
    | none =>
      rw [ha] at h
      exact h
    | some t =>
      rw [ha] at h
      exact ⟨h.1, ih h.2⟩

/-- **The invariant carries the condition over**: where a step from a good state under the condition
is taken, is as it should be and keeps the state good, so are all steps of a run that meets it. -/
theorem always_of_meets {I : S → Prop}
    (hstep : ∀ s a, I s → P s a → ∃ s', step s a = some s' ∧ T s a s' ∧ I s') (hs : I s)
    (h : Meets step P s as) : Always step T s as := by
  induction as generalizing s with
  | nil => exact trivial
  | cons a as ih =>
    obtain ⟨s', hs', ht, hi⟩ := hstep s a hs h.1
    exact (always_cons hs').mpr ⟨ht, ih hi ((meets_cons hs').mp h).2⟩

/-- What the steps of a run keep under its condition holds where it ends. -/
theorem Meets.invariant {I : S → Prop} (h : Meets step P s as)
    (hstep : ∀ s a s', I s → P s a → step s a = some s' → I s') (hs : I s) (hs' : after step s as = some s') :
    I s' := by
  induction as generalizing s with
  | nil =>
    cases hs'
    exact hs
  | cons a as ih =>
    unfold after at hs'
    cases ha : step s a with
    | none =>
      rw [ha] at hs'
      cases hs'
    | some t =>
      rw [ha] at hs'
      obtain ⟨hp, hrest⟩ := (meets_cons ha).mp h
      exact ih hrest (hstep s a t hs hp ha) hs'

/-- An invariant under which every step is taken and is as it should be. -/
theorem always_of_step {I : S → Prop}
    (hstep : ∀ s a, I s → ∃ s', step s a = some s' ∧ T s a s' ∧ I s') (hs : I s) :
    Always step T s as := by
  induction as generalizing s with
  | nil => exact trivial
  | cons a as ih =>
    obtain ⟨s', hs', ht, hi⟩ := hstep s a hs
    exact (always_cons hs').mpr ⟨ht, ih hi⟩

/-- Where the condition is exactly what a step from a good state needs, it is exactly what a run needs. Both
directions go along the run: a step that is as it should be was admitted, and leads to a good state. -/
theorem always_iff {I : S → Prop}
    (hstep : ∀ s a, I s → (P s a ↔ ∃ s', step s a = some s' ∧ T s a s'))
    (hkeep : ∀ s a s', I s → step s a = some s' → T s a s' → I s') (hs : I s) :
    Always step T s as ↔ Meets step P s as := by
  constructor
  · intro h
    induction as generalizing s with
    | nil => exact trivial
    | cons a as ih =>
      cases ha : step s a with
      | none =>
        unfold Always at h
        rw [ha] at h
        exact h.elim
      | some s' =>
        obtain ⟨ht, hrest⟩ := (always_cons ha).mp h
        exact (meets_cons ha).mpr
          ⟨(hstep s a hs).mpr ⟨s', ha, ht⟩, ih (hkeep s a s' hs ha ht) hrest⟩
  · refine always_of_meets (fun s a hs hp => ?_) hs
    obtain ⟨s', ha, ht⟩ := (hstep s a hs).mp hp
    exact ⟨s', ha, ht, hkeep s a s' hs ha ht⟩

/-! ## A run seen through a map -/

variable {S' A' : Type} {step' : S' → A' → Option S'} {act : S → A → Option A'} {P' : S' → A' → Prop}
  {Q : S' → Prop} {I : S → Prop} {f : S → S'}

/-- The steps of one program are steps of another seen through `f`, in the states of an invariant; some are not
seen at all. A step that is seen is taken exactly where the other program takes it. -/
structure Mapped (step : S → A → Option S) (step' : S' → A' → Option S') (act : S → A → Option A')
    (I : S → Prop) (f : S → S') : Prop where
  taken : ∀ s a a', I s → act s a = some a' → step' (f s) a' = (step s a).map f
  unseen : ∀ s a, I s → act s a = none → (step s a).map f = some (f s)
  keep : ∀ s a s', I s → step s a = some s' → I s'

/-- The actions that are seen of a run. What is seen of an action depends on the state that it comes in. -/
def trace (step : S → A → Option S) (act : S → A → Option A') : S → List A → List A'
  | _, [] => []
  | s, a :: as =>
    (act s a).toList ++
      match step s a with
      | none => []
      | some s' => trace step act s' as

/-- What is seen of a step comes first. -/
theorem trace_cons (h : step s a = some s') :
    trace step act s (a :: as) = (act s a).toList ++ trace step act s' as := by
  rw [trace, h]

namespace Mapped

/-- A step that is not seen is taken. -/
theorem unseen_taken (h : Mapped step step' act I f) (hs : I s) (ha : act s a = none) :
    ∃ t, step s a = some t ∧ f t = f s ∧ I t := by
  obtain ⟨t, ht, hf⟩ := Option.map_eq_some_iff.mp (h.unseen s a hs ha)
  exact ⟨t, ht, hf, h.keep s a t hs ht⟩

/-- A run ends where what is seen of it ends. -/
theorem after (h : Mapped step step' act I f) (hs : I s) :
    Run.after step' (f s) (trace step act s as) = (Run.after step s as).map f := by
  induction as generalizing s with
  | nil => rfl
  | cons a as ih =>
    cases ha : act s a with
    | none =>
      obtain ⟨t, ht, hf, hi⟩ := h.unseen_taken hs ha
      rw [trace_cons ht, ha, Run.after, ht, ← hf]
      exact ih hi
    | some a' =>
      have hstep := h.taken s a a' hs ha
      cases ht : step s a with
      | none =>
        rw [ht] at hstep
        unfold trace
        rw [ha, ht, Run.after, ht]
        show Run.after step' (f s) [a'] = none
        rw [Run.after, hstep]
        rfl
      | some t =>
        rw [ht] at hstep
        rw [trace_cons ht, ha, Run.after, ht]
        show Run.after step' (f s) (a' :: trace step act t as) = _
        rw [Run.after, hstep]
        exact ih (h.keep s a t hs ht)

/-- What holds of all states of a run holds of all states seen through the map. -/
theorem always_iff (h : Mapped step step' act I f) (hs : I s) (hq : Q (f s)) :
    Always step' (fun _ _ => Q) (f s) (trace step act s as) ↔ Always step (fun _ _ t => Q (f t)) s as := by
  induction as generalizing s with
  | nil => exact Iff.rfl
  | cons a as ih =>
    cases ha : act s a with
    | none =>
      obtain ⟨t, ht, hf, hi⟩ := h.unseen_taken hs ha
      rw [trace_cons ht, ha, always_cons ht, hf]
      have hrest := ih hi (hf ▸ hq)
      rw [hf] at hrest
      exact hrest.trans ⟨fun hall => ⟨hq, hall⟩, And.right⟩
    | some a' =>
      have hstep := h.taken s a a' hs ha
      cases ht : step s a with
      | none =>
        rw [ht] at hstep
        unfold trace Always
        rw [ha, ht]
        show (match step' (f s) a' with | none => False | some t => Q t ∧ _) ↔ False
        rw [hstep]
        exact Iff.rfl
      | some t =>
        rw [ht] at hstep
        have hcons : Always step' (fun _ _ => Q) (f s) (trace step act s (a :: as)) ↔
            Q (f t) ∧ Always step' (fun _ _ => Q) (f t) (trace step act t as) := by
          rw [trace_cons ht, ha]
          exact always_cons hstep
        rw [hcons, always_cons ht]
        exact and_congr_right fun hq => ih (h.keep s a t hs ht) hq

/-- A condition on what is seen of a run is one on the steps that are seen. -/
theorem meets_iff (h : Mapped step step' act I f) (hs : I s) :
    Meets step' P' (f s) (trace step act s as) ↔
      Meets step (fun s a => ∀ a' ∈ act s a, P' (f s) a') s as := by
  induction as generalizing s with
  | nil => exact Iff.rfl
  | cons a as ih =>
    cases ha : act s a with
    | none =>
      obtain ⟨t, ht, hf, hi⟩ := h.unseen_taken hs ha
      rw [trace_cons ht, ha, meets_cons ht, ha, ← hf]
      exact (ih hi).trans ⟨fun hall => ⟨nofun, hall⟩, And.right⟩
    | some a' =>
      have hstep := h.taken s a a' hs ha
      have hfirst : (∀ x ∈ act s a, P' (f s) x) ↔ P' (f s) a' := by
        rw [ha]
        exact ⟨fun hall => hall a' rfl, fun hp x hx => Option.some.inj hx ▸ hp⟩
      cases ht : step s a with
      | none =>
        rw [ht] at hstep
        unfold trace Meets
        rw [ht, hfirst, ha]
        refine and_congr_right' ?_
        rw [hstep]
        exact Iff.rfl
      | some t =>
        rw [ht] at hstep
        have hcons : Meets step' P' (f s) (trace step act s (a :: as)) ↔
            P' (f s) a' ∧ Meets step' P' (f t) (trace step act t as) := by
          rw [trace_cons ht, ha]
          exact meets_cons hstep
        rw [hcons, meets_cons ht, hfirst]
        exact and_congr_right' (ih (h.keep s a t hs ht))

end Mapped

end Run
