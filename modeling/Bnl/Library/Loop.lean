import Mathlib.Logic.Relation

/-!
# Loops around a machine

A loop goes round while its body succeeds, each time with something that comes from outside. It ends in whatever
comes (`Ends`), where each round lowers a number, or has a machine do work of which it can do only so much
(`Exhausts`): the calls that do none may change the machine, but there is no way back to more work.

**The law** (`Exhausts.acc`, with `ends_of_acc`): such a loop comes to an end for every sequence of inputs. The
idea of the proof is a lexicographic descent: on the work that is left to the machine first, and on the number
second. The machine's part is a well-founded relation that is assumed of it, as for a library whose source is
not there.

No bound on the number of rounds is given, and none follows: it depends on the inputs.
-/

namespace Loop

variable {S A E R : Type}

/-! ## Rounds -/

/-- How a loop ends: with what its last round returned, or within it. -/
inductive Ended (R S : Type) where
  | stopped (r : R) (s : S)
  | aborted

/-- The same end, with another result. -/
def Ended.map {R' : Type} (f : R → R') : Ended R S → Ended R' S
  | .stopped r s => .stopped (f r) s
  | .aborted => .aborted

/-- So many rounds; `none` where the loop goes on behind them. The inputs are a function of the round, so that a
loop that does not end is seen to ask for all of them. -/
def rounds (once : A → S → Option (Except E Unit × S)) (inputs : Nat → A) : Nat → S → Option (Ended E S)
  | 0, _ => none
  | n + 1, s =>
    match once (inputs 0) s with
    | none => some .aborted
    | some (.error error, s) => some (.stopped error s)
    | some (.ok (), s) => rounds once (fun k => inputs (k + 1)) n s

variable (once : A → S → Option (Except E Unit × S))

/-- The loop goes round, with some input. -/
def Next (s s' : S) : Prop := ∃ a, once a s = some (.ok (), s')

/-- The loop comes to an end, whatever the inputs are. -/
def Ends (s : S) : Prop := ∀ inputs, ∃ n, rounds once inputs n s ≠ none

variable {once} {s : S}

/-- A state from which no infinite sequence of rounds leads ends under all inputs. The induction is on
accessibility. -/
theorem ends_of_acc (h : Acc (fun s' s => Next once s s') s) : Ends once s := by
  induction h with
  | intro s _ ih =>
    intro inputs
    cases hs : once (inputs 0) s with
    | none =>
      refine ⟨1, ?_⟩
      unfold rounds
      rw [hs]
      exact Option.some_ne_none _
    | some last =>
      obtain ⟨r, s'⟩ := last
      cases r with
      | error error =>
        refine ⟨1, ?_⟩
        unfold rounds
        rw [hs]
        exact Option.some_ne_none _
      | ok _ =>
        obtain ⟨n, hn⟩ := ih s' ⟨inputs 0, hs⟩ fun k => inputs (k + 1)
        refine ⟨n + 1, ?_⟩
        unfold rounds
        rw [hs]
        exact hn

/-! ## Work -/

section Work

variable {T : Type} (call work : T → T → Prop)

/-- Some calls, and then work. -/
def Spends (t t' : T) : Prop := ∃ u, Relation.ReflTransGen call t u ∧ work u t'

/-- There is no end of calls without an end of work: a sequence of steps, each of them some calls and then work,
is finite. -/
def Exhausts : Prop := WellFounded fun t' t => Spends call work t t'

variable {call work} {t u t' : T}

/-- Calls in front of such a step belong to it. -/
theorem Spends.of_calls (h : Relation.ReflTransGen call t u) (h' : Spends call work u t') : Spends call work t t' := by
  obtain ⟨v, hcalls, hwork⟩ := h'
  exact ⟨v, h.trans hcalls, hwork⟩

/-- **Rounds that have the machine work or lower a number** come to an end. The outer induction is on the
machine, up to calls; the inner one is on the number, for the rounds that do no work. -/
theorem Exhausts.acc (h : Exhausts call work) {I : S → Prop} {next : S → S → Prop} (machine : S → T) (measure : S → Nat)
    (hstep : ∀ s s', I s → next s s' → I s' ∧ (Spends call work (machine s) (machine s') ∨
      Relation.ReflTransGen call (machine s) (machine s') ∧ measure s' < measure s)) (hs : I s) :
    Acc (fun s' s => next s s') s := by
  -- the machine may have been called since it last did work
  have hacc (t : T) : ∀ n s, measure s = n → I s → Relation.ReflTransGen call t (machine s) →
      Acc (fun s' s => next s s') s := by
    induction t using h.induction with
    | _ t ihwork =>
      intro n
      induction n using Nat.strongRecOn with
      | _ n ih =>
        intro s hn hs hcalls
        refine ⟨s, fun s' hnext => ?_⟩
        obtain ⟨hs', hspends | ⟨hcalls', hlt⟩⟩ := hstep s s' hs hnext
        · exact ihwork (machine s') (hspends.of_calls hcalls) _ s' rfl hs' .refl
        · exact ih _ (hn ▸ hlt) s' rfl hs' (hcalls.trans hcalls')
  exact hacc (machine s) _ s rfl hs .refl

end Work

end Loop
