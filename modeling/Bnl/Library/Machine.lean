import Mathlib.Data.List.Basic

/-!
# Machines that are fed in chunks

A machine holds a state with the input it has not used yet. `feed` appends a chunk to that input; `step` either
emits an output, waits for more input, or stops with a verdict. `drain` steps until it no longer emits, `run`
feeds a list of chunks and drains after each.

The question such a machine raises is whether the cuts between the chunks matter.

**The law** (`Absorbs.run_join`): a run over any chunks agrees with the run over their join. `Absorbs` is the
one-step answer behind it: what a step says about the input at hand it says about every longer input, except
that two outputs may come out as one and that an output may be lost to a failure, which the observer does not
see. The proof goes from one step to a drain (`Absorbs.drain_feed`, by induction on the drain), to two chunks,
and to all of them.

`Simulation` is the other lift: two machines whose states correspond step by step give the same outputs and the
same verdict on every run.

**What it does not establish.** The agreement is up to the observer. What it does not look at, such as the sizes
of the pieces in which a body is handed out, may depend on the cuts.
-/

namespace Incremental

/-- What one step answers: an output and more to come, nothing before more input, or the end. -/
inductive Step (O V : Type) where
  | emit (o : O)
  | wait
  | stop (v : V)
  deriving DecidableEq

/-- A machine over states `S`, chunks `C`, outputs `O` and verdicts `V`. An emitting step makes its state
smaller, so a drain ends; feeding may make it larger. -/
structure Machine (S C O V : Type) where
  step : S → Step O V × S
  feed : S → C → S
  size : S → Nat
  step_lt : ∀ {s o s'}, step s = (.emit o, s') → size s' < size s

/-- Outputs, the verdict if the machine stopped, and the state left. -/
abbrev Result (S O V : Type) : Type := List O × Option V × S

namespace Machine

variable {S T C O V W : Type}

/-- Step until the machine waits or stops. The recursion is on the size of the state, which an emitting step
lowers. -/
def drain (M : Machine S C O V) (s : S) : Result S O V :=
  match _h : M.step s with
  | (.emit o, s') => (o :: (M.drain s').1, (M.drain s').2)
  | (.wait, s') => ([], none, s')
  | (.stop v, s') => ([], some v, s')
termination_by M.size s
decreasing_by all_goals exact M.step_lt _h

/-- Feed the chunks one after another, draining after each, until the machine stops. The chunks behind a verdict
are not fed. -/
def run (M : Machine S C O V) : S → List C → Result S O V
  | s, [] => ([], none, s)
  | s, c :: cs =>
    match M.drain (M.feed s c) with
    | (os, none, s') => (os ++ (M.run s' cs).1, (M.run s' cs).2)
    | (os, some v, s') => (os, some v, s')

variable {M : Machine S C O V}

/-- An output comes first in a drain. -/
theorem drain_emit {s s' : S} {o : O} (h : M.step s = (.emit o, s')) :
    M.drain s = (o :: (M.drain s').1, (M.drain s').2) := by
  rw [drain]
  split
  · next heq => rw [h] at heq; cases heq; rfl
  · next heq => rw [h] at heq; cases heq
  · next heq => rw [h] at heq; cases heq

/-- A machine that waits has nothing to drain. -/
theorem drain_wait {s s' : S} (h : M.step s = (.wait, s')) : M.drain s = ([], none, s') := by
  rw [drain]
  split
  · next heq => rw [h] at heq; cases heq
  · next heq => rw [h] at heq; cases heq; rfl
  · next heq => rw [h] at heq; cases heq

/-- A machine that stops has its verdict at once. -/
theorem drain_stop {s s' : S} {v : V} (h : M.step s = (.stop v, s')) :
    M.drain s = ([], some v, s') := by
  rw [drain]
  split
  · next heq => rw [h] at heq; cases heq
  · next heq => rw [h] at heq; cases heq
  · next heq => rw [h] at heq; cases heq; rfl

/-- Drains of states with one and the same step are the same. -/
theorem drain_congr {s t : S} (h : M.step s = M.step t) : M.drain s = M.drain t := by
  cases hs : M.step s with
  | mk r s' =>
    have ht := h ▸ hs
    cases r with
    | emit o => rw [drain_emit hs, drain_emit ht]
    | wait => rw [drain_wait hs, drain_wait ht]
    | stop v => rw [drain_stop hs, drain_stop ht]

/-- A first chunk behind which the machine waits. -/
theorem run_cons_wait {s s' : S} {c : C} {cs : List C} {os : List O}
    (h : M.drain (M.feed s c) = (os, none, s')) :
    M.run s (c :: cs) = (os ++ (M.run s' cs).1, (M.run s' cs).2) := by
  rw [run, h]

/-- A first chunk with which the machine stops: the run is its drain. -/
theorem run_cons_stop {s s' : S} {c : C} {cs : List C} {os : List O} {v : V}
    (h : M.drain (M.feed s c) = (os, some v, s')) : M.run s (c :: cs) = (os, some v, s') := by
  rw [run, h]

/-- A run over one chunk is the drain behind it. -/
theorem run_singleton (s : S) (c : C) : M.run s [c] = M.drain (M.feed s c) := by
  match h : M.drain (M.feed s c) with
  | (os, none, s') => rw [run_cons_wait h]; simp [run]
  | (os, some v, s') => rw [run_cons_stop h]

/-- Feeding two lists of chunks is feeding the first and, if the machine then waits, the second. -/
theorem run_append_wait {s s' : S} {cs : List C} {os : List O}
    (h : M.run s cs = (os, none, s')) (ds : List C) :
    M.run s (cs ++ ds) = (os ++ (M.run s' ds).1, (M.run s' ds).2) := by
  induction cs generalizing s os with
  | nil =>
    cases h
    rfl
  | cons c cs ih =>
    match hd : M.drain (M.feed s c) with
    | (os₁, none, s₁) =>
      rw [run_cons_wait hd] at h
      have hrest : M.run s₁ cs = ((M.run s₁ cs).1, none, s') := by
        rw [← (Prod.mk.inj h).2]
      rw [List.cons_append, run_cons_wait hd, ih hrest, ← (Prod.mk.inj h).1]
      simp only [List.append_assoc]
    | (os₁, some v, s₁) =>
      rw [run_cons_stop hd] at h
      cases h

/-! ## The cuts do not matter -/

/-- What is seen of a run: `view` of the outputs in any case, `fine` unless the machine failed. Both are put
together from what is seen of the parts, so an observer may forget where one output ends and the next begins,
and what a failure cut off. -/
structure Observer (O V W X : Type) where
  view : List O → W
  fine : List O → X
  failed : V → Prop
  view_append : ∀ {a a' b b'}, view a = view a' → view b = view b' → view (a ++ b) = view (a' ++ b')
  fine_append : ∀ {a a' b b'}, fine a = fine a' → fine b = fine b' → fine (a ++ b) = fine (a' ++ b')

variable {X : Type}

/-- Two results an observer cannot tell apart: the same view of the outputs, the same verdict, and
the same state where the machine is still waiting. -/
structure Agree (obs : Observer O V W X) (r r' : Result S O V) : Prop where
  view_eq : obs.view r.1 = obs.view r'.1
  verdict_eq : r.2.1 = r'.2.1
  fine_eq : (∀ v, r.2.1 = some v → ¬ obs.failed v) → obs.fine r.1 = obs.fine r'.1
  state_eq : r.2.1 = none → r.2.2 = r'.2.2

/-- A result agrees with itself. -/
theorem Agree.refl (obs : Observer O V W X) (r : Result S O V) : Agree obs r r :=
  ⟨rfl, rfl, fun _ => rfl, fun _ => rfl⟩

/-- Agreement goes on from one result to the next. -/
theorem Agree.trans {obs : Observer O V W X} {r r' r'' : Result S O V} (h : Agree obs r r')
    (h' : Agree obs r' r'') : Agree obs r r'' :=
  ⟨h.view_eq.trans h'.view_eq, h.verdict_eq.trans h'.verdict_eq,
    fun hf => (h.fine_eq hf).trans (h'.fine_eq (h.verdict_eq ▸ hf)),
    fun hn => (h.state_eq hn).trans (h'.state_eq (h.verdict_eq ▸ hn))⟩

/-- Agreement is symmetric: a verdict on one side is the verdict on the other. -/
theorem Agree.symm {obs : Observer O V W X} {r r' : Result S O V} (h : Agree obs r r') :
    Agree obs r' r :=
  ⟨h.view_eq.symm, h.verdict_eq.symm, fun hf => (h.fine_eq (h.verdict_eq ▸ hf)).symm,
    fun hn => (h.state_eq (h.verdict_eq.trans hn)).symm⟩

/-- Outputs seen alike in front keep two results in agreement. -/
theorem Agree.append {obs : Observer O V W X} (os os' : List O) {r r' : Result S O V}
    (hv : obs.view os = obs.view os') (hf : obs.fine os = obs.fine os') (h : Agree obs r r') :
    Agree obs (os ++ r.1, r.2) (os' ++ r'.1, r'.2) :=
  ⟨obs.view_append hv h.view_eq, h.verdict_eq, fun hn => obs.fine_append hf (h.fine_eq hn),
    h.state_eq⟩

/-- A step taken now stands when the chunk `c` arrives first. `good s c` is what makes it so: the side
conditions on a state and a chunk yet to come. An output may come out joined to the next one, or be lost to a
failure that would have followed it. A step that waits is the one that may change the state: the input it has
put aside by then is not looked at again. -/
structure Absorbs (M : Machine S C O V) (join : C → C → C) (obs : Observer O V W X)
    (good : S → C → Prop) : Prop where
  feed_feed : ∀ {s c d}, good (M.feed s c) d → M.feed (M.feed s c) d = M.feed s (join c d)
  wait : ∀ {s s' c}, good s c → M.step s = (.wait, s') →
    good s' c ∧ M.step (M.feed s c) = M.step (M.feed s' c)
  stop : ∀ {s s' c v}, good s c → M.step s = (.stop v, s') →
    ∃ s'', M.step (M.feed s c) = (.stop v, s'')
  emit : ∀ {s s' c o}, good s c → M.step s = (.emit o, s') → good s' c ∧
    (M.step (M.feed s c) = (.emit o, M.feed s' c) ∨
      (∃ o₂ o₁₂ s₂, M.step (M.feed s' c) = (.emit o₂, s₂) ∧
        M.step (M.feed s c) = (.emit o₁₂, s₂) ∧ obs.view [o₁₂] = obs.view [o, o₂] ∧
          obs.fine [o₁₂] = obs.fine [o, o₂]) ∨
      ∃ v s₁ s₂, obs.failed v ∧ M.step (M.feed s' c) = (.stop v, s₁) ∧
        M.step (M.feed s c) = (.stop v, s₂) ∧ obs.view [o] = obs.view [])

/-- Draining and then feeding a chunk. -/
def drainThen (M : Machine S C O V) (s : S) (c : C) : Result S O V :=
  match M.drain s with
  | (os, none, s') => (os ++ (M.drain (M.feed s' c)).1, (M.drain (M.feed s' c)).2)
  | (os, some v, s') => (os, some v, s')

variable {join : C → C → C} {obs : Observer O V W X} {good : S → C → Prop}

/-- A drain that waits goes on with the chunk. -/
theorem drainThen_of_wait {s s' : S} {c : C} {os : List O} (h : M.drain s = (os, none, s')) :
    M.drainThen s c = (os ++ (M.drain (M.feed s' c)).1, (M.drain (M.feed s' c)).2) := by
  rw [drainThen, h]

/-- A drain that stops never gets to the chunk. -/
theorem drainThen_of_stop {s s' : S} {c : C} {os : List O} {v : V}
    (h : M.drain s = (os, some v, s')) : M.drainThen s c = (os, some v, s') := by
  rw [drainThen, h]

/-- An output comes first here too. -/
theorem drainThen_emit {s s' : S} {c : C} {o : O} (h : M.step s = (.emit o, s')) :
    M.drainThen s c = (o :: (M.drainThen s' c).1, (M.drainThen s' c).2) := by
  have hd := drain_emit h
  match hs' : M.drain s' with
  | (os, none, t) =>
    rw [hs'] at hd
    rw [drainThen_of_wait hd, drainThen_of_wait hs']
    rfl
  | (os, some v, t) =>
    rw [hs'] at hd
    rw [drainThen_of_stop hd, drainThen_of_stop hs']

/-- **Feeding early changes nothing.** The induction is on the drain of the shorter input: a wait
ends it, an output either comes out unchanged, joins the first output after the chunk, or is lost to
the failure the chunk brings. -/
theorem Absorbs.drain_feed (A : Absorbs M join obs good) {s : S} {c : C} (hg : good s c) :
    Agree obs (M.drain (M.feed s c)) (M.drainThen s c) := by
  induction hn : M.size s using Nat.strongRecOn generalizing s with
  | ind n ih =>
    subst hn
    match hs : M.step s with
    | (.wait, s') =>
      have hw := A.wait hg hs
      rw [drain_congr hw.2, drainThen_of_wait (drain_wait hs)]
      exact Agree.refl obs _
    | (.stop v, s') =>
      obtain ⟨s'', hst⟩ := A.stop hg hs
      rw [drain_stop hst, drainThen_of_stop (drain_stop hs)]
      exact ⟨rfl, rfl, fun _ => rfl, fun h => nomatch h⟩
    | (.emit o, s') =>
      obtain ⟨hg', hcase⟩ := A.emit hg hs
      have hrest := ih (M.size s') (M.step_lt hs) hg' rfl
      have hfront : Agree obs (o :: (M.drain (M.feed s' c)).1, (M.drain (M.feed s' c)).2)
          (o :: (M.drainThen s' c).1, (M.drainThen s' c).2) :=
        hrest.append [o] [o] rfl rfl
      rw [drainThen_emit hs]
      rcases hcase with hsame | ⟨o₂, o₁₂, s₂, h₂, h₁₂, hview, hfine⟩ | ⟨v, s₁, s₂, hv, h₁, h₂, hview⟩
      · rw [drain_emit hsame]
        exact hfront
      · -- the two outputs come out as one: compare with the drain that emits them apart
        rw [drain_emit h₂] at hfront
        rw [drain_emit h₁₂]
        exact ((Agree.refl obs (M.drain s₂)).append [o₁₂] [o, o₂] hview hfine).trans
          hfront
      · rw [drain_stop h₁] at hfront
        rw [drain_stop h₂]
        refine ⟨hview.symm.trans hfront.view_eq, hfront.verdict_eq, fun hn => ?_, fun h => nomatch h⟩
        exact absurd hv (hn v rfl)

/-- The side conditions along a list of chunks, each taken after everything before it. They speak of the joined
input, in whose place the cuts are to be forgotten. -/
def GoodAll (M : Machine S C O V) (join : C → C → C) (good : S → C → Prop) (s : S) :
    C → List C → Prop
  | _, [] => True
  | c, d :: ds => good (M.feed s c) d ∧ GoodAll M join good s (join c d) ds

/-- Two first chunks may be joined. This is `drain_feed` for the state behind the first chunk, taken into a run. -/
theorem Absorbs.run_join_two (A : Absorbs M join obs good) {s : S} {c d : C} {cs : List C}
    (hg : good (M.feed s c) d) :
    Agree obs (M.run s (c :: d :: cs)) (M.run s (join c d :: cs)) := by
  have hd := A.drain_feed hg
  rw [A.feed_feed hg] at hd
  match h₁ : M.drain (M.feed s c) with
  | (os, some v, s₁) =>
    rw [drainThen_of_stop h₁] at hd
    match h₂ : M.drain (M.feed s (join c d)) with
    | (os', some v', s₂) =>
      rw [h₂] at hd
      rw [run_cons_stop h₁, run_cons_stop h₂]
      exact hd.symm
    | (os', none, s₂) =>
      rw [h₂] at hd
      cases hd.verdict_eq
  | (os, none, s₁) =>
    rw [drainThen_of_wait h₁] at hd
    rw [run_cons_wait h₁]
    match h₂ : M.drain (M.feed s (join c d)), h₃ : M.drain (M.feed s₁ d) with
    | (os₂, none, s₂), (os₃, none, s₃) =>
      rw [h₂, h₃] at hd
      obtain rfl : s₂ = s₃ := hd.state_eq rfl
      have hos : Agree obs (os ++ os₃ ++ (M.run s₂ cs).1, (M.run s₂ cs).2)
          (os₂ ++ (M.run s₂ cs).1, (M.run s₂ cs).2) :=
        (Agree.refl obs (M.run s₂ cs)).append _ _ hd.view_eq.symm (hd.fine_eq fun v h => nomatch h).symm
      rw [run_cons_wait h₂, run_cons_wait h₃, ← List.append_assoc]
      exact hos
    | (os₂, some v, s₂), (os₃, some w, s₃) =>
      rw [h₂, h₃] at hd
      rw [run_cons_stop h₂, run_cons_stop h₃]
      exact hd.symm
    | (os₂, some v, s₂), (os₃, none, s₃) =>
      rw [h₂, h₃] at hd
      cases hd.verdict_eq
    | (os₂, none, s₂), (os₃, some w, s₃) =>
      rw [h₂, h₃] at hd
      cases hd.verdict_eq

/-- **The cuts do not matter**: a run over chunks agrees with the run over their join. The induction is on the
chunks, and joins the first two in each step. -/
theorem Absorbs.run_join (A : Absorbs M join obs good) {s : S} {c : C} {cs : List C}
    (hg : GoodAll M join good s c cs) :
    Agree obs (M.run s (c :: cs)) (M.run s [cs.foldl join c]) := by
  induction cs generalizing c with
  | nil => exact Agree.refl obs _
  | cons d ds ih => exact (A.run_join_two hg.1).trans (ih hg.2)

/-! ## Machines that correspond -/

/-- States of two machines that correspond, step by step and chunk by chunk. The outputs are the same, not only
related: what the second machine leaves out, such as where its bytes are stored, has to show in no output. -/
structure Simulation (M : Machine S C O V) (N : Machine T C O V) (R : S → T → Prop) : Prop where
  feed : ∀ {s t} c, R s t → R (M.feed s c) (N.feed t c)
  step : ∀ {s t}, R s t → (M.step s).1 = (N.step t).1 ∧ R (M.step s).2 (N.step t).2

variable {N : Machine T C O V} {R : S → T → Prop}

/-- Corresponding states drain alike. The induction is on the drain of the first machine; the second has its own
size. -/
theorem Simulation.drain_eq (H : Simulation M N R) {s : S} {t : T} (h : R s t) :
    (M.drain s).1 = (N.drain t).1 ∧ (M.drain s).2.1 = (N.drain t).2.1 ∧
      R (M.drain s).2.2 (N.drain t).2.2 := by
  induction hn : M.size s using Nat.strongRecOn generalizing s t with
  | ind n ih =>
    subst hn
    have hst := H.step h
    match hs : M.step s, ht : N.step t with
    | (.wait, s'), (r, t') =>
      rw [hs, ht] at hst
      obtain rfl : Step.wait = r := hst.1
      rw [drain_wait hs, drain_wait ht]
      exact ⟨rfl, rfl, hst.2⟩
    | (.stop v, s'), (r, t') =>
      rw [hs, ht] at hst
      obtain rfl : Step.stop v = r := hst.1
      rw [drain_stop hs, drain_stop ht]
      exact ⟨rfl, rfl, hst.2⟩
    | (.emit o, s'), (r, t') =>
      rw [hs, ht] at hst
      obtain rfl : Step.emit o = r := hst.1
      rw [drain_emit hs, drain_emit ht]
      obtain ⟨h₁, h₂, h₃⟩ := ih (M.size s') (M.step_lt hs) hst.2 rfl
      exact ⟨congrArg (o :: ·) h₁, h₂, h₃⟩

/-- What every step keeps, a drain keeps. -/
theorem drain_invariant {P : S → Prop} (hstep : ∀ s, P s → P (M.step s).2) {s : S} (hs : P s) :
    P (M.drain s).2.2 := by
  induction hn : M.size s using Nat.strongRecOn generalizing s with
  | ind n ih =>
    subst hn
    have hs' := hstep s hs
    match h : M.step s with
    | (.wait, s') =>
      rw [h] at hs'
      rw [drain_wait h]
      exact hs'
    | (.stop v, s') =>
      rw [h] at hs'
      rw [drain_stop h]
      exact hs'
    | (.emit o, s') =>
      rw [h] at hs'
      rw [drain_emit h]
      exact ih (M.size s') (M.step_lt h) hs' rfl

/-- Corresponding states give the same outputs and the same verdict on every run. -/
theorem Simulation.run_eq (H : Simulation M N R) {s : S} {t : T} (h : R s t) (cs : List C) :
    (M.run s cs).1 = (N.run t cs).1 ∧ (M.run s cs).2.1 = (N.run t cs).2.1 ∧
      R (M.run s cs).2.2 (N.run t cs).2.2 := by
  induction cs generalizing s t with
  | nil => exact ⟨rfl, rfl, h⟩
  | cons c cs ih =>
    have hd := H.drain_eq (H.feed c h)
    match hs : M.drain (M.feed s c), ht : N.drain (N.feed t c), hd with
    | (os, none, s'), (os', none, t'), ⟨ho, _, hr⟩ =>
      obtain rfl : os = os' := ho
      rw [run_cons_wait hs, run_cons_wait ht]
      obtain ⟨h₁, h₂, h₃⟩ := ih hr
      exact ⟨congrArg (os ++ ·) h₁, h₂, h₃⟩
    | (os, some v, s'), (os', some v', t'), ⟨ho, hv, hr⟩ =>
      rw [run_cons_stop hs, run_cons_stop ht]
      exact ⟨ho, hv, hr⟩
    | (os, none, s'), (os', some v', t'), ⟨_, hv, _⟩ => cases hv
    | (os, some v, s'), (os', none, t'), ⟨_, hv, _⟩ => cases hv

end Machine

end Incremental
