import Mathlib.Data.List.Basic
import Mathlib.Data.Nat.Bitwise

/-!
# Prefix codes and the automata that decode them

A code gives every symbol a bit string. It is prefix free together with a stop word when no code begins another
and none begins, or is begun by, the stop word. A message is the concatenation of its codes; a proper beginning
of the stop word may follow it as padding.

An automaton reads a bit string in chunks. A state stands for the bits read since the last whole code, its
`path`, so a step that emits a symbol takes the symbol's code off the path. `Tracks` says so of one step.

**The law** (`Tracks.run_sound`, `Tracks.run_complete`): the automaton accepts what is a padded message, and
answers that message. Soundness needs no property of the code; completeness needs that it is prefix free, so
that the message in front of the padding is the only one there is (`PrefixFree.head_of_prefix`).

A step emits one symbol at most, which bounds the chunks by the shortest code. `Tracks` does not say so: a table
that breaks the bound cannot track the code.
-/

namespace PrefixCode

/-- The low `n` bits of `v`, most significant first: how a code is given as a number with a length. -/
def bits : Nat → Nat → List Bool
  | 0, _ => []
  | n + 1, v => v.testBit n :: bits n v

@[simp] theorem length_bits (n v : Nat) : (bits n v).length = n := by
  induction n with
  | zero => rfl
  | succ n ih => rw [bits, List.length_cons, ih]

/-- Bit strings of numbers whose low bits agree. -/
theorem bits_congr {n v w : Nat} (h : ∀ i < n, v.testBit i = w.testBit i) :
    bits n v = bits n w := by
  induction n with
  | zero => rfl
  | succ n ih =>
    rw [bits, bits, h n (Nat.lt_succ_self n), ih fun i hi => h i (Nat.lt_succ_of_lt hi)]

/-- Only the low bits count. -/
theorem bits_mod (n v : Nat) : bits n (v % 2 ^ n) = bits n v :=
  bits_congr fun i hi => by rw [Nat.testBit_mod_two_pow, decide_eq_true hi, Bool.true_and]

/-- Two numerals side by side are one. -/
theorem bits_append (n m v : Nat) : bits n (v / 2 ^ m) ++ bits m v = bits (n + m) v := by
  induction n with
  | zero => rw [Nat.zero_add]; rfl
  | succ n ih =>
    rw [bits, List.cons_append, ih, Nat.testBit_div_two_pow, Nat.succ_add, bits]

/-- Two numerals side by side are the numeral of the shifted sum. -/
theorem bits_append_low {n m v w : Nat} (hw : w < 2 ^ m) :
    bits n v ++ bits m w = bits (n + m) (v * 2 ^ m + w) := by
  rw [← bits_append]
  congr 1
  · rw [Nat.add_comm, Nat.add_mul_div_right _ _ (Nat.two_pow_pos m), Nat.div_eq_of_lt hw,
      Nat.zero_add]
  · rw [← bits_mod m (v * 2 ^ m + w), Nat.add_comm, Nat.add_mul_mod_self_right, bits_mod]

/-- A bit string of full length tells the number. -/
theorem bits_injective {n v w : Nat} (hv : v < 2 ^ n) (hw : w < 2 ^ n) (h : bits n v = bits n w) :
    v = w := by
  induction n generalizing v w with
  | zero => omega
  | succ n ih =>
    rw [bits, bits, List.cons.injEq] at h
    have hlow : v % 2 ^ n = w % 2 ^ n := by
      refine ih (Nat.mod_lt _ (Nat.two_pow_pos n)) (Nat.mod_lt _ (Nat.two_pow_pos n)) ?_
      rw [bits_mod, bits_mod, h.2]
    refine Nat.eq_of_testBit_eq fun i => ?_
    rcases Nat.lt_trichotomy i n with hi | rfl | hi
    · have := congrArg (fun x => x.testBit i) hlow
      simpa only [Nat.testBit_mod_two_pow, decide_eq_true hi, Bool.true_and] using this
    · exact h.1
    · have hpow : 2 ^ (n + 1) ≤ 2 ^ i := Nat.pow_le_pow_right (by decide) hi
      rw [Nat.testBit_lt_two_pow (Nat.lt_of_lt_of_le hv hpow),
        Nat.testBit_lt_two_pow (Nat.lt_of_lt_of_le hw hpow)]

/-- A numeral begins another exactly when it is its high digits. -/
theorem bits_isPrefix {n m v w : Nat} (hv : v < 2 ^ n) (hw : w < 2 ^ m) :
    bits n v <+: bits m w ↔ n ≤ m ∧ w / 2 ^ (m - n) = v := by
  constructor
  · intro h
    have hle : n ≤ m := by simpa only [length_bits] using h.length_le
    obtain ⟨k, rfl⟩ := Nat.exists_eq_add_of_le hle
    refine ⟨hle, ?_⟩
    rw [Nat.add_sub_cancel_left]
    rw [← bits_append] at h
    have heq : bits n v = bits n (w / 2 ^ k) := by
      have hpre : bits n (w / 2 ^ k) <+: bits n (w / 2 ^ k) ++ bits k w := List.prefix_append _ _
      exact (List.prefix_of_prefix_length_le h hpre (by simp)).eq_of_length (by simp)
    refine (bits_injective hv (Nat.div_lt_of_lt_mul ?_) heq).symm
    rwa [← Nat.pow_add, Nat.add_comm k n]
  · rintro ⟨hle, rfl⟩
    obtain ⟨k, rfl⟩ := Nat.exists_eq_add_of_le hle
    rw [Nat.add_sub_cancel_left, ← bits_append]
    exact List.prefix_append _ _

/-! ## Codes -/

section Code

variable {α : Type} (code : α → List Bool) (stop : List Bool)

/-- A message: the codes of its symbols, one after another. -/
def message (xs : List α) : List Bool := xs.flatMap code

/-- No code begins another, and the stop word is apart from all of them in both directions. -/
structure PrefixFree : Prop where
  eq_of_prefix : ∀ {a b}, code a <+: code b → a = b
  not_prefix_stop : ∀ a, ¬ code a <+: stop
  stop_not_prefix : ∀ a, ¬ stop <+: code a

/-- Padding: a proper beginning of the stop word. The empty string is one, and the whole stop word is none. -/
structure Padding (pad : List Bool) : Prop where
  isPrefix : pad <+: stop
  ne : pad ≠ stop

variable {code stop}

@[simp] theorem message_nil : message code ([] : List α) = [] := rfl

/-- The first symbol's code comes first. -/
@[simp] theorem message_cons (x : α) (xs : List α) :
    message code (x :: xs) = code x ++ message code xs := rfl

/-- Messages one behind the other. -/
theorem message_append (xs ys : List α) :
    message code (xs ++ ys) = message code xs ++ message code ys := List.flatMap_append

namespace PrefixFree

variable (H : PrefixFree code stop) {pad : List Bool}

include H

/-- The stop word does not begin a padded message. -/
theorem not_stop_prefix (hp : Padding stop pad) (xs : List α) :
    ¬ stop <+: message code xs ++ pad := by
  intro h
  cases xs with
  | nil =>
    rw [message_nil, List.nil_append] at h
    exact hp.ne (hp.isPrefix.eq_of_length_le h.length_le)
  | cons x xs =>
    rw [message_cons, List.append_assoc] at h
    rcases List.prefix_or_prefix_of_prefix h (List.prefix_append (code x) _) with h' | h'
    · exact H.stop_not_prefix x h'
    · exact H.not_prefix_stop x h'

/-- A code at the front of a padded message is its first symbol's. -/
theorem head_of_prefix (hp : Padding stop pad) {a : α} {rest : List Bool} {xs : List α}
    (h : code a ++ rest = message code xs ++ pad) :
    ∃ xs', xs = a :: xs' ∧ rest = message code xs' ++ pad := by
  cases xs with
  | nil =>
    have hpre : code a <+: pad := ⟨rest, h⟩
    exact absurd (hpre.trans hp.isPrefix) (H.not_prefix_stop a)
  | cons x xs =>
    rw [message_cons, List.append_assoc] at h
    have ha : code a <+: code x ++ (message code xs ++ pad) := ⟨rest, h⟩
    have hx : code x <+: code x ++ (message code xs ++ pad) := List.prefix_append _ _
    obtain rfl : a = x := by
      rcases List.prefix_or_prefix_of_prefix ha hx with h' | h'
      · exact H.eq_of_prefix h'
      · exact (H.eq_of_prefix h').symm
    exact ⟨xs, rfl, List.append_cancel_left h⟩

end PrefixFree

end Code

/-! ## Automata -/

/-- An automaton over states `σ`, chunks `ι` and symbols `α`. A step fails, or moves to a state and
may emit a symbol. -/
structure Automaton (σ ι α : Type) where
  step : σ → ι → Option (σ × Option α)

namespace Automaton

variable {σ ι α : Type}

/-- The symbols emitted on an input, and the state reached; nothing once a step has failed. -/
def run (A : Automaton σ ι α) : σ → List ι → Option (List α × σ)
  | q, [] => some ([], q)
  | q, w :: ws =>
    match A.step q w with
    | none => none
    | some (q', out) => (A.run q' ws).map fun r => (out.toList ++ r.1, r.2)

/-- A step that is taken. -/
theorem run_cons {A : Automaton σ ι α} {q q' : σ} {w : ι} {out : Option α} (ws : List ι)
    (h : A.step q w = some (q', out)) :
    A.run q (w :: ws) = (A.run q' ws).map fun r => (out.toList ++ r.1, r.2) := by
  rw [run, h]

/-- A step that fails ends the run. -/
theorem run_cons_none {A : Automaton σ ι α} {q : σ} {w : ι} (ws : List ι)
    (h : A.step q w = none) : A.run q (w :: ws) = none := by
  rw [run, h]

/-- The automaton follows the code: `path` is what has been read since the last whole code. A step fails only
where the bits have run into the stop word, and no whole code is left on a path. -/
structure Tracks (A : Automaton σ ι α) (code : α → List Bool) (stop : List Bool)
    (chunk : ι → List Bool) (path : σ → List Bool) : Prop where
  step_some : ∀ {q w q' out}, A.step q w = some (q', out) →
    path q ++ chunk w = message code out.toList ++ path q'
  step_none : ∀ {q w}, A.step q w = none → stop <+: path q ++ chunk w
  internal : ∀ q a, ¬ code a <+: path q

variable {A : Automaton σ ι α} {code : α → List Bool} {stop : List Bool} {chunk : ι → List Bool}
  {path : σ → List Bool}

/-- **Soundness**: what was read is the message emitted and the path of the state reached. The induction is on
the chunks. -/
theorem Tracks.run_sound (T : Tracks A code stop chunk path) {q q' : σ} {ws : List ι}
    {xs : List α} (h : A.run q ws = some (xs, q')) :
    path q ++ ws.flatMap chunk = message code xs ++ path q' := by
  induction ws generalizing q xs with
  | nil =>
    cases h
    rw [List.flatMap_nil, List.append_nil]
    rfl
  | cons w ws ih =>
    cases hs : A.step q w with
    | none =>
      rw [run_cons_none ws hs] at h
      cases h
    | some r =>
      obtain ⟨q₁, out⟩ := r
      rw [run_cons ws hs] at h
      obtain ⟨⟨ys, q₂⟩, hr, heq⟩ := Option.map_eq_some_iff.mp h
      cases heq
      rw [List.flatMap_cons, ← List.append_assoc, T.step_some hs, List.append_assoc, ih hr,
        message_append, List.append_assoc]

/-- **Completeness**: on a padded message the automaton emits the message and stops in the state of the padding.
The induction is on the chunks, with the message left to read; a failing step would put the stop word in front
of it. -/
theorem Tracks.run_complete (T : Tracks A code stop chunk path) (H : PrefixFree code stop)
    {pad : List Bool} (hp : Padding stop pad) {q : σ} {ws : List ι} {xs : List α}
    (h : path q ++ ws.flatMap chunk = message code xs ++ pad) :
    ∃ q', A.run q ws = some (xs, q') ∧ path q' = pad := by
  induction ws generalizing q xs with
  | nil =>
    rw [List.flatMap_nil, List.append_nil] at h
    cases xs with
    | nil => exact ⟨q, rfl, h⟩
    | cons x xs =>
      refine absurd ?_ (T.internal q x)
      rw [h, message_cons, List.append_assoc]
      exact List.prefix_append _ _
  | cons w ws ih =>
    rw [List.flatMap_cons, ← List.append_assoc] at h
    cases hs : A.step q w with
    | none =>
      refine absurd ?_ (H.not_stop_prefix hp xs)
      rw [← h]
      exact (T.step_none hs).trans (List.prefix_append _ _)
    | some r =>
      obtain ⟨q₁, out⟩ := r
      rw [T.step_some hs, List.append_assoc] at h
      cases out with
      | none =>
        obtain ⟨q', hr, hq⟩ := ih h
        exact ⟨q', by rw [run_cons ws hs, hr]; rfl, hq⟩
      | some a =>
        simp only [Option.toList, message_cons, message_nil, List.append_nil] at h
        obtain ⟨xs', rfl, hrest⟩ := H.head_of_prefix hp h
        obtain ⟨q', hr, hq⟩ := ih hrest
        exact ⟨q', by rw [run_cons ws hs, hr]; rfl, hq⟩

end Automaton

end PrefixCode
