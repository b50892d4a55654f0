import Mathlib.Data.List.Basic

/-!
# Incremental parsers

A parser reads the front of a token list and hands the rest back, or fails. One error of its own, here the
parameter `inc`, means "the list is too short": the reader is expected to come back with more tokens. Everything
a protocol needs from such a parser when its input arrives in pieces is in one structure, `Stable`:

* a success splits the input into what was read and the rest (`splits`);
* a success is not revised by later tokens (`append_ok`), nor is a rejection (`append_error`);
* a success depends on nothing but the tokens it read (`consumed_ok`).

The laws are closed under `pure`, `bind` and the primitives, so the parser of a whole message is stable because
it is built from stable parts.

**The law** (`Stable.short`) is the one a stream reader lives by: on a proper beginning of what it will read, a
stable parser answers `inc` and nothing else. `FailsWith` and `Patient` say which errors a parser has at all, in
the same way, part by part.

`Resumes` is the same promise for a decoder with a state of its own, which may use up tokens and still be short:
an answer stands, a rejection stands, and where it was short it goes on from where it stopped.

**What it does not establish.** A stable parser may still be ambiguous or accept too much; what it accepts is
for the parser's own laws to say. The loop ends because each of its rounds reads a token, which `Advances` asks
of the body.
-/

namespace Incremental

/-- A parser over tokens `τ`: the value read and the tokens left, or an error. An error comes without a rest: a
parser that fails has read nothing, as far as the caller can tell. -/
def Parser (ε τ α : Type) : Type := List τ → Except ε (α × List τ)

variable {ε τ α β : Type}

instance : Monad (Parser ε τ) where
  pure a := fun b => .ok (a, b)
  bind p f := fun b =>
    match p b with
    | .ok (a, rest) => f a rest
    | .error e => .error e

namespace Parser

/-- The parser that rejects everything, also the empty list. -/
def fail (e : ε) : Parser ε τ α := fun _ => .error e

/-- One token. -/
def item (inc : ε) : Parser ε τ τ
  | [] => .error inc
  | t :: rest => .ok (t, rest)

/-- Exactly `n` tokens, or the request for more of them. -/
def take (inc : ε) (n : Nat) : Parser ε τ (List τ) := fun b =>
  if n ≤ b.length then .ok (b.take n, b.drop n) else .error inc

/-- Look at the next token without taking it: what follows is given the token and still finds it in front. -/
def peek (inc : ε) (f : τ → Parser ε τ α) : Parser ε τ α
  | [] => .error inc
  | t :: rest => f t (t :: rest)

/-- Fold over tokens up to and including the first that does not ask for more. A list in which all tokens ask
for more is too short. -/
def foldWhile (inc : ε) (more : τ → Bool) (f : α → τ → α) : α → Parser ε τ α
  | _, [] => .error inc
  | a, t :: rest => if more t then foldWhile inc more f (f a t) rest else .ok (f a t, rest)

/-- A parser and how many tokens it read, from the lengths in front and behind. -/
def measure (p : Parser ε τ α) : Parser ε τ (α × Nat) := fun b =>
  match p b with
  | .ok (a, rest) => .ok ((a, b.length - rest.length), rest)
  | .error e => .error e

/-- At most `n` rounds of `body`, until one has an answer. The number is there for the recursion; `rounds_eq`
says that it does not matter where there are enough of them. -/
def rounds (inc : ε) (body : β → Parser ε τ (β ⊕ α)) : Nat → β → Parser ε τ α
  | 0, _, _ => .error inc
  | n + 1, s, b =>
    match body s b with
    | .ok (.inl s', rest) => rounds inc body n s' rest
    | .ok (.inr a, rest) => .ok (a, rest)
    | .error e => .error e

/-- Rounds of `body`, until one has an answer. If a round that has none reads a token at least, there are never
more than there are tokens, so the number of the tokens is enough. -/
def loop (inc : ε) (body : β → Parser ε τ (β ⊕ α)) (s : β) : Parser ε τ α := fun b =>
  rounds inc body (b.length + 1) s b

/-- A round without an answer reads a token at least. -/
def Advances (body : β → Parser ε τ (β ⊕ α)) : Prop :=
  ∀ s b s' rest, body s b = .ok (.inl s', rest) → rest.length < b.length

@[simp] theorem pure_apply (a : α) (b : List τ) :
    (pure a : Parser ε τ α) b = .ok (a, b) := rfl

/-- A sequence, as a function. -/
theorem bind_apply (p : Parser ε τ α) (f : α → Parser ε τ β) (b : List τ) :
    (p >>= f) b = match p b with
      | .ok (a, rest) => f a rest
      | .error e => .error e := rfl

@[simp] theorem fail_apply (e : ε) (b : List τ) : (fail e : Parser ε τ α) b = .error e := rfl

@[simp] theorem item_nil (inc : ε) : item inc ([] : List τ) = .error inc := rfl

@[simp] theorem item_cons (inc : ε) (t : τ) (rest : List τ) :
    item inc (t :: rest) = .ok (t, rest) := rfl

/-- As many tokens as are there can be taken. -/
theorem take_of_le {inc : ε} {n : Nat} {b : List τ} (h : n ≤ b.length) :
    take inc n b = .ok (b.take n, b.drop n) := if_pos h

/-- More tokens than are there cannot. -/
theorem take_of_gt {inc : ε} {n : Nat} {b : List τ} (h : b.length < n) :
    take inc n b = .error inc := if_neg (Nat.not_le.mpr h)

/-- A list is taken off the front of itself and more. -/
theorem take_append {inc : ε} {c rest : List τ} :
    take inc c.length (c ++ rest) = .ok (c, rest) := by
  rw [take_of_le (by simp only [List.length_append]; omega), List.take_left, List.drop_left]

/-- A sequence whose first part succeeds. -/
theorem bind_ok {p : Parser ε τ α} {f : α → Parser ε τ β} {b rest : List τ} {a : α}
    (h : p b = .ok (a, rest)) : (p >>= f) b = f a rest := by
  rw [bind_apply, h]

/-- A sequence whose first part fails. -/
theorem bind_error {p : Parser ε τ α} {f : α → Parser ε τ β} {b : List τ} {e : ε}
    (h : p b = .error e) : (p >>= f) b = .error e := by
  rw [bind_apply, h]

/-- A sequence that succeeds is two successes. -/
theorem bind_eq_ok {p : Parser ε τ α} {f : α → Parser ε τ β} {b r : List τ} {v : β} :
    (p >>= f) b = .ok (v, r) ↔ ∃ a rest, p b = .ok (a, rest) ∧ f a rest = .ok (v, r) := by
  rw [bind_apply]
  cases h : p b with
  | error e => simp
  | ok q =>
    obtain ⟨a, rest⟩ := q
    constructor
    · intro hf
      exact ⟨a, rest, rfl, hf⟩
    · rintro ⟨a', rest', heq, hf⟩
      cases heq
      exact hf

/-- A sequence that fails, fails in its first part or in its second. -/
theorem bind_eq_error {p : Parser ε τ α} {f : α → Parser ε τ β} {b : List τ} {e : ε} :
    (p >>= f) b = .error e ↔
      p b = .error e ∨ ∃ a rest, p b = .ok (a, rest) ∧ f a rest = .error e := by
  rw [bind_apply]
  cases h : p b with
  | error e' => simp
  | ok q =>
    obtain ⟨a, rest⟩ := q
    constructor
    · intro hf
      exact .inr ⟨a, rest, rfl, hf⟩
    · rintro (heq | ⟨a', rest', heq, hf⟩)
      · cases heq
      · cases heq
        exact hf

/-- Rounds past the number of tokens are never needed. -/
theorem rounds_eq {inc : ε} {body : β → Parser ε τ (β ⊕ α)} (hadv : Advances body) {n m : Nat}
    {s : β} {b : List τ} (hn : b.length < n) (hm : b.length < m) :
    rounds inc body n s b = rounds inc body m s b := by
  induction n generalizing m s b with
  | zero => exact absurd hn (Nat.not_lt_zero _)
  | succ n ih =>
    cases m with
    | zero => exact absurd hm (Nat.not_lt_zero _)
    | succ m =>
      rw [rounds, rounds]
      match hbody : body s b with
      | .ok (.inl s', rest) =>
        have hlt := hadv _ _ _ _ hbody
        exact ih (by omega) (by omega)
      | .ok (.inr a, rest) => rfl
      | .error e => rfl

/-- The loop, one round at a time: the equation by which a program's own loop is compared with it. -/
theorem loop_unfold {inc : ε} {body : β → Parser ε τ (β ⊕ α)} (hadv : Advances body) (s : β)
    (b : List τ) : loop inc body s b = match body s b with
      | .ok (.inl s', rest) => loop inc body s' rest
      | .ok (.inr a, rest) => .ok (a, rest)
      | .error e => .error e := by
  rw [loop, rounds]
  match hbody : body s b with
  | .ok (.inl s', rest) => exact rounds_eq hadv (hadv _ _ _ _ hbody) (Nat.lt_succ_self _)
  | .ok (.inr a, rest) => rfl
  | .error e => rfl

section LoopRules

variable {inc : ε} {body : β → Parser ε τ (β ⊕ α)} {s s' : β} {b rest : List τ}

/-- A round without an answer. -/
theorem loop_next (hadv : Advances body) (h : body s b = .ok (.inl s', rest)) :
    loop inc body s b = loop inc body s' rest := by
  rw [loop_unfold hadv, h]

/-- A round with an answer ends the loop. -/
theorem loop_done (hadv : Advances body) {a : α} (h : body s b = .ok (.inr a, rest)) :
    loop inc body s b = .ok (a, rest) := by
  rw [loop_unfold hadv, h]

/-- A round that fails ends the loop. -/
theorem loop_error (hadv : Advances body) {e : ε} (h : body s b = .error e) :
    loop inc body s b = .error e := by
  rw [loop_unfold hadv, h]

/-- What holds of the state at first and is kept by every round holds where the loop ends. -/
theorem loop_invariant (hadv : Advances body) {P : β → Prop} {Q : α → Prop}
    (hnext : ∀ {s b s' rest}, P s → body s b = .ok (.inl s', rest) → P s')
    (hdone : ∀ {s b a rest}, P s → body s b = .ok (.inr a, rest) → Q a) (hs : P s) {a : α}
    (h : loop inc body s b = .ok (a, rest)) : Q a := by
  induction hn : b.length using Nat.strongRecOn generalizing s b with
  | ind n ih =>
    subst hn
    match hb : body s b with
    | .error e =>
      rw [loop_error hadv hb] at h
      cases h
    | .ok (.inr a', r) =>
      rw [loop_done hadv hb] at h
      cases h
      exact hdone hs hb
    | .ok (.inl s', r) =>
      rw [loop_next hadv hb] at h
      exact ih _ (hadv _ _ _ _ hb) (hnext hs hb) h rfl

end LoopRules

/-- What was read is counted. -/
theorem measure_ok {p : Parser ε τ α} {b rest : List τ} {a : α} (h : p b = .ok (a, rest)) :
    measure p b = .ok ((a, b.length - rest.length), rest) := by
  rw [measure, h]

/-- A failure has no count. -/
theorem measure_error {p : Parser ε τ α} {b : List τ} {e : ε} (h : p b = .error e) :
    measure p b = .error e := by
  rw [measure, h]

end Parser

open Incremental.Parser

/-- A list that begins as `w` does holds all of `w`, or too little of it. -/
theorem beginning_cases {w b t rest : List τ} (h : b ++ t = w ++ rest) :
    (∃ r, b = w ++ r) ∨ ∃ s, s ≠ [] ∧ w = b ++ s := by
  rcases List.append_eq_append_iff.mp h with ⟨s, hs, -⟩ | ⟨r, hr, -⟩
  · by_cases hnil : s = []
    · exact .inl ⟨[], by rw [hs, hnil, List.append_nil, List.append_nil]⟩
    · exact .inr ⟨s, hnil, hs⟩
  · exact .inl ⟨r, hr⟩

/-- What a parser owes a reader whose input arrives in pieces; `inc` is its "too short" error. The four laws do
not say that the parser succeeds on anything. -/
structure Stable (inc : ε) (p : Parser ε τ α) : Prop where
  splits : ∀ {b a rest}, p b = .ok (a, rest) → ∃ c, b = c ++ rest
  append_ok : ∀ {b a rest}, p b = .ok (a, rest) → ∀ s, p (b ++ s) = .ok (a, rest ++ s)
  append_error : ∀ {b e}, p b = .error e → e ≠ inc → ∀ s, p (b ++ s) = .error e
  consumed_ok : ∀ {c rest a}, p (c ++ rest) = .ok (a, rest) → p c = .ok (a, [])

namespace Stable

variable {inc : ε}

/-- The rest is never longer than the input. -/
theorem length_le {p : Parser ε τ α} (hp : Stable inc p) {b rest : List τ} {a : α}
    (h : p b = .ok (a, rest)) : rest.length ≤ b.length := by
  obtain ⟨c, rfl⟩ := hp.splits h
  simp only [List.length_append]
  omega

/-- A parser that answers nothing on the empty list reads something wherever it answers. -/
theorem length_lt {p : Parser ε τ α} (hp : Stable inc p) (hnil : ∀ a, p [] ≠ .ok (a, []))
    {b rest : List τ} {a : α} (h : p b = .ok (a, rest)) : rest.length < b.length := by
  obtain ⟨c, rfl⟩ := hp.splits h
  cases c with
  | nil => exact absurd (hp.consumed_ok h) (hnil a)
  | cons t c =>
    simp only [List.cons_append, List.length_cons, List.length_append]
    omega

/-- **Too short means "come back".** On a proper beginning of the tokens it reads, a stable parser
answers `inc`: a value or a rejection there would survive the missing tokens. -/
theorem short {p : Parser ε τ α} (hp : Stable inc p) {c s rest : List τ} {a : α}
    (h : p (c ++ s ++ rest) = .ok (a, rest)) (hs : s ≠ []) : p c = .error inc := by
  cases hc : p c with
  | error e =>
    by_cases he : e = inc
    · rw [he]
    · have := hp.append_error hc he (s ++ rest)
      rw [← List.append_assoc, h] at this
      cases this
  | ok q =>
    obtain ⟨a', r⟩ := q
    have hlong := hp.append_ok hc (s ++ rest)
    rw [← List.append_assoc, h] at hlong
    have hr : rest = r ++ (s ++ rest) := congrArg Prod.snd (Except.ok.inj hlong)
    have hlen := congrArg List.length hr
    have hpos : 0 < s.length := List.length_pos_of_ne_nil hs
    simp only [List.length_append] at hlen
    omega

/-- The same, for the whole of what is read. -/
theorem short_of_ok {p : Parser ε τ α} (hp : Stable inc p) {c s : List τ} {a : α}
    (h : p (c ++ s) = .ok (a, [])) (hs : s ≠ []) : p c = .error inc :=
  hp.short ((congrArg p (List.append_nil _)).trans h) hs

/-- The tokens a success read, in front of any others, are read the same way. -/
theorem ok_of_consumed {p : Parser ε τ α} (hp : Stable inc p) {c rest : List τ} {a : α}
    (h : p (c ++ rest) = .ok (a, rest)) (s : List τ) : p (c ++ s) = .ok (a, s) := by
  simpa using hp.append_ok (hp.consumed_ok h) s

/-- Tokens a success left untouched can be taken away. -/
theorem of_append {p : Parser ε τ α} (hp : Stable inc p) {b rest s : List τ} {a : α}
    (h : p (b ++ s) = .ok (a, rest ++ s)) : p b = .ok (a, rest) := by
  obtain ⟨c, hc⟩ := hp.splits h
  have hb : b = c ++ rest := by
    rw [← List.append_assoc] at hc
    exact List.append_cancel_right hc
  rw [hc] at h
  rw [hb]
  exact hp.ok_of_consumed h rest

/-- A value reads nothing. -/
theorem pure (a : α) : Stable inc (Pure.pure a : Parser ε τ α) where
  splits h := by
    cases h
    exact ⟨[], rfl⟩
  append_ok h s := by
    cases h
    rfl
  append_error h := by cases h
  consumed_ok := by
    intro c rest a' h
    have hc : c ++ rest = rest := congrArg Prod.snd (Except.ok.inj h)
    have ha : a = a' := congrArg Prod.fst (Except.ok.inj h)
    rw [List.append_left_eq_self.mp hc, ha]
    rfl

theorem fail (e : ε) : Stable inc (Parser.fail e : Parser ε τ α) where
  splits h := by cases h
  append_ok h := by cases h
  append_error h _ s := by
    cases h
    rfl
  consumed_ok h := by cases h

theorem item : Stable inc (Parser.item inc : Parser ε τ τ) where
  splits := by
    intro b a rest h
    cases b with
    | nil => cases h
    | cons t b =>
      cases h
      exact ⟨[a], rfl⟩
  append_ok := by
    intro b a rest h s
    cases b with
    | nil => cases h
    | cons t b =>
      cases h
      rfl
  append_error := by
    intro b e h hne s
    cases b with
    | nil =>
      cases h
      exact absurd rfl hne
    | cons t b => cases h
  consumed_ok := by
    intro c rest a h
    cases c with
    | nil =>
      cases rest with
      | nil => cases h
      | cons t r => exact absurd (congrArg (List.length ∘ Prod.snd) (Except.ok.inj h)) (by simp)
    | cons t c =>
      have ht : t = a := congrArg Prod.fst (Except.ok.inj h)
      have hc : c ++ rest = rest := congrArg Prod.snd (Except.ok.inj h)
      rw [List.append_left_eq_self.mp hc, ht]
      rfl

theorem take (n : Nat) : Stable inc (Parser.take inc n : Parser ε τ (List τ)) where
  splits := by
    intro b a rest h
    by_cases hn : n ≤ b.length
    · rw [take_of_le hn] at h
      cases h
      exact ⟨b.take n, (List.take_append_drop n b).symm⟩
    · rw [take_of_gt (Nat.not_le.mp hn)] at h
      cases h
  append_ok := by
    intro b a rest h s
    by_cases hn : n ≤ b.length
    · rw [take_of_le hn] at h
      cases h
      rw [take_of_le (by simp only [List.length_append]; omega),
        List.take_append_of_le_length hn, List.drop_append_of_le_length hn]
    · rw [take_of_gt (Nat.not_le.mp hn)] at h
      cases h
  append_error := by
    intro b e h hne s
    by_cases hn : n ≤ b.length
    · rw [take_of_le hn] at h
      cases h
    · rw [take_of_gt (Nat.not_le.mp hn)] at h
      cases h
      exact absurd rfl hne
  consumed_ok := by
    intro c rest a h
    by_cases hn : n ≤ (c ++ rest).length
    · rw [take_of_le hn] at h
      have ha := congrArg Prod.fst (Except.ok.inj h)
      have hr := congrArg (List.length ∘ Prod.snd) (Except.ok.inj h)
      simp only [Function.comp_apply, List.length_drop, List.length_append] at hr hn
      have hlen : n = c.length := by omega
      subst hlen
      rw [take_of_le (Nat.le_refl _)]
      simp only [List.take_left] at ha
      simp [ha]
    · rw [take_of_gt (Nat.not_le.mp hn)] at h
      cases h

/-- What a fold reads is never empty. -/
theorem foldWhile_lt {more : τ → Bool} {f : α → τ → α} {a v : α} {b rest : List τ}
    (h : Parser.foldWhile inc more f a b = .ok (v, rest)) : rest.length < b.length := by
  induction b generalizing a with
  | nil => cases h
  | cons t b ih =>
    rw [Parser.foldWhile] at h
    split at h
    · exact Nat.lt_succ_of_lt (ih h)
    · cases h
      exact Nat.lt_succ_self _

/-- A fold ends at the first token that does not ask for more, which later tokens do not change. -/
theorem foldWhile (more : τ → Bool) (f : α → τ → α) (a : α) :
    Stable inc (Parser.foldWhile inc more f a) where
  splits := by
    intro b v rest h
    induction b generalizing a with
    | nil => cases h
    | cons t b ih =>
      rw [Parser.foldWhile] at h
      split at h
      · obtain ⟨c, rfl⟩ := ih _ h
        exact ⟨t :: c, rfl⟩
      · cases h
        exact ⟨[t], rfl⟩
  append_ok := by
    intro b v rest h s
    induction b generalizing a with
    | nil => cases h
    | cons t b ih =>
      rw [Parser.foldWhile] at h
      rw [List.cons_append, Parser.foldWhile]
      split at h
      · next hmore => rw [if_pos hmore, ih _ h]
      · next hlast =>
        cases h
        rw [if_neg hlast]
  append_error := by
    intro b e h hne s
    induction b generalizing a with
    | nil =>
      cases h
      exact absurd rfl hne
    | cons t b ih =>
      rw [Parser.foldWhile] at h
      rw [List.cons_append, Parser.foldWhile]
      split at h
      · next hmore => rw [if_pos hmore, ih _ h]
      · cases h
  consumed_ok := by
    intro c rest v h
    induction c generalizing a with
    | nil => exact absurd (foldWhile_lt h) (Nat.lt_irrefl _)
    | cons t c ih =>
      rw [List.cons_append, Parser.foldWhile] at h
      rw [Parser.foldWhile]
      split at h
      · next hmore => rw [if_pos hmore, ih _ h]
      · next hlast =>
        have hr := congrArg Prod.snd (Except.ok.inj h)
        have hv := congrArg Prod.fst (Except.ok.inj h)
        rw [if_neg hlast, List.append_left_eq_self.mp hr]
        exact congrArg (fun v => Except.ok (v, [])) hv

/-- Looking ahead keeps the laws, if what follows reads nothing off an empty list. -/
theorem peek {f : τ → Parser ε τ α} (hf : ∀ t, Stable inc (f t))
    (hnil : ∀ t a, f t [] ≠ .ok (a, [])) : Stable inc (Parser.peek inc f) where
  splits := by
    intro b a rest h
    cases b with
    | nil => cases h
    | cons t b => exact (hf t).splits h
  append_ok := by
    intro b a rest h s
    cases b with
    | nil => cases h
    | cons t b => exact (hf t).append_ok h s
  append_error := by
    intro b e h hne s
    cases b with
    | nil =>
      cases h
      exact absurd rfl hne
    | cons t b => exact (hf t).append_error h hne s
  consumed_ok := by
    intro c rest a h
    cases c with
    | nil =>
      cases rest with
      | nil => cases h
      | cons t rest =>
        exact absurd ((hf t).consumed_ok (c := []) h) (hnil t a)
    | cons t c => exact (hf t).consumed_ok (c := t :: c) h

/-- Sequencing keeps the laws. The second part is asked for whatever the first answers. -/
theorem bind {p : Parser ε τ α} {f : α → Parser ε τ β} (hp : Stable inc p)
    (hf : ∀ a, Stable inc (f a)) : Stable inc (p >>= f) where
  splits h := by
    obtain ⟨a, rest, hpa, hfa⟩ := bind_eq_ok.mp h
    obtain ⟨c, rfl⟩ := hp.splits hpa
    obtain ⟨d, rfl⟩ := (hf a).splits hfa
    exact ⟨c ++ d, (List.append_assoc ..).symm⟩
  append_ok h s := by
    obtain ⟨a, rest, hpa, hfa⟩ := bind_eq_ok.mp h
    rw [bind_ok (hp.append_ok hpa s)]
    exact (hf a).append_ok hfa s
  append_error h hne s := by
    rcases bind_eq_error.mp h with hpe | ⟨a, rest, hpa, hfe⟩
    · exact bind_error (hp.append_error hpe hne s)
    · rw [bind_ok (hp.append_ok hpa s)]
      exact (hf a).append_error hfe hne s
  consumed_ok := by
    intro c rest v h
    obtain ⟨a, mid, hpa, hfa⟩ := bind_eq_ok.mp h
    obtain ⟨c₁, hc₁⟩ := hp.splits hpa
    obtain ⟨c₂, rfl⟩ := (hf a).splits hfa
    have hc : c = c₁ ++ c₂ := by
      rw [← List.append_assoc] at hc₁
      exact List.append_cancel_right hc₁
    subst hc
    rw [List.append_assoc] at hpa
    rw [bind_ok (hp.ok_of_consumed hpa c₂)]
    exact (hf a).consumed_ok hfa

theorem map {p : Parser ε τ α} (hp : Stable inc p) (f : α → β) :
    Stable inc (p >>= fun a => Pure.pure (f a)) :=
  hp.bind fun _ => Stable.pure _

/-- Counting what is read keeps the laws. -/
theorem measure {p : Parser ε τ α} (hp : Stable inc p) : Stable inc (Parser.measure p) := by
  have hok {b rest : List τ} {q : α × Nat} (h : Parser.measure p b = .ok (q, rest)) :
      p b = .ok (q.1, rest) ∧ q.2 = b.length - rest.length := by
    cases hb : p b with
    | error e =>
      rw [measure_error hb] at h
      cases h
    | ok r =>
      rw [measure_ok hb] at h
      cases h
      exact ⟨rfl, rfl⟩
  constructor
  · intro b q rest h
    exact hp.splits (hok h).1
  · rintro b ⟨a, n⟩ rest h s
    obtain ⟨hb, rfl⟩ := hok h
    have hle := hp.length_le hb
    rw [measure_ok (hp.append_ok hb s), List.length_append, List.length_append,
      Nat.add_sub_add_right]
  · intro b e h hne s
    cases hb : p b with
    | error e' =>
      rw [measure_error hb] at h
      cases h
      exact measure_error (hp.append_error hb hne s)
    | ok r =>
      rw [measure_ok hb] at h
      cases h
  · rintro c rest ⟨a, n⟩ h
    obtain ⟨hb, rfl⟩ := hok h
    rw [measure_ok (hp.consumed_ok hb), List.length_append, Nat.add_sub_cancel]
    rfl

/-- A loop keeps the laws of its body. The induction is on the number of tokens, which every round lowers. -/
theorem loop {body : β → Parser ε τ (β ⊕ α)} (hadv : Advances body)
    (hbody : ∀ s, Stable inc (body s)) (s : β) : Stable inc (Parser.loop inc body s) := by
  have hsplits {s : β} {b rest : List τ} {a : α} (h : Parser.loop inc body s b = .ok (a, rest)) :
      ∃ c, b = c ++ rest := by
    induction hn : b.length using Nat.strongRecOn generalizing s b with
    | ind n ih =>
      subst hn
      match hb : body s b with
      | .error e =>
        rw [loop_error hadv hb] at h
        cases h
      | .ok (.inr a', r) =>
        rw [loop_done hadv hb] at h
        cases h
        exact (hbody s).splits hb
      | .ok (.inl s', r) =>
        rw [loop_next hadv hb] at h
        obtain ⟨c, rfl⟩ := (hbody s).splits hb
        obtain ⟨d, rfl⟩ := ih _ (hadv _ _ _ _ hb) h rfl
        exact ⟨c ++ d, (List.append_assoc ..).symm⟩
  constructor
  · exact hsplits
  · intro b a rest h t
    induction hn : b.length using Nat.strongRecOn generalizing s b with
    | ind n ih =>
      subst hn
      match hb : body s b with
      | .error e =>
        rw [loop_error hadv hb] at h
        cases h
      | .ok (.inr a', r) =>
        rw [loop_done hadv hb] at h
        cases h
        exact loop_done hadv ((hbody s).append_ok hb t)
      | .ok (.inl s', r) =>
        rw [loop_next hadv hb] at h
        rw [loop_next hadv ((hbody s).append_ok hb t)]
        exact ih _ (hadv _ _ _ _ hb) s' h rfl
  · intro b e h hne t
    induction hn : b.length using Nat.strongRecOn generalizing s b with
    | ind n ih =>
      subst hn
      match hb : body s b with
      | .error e' =>
        rw [loop_error hadv hb] at h
        cases h
        exact loop_error hadv ((hbody s).append_error hb hne t)
      | .ok (.inr a', r) =>
        rw [loop_done hadv hb] at h
        cases h
      | .ok (.inl s', r) =>
        rw [loop_next hadv hb] at h
        rw [loop_next hadv ((hbody s).append_ok hb t)]
        exact ih _ (hadv _ _ _ _ hb) s' h rfl
  · intro c rest a h
    induction hn : c.length using Nat.strongRecOn generalizing s c with
    | ind n ih =>
      subst hn
      match hb : body s (c ++ rest) with
      | .error e' =>
        rw [loop_error hadv hb] at h
        cases h
      | .ok (.inr a', r) =>
        rw [loop_done hadv hb] at h
        cases h
        exact loop_done hadv ((hbody s).consumed_ok hb)
      | .ok (.inl s', r) =>
        rw [loop_next hadv hb] at h
        obtain ⟨d, rfl⟩ := hsplits h
        have hc := (hbody s).of_append hb
        rw [loop_next hadv hc]
        exact ih _ (hadv _ _ _ _ hc) s' h rfl

/-- Either branch of a test that looks at no token. -/
theorem ite {c : Prop} [Decidable c] {p q : Parser ε τ α} (hp : Stable inc p)
    (hq : Stable inc q) : Stable inc (if c then p else q) := by
  split
  · exact hp
  · exact hq

end Stable

/-- A parser that fails with errors of one kind only. For a parser of untrusted input this is a list of the ways
in which a peer can break off a connection. -/
def FailsWith (P : ε → Prop) (p : Parser ε τ α) : Prop := ∀ b e, p b = .error e → P e

/-- A parser that fails for want of tokens only: it rejects nothing. -/
abbrev Patient (inc : ε) (p : Parser ε τ α) : Prop := FailsWith (· = inc) p

namespace FailsWith

variable {P : ε → Prop} {inc : ε}

theorem pure (a : α) : FailsWith P (Pure.pure a : Parser ε τ α) := by
  intro b e h
  cases h

theorem fail {e : ε} (he : P e) : FailsWith P (Parser.fail e : Parser ε τ α) := by
  intro b e' h
  cases h
  exact he

theorem item (hinc : P inc) : FailsWith P (Parser.item inc : Parser ε τ τ) := by
  intro b e h
  cases b <;> cases h
  exact hinc

theorem take (hinc : P inc) (n : Nat) : FailsWith P (Parser.take inc n : Parser ε τ (List τ)) := by
  intro b e h
  by_cases hn : n ≤ b.length
  · rw [take_of_le hn] at h
    cases h
  · rw [take_of_gt (Nat.not_le.mp hn)] at h
    cases h
    exact hinc

theorem foldWhile (hinc : P inc) (more : τ → Bool) (f : α → τ → α) (a : α) :
    FailsWith P (Parser.foldWhile inc more f a) := by
  intro b e h
  induction b generalizing a with
  | nil =>
    cases h
    exact hinc
  | cons t b ih =>
    rw [Parser.foldWhile] at h
    split at h
    · exact ih _ h
    · cases h

theorem peek (hinc : P inc) {f : τ → Parser ε τ α} (hf : ∀ t, FailsWith P (f t)) :
    FailsWith P (Parser.peek inc f) := by
  intro b e h
  cases b with
  | nil =>
    cases h
    exact hinc
  | cons t b => exact hf t _ _ h

theorem bind {p : Parser ε τ α} {f : α → Parser ε τ β} (hp : FailsWith P p)
    (hf : ∀ a, FailsWith P (f a)) : FailsWith P (p >>= f) := by
  intro b e h
  rcases bind_eq_error.mp h with hpe | ⟨a, rest, -, hfe⟩
  · exact hp _ _ hpe
  · exact hf _ _ _ hfe

theorem ite {c : Prop} [Decidable c] {p q : Parser ε τ α} (hp : FailsWith P p)
    (hq : FailsWith P q) : FailsWith P (if c then p else q) := by
  split
  · exact hp
  · exact hq

theorem measure {p : Parser ε τ α} (hp : FailsWith P p) : FailsWith P (Parser.measure p) := by
  intro b e h
  cases hb : p b with
  | error e' =>
    rw [measure_error hb] at h
    cases h
    exact hp _ _ hb
  | ok q =>
    rw [measure_ok hb] at h
    cases h

theorem loop {body : β → Parser ε τ (β ⊕ α)} (hadv : Advances body)
    (hbody : ∀ s, FailsWith P (body s)) (s : β) : FailsWith P (Parser.loop inc body s) := by
  intro b e h
  induction hn : b.length using Nat.strongRecOn generalizing s b with
  | ind n ih =>
    subst hn
    match hb : body s b with
    | .error e' =>
      rw [loop_error hadv hb] at h
      cases h
      exact hbody _ _ _ hb
    | .ok (.inr a, r) =>
      rw [loop_done hadv hb] at h
      cases h
    | .ok (.inl s', r) =>
      rw [loop_next hadv hb] at h
      exact ih _ (hadv _ _ _ _ hb) s' r h rfl

end FailsWith

namespace Patient

variable (inc : ε)

theorem item : Patient inc (Parser.item inc : Parser ε τ τ) :=
  FailsWith.item (P := (· = inc)) rfl

theorem take (n : Nat) : Patient inc (Parser.take inc n : Parser ε τ (List τ)) :=
  FailsWith.take (P := (· = inc)) rfl n

theorem foldWhile (more : τ → Bool) (f : α → τ → α) (a : α) :
    Patient inc (Parser.foldWhile inc more f a) :=
  FailsWith.foldWhile (P := (· = inc)) rfl more f a

end Patient

/-! ## Decoders with a state

A decoder takes its state and the tokens there are, and answers with the state and the tokens it
leaves. It may use up tokens and still be short; then it goes on from there. -/

/-- What a decoder says about the tokens `b` it also says when the tokens `c` follow: an answer stands, a
rejection stands, and where it was short it goes on from where it stopped. Of a rejection only the error is
promised, not the state. -/
structure Resumes {δ : Type} (inc : ε) (f : δ → List τ → Except ε α × δ × List τ) (d : δ)
    (b c : List τ) : Prop where
  ok : ∀ {a d' rest}, f d b = (.ok a, d', rest) → f d (b ++ c) = (.ok a, d', rest ++ c)
  short : ∀ {d' rest}, f d b = (.error inc, d', rest) → f d (b ++ c) = f d' (rest ++ c)
  error : ∀ {e d' rest}, f d b = (.error e, d', rest) → e ≠ inc → (f d (b ++ c)).1 = .error e

end Incremental
