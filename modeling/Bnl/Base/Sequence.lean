import Bnl.Base.Buffer
import Bnl.Library.Parser

/-!
# Sequences and lookaheads

The decoders of the source are templates over a sequence: `base::buffer`, `base::buffers` or a lookahead of
either. Here that is a class with the operations the templates call and, as fields, the laws that make a
sequence a byte string: its size, its bytes, what consuming leaves. An instance proves them once, so that no
decoder's law speaks of fragments.

A `Lookahead` is the one class both `buffer::lookahead` and `buffers::lookahead` are: a position in a storage
that is not moved by reading on. Copying a lookahead starts a new position where the old one stands.

`read` is how a parser over byte lists runs on a sequence: a success consumes what the parser read, a failure
leaves the sequence as it was. The laws of each decoder are stated as equations with it. A decoder that moves a
lookahead step by step may have moved it before it fails; `Follows` is what is left of the equation then.

**The laws** that the decoders' own proofs use are `read_ok`, `read_error` and `read_rest` for a decoder that
commits once, and `Follows.bind` and `Follows.around` for one that goes step by step: decoders in sequence
follow the parsers in sequence.
-/

namespace Bnl.Base

open Incremental

/-- A decoder: a value or an error, and the sequence as it was left. An error keeps what was consumed before it. -/
abbrev Reader (ε σ α : Type) : Type := ExceptT ε (StateM σ) α

namespace Reader

variable {ε σ α γ : Type} {s s' : σ}

/-- A sequence of two decoders, as a function. -/
theorem bind_apply (x : Reader ε σ α) (k : α → Reader ε σ γ) (s : σ) :
    (x >>= k) s = match x s with
      | (.ok a, s') => k a s'
      | (.error e, s') => (.error e, s') := by
  show ExceptT.bindCont k (x s).1 (x s).2 = _
  rcases x s with ⟨_ | _, _⟩ <;> rfl

/-- A first decoder that succeeds. -/
theorem bind_ok {x : Reader ε σ α} {k : α → Reader ε σ γ} {a : α} (h : x s = (.ok a, s')) :
    (x >>= k) s = k a s' := by
  rw [bind_apply, h]

/-- A first decoder that fails, and what it left of the sequence. -/
theorem bind_error {x : Reader ε σ α} {k : α → Reader ε σ γ} {e : ε}
    (h : x s = (.error e, s')) : (x >>= k) s = (.error e, s') := by
  rw [bind_apply, h]

/-- Looking at the sequence as it is. -/
theorem get_bind (k : σ → Reader ε σ γ) (s : σ) : (get >>= k) s = k s s := rfl

/-- What comes out after `get`, `x`, and `get` again. -/
theorem around {x : Reader ε σ α} {k : σ → α → σ → Reader ε σ γ} {a : α}
    (h : x s = (.ok a, s')) : (do let before ← get; let a ← x; let after ← get; k before a after) s =
      k s a s' s' := by
  rw [get_bind, bind_ok h, get_bind]

end Reader

/-- What a lookahead needs of the buffer or buffers under it: their bytes, by index. -/
class Storage (β : Type) where
  bytes : β → List UInt8
  size : β → Nat
  get : β → Nat → UInt8
  size_eq : ∀ b, size b = (bytes b).length
  get_eq : ∀ b i, get b i = (bytes b).getD i 0

instance : Storage Buffer where
  bytes := Buffer.bytes
  size := Buffer.size
  get := Buffer.get
  size_eq _ := rfl
  get_eq _ _ := rfl

instance : Storage Buffers where
  bytes := Buffers.bytes
  size := Buffers.size
  get := Buffers.get
  size_eq := Buffers.size_eq
  get_eq := Buffers.get_eq

/-- `buffer::lookahead` and `buffers::lookahead`. `previous` is where a copy began, and `position` how far it
has gone since. -/
structure Lookahead (β : Type) where
  buffer : β
  previous : Nat := 0
  position : Nat := 0
  deriving DecidableEq, Repr

namespace Lookahead

variable {β : Type} [Storage β]

/-- The bytes a lookahead has not passed. -/
def bytes (l : Lookahead β) : List UInt8 :=
  (Storage.bytes l.buffer).drop (l.previous + l.position)

/-- `size()`, by the subtractions of the source. -/
def size (l : Lookahead β) : Nat := Storage.size l.buffer - l.position - l.previous

/-- `operator[]`. -/
def get (l : Lookahead β) (index : Nat) : UInt8 :=
  Storage.get l.buffer (l.previous + l.position + index)

/-- `consume(size)`, which moves the position alone: the storage is not touched. -/
def consume (l : Lookahead β) (size : Nat) : Lookahead β :=
  { l with position := l.position + size }

/-- `consumed()`: how far this lookahead has gone, not the one it was copied from. -/
def consumed (l : Lookahead β) : Nat := l.position

/-- The copy constructor. The copy counts from zero again. -/
def copy (other : Lookahead β) : Lookahead β :=
  { buffer := other.buffer, previous := other.previous + other.position }

end Lookahead

/-- A sequence whose lookaheads look into a `β`. The laws are fields, so a sequence that is not a byte string
cannot be built. -/
class Sequence (σ : Type) (β : outParam Type) [Storage β] where
  bytes : σ → List UInt8
  size : σ → Nat
  get : σ → Nat → UInt8
  consume : σ → Nat → σ
  lookahead : σ → Lookahead β
  size_eq : ∀ s, size s = (bytes s).length
  get_eq : ∀ s i, get s i = (bytes s).getD i 0
  consume_eq : ∀ s n, bytes (consume s n) = (bytes s).drop n
  lookahead_bytes : ∀ s, (lookahead s).bytes = bytes s
  lookahead_consumed : ∀ s, (lookahead s).consumed = 0

instance : Sequence Buffer Buffer where
  bytes := Buffer.bytes
  size := Buffer.size
  get := Buffer.get
  consume := Buffer.consume
  lookahead b := { buffer := b }
  size_eq _ := rfl
  get_eq _ _ := rfl
  consume_eq _ _ := rfl
  lookahead_bytes _ := rfl
  lookahead_consumed _ := rfl

instance : Sequence Buffers Buffers where
  bytes := Buffers.bytes
  size := Buffers.size
  get := Buffers.get
  consume := Buffers.consume
  lookahead s := { buffer := s }
  size_eq := Buffers.size_eq
  get_eq := Buffers.get_eq
  consume_eq := Buffers.consume_bytes
  lookahead_bytes _ := rfl
  lookahead_consumed _ := rfl

instance {β : Type} [Storage β] : Sequence (Lookahead β) β where
  bytes := Lookahead.bytes
  size := Lookahead.size
  get := Lookahead.get
  consume := Lookahead.consume
  lookahead := Lookahead.copy
  size_eq l := by
    simp only [Lookahead.size, Lookahead.bytes, List.length_drop, Storage.size_eq]
    omega
  get_eq l i := by
    simp only [Lookahead.get, Lookahead.bytes, Storage.get_eq, List.getD_eq_getElem?_getD,
      List.getElem?_drop]
  consume_eq l n := by
    simp only [Lookahead.bytes, Lookahead.consume, List.drop_drop, Nat.add_assoc]
  lookahead_bytes l := by
    simp only [Lookahead.bytes, Lookahead.copy, Nat.add_zero]
  lookahead_consumed _ := rfl

/-- A sequence the body decoder can cut buffers off: `base::buffer` and `base::buffers`. What `slice` does to a
sequence without bytes is left open. -/
class Sliceable (σ : Type) (β : outParam Type) [Storage β] extends Sequence σ β where
  slice : σ → Nat → Buffer × σ
  slice_eq : ∀ {s n}, n ≤ (bytes s).length → bytes s ≠ [] →
    (slice s n).1.bytes = (bytes s).take n ∧ bytes (slice s n).2 = (bytes s).drop n

instance : Sliceable Buffer Buffer where
  slice := Buffer.slice
  slice_eq {s n} _ _ := ⟨Buffer.slice_fst_bytes s n, Buffer.slice_snd_bytes s n⟩

instance : Sliceable Buffers Buffers where
  slice := Buffers.slice
  slice_eq := Buffers.slice_bytes

namespace Sequence

variable {σ β : Type} [Storage β] [Sequence σ β]

/-- `empty()`. -/
def empty (s : σ) : Bool := size s == 0

/-- `operator*`. -/
def head (s : σ) : UInt8 := get s 0

/-- An empty sequence has no bytes. -/
theorem empty_iff {s : σ} : empty s = true ↔ bytes s = [] := by
  rw [empty, beq_iff_eq, size_eq, List.length_eq_zero_iff]

/-- A sequence that is not empty has some. -/
theorem empty_eq_false {s : σ} : empty s = false ↔ bytes s ≠ [] := by
  rw [← Bool.not_eq_true, empty_iff]

/-- The first byte, where there is one. -/
theorem head_eq {s : σ} {b : UInt8} {tl : List UInt8} (h : bytes s = b :: tl) : head s = b := by
  rw [head, get_eq, h]
  rfl

/-- An answer with the bytes of the sequence left in place of the sequence. -/
def onBytes {α δ : Type} (r : α × δ × σ) : α × δ × List UInt8 := (r.1, r.2.1, bytes r.2.2)

/-- What an answer was before, and the sequence that came with it. -/
theorem of_onBytes {α δ : Type} {r : α × δ × σ} {a : α} {d : δ} {b : List UInt8}
    (h : onBytes r = (a, d, b)) : ∃ s, r = (a, d, s) ∧ bytes s = b := by
  obtain ⟨a', d', s⟩ := r
  cases h
  exact ⟨s, rfl, rfl⟩

/-- A parser run on a sequence: a success consumes what the parser read, a failure consumes nothing. -/
def read {ε α : Type} (p : Parser ε UInt8 α) (s : σ) : Except ε α × σ :=
  match p (bytes s) with
  | .ok (a, rest) => (.ok a, consume s ((bytes s).length - rest.length))
  | .error e => (.error e, s)

section Read

variable {ε α : Type} {p : Parser ε UInt8 α} {s : σ}

/-- A parser that succeeds has its answer and its bytes. -/
theorem read_ok {a : α} {rest : List UInt8} (h : p (bytes s) = .ok (a, rest)) :
    read p s = (.ok a, consume s ((bytes s).length - rest.length)) := by
  rw [read, h]

/-- A parser that fails leaves the sequence as it was. -/
theorem read_error {e : ε} (h : p (bytes s) = .error e) : read p s = (.error e, s) := by
  rw [read, h]

/-- What a successful read leaves is what the parser left. -/
theorem read_rest {inc : ε} (hp : Stable inc p) {a : α} {rest : List UInt8}
    (h : p (bytes s) = .ok (a, rest)) : bytes (read p s).2 = rest := by
  obtain ⟨c, hc⟩ := hp.splits h
  rw [read_ok h, consume_eq, hc, List.length_append, Nat.add_sub_cancel, List.drop_left]

end Read

end Sequence

namespace Lookahead

variable {β : Type}

/-- What was consumed adds up. -/
@[simp] theorem consume_consumed (l : Lookahead β) (n : Nat) :
    (l.consume n).consumed = l.consumed + n := rfl

/-- Two steps are one. -/
@[simp] theorem consume_consume (l : Lookahead β) (n m : Nat) :
    (l.consume n).consume m = l.consume (n + m) := by
  simp only [consume, Nat.add_assoc]

/-- No step is none. -/
@[simp] theorem consume_zero (l : Lookahead β) : l.consume 0 = l := rfl

variable [Storage β]

@[simp] theorem sequence_bytes (l : Lookahead β) : Sequence.bytes l = l.bytes := rfl

@[simp] theorem sequence_size (l : Lookahead β) : Sequence.size l = l.size := rfl

@[simp] theorem sequence_get (l : Lookahead β) (i : Nat) : Sequence.get l i = l.get i := rfl

/-- The size is that of the bytes not passed. -/
theorem size_eq (l : Lookahead β) : l.size = l.bytes.length := Sequence.size_eq l

/-- Consuming drops from the bytes not passed. -/
theorem consume_bytes (l : Lookahead β) (n : Nat) : (l.consume n).bytes = l.bytes.drop n :=
  Sequence.consume_eq l n

/-- The answer `r` of a decoder at `l` is the parser's; on success `l` has moved past what the parser read. Of
the lookahead behind a failure nothing is said, since the source may leave it anywhere. -/
def Follows {ε α : Type} (p : Parser ε UInt8 α) (l : Lookahead β) (r : Except ε α × Lookahead β) :
    Prop :=
  match p l.bytes with
  | .ok (a, rest) => r = (.ok a, l.consume (l.bytes.length - rest.length))
  | .error e => r.1 = .error e

section Follows

variable {ε α γ : Type} {inc : ε} {p : Parser ε UInt8 α} {l : Lookahead β}
  {r : Except ε α × Lookahead β}

/-- Where the parser succeeds, so does the decoder, and its lookahead is known. -/
theorem Follows.of_ok {a : α} {rest : List UInt8} (h : Follows p l r)
    (hp : p l.bytes = .ok (a, rest)) : r = (.ok a, l.consume (l.bytes.length - rest.length)) := by
  rw [Follows, hp] at h
  exact h

/-- Where the parser fails, the decoder fails with the same error. -/
theorem Follows.of_error {e : ε} (h : Follows p l r) (hp : p l.bytes = .error e) :
    r.1 = .error e := by
  rw [Follows, hp] at h
  exact h

/-- What is left of a decoder that fails is not told. -/
theorem Follows.stops {e : ε} (h : Follows p l r) (hp : p l.bytes = .error e) : ∃ l', r = (.error e, l') :=
  ⟨r.2, Prod.ext (h.of_error hp) rfl⟩

/-- Where the parser always reads something, a success leaves less. -/
theorem Follows.length_lt (h : Follows p l r)
    (hp : ∀ a rest, p l.bytes = .ok (a, rest) → rest.length < l.bytes.length) {a : α}
    {l' : Lookahead β} (hr : r = (.ok a, l')) : l'.bytes.length < l.bytes.length := by
  cases hb : p l.bytes with
  | error e =>
    have he := h.of_error hb
    rw [hr] at he
    cases he
  | ok q =>
    have hok := h.of_ok hb
    rw [hr] at hok
    cases hok
    have hlt := hp _ _ hb
    rw [consume_bytes, List.length_drop]
    omega

/-- To follow a parser that succeeds. -/
theorem follows_ok {a : α} {rest : List UInt8} (hp : p l.bytes = .ok (a, rest))
    (h : r = (.ok a, l.consume (l.bytes.length - rest.length))) : Follows p l r := by
  rw [Follows, hp]
  exact h

/-- To follow a parser that fails. -/
theorem follows_error {e : ε} (hp : p l.bytes = .error e) (h : r.1 = .error e) :
    Follows p l r := by
  rw [Follows, hp]
  exact h

/-- A parser run on a sequence follows itself. -/
theorem follows_read : Follows p l (Sequence.read p l) := by
  cases h : p l.bytes with
  | error e => exact follows_error h (by rw [Sequence.read_error h])
  | ok q => exact follows_ok h (Sequence.read_ok h)

theorem follows_pure (a : α) : Follows (pure a : Parser ε UInt8 α) l (.ok a, l) :=
  follows_ok rfl (by rw [Nat.sub_self, consume_zero])

theorem follows_fail (e : ε) (l' : Lookahead β) :
    Follows (Parser.fail e : Parser ε UInt8 α) l (.error e, l') := follows_error rfl rfl

/-- Decoders in sequence follow the parsers in sequence. The second is asked for at the lookahead that the first
leaves. -/
theorem Follows.bind (hs : Stable inc p) {f : α → Parser ε UInt8 γ}
    (hf : ∀ a, Stable inc (f a)) {x : Reader ε (Lookahead β) α}
    {k : α → Reader ε (Lookahead β) γ} (hx : Follows p l (x l))
    (hk : ∀ a l', x l = (.ok a, l') → Follows (f a) l' (k a l')) :
    Follows (p >>= f) l ((x >>= k) l) := by
  rw [Reader.bind_apply]
  cases hp : p l.bytes with
  | error e =>
    obtain ⟨l', hxl⟩ := hx.stops hp
    rw [hxl]
    exact follows_error (Parser.bind_error hp) rfl
  | ok q =>
    obtain ⟨a, rest⟩ := q
    have hxl := hx.of_ok hp
    have hnext := hk a _ hxl
    obtain ⟨c, hc⟩ := hs.splits hp
    have hrest : (l.consume (l.bytes.length - rest.length)).bytes = rest := by
      rw [consume_bytes, hc, List.length_append, Nat.add_sub_cancel, List.drop_left]
    rw [hxl]
    cases hfa : f a rest with
    | error e =>
      refine follows_error ((Parser.bind_ok hp).trans hfa) (hnext.of_error ?_)
      rw [hrest, hfa]
    | ok q =>
      obtain ⟨v, r⟩ := q
      have hle := (hf a).length_le hfa
      have hle' := hs.length_le hp
      refine follows_ok ((Parser.bind_ok hp).trans hfa) ?_
      refine (hnext.of_ok (by rw [hrest, hfa])).trans ?_
      rw [hrest, consume_consume]
      rw [show l.bytes.length - rest.length + (rest.length - r.length) =
        l.bytes.length - r.length by omega]

/-- The position before and after a decoder tells how much its parser read. This is how the source measures a
payload. -/
theorem Follows.around (hs : Stable inc p) {f : α × Nat → Parser ε UInt8 γ}
    (hf : ∀ r, Stable inc (f r)) {x : Reader ε (Lookahead β) α}
    {k : α → Nat → Reader ε (Lookahead β) γ} (hx : Follows p l (x l))
    (hk : ∀ a n l', x l = (.ok a, l') → Follows (f (a, n)) l' (k a n l')) :
    Follows (Parser.measure p >>= f) l ((do
      let before ← MonadState.get
      let a ← x
      let after ← MonadState.get
      k a (after.consumed - before.consumed)) l) := by
  cases hp : p l.bytes with
  | error e =>
    obtain ⟨l', hxl⟩ := hx.stops hp
    refine follows_error (Parser.bind_error (Parser.measure_error hp)) ?_
    rw [Reader.get_bind, Reader.bind_error hxl]
  | ok q =>
    obtain ⟨a, rest⟩ := q
    have hxl := hx.of_ok hp
    have hread : (l.consume (l.bytes.length - rest.length)).consumed - l.consumed =
        l.bytes.length - rest.length := by
      rw [consume_consumed, Nat.add_sub_cancel_left]
    let y : Reader ε (Lookahead β) (α × Nat) := fun l =>
      match x l with
      | (.ok a, l') => (.ok (a, l'.consumed - l.consumed), l')
      | (.error e, l') => (.error e, l')
    have hyl : y l = (.ok (a, l.bytes.length - rest.length),
        l.consume (l.bytes.length - rest.length)) := by
      show (match x l with
        | (.ok a, l') => (Except.ok (a, l'.consumed - l.consumed), l')
        | (.error e, l') => (.error e, l')) = _
      rw [hxl]
      exact congrArg (fun n => (Except.ok (a, n), _)) hread
    have hy : Follows (Parser.measure p) l (y l) := follows_ok (Parser.measure_ok hp) hyl
    have hbind := hy.bind hs.measure hf (k := fun r => k r.1 r.2) fun r l' hr => by
      rw [hyl] at hr
      cases hr
      exact hk a _ _ hxl
    rw [Reader.bind_ok hyl] at hbind
    rw [Reader.around hxl, hread]
    exact hbind

end Follows

end Lookahead

end Bnl.Base
