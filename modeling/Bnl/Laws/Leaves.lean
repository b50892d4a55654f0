import Bnl.Laws.Exact
import Bnl.Laws.Varint

/-!
# What a failed decoder leaves

Varints, literals and Huffman strings are read through a lookahead, so a decoder that fails leaves its sequence
alone. A prefix integer is read from the sequence itself: one that is cut off is gone.

**The law** is `retries_iff`, over the four decoders the others are made of, any input and any kind of sequence.
Three of them are parsers run on the bytes (`Sequence.read`), which consume on success only. The fourth is the
one whose lookahead is never moved; that it takes all there is where it fails is `decode_reads`.

A caller that tries again with more bytes relies on this. The callers of `prefix_int::decode` in the codec have
a lookahead of their own and are not affected.
-/

namespace Bnl.Http3

open Incremental Bnl.Base

/-- The decoders that others are made of. -/
inductive Leaf where
  | varint
  | prefixInt (width : UInt8)
  | literal (width : UInt8)
  | huffman (encodedSize : Nat)
  deriving DecidableEq, Repr

namespace Leaf

variable {σ β : Type} [Storage β] [Sequence σ β]

/-- A call of the decoder: whether it fails, and the sequence behind it. -/
def decode : Leaf → σ → Except Error Unit × σ
  | .varint, s => ((Varint.decode s).1.map fun _ => (), (Varint.decode s).2)
  | .prefixInt width, s =>
    ((Qpack.PrefixInt.decode width s).1.map fun _ => (), (Qpack.PrefixInt.decode width s).2)
  | .literal width, s =>
    ((Qpack.Literal.decode width s).1.map fun _ => (), (Qpack.Literal.decode width s).2)
  | .huffman encodedSize, s =>
    ((Qpack.Huffman.decode encodedSize s).1.map fun _ => (), (Qpack.Huffman.decode encodedSize s).2)

/-- A call that fails leaves the bytes that were there. -/
def Retries (leaf : Leaf) (s : σ) : Prop :=
  ∀ e s', leaf.decode s = (.error e, s') → Sequence.bytes s' = Sequence.bytes s

/-- The leaf is no prefix integer, or there is nothing to read or an integer that ends. -/
def Whole (leaf : Leaf) (b : List UInt8) : Prop :=
  ∀ width, leaf = .prefixInt width → b = [] ∨ ∃ n rest, Qpack.PrefixInt.written width b = .ok (n, rest)

/-- What is read through a lookahead leaves the sequence alone where it fails. -/
theorem read_error_state {α : Type} {p : Parser Error UInt8 α} {s s' : σ} {e : Error}
    (h : ((Sequence.read p s).1.map fun _ => (), (Sequence.read p s).2) = (.error e, s')) : s' = s := by
  cases hp : p (Sequence.bytes s) with
  | error e' =>
    rw [Sequence.read_error hp] at h
    exact (Prod.mk.inj h).2.symm
  | ok q =>
    obtain ⟨a, rest⟩ := q
    rw [Sequence.read_ok hp] at h
    cases (Prod.mk.inj h).1

/-- A prefix integer that fails takes all there is. -/
theorem prefixInt_error {width : UInt8} {s s' : σ} {e : Error}
    (h : (Leaf.prefixInt width).decode s = (.error e, s')) : Sequence.bytes s' = [] := by
  have hreads := Qpack.PrefixInt.decode_reads width s
  unfold Qpack.PrefixInt.Reads at hreads
  unfold decode at h
  dsimp only at h
  rcases hd : Qpack.PrefixInt.decode width s with ⟨v | v, s''⟩
  · rw [hd] at h hreads
    cases h
    split at hreads
    · cases hreads.1
    · exact hreads.2
  · rw [hd] at h
    cases h

/-- **A failed decoder consumes nothing**, but for a prefix integer that is cut off. -/
theorem retries_iff (leaf : Leaf) (s : σ) : leaf.Retries s ↔ leaf.Whole (Sequence.bytes s) := by
  cases leaf with
  | varint =>
    refine ⟨fun _ _ h => (by cases h), fun _ e s' h => ?_⟩
    unfold decode at h
    dsimp only at h
    rw [Varint.decode_eq] at h
    rw [read_error_state h]
  | literal width =>
    refine ⟨fun _ _ h => (by cases h), fun _ e s' h => ?_⟩
    unfold decode at h
    dsimp only at h
    rw [Qpack.Literal.decode_eq] at h
    rw [read_error_state h]
  | huffman encodedSize =>
    refine ⟨fun _ _ h => (by cases h), fun _ e s' h => ?_⟩
    unfold decode at h
    dsimp only at h
    rw [Qpack.Huffman.decode_eq] at h
    rw [read_error_state h]
  | prefixInt width =>
    have hreads := Qpack.PrefixInt.decode_reads width s
    unfold Qpack.PrefixInt.Reads at hreads
    cases hp : Qpack.PrefixInt.parser width (Sequence.bytes s) with
    | error e =>
      rw [hp] at hreads
      have hfails : (Leaf.prefixInt width).decode s = (.error e, (Qpack.PrefixInt.decode width s).2) := by
        unfold decode
        dsimp only
        rw [hreads.1]
        rfl
      constructor
      · intro hretries width' hwidth
        exact .inl ((hretries e _ hfails).symm.trans hreads.2)
      · intro hwhole e' s' h
        rcases hwhole width rfl with hnil | ⟨n, rest, hn⟩
        · rw [prefixInt_error h, hnil]
        · -- an integer that ends is read
          obtain ⟨v, hv⟩ := Qpack.PrefixInt.parser_of_written hn
          rw [hv] at hp
          cases hp
    | ok q =>
      obtain ⟨v, rest⟩ := q
      rw [hp] at hreads
      constructor
      · intro _ width' hwidth
        cases hwidth
        obtain ⟨n, hn⟩ := Qpack.PrefixInt.written_of_read hp
        exact .inr ⟨n, rest, hn⟩
      · intro _ e s' h
        unfold decode at h
        dsimp only at h
        rw [hreads.1] at h
        cases h

/-- The first byte of an integer that goes on. -/
theorem retries_not : ¬ ∀ (leaf : Leaf) (s : Buffer), leaf.Retries s := by
  intro h
  have hfails : (Leaf.prefixInt 5).decode (⟨[0x1f]⟩ : Buffer) = (.error .incomplete, (⟨[]⟩ : Buffer)) := by
    rfl
  cases h (.prefixInt 5) (⟨[0x1f]⟩ : Buffer) .incomplete _ hfails

end Leaf

end Bnl.Http3
