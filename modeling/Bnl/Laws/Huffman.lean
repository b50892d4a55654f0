import Bnl.Laws.HuffmanAutomaton

/-!
# Laws of the Huffman decoder

Both passes of the decoder are runs of one automaton over the half bytes. What it accepts is said without it:
the bits of the input are the codes of a string and fewer than eight ones.

**The law** is `decode_accepts`: on any sequence and for any number of bytes, at least one, the decoder answers
a string exactly where the bits are its codes with such a padding, consumes those bytes then, and fails without
a trace otherwise; and the second pass writes as many symbols as the first has counted, so that it fills the
string that was made for it.

The two loops are related to the automaton by induction on the bytes (`decodedSizeLoop_eq`, `decodeLoop_eq`),
two steps of the automaton for each. What the automaton accepts comes from the library: it tracks a prefix code,
so that a run is the code of what it emits. Here it remains to see that the accepting states are those where
only padding is left (`decodeBytes_iff`).

Nothing is said of a string of no bytes but that it fails. Whether that is what it should do is for its caller.
-/

namespace Bnl.Http3.Qpack.Huffman

open Incremental Bnl.Base PrefixCode Bytes

/-- The high half of a byte. -/
def high (byte : UInt8) : Fin 16 := ⟨byte.toNat / 16, Nat.div_lt_of_lt_mul byte.toNat_lt⟩

/-- The low half of a byte. -/
def low (byte : UInt8) : Fin 16 := ⟨byte.toNat % 16, Nat.mod_lt _ (by decide)⟩

/-- The half bytes, high one first. -/
def nibbles (bs : List UInt8) : List (Fin 16) := bs.flatMap fun b => [high b, low b]

/-- The bits of a byte string, most significant first. -/
def bytesBits (bs : List UInt8) : List Bool := bs.flatMap fun b => bits 8 b.toNat

theorem nibbles_cons (b : UInt8) (bs : List UInt8) :
    nibbles (b :: bs) = high b :: low b :: nibbles bs := rfl

/-- The shift and the mask of the source take the halves. -/
theorem half_bytes : ∀ b : UInt8,
    b >>> 4 = UInt8.ofNat (high b).val ∧ b &&& 0xf = UInt8.ofNat (low b).val :=
  forall_byte (by decide +kernel)

/-- The shift takes the high half. -/
theorem shiftRight_high (b : UInt8) : b >>> 4 = UInt8.ofNat (high b).val := (half_bytes b).1

/-- The mask takes the low half. -/
theorem and_low (b : UInt8) : b &&& 0xf = UInt8.ofNat (low b).val := (half_bytes b).2

/-- The bits of the halves are those of the bytes. -/
theorem nibbles_bits (bs : List UInt8) :
    (nibbles bs).flatMap (fun w => bits 4 w.val) = bytesBits bs := by
  induction bs with
  | nil => rfl
  | cons b bs ih =>
    rw [nibbles_cons, List.flatMap_cons, List.flatMap_cons, ih, ← List.append_assoc]
    refine congrArg (· ++ bytesBits bs) ?_
    have hlow : bits 4 (low b).val = bits 4 b.toNat := bits_mod 4 b.toNat
    rw [hlow]
    exact bits_append 4 4 b.toNat

/-- A string of bytes that decodes: the symbols, where the last state accepts. -/
def decodeBytes (bs : List UInt8) : Option (List UInt8) :=
  match automaton.run 0 (nibbles bs) with
  | some (xs, state) => if bs ≠ [] ∧ acceptsPath (pathOf state) = true then some xs else none
  | none => none

/-- **What the automaton accepts**: the codes of a string, padded with fewer than eight ones. -/
theorem decodeBytes_iff {bs xs : List UInt8} : decodeBytes bs = some xs ↔
    bs ≠ [] ∧ ∃ pad, Ones pad ∧ bytesBits bs = message symbolBits xs ++ pad := by
  have hstart : path 0 = [] := by decide +kernel
  constructor
  · intro h
    rw [decodeBytes] at h
    cases hr : automaton.run 0 (nibbles bs) with
    | none =>
      rw [hr] at h
      cases h
    | some r =>
      obtain ⟨ys, state⟩ := r
      rw [hr] at h
      dsimp only at h
      split at h
      · next hacc =>
        cases h
        refine ⟨hacc.1, path state, (acceptsPath_iff state).mp hacc.2, ?_⟩
        rw [← automaton_tracks.run_sound hr, hstart, nibbles_bits]
        rfl
      · cases h
  · rintro ⟨hne, pad, hpad, hbits⟩
    have hcomplete : path 0 ++ (nibbles bs).flatMap (fun w => bits 4 w.val) =
        message symbolBits xs ++ pad := by
      rw [hstart, nibbles_bits, hbits]
      rfl
    obtain ⟨state, hr, hp⟩ := automaton_tracks.run_complete prefixFree hpad.padding hcomplete
    rw [decodeBytes, hr]
    exact if_pos ⟨hne, (acceptsPath_iff state).mpr (hp ▸ hpad)⟩

/-! ## The decoder -/

/-- The string as a parser: `encodedSize` bytes that decode. -/
def parser (encodedSize : Nat) : Parser Error UInt8 (List UInt8) := do
  let bs ← Parser.take .incomplete encodedSize
  match decodeBytes bs with
  | some xs => pure xs
  | none => Parser.fail .qpackDecompressionFailed

/-- More input changes no answer but `incomplete`. -/
theorem parser_stable (encodedSize : Nat) : Stable .incomplete (parser encodedSize) := by
  refine (Stable.take encodedSize).bind fun bs => ?_
  cases decodeBytes bs with
  | some xs => exact Stable.pure xs
  | none => exact Stable.fail _

/-- What the parser answers, and where it stops. -/
theorem parser_eq_ok {n : Nat} {b xs rest : List UInt8} :
    parser n b = .ok (xs, rest) ↔
      n ≤ b.length ∧ decodeBytes (b.take n) = some xs ∧ b.drop n = rest := by
  unfold parser
  rw [Parser.bind_apply]
  by_cases hn : n ≤ b.length
  · rw [Parser.take_of_le hn]
    cases hd : decodeBytes (b.take n) with
    | none => simp [hd]
    | some ys => simp [hd, hn]
  · rw [Parser.take_of_gt (Nat.not_le.mp hn)]
    simp [hn]

section Decode

variable {σ β : Type} [Storage β] [Sequence σ β] {s : σ}

/-- The byte at an index. -/
theorem get_of_drop {i : Nat} {b : UInt8} {tl : List UInt8}
    (h : (Sequence.bytes s).drop i = b :: tl) : Sequence.get s i = b := by
  have hget : (Sequence.bytes s)[i]? = some b := by
    have := congrArg List.head? h
    rwa [List.head?_drop] at this
  rw [Sequence.get_eq, List.getD_eq_getElem?_getD, hget]
  rfl

theorem drop_succ {i : Nat} {b : UInt8} {tl : List UInt8}
    (h : (Sequence.bytes s).drop i = b :: tl) : (Sequence.bytes s).drop (i + 1) = tl := by
  rw [← List.drop_drop, h]
  rfl

/-- The symbols of one node. -/
def emitted (node : Decoding.Node) : Option UInt8 :=
  if node.has Decoding.Flag.symbol then some node.symbol else none

/-- The two nodes of one byte, as steps of the automaton. -/
theorem run_byte (state b : UInt8) (bs : List UInt8) :
    let first := decodingNode state (b >>> 4)
    let second := decodingNode first.state (b &&& 0xf)
    automaton.run state (nibbles (b :: bs)) =
      if first.has Decoding.Flag.failed then none
      else if second.has Decoding.Flag.failed then none
      else (automaton.run second.state (nibbles bs)).map fun r =>
        ((emitted first).toList ++ ((emitted second).toList ++ r.1), r.2) := by
  intro first second
  have hfirst : automaton.step state (high b) =
      if first.has Decoding.Flag.failed then none else some (first.state, emitted first) := by
    rw [show first = decodingNode state (UInt8.ofNat (high b).val) by rw [← shiftRight_high]]
    rfl
  have hsecond : automaton.step first.state (low b) =
      if second.has Decoding.Flag.failed then none else some (second.state, emitted second) := by
    rw [show second = decodingNode first.state (UInt8.ofNat (low b).val) by rw [← and_low]]
    rfl
  rw [nibbles_cons]
  by_cases hfail : first.has Decoding.Flag.failed = true
  · rw [if_pos hfail] at hfirst ⊢
    rw [Automaton.run_cons_none _ hfirst]
  rw [if_neg hfail] at hfirst ⊢
  rw [Automaton.run_cons _ hfirst]
  by_cases hfail' : second.has Decoding.Flag.failed = true
  · rw [if_pos hfail'] at hsecond ⊢
    rw [Automaton.run_cons_none _ hsecond]
    rfl
  · rw [if_neg hfail'] at hsecond ⊢
    rw [Automaton.run_cons _ hsecond, Option.map_map]
    rfl

/-- The flag of a byte's second node says whether its state accepts. -/
theorem accepted_second (state b : UInt8)
    (h : ¬ (decodingNode state (b &&& 0xf)).has Decoding.Flag.failed = true) :
    (decodingNode state (b &&& 0xf)).has Decoding.Flag.accepted =
      acceptsPath (pathOf (decodingNode state (b &&& 0xf)).state) :=
  accepted_eq (w := low b) (by rw [← and_low]) (Bool.eq_false_of_not_eq_true h)

/-- The verdict of the first pass: a run that ends in an accepting state. -/
def counted (accept : Bool) (n : Nat) (bs : List UInt8) :
    Option (List UInt8 × UInt8) → Except Error Nat
  | none => .error .qpackDecompressionFailed
  | some (xs, state) =>
    if (if bs = [] then accept else acceptsPath (pathOf state)) then .ok (n + xs.length)
    else .error .qpackDecompressionFailed

/-- A string that decodes is what a run emits. -/
theorem decodeBytes_run {bs xs : List UInt8} (h : decodeBytes bs = some xs) :
    ∃ state, automaton.run 0 (nibbles bs) = some (xs, state) := by
  rw [decodeBytes] at h
  cases hr : automaton.run 0 (nibbles bs) with
  | none =>
    rw [hr] at h
    cases h
  | some r =>
    rw [hr] at h
    dsimp only at h
    split at h
    · cases h
      exact ⟨r.2, rfl⟩
    · cases h

/-- The verdict over a whole string is whether it decodes. -/
theorem counted_eq (bs : List UInt8) :
    counted false 0 bs (automaton.run 0 (nibbles bs)) =
      match decodeBytes bs with
      | none => .error .qpackDecompressionFailed
      | some xs => .ok xs.length := by
  rw [decodeBytes]
  cases automaton.run 0 (nibbles bs) with
  | none => rfl
  | some r =>
    dsimp only [counted]
    rw [Nat.zero_add]
    cases bs with
    | nil => rfl
    | cons b bs =>
      rw [if_neg (List.cons_ne_nil b bs)]
      by_cases hacc : acceptsPath (pathOf r.2) = true
      · rw [if_pos hacc, if_pos ⟨List.cons_ne_nil b bs, hacc⟩]
      · rw [if_neg hacc, if_neg fun h => hacc h.2]

/-- The first pass counts the symbols of the run, and fails where the run does. -/
theorem decodedSizeLoop_eq {bs rest : List UInt8} {i n : Nat} {state : UInt8} {accept : Bool}
    (h : (Sequence.bytes s).drop i = bs ++ rest) :
    decodedSizeLoop s bs.length i state accept n =
      counted accept n bs (automaton.run state (nibbles bs)) := by
  induction bs generalizing i n state accept with
  | nil => rfl
  | cons b bs ih =>
    have hrun := run_byte state b bs
    have hacc := accepted_second (decodingNode state (b >>> 4)).state b
    rw [List.length_cons, decodedSizeLoop, get_of_drop h]
    dsimp only at hrun ⊢
    rw [hrun]
    generalize decodingNode state (b >>> 4) = first at hacc ⊢
    generalize decodingNode first.state (b &&& 0xf) = second at hacc ⊢
    split
    · rfl
    split
    · rfl
    · next hfail =>
      rw [ih (drop_succ h), hacc hfail]
      have hlen (node : Decoding.Node) (m : Nat) :
          (if node.has Decoding.Flag.symbol then m + 1 else m) =
            m + (emitted node).toList.length := by
        rw [emitted]
        split <;> rfl
      cases hr : automaton.run second.state (nibbles bs) with
      | none => rfl
      | some r =>
        obtain ⟨xs, state'⟩ := r
        have hempty : (if bs = [] then acceptsPath (pathOf second.state)
            else acceptsPath (pathOf state')) = acceptsPath (pathOf state') := by
          split
          · next hnil =>
            rw [hnil] at hr
            cases hr
            rfl
          · rfl
        simp only [counted, Option.map_some, hempty, hlen, if_neg (List.cons_ne_nil b bs)]
        simp only [List.length_append, Nat.add_assoc]

/-- The second pass writes the symbols of the run. -/
theorem decodeLoop_eq {bs rest xs : List UInt8} {i : Nat} {state state' : UInt8}
    (h : (Sequence.bytes s).drop i = bs ++ rest)
    (hr : automaton.run state (nibbles bs) = some (xs, state')) :
    decodeLoop s bs.length i state = xs := by
  induction bs generalizing i state xs with
  | nil =>
    cases hr
    rfl
  | cons b bs ih =>
    have hrun := run_byte state b bs
    rw [List.length_cons, decodeLoop, get_of_drop h]
    dsimp only at hrun ⊢
    rw [hr] at hrun
    generalize decodingNode state (b >>> 4) = first at hrun ⊢
    generalize decodingNode first.state (b &&& 0xf) = second at hrun ⊢
    split at hrun
    · cases hrun
    split at hrun
    · cases hrun
    · have hlist (node : Decoding.Node) :
          (if node.has Decoding.Flag.symbol then [node.symbol] else []) =
            (emitted node).toList := by
        rw [emitted]
        split <;> rfl
      obtain ⟨⟨ys, q⟩, hys, heq⟩ := Option.map_eq_some_iff.mp hrun.symm
      cases heq
      rw [ih (drop_succ h) hys, hlist, hlist, List.append_assoc]

/-- **The decoder is the parser.** -/
theorem decode_eq (n : Nat) (s : σ) : decode n s = Sequence.read (parser n) s := by
  rw [decode, decodedSize, Sequence.size_eq]
  by_cases hn : (Sequence.bytes s).length < n
  · have hshort : parser n (Sequence.bytes s) = .error .incomplete :=
      Parser.bind_error (Parser.take_of_gt hn)
    rw [if_pos hn, Sequence.read_error hshort]
  · rw [if_neg hn]
    have hle := Nat.not_lt.mp hn
    obtain ⟨bs, rest, hsplit, rfl⟩ : ∃ bs rest, Sequence.bytes s = bs ++ rest ∧ bs.length = n :=
      ⟨(Sequence.bytes s).take n, (Sequence.bytes s).drop n, (List.take_append_drop n _).symm,
        by rw [List.length_take, Nat.min_eq_left hle]⟩
    have hdrop : (Sequence.bytes s).drop 0 = bs ++ rest := hsplit
    have htake : parser bs.length (Sequence.bytes s) = (match decodeBytes bs with
        | some xs => pure xs
        | none => Parser.fail .qpackDecompressionFailed : Parser Error UInt8 (List UInt8)) rest := by
      rw [hsplit]
      exact Parser.bind_ok Parser.take_append
    rw [decodedSizeLoop_eq hdrop, counted_eq]
    cases hd : decodeBytes bs with
    | none =>
      rw [hd] at htake
      rw [Sequence.read_error htake]
    | some xs =>
      rw [hd] at htake
      obtain ⟨state, hr⟩ := decodeBytes_run hd
      rw [Sequence.read_ok htake]
      dsimp only
      rw [decodeLoop_eq hdrop hr, hsplit]
      simp only [Nat.sub_self, List.replicate_zero, List.append_nil, List.length_append,
        Nat.add_sub_cancel]

/-- The first pass answers the length of what the parser decodes. -/
theorem decodedSize_eq {n : Nat} (hn : n ≤ (Sequence.bytes s).length) :
    decodedSize s n = match decodeBytes ((Sequence.bytes s).take n) with
      | none => .error .qpackDecompressionFailed
      | some xs => .ok xs.length := by
  have hdrop : (Sequence.bytes s).drop 0 =
      (Sequence.bytes s).take n ++ (Sequence.bytes s).drop n := (List.take_append_drop n _).symm
  have hlen : ((Sequence.bytes s).take n).length = n := by
    rw [List.length_take, Nat.min_eq_left hn]
  have hloop : decodedSizeLoop s ((Sequence.bytes s).take n).length 0 0 false 0 =
      counted false 0 ((Sequence.bytes s).take n)
        (automaton.run 0 (nibbles ((Sequence.bytes s).take n))) := decodedSizeLoop_eq hdrop
  rw [hlen, counted_eq] at hloop
  rw [decodedSize, Sequence.size_eq, if_neg (Nat.not_lt.mpr hn)]
  exact hloop

/-- The second pass writes as many symbols as the first has counted. -/
theorem length_decodeLoop {n count : Nat} (h : decodedSize s n = .ok count) :
    (decodeLoop s n 0 0).length = count := by
  have hn : n ≤ (Sequence.bytes s).length := by
    rw [decodedSize, Sequence.size_eq] at h
    split at h
    · cases h
    · next hle => exact Nat.not_lt.mp hle
  rw [decodedSize_eq hn] at h
  cases hd : decodeBytes ((Sequence.bytes s).take n) with
  | none =>
    rw [hd] at h
    cases h
  | some xs =>
    rw [hd] at h
    cases h
    obtain ⟨state, hr⟩ := decodeBytes_run hd
    have hdrop : (Sequence.bytes s).drop 0 =
        (Sequence.bytes s).take n ++ (Sequence.bytes s).drop n := (List.take_append_drop n _).symm
    have hloop := decodeLoop_eq hdrop hr
    rw [List.length_take, Nat.min_eq_left hn] at hloop
    rw [hloop]

/-- **The decoder accepts the language of the code and nothing else.** It succeeds where the bits
are the codes of a string and fewer than eight ones, and fails without a trace elsewhere. -/
theorem decode_accepts (s : σ) (n : Nat) (hn : 1 ≤ n) (hsize : n ≤ Sequence.size s) :
    (∀ string, (∃ s', decode n s = (.ok string, s')) ↔
      ∃ pad, Ones pad ∧ bytesBits ((Sequence.bytes s).take n) = message symbolBits string ++ pad) ∧
    (∀ string s', decode n s = (.ok string, s') →
      Sequence.bytes s' = (Sequence.bytes s).drop n) ∧
    ((∀ string s', decode n s ≠ (.ok string, s')) →
      decode n s = (.error .qpackDecompressionFailed, s)) ∧
    ∀ count, decodedSize s n = .ok count → (decodeLoop s n 0 0).length = count := by
  rw [Sequence.size_eq] at hsize
  have hne : (Sequence.bytes s).take n ≠ [] := by
    intro hnil
    have := congrArg List.length hnil
    rw [List.length_take, List.length_nil] at this
    omega
  have hparser : parser n (Sequence.bytes s) = (match decodeBytes ((Sequence.bytes s).take n) with
      | some xs => pure xs
      | none => Parser.fail .qpackDecompressionFailed : Parser Error UInt8 (List UInt8))
      ((Sequence.bytes s).drop n) := Parser.bind_ok (Parser.take_of_le hsize)
  have hconsume : (Sequence.bytes s).length - ((Sequence.bytes s).drop n).length = n := by
    rw [List.length_drop]
    omega
  rw [decode_eq]
  cases hd : decodeBytes ((Sequence.bytes s).take n) with
  | none =>
    have herror : parser n (Sequence.bytes s) = .error .qpackDecompressionFailed := by
      rw [hparser, hd]
      rfl
    rw [Sequence.read_error herror]
    refine ⟨fun string => ?_, ?_, fun _ => rfl, fun _ => length_decodeLoop⟩
    · constructor
      · rintro ⟨s', h⟩
        cases h
      · rintro ⟨pad, hpad, hbits⟩
        have := decodeBytes_iff.mpr ⟨hne, pad, hpad, hbits⟩
        rw [hd] at this
        cases this
    · intro string s' h
      cases h
  | some xs =>
    have hok : parser n (Sequence.bytes s) = .ok (xs, (Sequence.bytes s).drop n) := by
      rw [hparser, hd]
      rfl
    rw [Sequence.read_ok hok, hconsume]
    refine ⟨fun string => ?_, ?_, ?_, fun _ => length_decodeLoop⟩
    · constructor
      · rintro ⟨s', h⟩
        cases h
        exact (decodeBytes_iff.mp hd).2
      · rintro ⟨pad, hpad, hbits⟩
        have := decodeBytes_iff.mpr ⟨hne, pad, hpad, hbits⟩
        rw [hd] at this
        cases this
        exact ⟨_, rfl⟩
    · intro string s' h
      cases h
      exact Sequence.consume_eq s n
    · intro h
      exact absurd rfl (h xs _)

end Decode

/-- The case of one byte: "a" is the code `00011`, padded with three ones. -/
theorem decode_accepts_a : ∃ s', decode 1 (⟨[0x1f]⟩ : Buffer) = (.ok [0x61], s') :=
  ((decode_accepts (⟨[0x1f]⟩ : Buffer) 1 (by decide) (by decide)).1 [0x61]).mpr
    ⟨[true, true, true], ⟨by decide, rfl⟩, by decide⟩

end Bnl.Http3.Qpack.Huffman
