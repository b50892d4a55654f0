import Bnl.Codec.Huffman
import Bnl.Library.Bytes
import Bnl.Library.PrefixCode

/-!
# The Huffman automaton

The decoding table is checked against the encoding table once, here: where each state stands in the code tree
(`paths`), that each node takes the right code off the bits read, that it fails exactly when the end of the
string has begun, and that it accepts where only ones are left over. From there on the table is an automaton
that tracks a prefix code.

**The laws** are `prefixFree`, that no code begins another, and `automaton_tracks`, that the table follows the
codes. These are the two assumptions under which the library says what an automaton accepts; what it says of
this one is in `Huffman`.

The check is by evaluation (`codes_ok`, `bytes_ok`, `table_ok`) and is made on numbers: a bit string is its
length and its value, and "begins" is a division. The lists of the tables are packed into one number each before
they are looked up, since a lookup in a list takes as long as the list. What the check says is then carried over
to bit strings by lemmas for any numerals (`begins_iff`, `path_append`), which is where the reasoning is.

`paths` is not in the source. It is the invariant of the table: had it been wrong, the check would fail.
-/

set_option maxRecDepth 100000

namespace Bnl.Http3.Qpack.Huffman

open PrefixCode Bytes

/-- The bits of one byte's code. -/
def symbolBits (byte : UInt8) : List Bool :=
  bits (encodingSymbol byte.toNat).numBits (encodingSymbol byte.toNat).code.toNat

/-- The code of the end of the string. -/
def eosBits : List Bool := bits 30 0x3fffffff

/-- For each state, how many bits have been read since the last whole code, and those bits. -/
def paths : List (Nat × Nat) := [
  (0, 0), (1, 0x0), (2, 0x0), (3, 0x0), (4, 0x0), (4, 0x1), (3, 0x1), (4, 0x2), (4, 0x3),
  (2, 0x1), (3, 0x2), (4, 0x4), (4, 0x5), (5, 0xa), (5, 0xb), (3, 0x3), (4, 0x6), (5, 0xc),
  (5, 0xd), (4, 0x7), (5, 0xe), (5, 0xf), (1, 0x1), (2, 0x2), (3, 0x4), (4, 0x8), (5, 0x10),
  (5, 0x11), (4, 0x9), (5, 0x12), (5, 0x13), (3, 0x5), (4, 0xa), (5, 0x14), (5, 0x15),
  (4, 0xb), (5, 0x16), (5, 0x17), (6, 0x2e), (6, 0x2f), (2, 0x3), (3, 0x6), (4, 0xc),
  (5, 0x18), (6, 0x30), (6, 0x31), (5, 0x19), (6, 0x32), (6, 0x33), (4, 0xd), (5, 0x1a),
  (6, 0x34), (6, 0x35), (5, 0x1b), (6, 0x36), (6, 0x37), (3, 0x7), (4, 0xe), (5, 0x1c),
  (6, 0x38), (6, 0x39), (5, 0x1d), (6, 0x3a), (6, 0x3b), (4, 0xf), (5, 0x1e), (6, 0x3c),
  (6, 0x3d), (5, 0x1f), (6, 0x3e), (7, 0x7c), (7, 0x7d), (6, 0x3f), (7, 0x7e), (7, 0x7f),
  (8, 0xfe), (9, 0x1fc), (9, 0x1fd), (8, 0xff), (9, 0x1fe), (10, 0x3fd), (9, 0x1ff),
  (10, 0x3fe), (11, 0x7fd), (10, 0x3ff), (11, 0x7fe), (12, 0xffc), (12, 0xffd), (11, 0x7ff),
  (12, 0xffe), (12, 0xfff), (13, 0x1ffe), (13, 0x1fff), (14, 0x3ffe), (14, 0x3fff),
  (15, 0x7fff), (16, 0xfffe), (17, 0x1fffc), (18, 0x3fff8), (18, 0x3fff9), (19, 0x7fff3),
  (17, 0x1fffd), (18, 0x3fffa), (19, 0x7fff4), (19, 0x7fff5), (18, 0x3fffb), (19, 0x7fff6),
  (19, 0x7fff7), (20, 0xfffee), (20, 0xfffef), (16, 0xffff), (17, 0x1fffe), (18, 0x3fffc),
  (19, 0x7fff8), (20, 0xffff0), (20, 0xffff1), (19, 0x7fff9), (20, 0xffff2), (20, 0xffff3),
  (18, 0x3fffd), (19, 0x7fffa), (20, 0xffff4), (21, 0x1fffe9), (20, 0xffff5), (21, 0x1fffea),
  (21, 0x1fffeb), (19, 0x7fffb), (20, 0xffff6), (21, 0x1fffec), (21, 0x1fffed), (20, 0xffff7),
  (21, 0x1fffee), (21, 0x1fffef), (17, 0x1ffff), (18, 0x3fffe), (19, 0x7fffc), (20, 0xffff8),
  (21, 0x1ffff0), (21, 0x1ffff1), (20, 0xffff9), (21, 0x1ffff2), (21, 0x1ffff3), (19, 0x7fffd),
  (20, 0xffffa), (21, 0x1ffff4), (21, 0x1ffff5), (20, 0xffffb), (21, 0x1ffff6), (22, 0x3fffec),
  (22, 0x3fffed), (21, 0x1ffff7), (22, 0x3fffee), (22, 0x3fffef), (18, 0x3ffff), (19, 0x7fffe),
  (20, 0xffffc), (21, 0x1ffff8), (22, 0x3ffff0), (22, 0x3ffff1), (21, 0x1ffff9),
  (22, 0x3ffff2), (22, 0x3ffff3), (20, 0xffffd), (21, 0x1ffffa), (22, 0x3ffff4),
  (22, 0x3ffff5), (21, 0x1ffffb), (22, 0x3ffff6), (22, 0x3ffff7), (19, 0x7ffff), (20, 0xffffe),
  (21, 0x1ffffc), (22, 0x3ffff8), (22, 0x3ffff9), (21, 0x1ffffd), (22, 0x3ffffa),
  (23, 0x7ffff5), (22, 0x3ffffb), (23, 0x7ffff6), (23, 0x7ffff7), (20, 0xfffff),
  (21, 0x1ffffe), (22, 0x3ffffc), (23, 0x7ffff8), (23, 0x7ffff9), (22, 0x3ffffd),
  (23, 0x7ffffa), (23, 0x7ffffb), (24, 0xfffff6), (24, 0xfffff7), (21, 0x1fffff),
  (22, 0x3ffffe), (23, 0x7ffffc), (24, 0xfffff8), (25, 0x1fffff0), (25, 0x1fffff1),
  (24, 0xfffff9), (25, 0x1fffff2), (25, 0x1fffff3), (23, 0x7ffffd), (24, 0xfffffa),
  (25, 0x1fffff4), (25, 0x1fffff5), (24, 0xfffffb), (25, 0x1fffff6), (25, 0x1fffff7),
  (26, 0x3ffffef), (22, 0x3fffff), (23, 0x7ffffe), (24, 0xfffffc), (25, 0x1fffff8),
  (26, 0x3fffff0), (26, 0x3fffff1), (25, 0x1fffff9), (26, 0x3fffff2), (26, 0x3fffff3),
  (24, 0xfffffd), (25, 0x1fffffa), (26, 0x3fffff4), (26, 0x3fffff5), (25, 0x1fffffb),
  (26, 0x3fffff6), (26, 0x3fffff7), (23, 0x7fffff), (24, 0xfffffe), (25, 0x1fffffc),
  (26, 0x3fffff8), (27, 0x7fffff1), (26, 0x3fffff9), (27, 0x7fffff2), (27, 0x7fffff3),
  (25, 0x1fffffd), (26, 0x3fffffa), (27, 0x7fffff4), (27, 0x7fffff5), (26, 0x3fffffb),
  (27, 0x7fffff6), (27, 0x7fffff7), (24, 0xffffff), (25, 0x1fffffe), (26, 0x3fffffc),
  (27, 0x7fffff8), (27, 0x7fffff9), (26, 0x3fffffd), (27, 0x7fffffa), (27, 0x7fffffb),
  (25, 0x1ffffff), (26, 0x3fffffe), (27, 0x7fffffc), (27, 0x7fffffd), (26, 0x3ffffff),
  (27, 0x7fffffe), (27, 0x7ffffff), (28, 0xfffffff), (29, 0x1ffffffe), (29, 0x1fffffff)]

/-! ## The check

The tables are looked up thousands of times, so the check packs them into one number each. -/

/-- A list of pairs as the digits of a number in base 2^40. -/
def pack (ps : List (Nat × Nat)) : Nat :=
  ps.foldr (fun p n => n * 2 ^ 40 + (p.1 * 2 ^ 32 + p.2)) 0

/-- The pair at a place of such a number. -/
def packed (n i : Nat) : Nat × Nat :=
  let x := n / 2 ^ (40 * i) % 2 ^ 40
  (x / 2 ^ 32, x % 2 ^ 32)

/-- The codes as numerals: how many bits, and their value. -/
def codes : List (Nat × Nat) := Encoding.table.map fun s => (s.numBits, s.code.toNat)

/-- The code of a byte. -/
def codeOf (byte : UInt8) : Nat × Nat := packed (pack codes) byte.toNat

/-- The path of a state. -/
def pathOf (state : UInt8) : Nat × Nat := packed (pack paths) state.toNat

/-- Where a state stands in the code tree. -/
def path (state : UInt8) : List Bool := bits (pathOf state).1 (pathOf state).2

/-- One numeral begins another. -/
def begins (c d : Nat × Nat) : Bool := Nat.ble c.1 d.1 && Nat.beq (d.2 / 2 ^ (d.1 - c.1)) c.2

/-- No code begins a later one, or the other way round. -/
def codesApart : List (Nat × Nat) → Bool
  | [] => true
  | c :: cs => cs.all (fun d => !begins c d && !begins d c) && codesApart cs

/-- Only ones, and fewer than a byte of them. -/
def acceptsPath (p : Nat × Nat) : Bool := Nat.blt p.1 8 && Nat.beq (p.2 + 1) (2 ^ p.1)

/-- A node read in a state with path `p` on the half byte `w`. -/
def nodeOk (p : Nat × Nat) (w : Nat) (node : Decoding.Node) : Bool :=
  let read := p.2 * 16 + w
  if node.has Decoding.Flag.failed then
    Nat.ble 30 (p.1 + 4) && Nat.beq (read / 2 ^ (p.1 + 4 - 30)) 0x3fffffff
  else
    let p' := pathOf node.state
    let c := if node.has Decoding.Flag.symbol then codeOf node.symbol else (0, 0)
    Nat.beq (p.1 + 4) (c.1 + p'.1) && Nat.beq read (c.2 * 2 ^ p'.1 + p'.2) &&
      (node.has Decoding.Flag.accepted == acceptsPath p')

/-- A path fits its length and is a proper beginning of some code. -/
def pathOk (p : Nat × Nat) : Bool :=
  Nat.blt p.2 (2 ^ p.1) && codes.any fun c => Nat.blt p.1 c.1 && begins p c

/-- The codes fit their lengths, no one begins another, and the last is that of the end of the string. -/
theorem codes_ok : ((codes.all fun c => Nat.blt c.2 (2 ^ c.1)) = true ∧ codesApart codes = true) ∧
    codes.length = 257 ∧ codes[256]? = some (30, 0x3fffffff) := by
  decide +kernel

/-- The codes fit their lengths. -/
theorem codes_fit : (codes.all fun c => Nat.blt c.2 (2 ^ c.1)) = true := codes_ok.1.1

theorem codes_apart : codesApart codes = true := codes_ok.1.2

/-- Packing has changed no code, and every path fits. -/
theorem bytes_ok : ∀ byte : UInt8, codeOf byte =
    ((encodingSymbol byte.toNat).numBits, (encodingSymbol byte.toNat).code.toNat) ∧
    pathOk (pathOf byte) = true := forall_byte (by decide +kernel)

/-- Packing has changed no code. -/
theorem codeOf_eq (byte : UInt8) : codeOf byte =
    ((encodingSymbol byte.toNat).numBits, (encodingSymbol byte.toNat).code.toNat) := (bytes_ok byte).1

theorem paths_ok (state : UInt8) : pathOk (pathOf state) = true := (bytes_ok state).2

/-- There are 256 rows of 16 nodes, and each node was checked. -/
theorem table_ok : (Decoding.table.zipIdx.all fun r => r.1.length == 16 &&
    r.1.zipIdx.all fun c => nodeOk (pathOf (UInt8.ofNat r.2)) c.2 c.1) = true ∧
    Decoding.table.length = 256 := by
  decide +kernel

/-! ## The code is prefix free -/

/-- 256 bytes and the end of the string. -/
theorem codes_length : codes.length = 257 := codes_ok.2.1

/-- The check of the codes, pair by pair. -/
theorem codesApart_pairwise {cs : List (Nat × Nat)} (h : codesApart cs = true) :
    cs.Pairwise fun c d => begins c d = false ∧ begins d c = false := by
  induction cs with
  | nil => exact List.Pairwise.nil
  | cons c cs ih =>
    simp only [codesApart, Bool.and_eq_true, List.all_eq_true, Bool.not_eq_true'] at h
    exact List.Pairwise.cons h.1 (ih h.2)

/-- The bits of a numeral. -/
def numeralBits (c : Nat × Nat) : List Bool := bits c.1 c.2

/-- A numeral begins another where its bits do. -/
theorem begins_iff {c d : Nat × Nat} (hc : c.2 < 2 ^ c.1) (hd : d.2 < 2 ^ d.1) :
    begins c d = true ↔ numeralBits c <+: numeralBits d := by
  rw [numeralBits, numeralBits, bits_isPrefix hc hd, begins, Bool.and_eq_true, Nat.ble_eq,
    Nat.beq_eq]

/-- The codes fit their lengths, by index. -/
theorem code_fits {i : Nat} (h : i < codes.length) : codes[i].2 < 2 ^ codes[i].1 := by
  have := List.all_eq_true.mp codes_fit codes[i] (List.getElem_mem h)
  exact Nat.blt_eq.mp this

/-- Different entries of the encoding table: neither code begins the other. -/
theorem eq_of_begins {i j : Nat} (hi : i < codes.length) (hj : j < codes.length)
    (h : numeralBits codes[i] <+: numeralBits codes[j]) : i = j := by
  have hb := (begins_iff (code_fits hi) (code_fits hj)).mpr h
  have hpair := List.pairwise_iff_getElem.mp (codesApart_pairwise codes_apart)
  rcases Nat.lt_trichotomy i j with hlt | heq | hgt
  · rw [(hpair i j hi hj hlt).1] at hb
    cases hb
  · exact heq
  · rw [(hpair j i hj hi hgt).2] at hb
    cases hb

/-- Every byte has a code. -/
theorem toNat_lt_codes (byte : UInt8) : byte.toNat < codes.length :=
  codes_length ▸ Nat.lt_succ_of_lt byte.toNat_lt

theorem eos_lt_codes : 256 < codes.length := by
  rw [codes_length]
  decide

/-- The bits of a byte's code, as an entry of the table. -/
theorem symbolBits_eq {byte : UInt8} (hb : byte.toNat < codes.length) :
    symbolBits byte = numeralBits codes[byte.toNat] := by
  have h : byte.toNat < Encoding.table.length := by simpa only [codes, List.length_map] using hb
  simp only [symbolBits, encodingSymbol, codes, List.getElem_map, numeralBits, List.getD_eq_getElem _ _ h]

/-- The bits of the end of the string. -/
theorem eosBits_eq (h : 256 < codes.length) : eosBits = numeralBits codes[256] := by
  have heos := codes_ok.2.2
  rw [List.getElem?_eq_getElem h, Option.some.injEq] at heos
  rw [heos]
  rfl

/-- **The code is prefix free**, the end of the string included. -/
theorem prefixFree : PrefixFree symbolBits eosBits where
  eq_of_prefix h := by
    rw [symbolBits_eq (toNat_lt_codes _), symbolBits_eq (toNat_lt_codes _)] at h
    exact UInt8.toNat.inj (eq_of_begins _ _ h)
  not_prefix_stop a h := by
    rw [symbolBits_eq (toNat_lt_codes _), eosBits_eq eos_lt_codes] at h
    have := eq_of_begins _ _ h
    have := a.toNat_lt
    omega
  stop_not_prefix a h := by
    rw [symbolBits_eq (toNat_lt_codes _), eosBits_eq eos_lt_codes] at h
    have := eq_of_begins _ _ h
    have := a.toNat_lt
    omega

/-! ## The table tracks it -/

/-- The decoding table as an automaton over half bytes. -/
def automaton : Automaton UInt8 (Fin 16) UInt8 where
  step state w :=
    let node := decodingNode state (UInt8.ofNat w.val)
    if node.has Decoding.Flag.failed then none
    else some (node.state, if node.has Decoding.Flag.symbol then some node.symbol else none)

/-- The check, of one node. -/
theorem node_ok (state : UInt8) (w : Fin 16) :
    nodeOk (pathOf state) w.val (decodingNode state (UInt8.ofNat w.val)) = true := by
  have hs : state.toNat < Decoding.table.length := by rw [table_ok.2]; exact state.toNat_lt
  have hrow := List.all_eq_true.mp table_ok.1 (Decoding.table[state.toNat], state.toNat)
    (List.mk_mem_zipIdx_iff_getElem?.mpr (List.getElem?_eq_getElem hs))
  simp only [Bool.and_eq_true, beq_iff_eq, UInt8.ofNat_toNat] at hrow
  have hw : w.val < Decoding.table[state.toNat].length := by rw [hrow.1]; exact w.isLt
  have hcell := List.all_eq_true.mp hrow.2 (Decoding.table[state.toNat][w.val], w.val)
    (List.mk_mem_zipIdx_iff_getElem?.mpr (List.getElem?_eq_getElem hw))
  have hw8 : (UInt8.ofNat w.val).toNat = w.val := by
    rw [UInt8.toNat_ofNat']
    omega
  rw [decodingNode, List.getD_eq_getElem _ _ hs, hw8, List.getD_eq_getElem _ _ hw]
  exact hcell

/-- A path fits its length. -/
theorem path_fits (state : UInt8) : (pathOf state).2 < 2 ^ (pathOf state).1 := by
  have := paths_ok state
  rw [pathOk, Bool.and_eq_true] at this
  exact Nat.blt_eq.mp this.1

/-- Four more bits behind a path. -/
theorem path_append (state : UInt8) (w : Fin 16) :
    path state ++ bits 4 w.val = bits ((pathOf state).1 + 4) ((pathOf state).2 * 16 + w.val) :=
  bits_append_low w.isLt

/-- The three things a node that does not fail was checked for. -/
theorem nodeOk_moves {p : Nat × Nat} {w : Nat} {node : Decoding.Node}
    (hfail : node.has Decoding.Flag.failed = false) (h : nodeOk p w node = true) :
    ∃ c, c = (if node.has Decoding.Flag.symbol then codeOf node.symbol else (0, 0)) ∧
      p.1 + 4 = c.1 + (pathOf node.state).1 ∧
      p.2 * 16 + w = c.2 * 2 ^ (pathOf node.state).1 + (pathOf node.state).2 ∧
      node.has Decoding.Flag.accepted = acceptsPath (pathOf node.state) := by
  rw [nodeOk, if_neg (by rw [hfail]; exact Bool.false_ne_true)] at h
  simp only [Bool.and_eq_true, Nat.beq_eq, beq_iff_eq] at h
  exact ⟨_, rfl, h.1.1, h.1.2, h.2⟩

/-- What was checked of a node that fails: the end of the string has begun. -/
theorem nodeOk_fails {p : Nat × Nat} {w : Nat} {node : Decoding.Node}
    (hfail : node.has Decoding.Flag.failed = true) (h : nodeOk p w node = true) :
    30 ≤ p.1 + 4 ∧ (p.2 * 16 + w) / 2 ^ (p.1 + 4 - 30) = 0x3fffffff := by
  rw [nodeOk, if_pos hfail] at h
  simpa only [Bool.and_eq_true, Nat.ble_eq, Nat.beq_eq] using h

/-- The automaton stops where the node fails. -/
theorem automaton_step_none {state : UInt8} {w : Fin 16} (h : automaton.step state w = none) :
    (decodingNode state (UInt8.ofNat w.val)).has Decoding.Flag.failed = true := by
  by_contra hfail
  simp only [automaton, if_neg hfail] at h
  cases h

/-- Where it does not, the step is the node's. -/
theorem automaton_step_some {state state' : UInt8} {w : Fin 16} {out : Option UInt8}
    (h : automaton.step state w = some (state', out)) :
    ∃ node, node = decodingNode state (UInt8.ofNat w.val) ∧
      node.has Decoding.Flag.failed = false ∧ state' = node.state ∧
      out = if node.has Decoding.Flag.symbol then some node.symbol else none := by
  refine ⟨_, rfl, ?_⟩
  cases hfail : (decodingNode state (UInt8.ofNat w.val)).has Decoding.Flag.failed with
  | true =>
    simp only [automaton, hfail] at h
    cases h
  | false =>
    simp only [automaton, hfail] at h
    cases h
    exact ⟨rfl, rfl, rfl⟩

/-- The bits of a byte's code, unpacked. -/
theorem symbolBits_codeOf (byte : UInt8) : symbolBits byte = numeralBits (codeOf byte) := by
  rw [codeOf_eq]
  rfl

/-- **The table tracks the code**: what was read behind the last symbol is the path of the state, and it stops
where the end of the string has begun. -/
theorem automaton_tracks :
    automaton.Tracks symbolBits eosBits (fun w => bits 4 w.val) path where
  step_some := by
    intro q w q' out h
    obtain ⟨node, hnode, hfail, rfl, rfl⟩ := automaton_step_some h
    obtain ⟨c, hc, hlen, hval, -⟩ := nodeOk_moves hfail (hnode ▸ node_ok q w)
    rw [path_append, hlen, hval, ← bits_append_low (path_fits node.state)]
    refine congrArg (· ++ path node.state) ?_
    cases hsym : node.has Decoding.Flag.symbol with
    | true =>
      rw [hsym, if_pos rfl] at hc
      rw [if_pos rfl, Option.toList, message_cons, message_nil, List.append_nil, symbolBits_codeOf, ← hc]
      rfl
    | false =>
      rw [hsym] at hc
      rw [hc]
      rfl
  step_none := by
    intro q w h
    obtain ⟨hlen, hval⟩ := nodeOk_fails (automaton_step_none h) (node_ok q w)
    rw [path_append, eosBits]
    refine ( bits_isPrefix (by decide) ?_).mpr ⟨hlen, hval⟩
    have hfit := path_fits q
    have hw := w.isLt
    rw [Nat.pow_add]
    omega
  internal := by
    intro q a h
    have hq := paths_ok q
    simp only [pathOk, Bool.and_eq_true, List.any_eq_true] at hq
    obtain ⟨-, c, hmem, hlen, hbegins⟩ := hq
    obtain ⟨i, hi, rfl⟩ := List.getElem_of_mem hmem
    have hpath : path q <+: numeralBits codes[i] := (begins_iff (path_fits q) (code_fits hi)).mp hbegins
    rw [symbolBits_eq (toNat_lt_codes a)] at h
    obtain rfl : a.toNat = i := eq_of_begins _ _ (h.trans hpath)
    -- the code would be as long as a proper beginning of itself
    have hle := h.length_le
    simp only [numeralBits, path, length_bits] at hle
    have := Nat.blt_eq.mp hlen
    omega

/-! ## Acceptance -/

/-- The number before a power of two is ones. -/
theorem bits_ones (n : Nat) : bits n (2 ^ n - 1) = List.replicate n true := by
  have h : ∀ m, n ≤ m → bits n (2 ^ m - 1) = List.replicate n true := by
    induction n with
    | zero => exact fun _ _ => rfl
    | succ n ih =>
      intro m hm
      rw [bits, ih m (Nat.le_of_succ_le hm), Nat.testBit_two_pow_sub_one, decide_eq_true (show n < m from hm)]
      rfl
  exact h n (Nat.le_refl n)

/-- Fewer than eight ones: what the encoder pads the last byte with. -/
def Ones (pad : List Bool) : Prop := pad.length < 8 ∧ pad = List.replicate pad.length true

/-- Such a padding begins the code of the end of the string. -/
theorem Ones.padding {pad : List Bool} (h : Ones pad) : Padding eosBits pad where
  isPrefix := by
    rw [h.2, eosBits, show (0x3fffffff : Nat) = 2 ^ 30 - 1 from rfl, bits_ones]
    have := h.1
    refine ⟨List.replicate (30 - pad.length) true, ?_⟩
    rw [← List.replicate_add, show pad.length + (30 - pad.length) = 30 by omega]
  ne heq := by
    have := congrArg List.length heq
    have := h.1
    rw [eosBits, length_bits] at *
    omega

/-- A state accepts when only padding is left over. -/
theorem acceptsPath_iff (state : UInt8) : acceptsPath (pathOf state) = true ↔ Ones (path state) := by
  have hfit := path_fits state
  rw [acceptsPath, Bool.and_eq_true, Nat.blt_eq, Nat.beq_eq, Ones, path, length_bits, ← bits_ones]
  refine and_congr_right fun _ => ⟨fun h => ?_, fun h => ?_⟩
  · rw [← h, Nat.add_sub_cancel]
  · have hpos := Nat.two_pow_pos (pathOf state).1
    have := bits_injective hfit (by omega) h
    omega

/-- The flag of a node says whether the state it moves to accepts. -/
theorem accepted_eq {state : UInt8} {w : Fin 16} {node : Decoding.Node}
    (h : node = decodingNode state (UInt8.ofNat w.val))
    (hfail : node.has Decoding.Flag.failed = false) :
    node.has Decoding.Flag.accepted = acceptsPath (pathOf node.state) := by
  obtain ⟨-, -, -, -, hacc⟩ := nodeOk_moves hfail (h ▸ node_ok state w)
  exact hacc

end Bnl.Http3.Qpack.Huffman
