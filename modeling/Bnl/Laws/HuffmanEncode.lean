import Bnl.Laws.Huffman

/-!
# Laws of the Huffman encoder

What the encoder has written is a bit string: whole bytes, and a byte whose free low bits are zero (`Open`).
Writing a symbol appends as many bits as its code has, and the code itself with one exception: where a code
leaves 16 or 24 bits after filling a byte that was partly taken, `symbol_encode` writes the wrong ones
(`Skips`). So the size is always the one that was announced, and the bits are the reference ones exactly where
no symbol of the string skips.

**The laws** are `encodesReference_iff`, on any string, memory and place, and `encodedSize_eq`, which needs no
condition. `wire` is the string as it is written, and `encode_eq` that it is written so everywhere;
`parser_wire` is the round trip, for strings of short codes.

The invariant between two symbols is `Written`, and a symbol is one step (`Written.symbol`): it is preserved
with `symbolWritten` appended, which is what the function writes, right or wrong. That this is the code is
decided afterwards, by evaluation over the 256 codes and the eight bits a byte can have free
(`symbolWritten_iff`). So the loop is reasoned about once, whatever its output.

The exception is a slip in the loop over whole bytes: it takes each byte eight bits too high when the code ends
on a byte boundary. No code of up to 15 bits can reach it.
-/

namespace Bnl.Http3.Qpack.Huffman

open Incremental Bnl.Base PrefixCode Bytes

/-- The bits of two byte strings, one behind the other. -/
theorem bytesBits_append (bs cs : List UInt8) :
    bytesBits (bs ++ cs) = bytesBits bs ++ bytesBits cs := List.flatMap_append

theorem bytesBits_singleton (b : UInt8) : bytesBits [b] = bits 8 b.toNat := List.append_nil _

theorem length_bytesBits (bs : List UInt8) : (bytesBits bs).length = 8 * bs.length := by
  induction bs with
  | nil => rfl
  | cons b bs ih =>
    rw [bytesBits, List.flatMap_cons, List.length_append, length_bits, List.length_cons]
    rw [bytesBits] at ih
    omega

/-- The bits `B` are written from `dest` on: whole bytes, then one with `rem` free low bits. -/
def Open (m : Memory) (dest : Nat) (B : List Bool) (m' : Memory) (last rem : Nat) : Prop :=
  ∃ bs cur, m' = m.store dest (bs ++ [cur]) ∧ last = dest + bs.length ∧ rem ≤ 8 ∧
    cur.toNat % 2 ^ rem = 0 ∧ B = bytesBits bs ++ bits (8 - rem) (cur.toNat / 2 ^ rem)

/-- Between two symbols: the byte at `last` has not been started, or is open. -/
def Written (m : Memory) (dest : Nat) (B : List Bool) (m' : Memory) (last rem : Nat) : Prop :=
  (∃ bs, m' = m.store dest bs ∧ last = dest + bs.length ∧ rem = 8 ∧ B = bytesBits bs) ∨
    (0 < rem ∧ rem < 8 ∧ Open m dest B m' last rem)

variable {m m' : Memory} {dest last rem : Nat} {B B' : List Bool}

/-- Rewriting the open byte. -/
theorem modify_last (m : Memory) (dest : Nat) (bs : List UInt8) (cur : UInt8) (f : UInt8 → UInt8) :
    (m.store dest (bs ++ [cur])).set (dest + bs.length)
      (f ((m.store dest (bs ++ [cur])).get (dest + bs.length))) =
      m.store dest (bs ++ [f cur]) := by
  rw [Memory.store_append, Memory.store_append, Memory.store_singleton, Memory.get_set_self,
    Memory.set_set, Memory.store_singleton]

/-- The first statement of `symbol_encode` opens a byte. -/
theorem Written.opened (h : Written m dest B m' last rem) :
    0 < rem ∧ Open m dest B (if rem = 8 then m'.set last 0 else m') last rem := by
  rcases h with ⟨bs, rfl, rfl, rfl, rfl⟩ | ⟨hpos, hlt, hopen⟩
  · refine ⟨by decide, bs, 0, ?_, rfl, Nat.le_refl 8, rfl, (List.append_nil _).symm⟩
    rw [if_pos rfl, Memory.store_append, Memory.store_singleton]
  · rw [if_neg (Nat.ne_of_lt hlt)]
    exact ⟨hpos, hopen⟩

/-- The last statement of `symbol_encode` moves past a full byte. -/
theorem Open.closed (h : Open m dest B m' last rem) (hlt : rem < 8) :
    let r := if rem = 0 then (m', last + 1, 8) else (m', last, rem)
    Written m dest B r.1 r.2.1 r.2.2 := by
  intro r
  by_cases hz : rem = 0
  · have hr : r = (m', last + 1, 8) := if_pos hz
    subst hz
    obtain ⟨bs, cur, rfl, rfl, -, -, rfl⟩ := h
    rw [hr]
    refine .inl ⟨bs ++ [cur], rfl, by rw [List.length_append, List.length_singleton]; rfl, rfl, ?_⟩
    rw [bytesBits_append, bytesBits_singleton, Nat.pow_zero, Nat.div_one]
  · have hr : r = (m', last, rem) := if_neg hz
    rw [hr]
    exact .inr ⟨Nat.pos_of_ne_zero hz, hlt, h⟩

/-- Adding bits below those of the open byte. -/
theorem or_low {cur x : UInt8} (hcur : cur.toNat % 2 ^ rem = 0) (hx : x.toNat < 2 ^ rem) :
    (cur ||| x).toNat = cur.toNat + x.toNat := by
  rw [UInt8.toNat_or, or_eq_add hcur hx]

/-- A code shifted up, and cut to a byte. -/
theorem shiftLeft_toUInt8 {code : UInt32} {k : Nat} (hk : k < 32) :
    (code <<< UInt32.ofNat k).toUInt8.toNat = code.toNat * 2 ^ k % 256 := by
  have hk' : (UInt32.ofNat k).toNat % 32 = k := by
    rw [UInt32.toNat_ofNat']
    omega
  rw [UInt32.toNat_toUInt8, UInt32.toNat_shiftLeft, hk', Nat.shiftLeft_eq]
  exact Nat.mod_mod_of_dvd _ (by decide)

/-- A code shifted down, and cut to a byte. -/
theorem shiftRight_toUInt8 {code : UInt32} {k : Nat} (hk : k < 32) :
    (code >>> UInt32.ofNat k).toUInt8.toNat = code.toNat / 2 ^ k % 256 := by
  have hk' : (UInt32.ofNat k).toNat % 32 = k := by
    rw [UInt32.toNat_ofNat']
    omega
  rw [UInt32.toNat_toUInt8, UInt32.toNat_shiftRight, hk', Nat.shiftRight_eq_div_pow]

/-- `x` written below the bits of the open byte, in the next `n` of its free bits. -/
theorem Open.append (h : Open m dest B m' last rem) {x : UInt8} {n v : Nat} (hn : n ≤ rem)
    (hv : v < 2 ^ n) (hx : x.toNat = v * 2 ^ (rem - n)) :
    Open m dest (B ++ bits n v) (m'.set last (m'.get last ||| x)) last (rem - n) := by
  obtain ⟨bs, cur, rfl, rfl, hle, hcur, rfl⟩ := h
  have hpow : 2 ^ rem = 2 ^ n * 2 ^ (rem - n) := by rw [← Nat.pow_add, Nat.add_sub_cancel' hn]
  have hlt : x.toNat < 2 ^ rem := by
    rw [hpow, hx]
    exact Nat.mul_lt_mul_of_pos_right hv (Nat.two_pow_pos _)
  obtain ⟨q, hq⟩ := Nat.dvd_of_mod_eq_zero hcur
  have hnew : (cur ||| x).toNat = (q * 2 ^ n + v) * 2 ^ (rem - n) := by
    rw [or_low hcur hlt, hq, hx, hpow, Nat.add_mul, Nat.mul_comm (2 ^ n * _) q, Nat.mul_assoc]
  refine ⟨bs, cur ||| x, modify_last m dest bs cur (· ||| x), rfl, by omega, ?_, ?_⟩
  · rw [hnew, Nat.mul_mod_left]
  · rw [hnew, Nat.mul_div_cancel _ (Nat.two_pow_pos _), List.append_assoc, hq,
      Nat.mul_div_cancel_left _ (Nat.two_pow_pos _), bits_append_low hv,
      show 8 - rem + n = 8 - (rem - n) by omega]

/-- The loop for the whole bytes of a code whose last byte is not full: `numBits` bits, aligned to
the byte boundary. -/
theorem symbolEncodeLoop_aligned {code : UInt32} {numBits r : Nat} (hr : 0 < r) (hr8 : r < 8)
    (hmod : numBits % 8 = r) (hlt : numBits < 32) (hcode : code.toNat % 2 ^ (8 - r) = 0)
    (m : Memory) (dest : Nat) :
    ∃ ys z, symbolEncodeLoop m dest code numBits = (m.store dest (ys ++ [z]), dest + ys.length, r) ∧
      z.toNat % 2 ^ (8 - r) = 0 ∧
      bytesBits ys ++ bits r (z.toNat / 2 ^ (8 - r)) = bits numBits (code.toNat / 2 ^ (8 - r)) := by
  induction numBits using Nat.strongRecOn generalizing m dest with
  | ind numBits ih =>
    by_cases hbig : 8 < numBits
    · obtain ⟨ys, z, hloop, hz, hbits⟩ := ih (numBits - 8) (by omega) (by omega) (by omega)
        (m.set dest (code >>> UInt32.ofNat (numBits - numBits % 8)).toUInt8) (dest + 1)
      refine ⟨(code >>> UInt32.ofNat (numBits - numBits % 8)).toUInt8 :: ys, z, ?_, hz, ?_⟩
      · rw [symbolEncodeLoop, if_pos hbig]
        dsimp only
        rw [hloop, List.cons_append, Memory.store_cons, List.length_cons, Nat.add_assoc,
          Nat.add_comm 1]
      · have hbyte : bits 8 (code >>> UInt32.ofNat (numBits - numBits % 8)).toUInt8.toNat =
            bits 8 (code.toNat / 2 ^ (8 - r) / 2 ^ (numBits - 8)) := by
          rw [shiftRight_toUInt8 (by omega), Nat.div_div_eq_div_mul, ← Nat.pow_add,
            show 8 - r + (numBits - 8) = numBits - numBits % 8 by omega]
          exact bits_mod 8 _
        rw [bytesBits, List.flatMap_cons, hbyte, List.append_assoc]
        rw [bytesBits] at hbits
        rw [hbits, bits_append, show 8 + (numBits - 8) = numBits by omega]
    · obtain rfl : numBits = r := by omega
      refine ⟨[], code.toUInt8, ?_, ?_, ?_⟩
      · rw [symbolEncodeLoop, if_neg hbig]
        rfl
      · have hdvd : 2 ^ (8 - numBits) ∣ 256 := Nat.pow_dvd_pow 2 (show 8 - numBits ≤ 8 by omega)
        rw [UInt32.toNat_toUInt8, Nat.mod_mod_of_dvd _ hdvd, hcode]
      · have h256 : (256 : Nat) = 2 ^ (8 - numBits) * 2 ^ numBits := by
          rw [← Nat.pow_add, show 8 - numBits + numBits = 8 by omega]
        rw [UInt32.toNat_toUInt8, show (2 : Nat) ^ 8 = 256 from rfl, h256,
          Nat.mod_mul_right_div_self]
        exact bits_mod numBits _

/-- Bytes behind a full one. -/
theorem Open.extend (h : Open m dest B m' last 0) {ys : List UInt8} {z : UInt8} {r : Nat}
    (hr : r ≤ 8) (hz : z.toNat % 2 ^ (8 - r) = 0)
    (hbits : bytesBits ys ++ bits r (z.toNat / 2 ^ (8 - r)) = B') :
    Open m dest (B ++ B') (m'.store (last + 1) (ys ++ [z])) (last + 1 + ys.length) (8 - r) := by
  obtain ⟨bs, cur, rfl, rfl, -, -, rfl⟩ := h
  refine ⟨bs ++ [cur] ++ ys, z, ?_, ?_, Nat.sub_le 8 r, hz, ?_⟩
  · rw [List.append_assoc (bs ++ [cur]), Memory.store_append m dest (bs ++ [cur]), List.length_append,
      List.length_singleton, Nat.add_assoc]
  · rw [List.length_append, List.length_append, List.length_singleton]
    omega
  · rw [← hbits, Nat.pow_zero, Nat.div_one, bytesBits_append, bytesBits_append, bytesBits_singleton,
      Nat.sub_zero, Nat.sub_sub_self hr]
    simp only [List.append_assoc]

/-- Aligning a code to the byte boundary keeps the bits that are still to be written. -/
theorem aligned_bits (code : UInt32) {k n : Nat} (hk : k < 8) (hn : n + k ≤ 32) :
    (code <<< UInt32.ofNat k).toNat % 2 ^ k = 0 ∧
      bits n ((code <<< UInt32.ofNat k).toNat / 2 ^ k) = bits n code.toNat := by
  have hk' : (UInt32.ofNat k).toNat % 32 = k := by
    rw [UInt32.toNat_ofNat']
    omega
  have hpow : (2 : Nat) ^ 32 = 2 ^ k * 2 ^ (32 - k) := by
    rw [← Nat.pow_add, show k + (32 - k) = 32 by omega]
  rw [UInt32.toNat_shiftLeft, hk', Nat.shiftLeft_eq, hpow, Nat.mul_comm code.toNat,
    Nat.mul_mod_mul_left, Nat.mul_mod_right, Nat.mul_div_cancel_left _ (Nat.two_pow_pos k)]
  refine ⟨rfl, bits_congr fun i hi => ?_⟩
  rw [Nat.testBit_mod_two_pow, decide_eq_true (show i < 32 - k by omega), Bool.true_and]

/-- What the loop writes before the last of `k + 1` whole bytes: each is taken a byte too high. -/
def overshot (code : UInt32) : Nat → List UInt8
  | 0 => []
  | k + 1 => (code >>> UInt32.ofNat (8 * (k + 2))).toUInt8 :: overshot code k

/-- There are as many bytes as there should be. -/
theorem length_overshot (code : UInt32) (k : Nat) : (overshot code k).length = k := by
  induction k with
  | zero => rfl
  | succ k ih => rw [overshot, List.length_cons, ih]

/-- The loop for a code that leaves `k + 1` whole bytes. -/
theorem symbolEncodeLoop_whole (code : UInt32) (k : Nat) (m : Memory) (dest : Nat) :
    symbolEncodeLoop m dest code (8 * (k + 1)) =
      (m.store dest (overshot code k ++ [code.toUInt8]), dest + (overshot code k).length, 8) := by
  induction k generalizing m dest with
  | zero =>
    rw [symbolEncodeLoop, if_neg (by decide)]
    rfl
  | succ k ih =>
    rw [symbolEncodeLoop, if_pos (by omega)]
    dsimp only
    rw [show 8 * (k + 1 + 1) - 8 = 8 * (k + 1) by omega, ih, overshot, List.cons_append,
      Memory.store_cons, List.length_cons, Nat.mul_mod_right, Nat.sub_zero,
      Nat.add_right_comm dest 1]
    rfl

/-- The bits `symbol_encode` writes with `rem` bits free in the current byte. -/
def symbolWritten (rem : Nat) (symbol : Encoding.Symbol) : List Bool :=
  let left := symbol.numBits - rem
  if rem < symbol.numBits ∧ left % 8 = 0 then
    bits rem (symbol.code.toNat / 2 ^ left) ++
      bytesBits (overshot symbol.code (left / 8 - 1) ++ [symbol.code.toUInt8])
  else bits symbol.numBits symbol.code.toNat

/-- As many bits as the code has, right or wrong. -/
theorem length_symbolWritten (rem : Nat) (symbol : Encoding.Symbol) :
    (symbolWritten rem symbol).length = symbol.numBits := by
  unfold symbolWritten
  extract_lets left
  split
  · rw [List.length_append, length_bits, length_bytesBits, List.length_append, length_overshot,
      List.length_singleton]
    omega
  · exact length_bits _ _

/-- **Writing a symbol appends as many bits as its code has.** -/
theorem Written.symbol (h : Written m dest B m' last rem) {symbol : Encoding.Symbol}
    (hpos : 0 < symbol.numBits) (hlt : symbol.numBits < 32)
    (hcode : symbol.code.toNat < 2 ^ symbol.numBits) :
    let r := symbolEncode m' last rem symbol
    Written m dest (B ++ symbolWritten rem symbol) r.1 r.2.1 r.2.2 := by
  obtain ⟨code, n⟩ := symbol
  dsimp only at hpos hlt hcode ⊢
  obtain ⟨hrem, hopen⟩ := h.opened
  have hrem8 : rem ≤ 8 := by
    obtain ⟨-, -, -, -, h8, -⟩ := hopen
    exact h8
  have h256 : 2 ^ rem ≤ 256 := Nat.pow_le_pow_right (by decide) hrem8
  rw [symbolEncode, symbolWritten]
  dsimp only
  generalize (if rem = 8 then m'.set last 0 else m') = m₁ at hopen
  by_cases hfit : n ≤ rem
  · rw [if_pos hfit, if_neg fun hc => Nat.not_lt.mpr hfit hc.1]
    refine (hopen.append hfit hcode ?_).closed (by omega)
    have : code.toNat * 2 ^ (rem - n) < 2 ^ n * 2 ^ (rem - n) :=
      Nat.mul_lt_mul_of_pos_right hcode (Nat.two_pow_pos _)
    rw [← Nat.pow_add, Nat.add_sub_cancel' hfit] at this
    rw [shiftLeft_toUInt8 (by omega), Nat.mod_eq_of_lt (by omega)]
  · rw [if_neg hfit]
    have hv : code.toNat / 2 ^ (n - rem) < 2 ^ rem := by
      refine Nat.div_lt_of_lt_mul ?_
      rwa [← Nat.pow_add, Nat.sub_add_cancel (by omega)]
    have hfull := hopen.append (x := (code >>> UInt32.ofNat (n - rem)).toUInt8) (Nat.le_refl rem) hv (by
      rw [shiftRight_toUInt8 (by omega), Nat.sub_self, Nat.pow_zero, Nat.mul_one,
        Nat.mod_eq_of_lt (by omega)])
    rw [Nat.sub_self] at hfull
    generalize m₁.set last (m₁.get last ||| (code >>> UInt32.ofNat (n - rem)).toUInt8) = m₂ at hfull
    rw [show (n - rem) &&& 7 = (n - rem) % 8 from Nat.and_two_pow_sub_one_eq_mod (n - rem) 3]
    by_cases hr : (n - rem) % 8 = 0
    · -- whole bytes are left, and the loop does not find where they begin
      obtain ⟨k, hk⟩ : ∃ k, n - rem = 8 * (k + 1) := ⟨(n - rem) / 8 - 1, by omega⟩
      rw [if_pos ⟨Nat.not_le.mp hfit, hr⟩, if_neg (not_not.mpr hr), hk, symbolEncodeLoop_whole,
        show 8 * (k + 1) / 8 - 1 = k by omega, ← List.append_assoc]
      rw [hk] at hfull
      have hlast : bytesBits (overshot code k) ++ bits 8 (code.toUInt8.toNat / 2 ^ (8 - 8)) =
          bytesBits (overshot code k ++ [code.toUInt8]) := by
        rw [Nat.sub_self, Nat.pow_zero, Nat.div_one, bytesBits_append, bytesBits_singleton]
      exact (hfull.extend (Nat.le_refl 8) (Nat.mod_one _) hlast).closed (by decide)
    · have hsplit : bits n code.toNat =
          bits rem (code.toNat / 2 ^ (n - rem)) ++ bits (n - rem) code.toNat := by
        rw [bits_append, show rem + (n - rem) = n by omega]
      rw [if_pos hr, if_neg fun hc => hr hc.2, hsplit, ← List.append_assoc]
      obtain ⟨hal, hbits⟩ := aligned_bits code (k := 8 - (n - rem) % 8) (n := n - rem)
        (by omega) (by omega)
      obtain ⟨ys, z, hloop, hz, hys⟩ := symbolEncodeLoop_aligned (Nat.pos_of_ne_zero hr)
        (Nat.mod_lt _ (by decide)) rfl (by omega) hal m₂ (last + 1)
      rw [hloop]
      exact (hfull.extend (by omega) hz (hys.trans hbits)).closed (by omega)

/-- The bits that are free follow from how many are written. -/
theorem Written.rem_eq (h : Written m dest B m' last rem) : rem = 8 - B.length % 8 := by
  rcases h with ⟨bs, -, -, rfl, rfl⟩ | ⟨hpos, hlt, bs, cur, -, -, -, -, rfl⟩
  · rw [length_bytesBits, Nat.mul_mod_right]
  · rw [List.length_append, length_bytesBits, length_bits]
    omega

/-! ## Whole strings -/

/-- Every byte has a code of at most 15 bits. -/
def Short (string : List UInt8) : Prop :=
  ∀ byte ∈ string, (encodingSymbol byte.toNat).numBits ≤ 15

instance (string : List UInt8) : Decidable (Short string) := List.decidableBAll _ string

/-- What is behind the first byte is short too. -/
theorem Short.tail {byte : UInt8} {string : List UInt8} (h : Short (byte :: string)) :
    Short string := fun b hb => h b (List.mem_cons_of_mem byte hb)

/-- Every code has at least one bit, fits its length and is shorter than a word. -/
theorem symbol_bounds : ∀ byte : UInt8, 0 < (encodingSymbol byte.toNat).numBits ∧
    (encodingSymbol byte.toNat).code.toNat < 2 ^ (encodingSymbol byte.toNat).numBits ∧
    (encodingSymbol byte.toNat).numBits < 32 :=
  forall_byte (by decide +kernel)

/-- Every code has a bit and fits its length. -/
theorem symbol_fits (byte : UInt8) : 0 < (encodingSymbol byte.toNat).numBits ∧
    (encodingSymbol byte.toNat).code.toNat < 2 ^ (encodingSymbol byte.toNat).numBits :=
  ⟨(symbol_bounds byte).1, (symbol_bounds byte).2.1⟩

/-- Every code is shorter than a word. -/
theorem numBits_lt (byte : UInt8) : (encodingSymbol byte.toNat).numBits < 32 :=
  (symbol_bounds byte).2.2

/-- The bits the loop of `encode` writes behind `offset` others. -/
def stringWritten : Nat → List UInt8 → List Bool
  | _, [] => []
  | offset, byte :: string =>
    symbolWritten (8 - offset % 8) (encodingSymbol byte.toNat) ++
      stringWritten (offset + (encodingSymbol byte.toNat).numBits) string

/-- As many bits as the codes of the string have. -/
theorem length_stringWritten (offset : Nat) (string : List UInt8) :
    (stringWritten offset string).length = (message symbolBits string).length := by
  induction string generalizing offset with
  | nil => rfl
  | cons byte string ih =>
    rw [stringWritten, message_cons, List.length_append, List.length_append, length_symbolWritten,
      ih, symbolBits, length_bits]

/-- The loop appends what each symbol does. The induction is on the string; how many bits are free follows from
how many are written. -/
theorem Written.string (h : Written m dest B m' last rem) (string : List UInt8) :
    let r := encodeLoop string m' last rem
    Written m dest (B ++ stringWritten B.length string) r.1 r.2.1 r.2.2 := by
  induction string generalizing m' last rem B with
  | nil =>
    rw [stringWritten, List.append_nil]
    exact h
  | cons byte string ih =>
    obtain ⟨hpos, hcode⟩ := symbol_fits byte
    have hnext := h.symbol hpos (numBits_lt byte) hcode
    have hrest := ih hnext
    rw [List.length_append, length_symbolWritten, List.append_assoc] at hrest
    rw [stringWritten, ← h.rem_eq]
    exact hrest

/-- Bytes are determined by their bits. -/
theorem bytesBits_injective {bs cs : List UInt8} (h : bytesBits bs = bytesBits cs) : bs = cs := by
  induction bs generalizing cs with
  | nil =>
    have := congrArg List.length h
    rw [length_bytesBits, length_bytesBits, List.length_nil] at this
    exact (List.length_eq_zero_iff.mp (by omega)).symm
  | cons b bs ih =>
    cases cs with
    | nil =>
      have := congrArg List.length h
      rw [length_bytesBits, length_bytesBits, List.length_cons, List.length_nil] at this
      omega
    | cons c cs =>
      obtain ⟨hb, hrest⟩ := List.append_inj h (by rw [length_bits, length_bits])
      rw [UInt8.toNat.inj (bits_injective b.toNat_lt c.toNat_lt hb), ih hrest]

/-- The padding is determined by what it pads. -/
theorem padded_unique {bs cs : List UInt8} {B pad pad' : List Bool} (hp : Ones pad)
    (hp' : Ones pad') (h : bytesBits bs = B ++ pad) (h' : bytesBits cs = B ++ pad') : bs = cs := by
  have hlen := congrArg List.length h
  have hlen' := congrArg List.length h'
  rw [length_bytesBits, List.length_append] at hlen hlen'
  have := hp.1
  have := hp'.1
  have heq : pad.length = pad'.length := by omega
  refine bytesBits_injective (h.trans (.trans ?_ h'.symm))
  rw [hp.2, hp'.2, heq]

/-- What `encode` leaves in memory: what the loop writes, padded with ones. -/
theorem encode_written (string : List UInt8) (m : Memory) (dest : Nat) :
    ∃ bs pad, encode m dest string = (bs.length, m.store dest bs) ∧ Ones pad ∧
      bytesBits bs = stringWritten 0 string ++ pad := by
  have hstart : Written m dest [] m dest 8 := .inl ⟨[], rfl, rfl, rfl, rfl⟩
  have h := hstart.string string
  rw [List.nil_append, List.length_nil] at h
  rw [encode]
  generalize encodeLoop string m dest 8 = r at h
  obtain ⟨m', last, rem⟩ := r
  dsimp only at h ⊢
  rcases h with ⟨bs, rfl, rfl, rfl, hB⟩ | ⟨hpos, hlt, hopen⟩
  · refine ⟨bs, [], ?_, ⟨by decide, rfl⟩, by rw [List.append_nil, hB]⟩
    rw [if_neg (by decide), Nat.add_sub_cancel_left]
  · have hones : ∀ r : Fin 8, 0 < r.val →
        ((encodingSymbol 256).code >>> UInt32.ofNat ((encodingSymbol 256).numBits - r.val)).toUInt8.toNat =
          2 ^ r.val - 1 := by decide
    rw [if_pos hlt]
    have hfull := hopen.append (Nat.le_refl rem) (v := 2 ^ rem - 1)
      (Nat.sub_lt (Nat.two_pow_pos rem) Nat.one_pos)
      (by rw [Nat.sub_self, Nat.pow_zero, Nat.mul_one]; exact hones ⟨rem, hlt⟩ hpos)
    rw [Nat.sub_self, bits_ones] at hfull
    obtain ⟨bs, cur, hm, rfl, -, -, hB⟩ := hfull
    refine ⟨bs ++ [cur], List.replicate rem true, ?_, ⟨by rw [List.length_replicate]; exact hlt,
      by rw [List.length_replicate]⟩, ?_⟩
    · rw [hm, List.length_append, List.length_singleton,
        show dest + bs.length + 1 - dest = bs.length + 1 by omega]
    · rw [bytesBits_append, bytesBits_singleton, hB, Nat.pow_zero, Nat.div_one]

/-- The bytes `encode` writes for a string, wherever it writes them. -/
def wire (string : List UInt8) : List UInt8 :=
  let (n, m) := encode Memory.zero 0 string
  m.load 0 n

theorem wire_written (string : List UInt8) :
    ∃ pad, Ones pad ∧ bytesBits (wire string) = stringWritten 0 string ++ pad := by
  obtain ⟨bs, pad, hbs, hpad, hbits⟩ := encode_written string Memory.zero 0
  refine ⟨pad, hpad, ?_⟩
  rw [wire, hbs]
  dsimp only
  rw [Memory.load_store, hbits]

/-- What `encode` writes does not depend on where it writes it. -/
theorem encode_eq (string : List UInt8) (m : Memory) (dest : Nat) :
    encode m dest string = ((wire string).length, m.store dest (wire string)) := by
  obtain ⟨bs, pad, hbs, hpad, hbits⟩ := encode_written string m dest
  obtain ⟨pad', hpad', hbits'⟩ := wire_written string
  rw [hbs, padded_unique hpad hpad' hbits hbits']

theorem length_message (string : List UInt8) (n : Nat) :
    string.foldl (fun n byte => n + (encodingSymbol byte.toNat).numBits) n =
      n + (message symbolBits string).length := by
  induction string generalizing n with
  | nil => rfl
  | cons byte string ih =>
    rw [List.foldl_cons, ih, message_cons, List.length_append, symbolBits, length_bits,
      Nat.add_assoc]

/-- The size is the one that was announced, whatever the bits are. -/
theorem encodedSize_eq (string : List UInt8) : encodedSize string = (wire string).length := by
  obtain ⟨pad, hpad, hbits⟩ := wire_written string
  have hlen := congrArg List.length hbits
  rw [length_bytesBits, List.length_append, length_stringWritten] at hlen
  have := hpad.1
  rw [encodedSize, length_message, Nat.zero_add]
  omega

/-! ## The reference bit string -/

/-- Two or three whole bytes of the code are left after filling a byte that was partly taken. -/
def Skips (rem : Nat) (symbol : Encoding.Symbol) : Prop :=
  rem < 8 ∧ (symbol.numBits = rem + 16 ∨ symbol.numBits = rem + 24)

instance (rem : Nat) (symbol : Encoding.Symbol) : Decidable (Skips rem symbol) :=
  inferInstanceAs (Decidable (_ ∧ _))

/-- A symbol is written as its code exactly where it does not skip. -/
theorem symbolWritten_iff (byte : UInt8) {rem : Nat} (hpos : 0 < rem) (hrem : rem ≤ 8) :
    symbolWritten rem (encodingSymbol byte.toNat) = symbolBits byte ↔
      ¬ Skips rem (encodingSymbol byte.toNat) := by
  have hall : ∀ byte : UInt8, ∀ r : Fin 8,
      symbolWritten (r.val + 1) (encodingSymbol byte.toNat) = symbolBits byte ↔
        ¬ Skips (r.val + 1) (encodingSymbol byte.toNat) := forall_byte (by decide +kernel)
  have := hall byte ⟨rem - 1, by omega⟩
  rwa [Nat.sub_add_cancel hpos] at this

/-- No symbol of the string skips, behind `offset` bits. -/
def SkipsNothing : Nat → List UInt8 → Prop
  | _, [] => True
  | offset, byte :: string => ¬ Skips (8 - offset % 8) (encodingSymbol byte.toNat) ∧
    SkipsNothing (offset + (encodingSymbol byte.toNat).numBits) string

/-- The loop writes the codes where no symbol skips. An earlier symbol that is written wrong has the right
length, so the later ones are unaffected. -/
theorem stringWritten_iff (offset : Nat) (string : List UInt8) :
    stringWritten offset string = message symbolBits string ↔ SkipsNothing offset string := by
  induction string generalizing offset with
  | nil => exact iff_of_true rfl trivial
  | cons byte string ih =>
    have hlen : (symbolWritten (8 - offset % 8) (encodingSymbol byte.toNat)).length =
        (symbolBits byte).length := by rw [length_symbolWritten, symbolBits, length_bits]
    rw [stringWritten, message_cons, SkipsNothing, ← ih,
      ← symbolWritten_iff byte (by omega) (by omega)]
    constructor
    · intro h
      exact List.append_inj h hlen
    · rintro ⟨hsymbol, hstring⟩
      rw [hsymbol, hstring]

/-- The same, at every place of the string. -/
theorem skipsNothing_iff (string : List UInt8) : SkipsNothing 0 string ↔
    ∀ front byte back, string = front ++ byte :: back →
      ¬ Skips (8 - (message symbolBits front).length % 8) (encodingSymbol byte.toNat) := by
  have hgen (offset : Nat) : SkipsNothing offset string ↔
      ∀ front byte back, string = front ++ byte :: back →
        ¬ Skips (8 - (offset + (message symbolBits front).length) % 8)
          (encodingSymbol byte.toNat) := by
    induction string generalizing offset with
    | nil =>
      refine iff_of_true trivial fun front byte back h => ?_
      cases front <;> cases h
    | cons b string ih =>
      rw [SkipsNothing, ih]
      constructor
      · rintro ⟨hhead, htail⟩ front byte back h
        cases front with
        | nil =>
          cases h
          exact hhead
        | cons c front =>
          cases h
          rw [message_cons, List.length_append, symbolBits, length_bits, ← Nat.add_assoc]
          exact htail front byte back rfl
      · intro h
        refine ⟨h [] b string rfl, fun front byte back heq => ?_⟩
        have := h (b :: front) byte back (congrArg (b :: ·) heq)
        rwa [message_cons, List.length_append, symbolBits, length_bits, ← Nat.add_assoc] at this
  have := hgen 0
  simpa only [Nat.zero_add] using this

/-- `encode` writes as many bytes as `encoded_size` says, and they are the codes of the string,
padded with ones. -/
def EncodesReference (m : Memory) (dest : Nat) (string : List UInt8) : Prop :=
  ∃ bs pad, encode m dest string = (bs.length, m.store dest bs) ∧
    bs.length = encodedSize string ∧ Ones pad ∧ bytesBits bs = message symbolBits string ++ pad

/-- The same of the whole function: the padding is added in any case. -/
theorem encodesReference_of_skipsNothing (m : Memory) (dest : Nat) (string : List UInt8) :
    EncodesReference m dest string ↔ SkipsNothing 0 string := by
  obtain ⟨pad, hpad, hbits⟩ := wire_written string
  rw [← stringWritten_iff]
  constructor
  · rintro ⟨bs, pad', hbs, -, -, hbits'⟩
    rw [encode_eq] at hbs
    have hload := congrArg (fun r => Memory.load r.2 dest r.1) hbs
    dsimp only at hload
    rw [Memory.load_store, Memory.load_store] at hload
    rw [← hload, hbits] at hbits'
    exact (List.append_inj hbits' (length_stringWritten 0 string)).1
  · intro h
    exact ⟨wire string, pad, encode_eq string m dest, (encodedSize_eq string).symm, hpad,
      by rw [hbits, h]⟩

/-- **The encoder writes the reference bit string exactly where no symbol skips.** -/
theorem encodesReference_iff (m : Memory) (dest : Nat) (string : List UInt8) :
    EncodesReference m dest string ↔
      ∀ front byte back, string = front ++ byte :: back →
        ¬ Skips (8 - (message symbolBits front).length % 8) (encodingSymbol byte.toNat) := by
  rw [encodesReference_of_skipsNothing, skipsNothing_iff]

/-- In `0\` the backslash, a code of 19 bits, begins five bits into the first byte. The bytes are
`07 07 f0` where the reference has `07 ff f0`. -/
theorem encodesReference_not : ¬ EncodesReference Memory.zero 0 [0x30, 0x5c] := by
  rw [encodesReference_of_skipsNothing]
  rintro ⟨-, hbackslash, -⟩
  exact hbackslash (by decide)

/-- A short string skips nothing. -/
theorem Short.skipsNothing {string : List UInt8} (hs : Short string) (offset : Nat) :
    SkipsNothing offset string := by
  induction string generalizing offset with
  | nil => trivial
  | cons byte string ih =>
    have h15 := hs byte List.mem_cons_self
    refine ⟨?_, ih hs.tail _⟩
    rintro ⟨-, h | h⟩
    · omega
    · omega

/-- The bits of a short string, as it is written. -/
theorem wire_bits {string : List UInt8} (hs : Short string) :
    ∃ pad, Ones pad ∧ bytesBits (wire string) = message symbolBits string ++ pad := by
  obtain ⟨pad, hpad, hbits⟩ := wire_written string
  exact ⟨pad, hpad, by rw [hbits, (stringWritten_iff 0 string).mpr (hs.skipsNothing 0)]⟩

/-- **Decoding undoes encoding**, for a string that is not empty. -/
theorem parser_wire {string : List UInt8} (hs : Short string) (hne : string ≠ [])
    (rest : List UInt8) :
    parser (wire string).length (wire string ++ rest) = .ok (string, rest) := by
  obtain ⟨pad, hpad, hbits⟩ := wire_bits hs
  have hwire : wire string ≠ [] := by
    intro hnil
    obtain ⟨byte, tl, rfl⟩ := List.exists_cons_of_ne_nil hne
    have hlen := congrArg List.length hbits
    have := (symbol_fits byte).1
    rw [hnil, message_cons, List.append_assoc, List.length_append, symbolBits, length_bits] at hlen
    exact absurd hlen (by simp only [bytesBits, List.flatMap_nil, List.length_nil]; omega)
  rw [parser, Parser.bind_ok Parser.take_append, decodeBytes_iff.mpr ⟨hwire, pad, hpad, hbits⟩]
  rfl

end Bnl.Http3.Qpack.Huffman
