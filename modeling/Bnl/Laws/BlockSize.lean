import Bnl.Codec.SizeT
import Bnl.Laws.HeaderBlock

/-!
# What the QPACK encoder announces

`encoded_size` allocates and `encode` fills through a pointer it never checks, so the two have to agree on
every header. They do, for all strings whose bits a `size_t` can count: the bytes depend on the header and on
whether the block prefix is still to come, and on nothing that was in memory.

**The law** (`writes_announced`) is about the sizes as the code has them. The proof goes through the functions
that count in natural numbers: there the announced size is the length of what is written (`encodedSize_eq`),
whatever the strings are; and as long as nothing wraps the two counts are one (`Counted`).

**What it does not establish.** Where the bits of the codes come to 2^64 or more, `encoded_size` wraps and
announces less than is written. Such a string has more than 2^59 bytes; none exists.
-/

namespace Bnl.Http3.Qpack

open Bnl.Base Table.Fixed

/-! ## Strings whose bits can be counted -/

/-- The bits of a string's codes. -/
def numBits (string : List UInt8) : Nat :=
  string.foldl (fun n byte => n + (Huffman.encodingSymbol byte.toNat).numBits) 0

/-- They can be counted, and padded. -/
def Counted (string : List UInt8) : Prop := numBits string + 7 < 2 ^ 64

instance (string : List UInt8) : Decidable (Counted string) :=
  inferInstanceAs (Decidable (numBits string + 7 < 2 ^ 64))

/-- Both strings of a header are such. -/
structure Countable (header : Header) : Prop where
  name : Counted header.name
  value : Counted header.value

/-- A code has five bits at least and thirty at most. -/
theorem numBits_bounds : ∀ byte : UInt8, 5 ≤ (Huffman.encodingSymbol byte.toNat).numBits ∧
    (Huffman.encodingSymbol byte.toNat).numBits ≤ 30 :=
  Bytes.forall_byte (by decide +kernel)

/-- The bits of a string, byte by byte. -/
theorem numBits_cons (byte : UInt8) (string : List UInt8) :
    numBits (byte :: string) = (Huffman.encodingSymbol byte.toNat).numBits + numBits string := by
  unfold numBits
  rw [List.foldl_cons, Huffman.length_message, Huffman.length_message, Nat.zero_add, Nat.zero_add]

/-- A code has at least five bits and at most thirty. -/
theorem length_bounds (string : List UInt8) :
    5 * string.length ≤ numBits string ∧ numBits string ≤ 30 * string.length := by
  induction string with
  | nil => exact ⟨Nat.le_refl _, Nat.le_refl _⟩
  | cons byte string ih =>
    have := numBits_bounds byte
    rw [numBits_cons, List.length_cons]
    omega

/-- Every string of fewer than 2^59 bytes is counted. -/
theorem counted_of_length {string : List UInt8} (h : string.length < 2 ^ 59) : Counted string := by
  have := (length_bounds string).2
  unfold Counted
  omega

/-! ## Sizes that do not wrap -/

namespace SizeT

/-- A sum of machine words is the sum of the numbers, as a machine word. -/
theorem foldl_ofNat (string : List UInt8) (n : Nat) :
    string.foldl (fun n byte => n + UInt64.ofNat (Qpack.Huffman.encodingSymbol byte.toNat).numBits)
      (UInt64.ofNat n) =
      UInt64.ofNat (string.foldl (fun n byte => n + (Qpack.Huffman.encodingSymbol byte.toNat).numBits) n) := by
  induction string generalizing n with
  | nil => rfl
  | cons byte string ih => rw [List.foldl_cons, List.foldl_cons, ← UInt64.ofNat_add, ih]

/-- The Huffman size of a counted string has not wrapped. -/
theorem Huffman.encodedSize_eq {string : List UInt8} (h : Counted string) :
    Huffman.encodedSize string = UInt64.ofNat (Qpack.Huffman.encodedSize string) := by
  have hsum : Huffman.encodedSize string = (UInt64.ofNat (numBits string) + 7) / 8 :=
    congrArg (fun n => (n + 7) / 8) (foldl_ofNat string 0)
  have hsize : Qpack.Huffman.encodedSize string = (numBits string + 7) / 8 := rfl
  unfold Counted at h
  apply UInt64.toNat.inj
  rw [hsum, hsize, UInt64.toNat_div, UInt64.toNat_add, UInt64.toNat_ofNat', UInt64.toNat_ofNat']
  show (numBits string % 2 ^ 64 + 7) % 2 ^ 64 / 8 = (numBits string + 7) / 8 % 2 ^ 64
  omega

/-- What of a counted string is written, and the string itself, have fewer than 2^62 bytes. -/
theorem size_bounds {string : List UInt8} (h : Counted string) :
    Qpack.Huffman.encodedSize string < 2 ^ 62 ∧ string.length < 2 ^ 62 := by
  have := (length_bounds string).1
  have hsize : Qpack.Huffman.encodedSize string = (numBits string + 7) / 8 := rfl
  unfold Counted at h
  omega

/-- Machine words are compared as the numbers they were made of. -/
theorem ofNat_lt_iff {a b : Nat} (ha : a < 2 ^ 64) (hb : b < 2 ^ 64) :
    UInt64.ofNat a < UInt64.ofNat b ↔ a < b := by
  rw [UInt64.lt_iff_toNat_lt, UInt64.toNat_ofNat_of_lt' ha, UInt64.toNat_ofNat_of_lt' hb]

theorem Literal.literalEncodedSize_eq {literal : List UInt8} (h : Counted literal) :
    Literal.literalEncodedSize literal = UInt64.ofNat (Qpack.Literal.literalEncodedSize literal) := by
  obtain ⟨hhuffman, hlength⟩ := size_bounds h
  have hiff := ofNat_lt_iff (Nat.lt_trans hhuffman (by decide)) (Nat.lt_trans hlength (by decide))
  unfold Literal.literalEncodedSize Qpack.Literal.literalEncodedSize
  rw [Huffman.encodedSize_eq h]
  dsimp only
  by_cases hlt : Qpack.Huffman.encodedSize literal < literal.length
  · rw [if_pos hlt, if_pos (hiff.mpr hlt)]
  · rw [if_neg hlt, if_neg fun hlt' => hlt (hiff.mp hlt')]

/-- The shorter form is no longer than the string. -/
theorem literalEncodedSize_le (literal : List UInt8) :
    Qpack.Literal.literalEncodedSize literal ≤ literal.length := by
  unfold Qpack.Literal.literalEncodedSize
  dsimp only
  split
  · next h => exact Nat.le_of_lt h
  · exact Nat.le_refl _

/-- The digits of a number below 128^(k+1). -/
theorem length_digits {value : UInt64} {k : Nat} (h : value.toNat < 128 ^ (k + 1)) :
    (PrefixInt.digits value).length ≤ k + 1 := by
  induction k generalizing value with
  | zero =>
    rw [PrefixInt.digits_of_lt (UInt64.not_le.mpr (UInt64.lt_iff_toNat_lt.mpr h))]
    exact Nat.le_refl _
  | succ k ih =>
    by_cases hge : 128 ≤ value
    · rw [PrefixInt.digits_of_ge hge, List.length_cons]
      refine Nat.succ_le_succ (ih ?_)
      rw [UInt64.toNat_div]
      exact Nat.div_lt_of_lt_mul (by rw [Nat.mul_comm]; exact h)
    · rw [PrefixInt.digits_of_lt hge]
      exact Nat.succ_le_succ (Nat.zero_le _)

/-- A prefix integer has at most eleven bytes. -/
theorem length_prefixInt (first : UInt8) (value : UInt64) (width : UInt8) :
    (PrefixInt.bytes first value width).length ≤ 11 := by
  unfold PrefixInt.bytes
  split
  · exact Nat.le_of_ble_eq_true rfl
  · rw [List.length_cons]
    exact Nat.succ_le_succ (length_digits (k := 9) (Nat.lt_of_lt_of_le (UInt64.toNat_lt _) (by decide)))

/-- A literal of a counted string. -/
theorem length_literal {literal : List UInt8} (h : Counted literal) (first width : UInt8) :
    (Qpack.Literal.bytes first literal width).length < 2 ^ 62 + 11 := by
  have hprefix := length_prefixInt first (UInt64.ofNat (Qpack.Literal.literalEncodedSize literal)) width
  have hle := literalEncodedSize_le literal
  have hlength := (size_bounds h).2
  rw [← Qpack.Literal.encodedSize_eq, Qpack.Literal.encodedSize, PrefixInt.encodedSize_eq first]
  omega

theorem Literal.encodedSize_eq {literal : List UInt8} (h : Counted literal) (width : UInt8) :
    Literal.encodedSize literal width = UInt64.ofNat (Qpack.Literal.encodedSize literal width) := by
  unfold Literal.encodedSize Qpack.Literal.encodedSize
  rw [Literal.literalEncodedSize_eq h, UInt64.ofNat_add]

/-- A literal is written as it is in natural numbers. -/
theorem Literal.encode_eq {literal : List UInt8} (h : Counted literal) (m : Memory) (dest : Nat)
    (width : UInt8) : Literal.encode m dest literal width =
      (UInt64.ofNat (Qpack.Literal.encode m dest literal width).1, (Qpack.Literal.encode m dest literal width).2) := by
  have hlength := (size_bounds h).2
  have hiff := ofNat_lt_iff (Nat.lt_of_le_of_lt (literalEncodedSize_le literal) (Nat.lt_trans hlength (by decide)))
    (Nat.lt_trans hlength (by decide))
  unfold Literal.encode Qpack.Literal.encode
  rw [Literal.literalEncodedSize_eq h]
  dsimp only
  by_cases hlt : Qpack.Literal.literalEncodedSize literal < literal.length
  · rw [if_pos hlt, if_pos (hiff.mpr hlt)]
  · rw [if_neg hlt, if_neg fun hlt' => hlt (hiff.mp hlt')]

/-- What is written of a literal ends where it ends in natural numbers. -/
theorem Literal.encode_toNat {literal : List UInt8} (h : Counted literal) (m : Memory) (dest : Nat)
    (width : UInt8) :
    (Literal.encode m dest literal width).1.toNat = (Qpack.Literal.encode m dest literal width).1 ∧
      (Literal.encode m dest literal width).2 = (Qpack.Literal.encode m dest literal width).2 := by
  rw [Literal.encode_eq h]
  refine ⟨UInt64.toNat_ofNat_of_lt' ?_, rfl⟩
  rw [Qpack.Literal.encode_eq]
  exact Nat.lt_trans (length_literal h _ _) (by decide)

/-! ## The encoder -/

namespace Encoder

/-- The encoder in the same state, its count aside. -/
def plain (e : Encoder) : Qpack.Encoder := { state := e.state }

/-- What is written for a header. -/
def wire (host : Host) (e : Encoder) (header : Header) : List UInt8 :=
  e.plain.wire (instruction host.xxh64 header)

/-- A header takes less than 2^64 bytes. -/
theorem length_wire {header : Header} (h : Countable header) (host : Host) (e : Encoder) :
    (e.wire host header).length < 2 ^ 64 := by
  have hstate : e.plain.state.wire.length ≤ 2 := by
    cases e.plain.state
    · exact Nat.le_refl _
    · exact Nat.zero_le _
  unfold wire Qpack.Encoder.wire
  rw [List.length_append]
  rcases hf : findIndex host.xxh64 header with ⟨_ | _ | _, index⟩
  · rw [instruction, hf, Instruction.bytes]
    have := length_prefixInt indexedHeaderFieldPrefix index.toUInt64 6
    omega
  · rw [instruction, hf, Instruction.bytes, List.length_append]
    have := length_prefixInt literalWithNameReferencePrefix index.toUInt64 4
    have := length_literal h.value literalNoPrefix 7
    omega
  · rw [instruction, hf, Instruction.bytes, List.length_append]
    have := length_literal h.name literalWithoutNameReferencePrefix 3
    have := length_literal h.value literalNoPrefix 7
    omega

/-- **The size that is announced** is that of what is written. -/
theorem encodedSize_eq {header : Header} (hlow : headerIsLowercase header = true) (h : Countable header)
    (host : Host) (e : Encoder) :
    e.encodedSize host header = .ok (UInt64.ofNat (e.wire host header).length) := by
  have hplain : e.plain.encodedSize host header =
      .ok (e.plain.wire (instruction host.xxh64 header)).length := Qpack.encodedSize_eq hlow e.plain
  have hstate : e.plain.state = e.state := rfl
  have hprefix : (if e.state = .blockPrefix then UInt64.ofNat qpackPrefixEncodedSize else 0) =
      UInt64.ofNat (if e.state = .blockPrefix then qpackPrefixEncodedSize else 0) := by
    split <;> rfl
  unfold Qpack.Encoder.encodedSize at hplain
  unfold encodedSize wire
  rw [hlow, if_neg (by decide), hstate] at hplain
  rw [hlow, if_neg (by decide), hprefix]
  dsimp only at hplain ⊢
  rcases hf : findIndex host.xxh64 header with ⟨_ | _ | _, index⟩
  · rw [hf] at hplain
    rw [← Except.ok.inj hplain, UInt64.ofNat_add]
  · rw [hf] at hplain
    rw [← Except.ok.inj hplain, Literal.encodedSize_eq h.value, UInt64.ofNat_add, UInt64.ofNat_add]
  · rw [hf] at hplain
    rw [← Except.ok.inj hplain, Literal.encodedSize_eq h.name, Literal.encodedSize_eq h.value,
      UInt64.ofNat_add, UInt64.ofNat_add]

/-- The switch writes what it does in natural numbers. -/
theorem encodeInstruction_eq {header : Header} (h : Countable header) (host : Host) (m : Memory) (dest : Nat) :
    encodeInstruction host m dest header = Qpack.Encoder.encodeInstruction host m dest header := by
  unfold encodeInstruction Qpack.Encoder.encodeInstruction
  rcases findIndex host.xxh64 header with ⟨_ | _ | _, index⟩
  · rfl
  · dsimp only
    rw [(Literal.encode_toNat h.value _ _ 7).1, (Literal.encode_toNat h.value _ _ 7).2]
  · dsimp only
    rw [(Literal.encode_toNat h.name _ _ 3).1, (Literal.encode_toNat h.name _ _ 3).2,
      (Literal.encode_toNat h.value _ _ 7).1, (Literal.encode_toNat h.value _ _ 7).2]

/-- `encode` writes those bytes and counts them. -/
theorem encode_eq {header : Header} (h : Countable header) (host : Host) (e : Encoder) (m : Memory)
    (start : Nat) : e.encode host m start header = (UInt64.ofNat (e.wire host header).length,
      m.store start (e.wire host header),
      { state := .header, count := e.count + UInt64.ofNat (e.wire host header).length }) := by
  have hplain : e.plain.encode host m start header = _ := Qpack.encode_eq header e.plain m start
  have hstate : e.plain.state = e.state := rfl
  unfold Qpack.Encoder.encode at hplain
  rw [hstate] at hplain
  dsimp only at hplain
  unfold encode wire
  dsimp only
  have hsize := congrArg Prod.fst hplain
  have hmemory := congrArg (fun r => r.2.1) hplain
  dsimp only at hsize hmemory
  rw [encodeInstruction_eq h, hsize, hmemory]

/-- A buffer of its own holds just those bytes. -/
theorem encodeBuffer_eq {header : Header} (hlow : headerIsLowercase header = true) (h : Countable header)
    (host : Host) (e : Encoder) : e.encodeBuffer host header = (.ok ⟨e.wire host header⟩,
      { state := .header, count := e.count + UInt64.ofNat (e.wire host header).length }) := by
  unfold encodeBuffer
  rw [encodedSize_eq hlow h]
  dsimp only
  rw [encode_eq h]
  dsimp only
  rw [UInt64.toNat_ofNat_of_lt' (length_wire h host e), Memory.load_store]

/-- A header whose name is not lowercase is refused before anything is written or counted. -/
theorem encodeBuffer_rejects {header : Header} (hlow : headerIsLowercase header = false) (host : Host)
    (e : Encoder) : e.encodeBuffer host header = (.error .malformedHeader, e) := by
  unfold encodeBuffer encodedSize
  rw [hlow]
  rfl

/-- Only such a header is refused. -/
theorem lowercase_of_encodeBuffer {header : Header} {host : Host} {e : Encoder} {error : Error}
    (h : (e.encodeBuffer host header).1 = .error error) : headerIsLowercase header = false := by
  by_contra hlow
  have hlow : headerIsLowercase header = true := Bool.eq_true_of_not_eq_false hlow
  obtain ⟨n, hn⟩ : ∃ n, e.encodedSize host header = .ok n := by
    unfold encodedSize
    rw [hlow, if_neg (by decide)]
    rcases findIndex host.xxh64 header with ⟨_ | _ | _, index⟩ <;> exact ⟨_, rfl⟩
  unfold encodeBuffer at h
  rw [hn] at h
  cases h

/-- Calls one after another, whatever becomes of each: the results, and the encoder behind them. -/
def encodeEach (host : Host) : Encoder → List Header → List (Except Error Buffer) × Encoder
  | e, [] => ([], e)
  | e, header :: headers =>
    let (result, e) := e.encodeBuffer host header
    let (results, e) := encodeEach host e headers
    (result :: results, e)

end Encoder

end SizeT

/-! ## What is announced is written -/

/-- Nothing is written outside the `n` bytes from `start` on. -/
def WritesWithin (m m' : Memory) (start n : Nat) : Prop :=
  ∀ i, i < start ∨ start + n ≤ i → m'.get i = m.get i

/-- A store writes where it stores. -/
theorem writesWithin_store (m : Memory) (start : Nat) (bs : List UInt8) :
    WritesWithin m (m.store start bs) start bs.length := by
  intro i hi
  rcases hi with hi | hi
  · exact Memory.get_store_of_lt hi
  · exact Memory.get_store_of_ge hi

/-- The bytes in a call's result. -/
def returned : Except Error Buffer → UInt64
  | .ok encoded => UInt64.ofNat encoded.bytes.length
  | .error _ => 0

/-- The sizes that the calls returned, added up as the count is. -/
def allReturned (results : List (Except Error Buffer)) : UInt64 :=
  results.foldr (fun result count => returned result + count) 0

/-- What one call adds to the count. -/
theorem encodeBuffer_counts {header : Header} (h : headerIsLowercase header = true → Countable header)
    (host : Host) (e : SizeT.Encoder) :
    (e.encodeBuffer host header).2.count = e.count + returned (e.encodeBuffer host header).1 := by
  cases hlow : headerIsLowercase header with
  | false =>
    rw [SizeT.Encoder.encodeBuffer_rejects hlow]
    exact (UInt64.add_zero _).symm
  | true =>
    rw [SizeT.Encoder.encodeBuffer_eq hlow (h hlow)]
    rfl

/-- The count, call by call. -/
theorem count_encodeEach (host : Host) (headers : List Header) (e : SizeT.Encoder)
    (h : ∀ header ∈ headers, headerIsLowercase header = true → Countable header) :
    (e.encodeEach host headers).2.count = e.count + allReturned (e.encodeEach host headers).1 := by
  induction headers generalizing e with
  | nil => exact (UInt64.add_zero _).symm
  | cons header headers ih =>
    show ((e.encodeBuffer host header).2.encodeEach host headers).2.count = e.count +
      (returned (e.encodeBuffer host header).1 +
        allReturned ((e.encodeBuffer host header).2.encodeEach host headers).1)
    rw [ih _ fun header' hmem => h header' (List.mem_cons_of_mem _ hmem),
      encodeBuffer_counts (h header List.mem_cons_self), UInt64.add_assoc]

/-- **The encoder writes exactly what it announced.** A header with a lowercase name goes into the bytes that
`encoded_size` asked for, all of them and no others, and memory decides none of them; over any calls the count
is the sum of what they returned; and a header that is refused changes nothing. All sizes are `size_t`; the
strings are those whose bits a `size_t` can count (`counted_of_length`: all of fewer than 2^59 bytes). -/
theorem writes_announced (host : Host) (e : SizeT.Encoder) :
    (∀ header, headerIsLowercase header = true → Countable header → ∃ bs : List UInt8,
      bs.length < 2 ^ 64 ∧ e.encodedSize host header = .ok (UInt64.ofNat bs.length) ∧ ∀ m start,
        let r := e.encode host m start header
        r.1 = UInt64.ofNat bs.length ∧ WritesWithin m r.2.1 start bs.length ∧
          r.2.1.load start bs.length = bs) ∧
    (∀ headers, (∀ header ∈ headers, headerIsLowercase header = true → Countable header) →
      (e.encodeEach host headers).2.count = e.count + allReturned (e.encodeEach host headers).1) ∧
    ∀ header error, (e.encodeBuffer host header).1 = .error error →
      (e.encodeBuffer host header).2 = e := by
  refine ⟨fun header hlow h => ⟨e.wire host header, SizeT.Encoder.length_wire h host e,
    SizeT.Encoder.encodedSize_eq hlow h host e, fun m start => ?_⟩,
    fun headers => count_encodeEach host headers e, fun header error herror => ?_⟩
  · rw [SizeT.Encoder.encode_eq h]
    exact ⟨rfl, writesWithin_store m start _, Memory.load_store m start _⟩
  · rw [SizeT.Encoder.encodeBuffer_rejects (SizeT.Encoder.lowercase_of_encodeBuffer herror)]

theorem writes_announced_get : ∃ bs : List UInt8, bs.length < 2 ^ 64 ∧
    ({} : SizeT.Encoder).encodedSize xxHost ⟨ascii ":method", ascii "GET"⟩ = .ok (UInt64.ofNat bs.length) ∧
    ∀ m start,
      let r := ({} : SizeT.Encoder).encode xxHost m start ⟨ascii ":method", ascii "GET"⟩
      r.1 = UInt64.ofNat bs.length ∧ WritesWithin m r.2.1 start bs.length ∧
        r.2.1.load start bs.length = bs :=
  (writes_announced xxHost {}).1 _ (by decide) ⟨counted_of_length (by decide), counted_of_length (by decide)⟩

end Bnl.Http3.Qpack
