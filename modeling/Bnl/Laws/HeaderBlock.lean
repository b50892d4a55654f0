import Bnl.Laws.QpackEncode

/-!
# Header blocks

A block is what one encoder writes for a list of headers, and what one decoder reads. The block prefix is
written before the first header and read before the first line, so it is enough that both sides agree on whether
it is behind them.

**The law** is `block_roundTrip`, over any list of headers: they come back in order, what stands behind the
block is left, and both sides have counted its bytes. Its induction is over the list, with one step for each
header (`decodeBytes_wire`), and with encoder and decoder in the same state as the hypothesis; so it is proved
for a pair that has already begun (`decodeAll_encodeAll`).

Three things are asked of a header: a lowercase name, which the encoder checks; `Encodable` strings, for which
the Huffman code is written right; and `Faithful`, that the hash does not take it for another. The hash is a
parameter and nothing is assumed of it besides. Without one of the three the law fails, and how is said where
each is defined.
-/

namespace Bnl.Http3.Qpack

open Bnl.Base Table.Fixed

/-! ## One header -/

/-- The block prefix, where it is still to come. -/
def State.wire : State → List UInt8
  | .blockPrefix => [0, 0]
  | .header => []

/-- What an encoder writes for an instruction. -/
def Encoder.wire (e : Encoder) (i : Instruction) : List UInt8 := e.state.wire ++ i.bytes

/-- Something is written for every header. -/
theorem Encoder.wire_ne_nil (e : Encoder) (i : Instruction) : e.wire i ≠ [] :=
  List.append_ne_nil_of_right_ne_nil _ i.bytes_ne_nil

/-- The size that is announced is that of what is written. -/
theorem encodedSize_eq {host : Host} {header : Header} (hlow : headerIsLowercase header = true)
    (e : Encoder) :
    e.encodedSize host header = .ok (e.wire (instruction host.xxh64 header)).length := by
  have hprefix : (if e.state = .blockPrefix then qpackPrefixEncodedSize else 0) =
      e.state.wire.length := by
    cases e.state <;> rfl
  unfold Encoder.encodedSize
  rw [hlow, if_neg (by decide), hprefix]
  rcases hf : findIndex host.xxh64 header with ⟨_ | _ | _, index⟩
  · rw [instruction, hf, Encoder.wire, Instruction.bytes, List.length_append,
      ← PrefixInt.encodedSize_eq]
  · rw [instruction, hf, Encoder.wire, Instruction.bytes, List.length_append, List.length_append,
      ← PrefixInt.encodedSize_eq, ← Literal.encodedSize_eq literalNoPrefix, ← Nat.add_assoc]
  · rw [instruction, hf, Encoder.wire, Instruction.bytes, List.length_append, List.length_append,
      ← Literal.encodedSize_eq Qpack.literalWithoutNameReferencePrefix, ← Literal.encodedSize_eq literalNoPrefix,
      ← Nat.add_assoc]

/-- **`encode` writes the block prefix, once, and the instruction.** -/
theorem encode_eq {host : Host} (header : Header) (e : Encoder) (m : Memory) (start : Nat) :
    e.encode host m start header = ((e.wire (instruction host.xxh64 header)).length,
      m.store start (e.wire (instruction host.xxh64 header)),
      { state := .header,
        count := e.count + (e.wire (instruction host.xxh64 header)).length }) := by
  unfold Encoder.encode Encoder.wire
  cases e.state with
  | blockPrefix =>
    rw [if_pos rfl]
    dsimp only
    rw [encodeInstruction_eq, Instruction.write_eq]
    dsimp only
    rw [Memory.store_append, List.length_append, Nat.add_assoc, Nat.add_sub_cancel_left]
    rfl
  | header =>
    rw [if_neg (by decide)]
    dsimp only
    rw [encodeInstruction_eq, Instruction.write_eq]
    dsimp only
    rw [Nat.add_sub_cancel_left]
    rfl

/-- A buffer of its own holds just that. -/
theorem encodeBuffer_eq {host : Host} {header : Header} (hlow : headerIsLowercase header = true)
    (e : Encoder) :
    e.encodeBuffer host header = (.ok ⟨e.wire (instruction host.xxh64 header)⟩,
      { state := .header,
        count := e.count + (e.wire (instruction host.xxh64 header)).length }) := by
  unfold Encoder.encodeBuffer
  rw [encodedSize_eq hlow]
  dsimp only
  rw [encode_eq]
  dsimp only
  rw [Memory.load_store]

/-- A header whose name is not lowercase is refused before anything is written or counted. -/
theorem encodeBuffer_rejects {host : Host} {header : Header} (hlow : headerIsLowercase header = false)
    (e : Encoder) : e.encodeBuffer host header = (.error .malformedHeader, e) := by
  unfold Encoder.encodeBuffer Encoder.encodedSize
  rw [hlow]
  rfl

/-- What a decoder makes of an instruction, its own state being the encoder's. -/
theorem decodeBytes_wire {host : Host} {header : Header} (hlow : headerIsLowercase header = true)
    (henc : Encodable header) (hf : Faithful host.xxh64 header) {e : Encoder} {d : Decoder}
    (hstate : d.state = e.state) (rest : List UInt8) :
    d.decodeBytes (e.wire (instruction host.xxh64 header) ++ rest) = (.ok header,
      { state := .header,
        count := d.count + (e.wire (instruction host.xxh64 header)).length }, rest) := by
  have hline := line_bytes (henc.instruction host.xxh64) hf.instruction hlow
    (fun index hi => hf.value_ne hi) rest
  unfold Decoder.decodeBytes Encoder.wire
  rw [hstate]
  cases hs : e.state with
  | blockPrefix =>
    have hlong : ¬ (State.blockPrefix.wire ++ (instruction host.xxh64 header).bytes ++ rest).length <
        qpackPrefixEncodedSize := by
      simp only [List.length_append, State.wire, List.length_cons, qpackPrefixEncodedSize]
      omega
    have hdrop : (State.blockPrefix.wire ++ (instruction host.xxh64 header).bytes ++ rest).drop
        qpackPrefixEncodedSize = (instruction host.xxh64 header).bytes ++ rest := rfl
    dsimp only
    rw [if_neg hlong, hdrop, Decoder.decodeHeaderBytes, hline]
    dsimp only
    rw [List.length_append, Nat.add_sub_cancel, List.length_append, ← Nat.add_assoc]
    rfl
  | header =>
    show d.decodeHeaderBytes ((instruction host.xxh64 header).bytes ++ rest) = _
    rw [Decoder.decodeHeaderBytes, hline]
    dsimp only
    rw [List.length_append, Nat.add_sub_cancel, ← hs, ← hstate]
    rw [hs] at hstate
    rw [hstate]
    rfl

/-! ## A list of headers -/

/-- Headers encoded one after another: the bytes in a row. -/
def Encoder.encodeAll (host : Host) : Encoder → List Header → Except Error (List UInt8) × Encoder
  | e, [] => (.ok [], e)
  | e, header :: headers =>
    match e.encodeBuffer host header with
    | (.error error, e) => (.error error, e)
    | (.ok encoded, e) =>
      match encodeAll host e headers with
      | (.error error, e) => (.error error, e)
      | (.ok rest, e) => (.ok (encoded.bytes ++ rest), e)

/-- One header more at the end. -/
theorem Encoder.encodeAll_concat {host : Host} {headers : List Header} {header : Header} {e e' e'' : Encoder}
    {block : List UInt8} {encoded : Buffer} (hall : e.encodeAll host headers = (.ok block, e'))
    (hnext : e'.encodeBuffer host header = (.ok encoded, e'')) :
    e.encodeAll host (headers ++ [header]) = (.ok (block ++ encoded.bytes), e'') := by
  induction headers generalizing e block with
  | nil =>
    cases hall
    rw [List.nil_append, Encoder.encodeAll, hnext]
    dsimp only [Encoder.encodeAll]
    rw [List.append_nil, List.nil_append]
  | cons first headers ih =>
    rw [Encoder.encodeAll] at hall
    rw [List.cons_append, Encoder.encodeAll]
    rcases hfirst : e.encodeBuffer host first with ⟨error | b, e₁⟩
    · rw [hfirst] at hall
      cases hall
    · rw [hfirst] at hall
      dsimp only at hall ⊢
      rcases hrest : e₁.encodeAll host headers with ⟨error | rest, e₂⟩
      · rw [hrest] at hall
        cases hall
      · rw [hrest] at hall
        cases hall
        rw [ih hrest]
        dsimp only
        rw [List.append_assoc]

section DecodeAll

variable {σ β : Type} [Storage β] [Sequence σ β]

/-- So many headers decoded one after another. -/
def Decoder.decodeAll : Nat → Decoder → σ → Except Error (List Header) × Decoder × σ
  | 0, d, s => (.ok [], d, s)
  | n + 1, d, s =>
    match d.decode s with
    | (.error error, d, s) => (.error error, d, s)
    | (.ok header, d, s) =>
      match decodeAll n d s with
      | (.error error, d, s) => (.error error, d, s)
      | (.ok headers, d, s) => (.ok (header :: headers), d, s)

/-- The step of the induction is one header; encoder and decoder stay in the same state. -/
theorem decodeAll_encodeAll {host : Host} {headers : List Header}
    (hlow : ∀ h ∈ headers, headerIsLowercase h = true) (henc : ∀ h ∈ headers, Encodable h)
    (hf : ∀ h ∈ headers, Faithful host.xxh64 h) (e : Encoder) :
    ∃ b e', e.encodeAll host headers = (.ok b, e') ∧ e'.count = e.count + b.length ∧
      ∀ (d : Decoder) (s : σ) (suffix : List UInt8), d.state = e.state →
        Sequence.bytes s = b ++ suffix → ∃ d' s',
          d.decodeAll headers.length s = (.ok headers, d', s') ∧
            d'.count = d.count + b.length ∧ Sequence.bytes s' = suffix := by
  induction headers generalizing e with
  | nil => exact ⟨[], e, rfl, rfl, fun d s suffix _ hb => ⟨d, s, rfl, rfl, hb⟩⟩
  | cons header headers ih =>
    have hlow₁ := hlow header List.mem_cons_self
    have henc₁ := henc header List.mem_cons_self
    have hf₁ := hf header List.mem_cons_self
    let w := e.wire (instruction host.xxh64 header)
    obtain ⟨b, e', hall, hcount, hdec⟩ := ih (fun h hm => hlow h (List.mem_cons_of_mem _ hm))
      (fun h hm => henc h (List.mem_cons_of_mem _ hm))
      (fun h hm => hf h (List.mem_cons_of_mem _ hm))
      { state := .header, count := e.count + w.length }
    refine ⟨w ++ b, e', ?_, ?_, ?_⟩
    · rw [Encoder.encodeAll, encodeBuffer_eq hlow₁]
      dsimp only
      rw [hall]
    · rw [hcount, List.length_append, Nat.add_assoc]
    · intro d s suffix hstate hb
      have hstep := decodeBytes_wire hlow₁ henc₁ hf₁ hstate (b ++ suffix)
      rw [← List.append_assoc, ← hb, ← Decoder.decode_bytes] at hstep
      obtain ⟨s₁, hd₁, hb₁⟩ := Sequence.of_onBytes hstep
      obtain ⟨d', s', hrest, hc', hb'⟩ := hdec
        { state := .header, count := d.count + w.length } s₁ suffix rfl hb₁
      refine ⟨d', s', ?_, ?_, hb'⟩
      · rw [List.length_cons, Decoder.decodeAll, hd₁]
        dsimp only
        rw [hrest]
      · rw [hc', List.length_append, Nat.add_assoc]

/-- So many headers and nothing else are what the decoder reads off these bytes. -/
def Decoder.Reads (d : Decoder) (b : List UInt8) : List Header → Prop
  | [] => b = []
  | header :: headers => ∃ d' rest, d.decodeBytes b = (.ok header, d', rest) ∧
      d'.Reads rest headers

/-- Where a header is read, there were bytes. -/
theorem Decoder.Reads.ne_nil {d : Decoder} {b : List UInt8} {header : Header}
    {headers : List Header} (h : d.Reads b (header :: headers)) : b ≠ [] := by
  obtain ⟨d', rest, hd, -⟩ := h
  exact List.ne_nil_of_length_pos (Nat.zero_lt_of_lt (decodeBytes_lt hd))

/-- What `decodeAll` reads to the end. -/
theorem Decoder.reads_of_decodeAll {headers : List Header} {d d' : Decoder} {s s' : σ}
    (h : decodeAll headers.length d s = (.ok headers, d', s')) (hs' : Sequence.bytes s' = []) :
    d.Reads (Sequence.bytes s) headers := by
  induction headers generalizing d s with
  | nil =>
    cases h
    exact hs'
  | cons header headers ih =>
    rw [List.length_cons, decodeAll] at h
    match hd : d.decode s with
    | (.error e, d₁, s₁) =>
      rw [hd] at h
      cases h
    | (.ok header₁, d₁, s₁) =>
      rw [hd] at h
      dsimp only at h
      match hall : decodeAll headers.length d₁ s₁ with
      | (.error e, d₂, s₂) =>
        rw [hall] at h
        cases h
      | (.ok headers₂, d₂, s₂) =>
        rw [hall] at h
        cases h
        refine ⟨d₁, Sequence.bytes s₁, ?_, ih hall⟩
        rw [← Decoder.decode_bytes, hd]
        rfl

/-- The pair of encoder and decoder round-trips on a list of headers, by way of this block. -/
def RoundTrips (host : Host) (headers : List Header) (block : List UInt8) : Prop :=
  (∃ e, Encoder.encodeAll host {} headers = (.ok block, e)) ∧
    ∃ d s', Decoder.decodeAll headers.length {} (⟨block⟩ : Buffer) = (.ok headers, d, s') ∧
      s'.bytes = []

theorem RoundTrips.reads {host : Host} {headers : List Header} {block : List UInt8}
    (h : RoundTrips host headers block) : ({} : Decoder).Reads block headers := by
  obtain ⟨-, d, s', hall, hs'⟩ := h
  exact Decoder.reads_of_decodeAll hall hs'

variable (σ) in
/-- **Decoding undoes encoding, over whole lists of headers**: with one fresh encoder and one fresh
decoder the list comes back, the suffix is left, and both have counted the bytes of the block. -/
theorem block_roundTrip (host : Host) (headers : List Header)
    (hlow : ∀ h ∈ headers, headerIsLowercase h = true) (henc : ∀ h ∈ headers, Encodable h)
    (hf : ∀ h ∈ headers, Faithful host.xxh64 h) :
    ∃ b e, Encoder.encodeAll host {} headers = (.ok b, e) ∧ e.count = b.length ∧
      ∀ (s : σ) (suffix : List UInt8), Sequence.bytes s = b ++ suffix → ∃ d s',
        Decoder.decodeAll headers.length {} s = (.ok headers, d, s') ∧
          d.count = b.length ∧ Sequence.bytes s' = suffix := by
  obtain ⟨b, e, hall, hcount, hdec⟩ := decodeAll_encodeAll (σ := σ) hlow henc hf {}
  refine ⟨b, e, hall, by rw [hcount, Nat.zero_add], fun s suffix hb => ?_⟩
  obtain ⟨d, s', hd, hc, hb'⟩ := hdec {} s suffix rfl hb
  exact ⟨d, s', hd, by rw [hc, Nat.zero_add], hb'⟩

end DecodeAll

/-- The published hash, and storage that happens to be zero. -/
def xxHost : Host := ⟨Xxh64.xxh64, Memory.zero⟩

/-- One header of each kind: whole in the table, its name in the table, not in the table. -/
def threeHeaders : List Header :=
  [⟨ascii ":method", ascii "GET"⟩, ⟨ascii ":path", ascii "/index.html"⟩, ⟨ascii "x-id", ascii "7"⟩]

/-- The three of them, on buffers. -/
theorem block_roundTrip_three : ∃ b e, Encoder.encodeAll xxHost {} threeHeaders = (.ok b, e) ∧
    e.count = b.length ∧ ∀ (s : Buffers) (suffix : List UInt8),
      Sequence.bytes s = b ++ suffix → ∃ d s',
        Decoder.decodeAll threeHeaders.length {} s = (.ok threeHeaders, d, s') ∧
          d.count = b.length ∧ Sequence.bytes s' = suffix :=
  block_roundTrip Buffers xxHost threeHeaders (by decide) (by decide)
    (by decide)

end Bnl.Http3.Qpack
